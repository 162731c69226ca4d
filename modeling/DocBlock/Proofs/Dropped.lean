/-
# Segments without a place

A segment whose tag is missing or has no meaning is left out of the document.  Its lines could as
well not be in the source: when they are taken out, the document stays as it is, the diagnostic of
the segment is gone, and the lines behind have lower numbers.

The lines of a segment may hold delimiters.  If these are balanced among themselves, the depth
behind the segment is the depth in front of it, so the block is still found, with its other lines.
The other segments of the block do not change either, because they start with tag lines, except for
the one that opens the block; and if it is that one that goes, the next one opens the block.
-/
import DocBlock.Proofs.Wrapping

namespace DocBlock

/-! ## A source without some of its lines -/

/-- The text without the lines that have the given numbers. -/
def Text.eraseLines (source : Text) (ns : List ℕ) : Text :=
  ['\n'].intercalate ((source.numberedLines.filter (·.number ∉ ns)).map Line.text)

/-- The number that line `k` has after `n` lines have been taken out, line `m` being the first of
them. -/
def closeGap (m n k : ℕ) : ℕ := if k < m then k else k - n

lemma map_text_filter_numberFrom (ps qs rs : List Text) {ns : List ℕ}
    (hns : ∀ n, n ∈ ns ↔ 1 + ps.length ≤ n ∧ n < 1 + ps.length + qs.length) :
    ((numberFrom 1 (ps ++ qs ++ rs)).filter (·.number ∉ ns)).map Line.text = ps ++ rs := by
  have hps : (numberFrom 1 ps).filter (·.number ∉ ns) = numberFrom 1 ps := by
    rw [List.filter_eq_self]
    intro l hl
    have := number_of_mem_numberFrom hl
    rw [decide_eq_true_iff, hns]
    omega
  have hqs : (numberFrom (1 + ps.length) qs).filter (·.number ∉ ns) = [] := by
    rw [List.filter_eq_nil_iff]
    intro l hl
    rw [decide_eq_true_iff, hns, not_not]
    exact number_of_mem_numberFrom hl
  have hrs : (numberFrom (1 + (ps ++ qs).length) rs).filter (·.number ∉ ns) =
      numberFrom (1 + (ps ++ qs).length) rs := by
    rw [List.filter_eq_self]
    intro l hl
    have := number_of_mem_numberFrom hl
    rw [List.length_append] at this
    rw [decide_eq_true_iff, hns]
    omega
  rw [numberFrom_append, numberFrom_append, List.filter_append, List.filter_append, hps, hqs, hrs,
    List.append_nil, List.map_append, map_text_numberFrom, map_text_numberFrom]

/-- Three parts of the lines of a source come from three parts of its text. -/
lemma exists_lines_eq_append {source : Text} {xs ls ys : List Line}
    (h : sourceLines source = xs ++ ls ++ ys) :
    ∃ ps qs rs, source.lines = ps ++ qs ++ rs ∧ xs = numberFrom 1 (ps.map Text.dropReturns) ∧
      ls = numberFrom (1 + ps.length) (qs.map Text.dropReturns) ∧
      ys = numberFrom (1 + (ps.length + qs.length)) (rs.map Text.dropReturns) := by
  rw [sourceLines_eq_numberFrom] at h
  obtain ⟨us, trs, hsource, hus, rfl⟩ := numberFrom_eq_append h
  obtain ⟨tps, tqs, rfl, rfl, rfl⟩ := numberFrom_eq_append hus.symm
  obtain ⟨us, rs, hlines, hpq, rfl⟩ := List.map_eq_append_iff.1 hsource
  obtain ⟨ps, qs, rfl, rfl, rfl⟩ := List.map_eq_append_iff.1 hpq
  exact ⟨ps, qs, rs, hlines, rfl, by simp, by simp⟩

/-- A source without lines in the middle of it has the lines in front of them and behind. -/
lemma lines_eraseLines {source : Text} {ps qs rs : List Text} (h : source.lines = ps ++ qs ++ rs)
    (hps : ps ≠ []) {ns : List ℕ}
    (hns : ∀ n, n ∈ ns ↔ 1 + ps.length ≤ n ∧ n < 1 + ps.length + qs.length) :
    (source.eraseLines ns).lines = ps ++ rs := by
  have hnumbered : source.numberedLines = numberFrom 1 (ps ++ qs ++ rs) := by
    rw [Text.numberedLines, h, numberFrom]
  rw [Text.eraseLines, hnumbered, map_text_filter_numberFrom ps qs rs hns]
  refine Text.lines_intercalate (by simp [hps]) fun t ht => ?_
  refine Text.newline_not_mem_of_mem_lines (t := source) ?_
  rw [h]
  simp only [List.mem_append] at ht ⊢
  tauto

/-- The numbers of lines between which there is a gap, when it is closed. -/
lemma map_renumber_closeGap_numberFrom (ts us : List Text) (n : ℕ) :
    (numberFrom 1 ts ++ numberFrom (1 + (ts.length + n)) us).map
        (Line.renumber (closeGap (ts.length + 1) n)) = numberFrom 1 (ts ++ us) := by
  have hbefore : (numberFrom 1 ts).map (Line.renumber (closeGap (ts.length + 1) n)) =
      numberFrom 1 ts :=
    map_renumber_numberFrom fun i hi => if_pos (by omega)
  have hbehind : (numberFrom (1 + (ts.length + n)) us).map
      (Line.renumber (closeGap (ts.length + 1) n)) = numberFrom (1 + ts.length) us := by
    refine map_renumber_numberFrom fun i _ => ?_
    rw [closeGap, if_neg (by omega)]
    omega
  rw [List.map_append, hbefore, hbehind, numberFrom_append]

/-- Where lines that follow each other are taken out, the numbers of those behind them fall by as
many. -/
lemma sourceLines_eraseLines {source : Text} {xs ls ys : List Line}
    (h : sourceLines source = xs ++ ls ++ ys) (hne : xs ≠ []) :
    sourceLines (source.eraseLines (ls.map Line.number)) =
      (xs ++ ys).map (Line.renumber (closeGap (xs.length + 1) ls.length)) := by
  obtain ⟨ps, qs, rs, hlines, rfl, rfl, rfl⟩ := exists_lines_eq_append h
  have hps : ps ≠ [] := by
    rintro rfl
    exact hne rfl
  have hnumbers : ∀ n, n ∈ (numberFrom (1 + ps.length) (qs.map Text.dropReturns)).map Line.number ↔
      1 + ps.length ≤ n ∧ n < 1 + ps.length + qs.length := by
    intro n
    rw [map_number_numberFrom, List.length_map, List.mem_range'_1]
  have hgap := map_renumber_closeGap_numberFrom (ps.map Text.dropReturns)
    (rs.map Text.dropReturns) qs.length
  rw [sourceLines_eq_numberFrom, lines_eraseLines hlines hps hnumbers, List.map_append, ← hgap]
  simp only [length_numberFrom, List.length_map]

/-- The numbers of lines in the middle of a source, of those in front and of those behind. -/
lemma number_of_sourceLines_eq_append {source : Text} {xs ls ys : List Line}
    (h : sourceLines source = xs ++ ls ++ ys) :
    (∀ l ∈ xs, l.number ≤ xs.length) ∧ (∀ l ∈ ls.head?, l.number = xs.length + 1) ∧
      ∀ l ∈ ys, xs.length + ls.length < l.number := by
  obtain ⟨ps, qs, rs, -, rfl, rfl, rfl⟩ := exists_lines_eq_append h
  simp only [length_numberFrom, List.length_map]
  refine ⟨fun l hl => ?_, fun l hl => ?_, fun l hl => ?_⟩
  · have := number_of_mem_numberFrom hl
    rw [List.length_map] at this
    omega
  · cases qs with
    | nil => simp at hl
    | cons t ts =>
      obtain rfl : ⟨1 + ps.length, t.dropReturns⟩ = l := by simpa using hl
      exact Nat.add_comm _ _
  · have := number_of_mem_numberFrom hl
    omega

/-! ## A block without one of its segments -/

/-- Balanced lines stay balanced when balanced lines are taken out of them. -/
lemma IsBalanced.erase {us ls vs : List Line} (h : IsBalanced (us ++ ls ++ vs))
    (hls : IsBalanced ls) : IsBalanced (us ++ vs) where
  nonneg k := by
    rcases Nat.le_total k us.length with hk | hk
    · have := h.nonneg k
      rw [List.append_assoc, depthAt_append_of_le hk] at this
      rwa [depthAt_append_of_le hk]
    · -- behind the lines that go the depth is what it is in front of them
      obtain ⟨n, rfl⟩ := Nat.exists_eq_add_of_le hk
      have := h.nonneg ((us ++ ls).length + n)
      rwa [depthAt_append_add, netDepth_append, hls.total, add_zero, ← depthAt_append_add] at this
  total := by simpa [hls.total] using h.total

/-- A wrapped block behind lines at depth zero is found with its lines, whatever they are. -/
lemma docBlocks_append_wrap {xs ls ys : List Line} {o c : Line} (hxs : netDepth xs = 0)
    (ho : openDelimiter <+: o.text) (hc : closeDelimiter <+: c.text) (hls : IsBalanced ls) :
    docBlocks (xs ++ (o :: ls ++ [c]) ++ ys) = docBlocks xs ++ ⟨ls⟩ :: docBlocks ys := by
  have hnet : netDepth (xs ++ (o :: ls ++ [c])) = 0 := by
    rw [netDepth_append, hxs, netDepth_wrap ho hc hls, add_zero]
  rw [docBlocks_append hnet, docBlocks_append hxs, docBlocks_wrap ho hc hls, List.append_assoc]
  rfl

namespace Segment

/-- A segment without a meaning is reported by the number of its first line. -/
lemma exists_outcome_eq_error {s : Segment} (h : s.tag = none ∨ ∃ i, s.tag = some (.other i))
    (lang : Text) : ∃ d, s.outcome lang = .error d ∧ d.line = s.start := by
  rw [outcome]
  rcases h with h | ⟨i, h⟩ <;> rw [h] <;> exact ⟨_, rfl, rfl⟩

end Segment

section Around

variable {lang : Text} {us vs : List Line} {s : Segment} {d : Diagnostic}

/-- Without a segment that has no place, the Markdown of a block is the same. -/
lemma Block.markdown_erase (hs : Block.segments ⟨s.lines⟩ = [s])
    (hopen : us = [] ∨ StartsTagged s.lines) (hvs : StartsTagged vs)
    (hd : s.outcome lang = .error d) :
    Block.markdown lang ⟨us ++ vs⟩ = Block.markdown lang ⟨us ++ s.lines ++ vs⟩ := by
  simp only [markdown, outcomes, segments_around hs hopen hvs, segments_append us hvs,
    List.map_append, List.map_cons, hd, List.filterMap_append, List.filterMap_cons,
    Outcome.fragment?]

/-- The diagnostics of a block are those in front of a segment that has no place, the one of this
segment, and those behind it. -/
lemma Block.diagnostics_around (hs : Block.segments ⟨s.lines⟩ = [s])
    (hopen : us = [] ∨ StartsTagged s.lines) (hvs : StartsTagged vs)
    (hd : s.outcome lang = .error d) :
    Block.diagnostics lang ⟨us ++ s.lines ++ vs⟩ =
      Block.diagnostics lang ⟨us⟩ ++ d :: Block.diagnostics lang ⟨vs⟩ := by
  simp only [diagnostics, outcomes, segments_around hs hopen hvs, List.map_append, List.map_cons,
    hd, List.filterMap_append, List.filterMap_cons, Outcome.diagnostic?]

lemma Block.diagnostics_append (hvs : StartsTagged vs) :
    Block.diagnostics lang ⟨us ++ vs⟩ =
      Block.diagnostics lang ⟨us⟩ ++ Block.diagnostics lang ⟨vs⟩ := by
  simp only [diagnostics, outcomes, segments_append us hvs, List.map_append, List.filterMap_append]

end Around

/-! ## Diagnostics in front of a line and behind it -/

lemma Block.exists_line_of_mem_diagnostics {lang : Text} {b : Block} {e : Diagnostic}
    (he : e ∈ b.diagnostics lang) : ∃ l ∈ b.lines, e.line = l.number := by
  rw [diagnostics_eq, List.mem_filterMap] at he
  obtain ⟨l, hl, he⟩ := he
  exact ⟨l, (openings_sublist _).subset hl, Line.line_of_report?_eq_some he⟩

lemma exists_line_of_mem_flatMap_diagnostics {lang : Text} {ls : List Line} {e : Diagnostic}
    (he : e ∈ (docBlocks ls).flatMap (Block.diagnostics lang)) : ∃ l ∈ ls, e.line = l.number := by
  obtain ⟨b, hb, he⟩ := List.mem_flatMap.1 he
  obtain ⟨l, hl, hline⟩ := Block.exists_line_of_mem_diagnostics he
  have hmem : l ∈ (docBlocks ls).flatMap Block.lines := List.mem_flatMap.2 ⟨b, hb, hl⟩
  exact ⟨l, (Scan.sublist_run ls).subset (List.mem_append_left _ hmem), hline⟩

lemma Diagnostic.map_renumber_congr {f g : ℕ → ℕ} {es : List Diagnostic}
    (h : ∀ e ∈ es, f e.line = g e.line) : es.map (renumber f) = es.map (renumber g) := by
  refine List.map_congr_left fun e he => ?_
  have hline := h e he
  cases e <;> simpa [renumber, line] using hline

/-- Where no diagnostic is about a line that goes, those in front keep their numbers and those
behind are lowered. -/
lemma Diagnostic.map_renumber_closeGap {before after : List Diagnostic} {m n : ℕ}
    (hbefore : ∀ e ∈ before, e.line < m) (hafter : ∀ e ∈ after, m + n ≤ e.line) :
    (before ++ after).map (renumber (closeGap m n)) = before ++ after.map (renumber (· - n)) := by
  have hkeep : before.map (renumber (closeGap m n)) = before.map (renumber id) :=
    map_renumber_congr fun e he => if_pos (hbefore e he)
  have hlower : after.map (renumber (closeGap m n)) = after.map (renumber (· - n)) := by
    refine map_renumber_congr fun e he => if_neg ?_
    have := hafter e he
    omega
  rw [List.map_append, hkeep, hlower, renumber_id, List.map_id]

/-! ## A source without a segment -/

/-- Where a segment stands in a source: `xs` are the lines in front of its block and `ys` those
behind, `us` are the lines of the block in front of the segment and `vs` those behind. -/
structure StandsBetween (source : Text) (s : Segment) (xs us vs ys : List Line) : Prop where
  blocks : docBlocks (sourceLines source) =
    docBlocks xs ++ ⟨us ++ s.lines ++ vs⟩ :: docBlocks ys
  erased : docBlocks (sourceLines (source.eraseLines (s.lines.map Line.number))) =
    (docBlocks xs ++ ⟨us ++ vs⟩ :: docBlocks ys).map
      (Block.renumber (closeGap s.start s.lines.length))
  opens : us = [] ∨ StartsTagged s.lines
  ends : StartsTagged vs
  number_lt : ∀ l ∈ xs ++ us, l.number < s.start
  le_number : ∀ l ∈ vs ++ ys, s.start + s.lines.length ≤ l.number

lemma exists_standsBetween {source : Text} {b : Block} {s : Segment}
    (hb : b ∈ docBlocks (sourceLines source)) (hs : s ∈ b.segments) (hbal : IsBalanced s.lines) :
    ∃ xs us vs ys, StandsBetween source s xs us vs ys := by
  obtain ⟨xs, o, c, ys, hsource, hxs, ho, hc⟩ := exists_wrap_of_mem_docBlocks hb
  have hsegments := isSegmentation_segments b.lines
  obtain ⟨us, vs, hlines, hopens, hends⟩ := hsegments.exists_around hs
  have hblock : IsBalanced (us ++ s.lines ++ vs) := hlines ▸ isBalanced_of_mem_docBlocks hb
  rw [hlines] at hsource
  have hcut : sourceLines source = (xs ++ o :: us) ++ s.lines ++ (vs ++ c :: ys) := by
    simp [hsource]
  have hwrap : (xs ++ o :: us) ++ (vs ++ c :: ys) = xs ++ (o :: (us ++ vs) ++ [c]) ++ ys := by
    simp
  obtain ⟨hbefore, hfirst, hbehind⟩ := number_of_sourceLines_eq_append hcut
  have hstart : s.start = (xs ++ o :: us).length + 1 := by
    obtain ⟨l, t, hl⟩ := List.exists_cons_of_ne_nil (hsegments.nonempty s hs)
    rw [Segment.start, hl, ← hfirst l (by simp [hl])]
    rfl
  refine ⟨xs, us, vs, ys, ?_, ?_, hopens, hends, fun l hl => ?_, fun l hl => ?_⟩
  · rw [hsource, docBlocks_append_wrap hxs ho hc hblock]
  · rw [sourceLines_eraseLines hcut (by simp), docBlocks_renumber, hwrap,
      docBlocks_append_wrap hxs ho hc (hblock.erase hbal), hstart]
  · have := hbefore l (by simp at hl ⊢; tauto)
    omega
  · have := hbehind l (by simp at hl ⊢; tauto)
    omega

namespace StandsBetween

variable {source : Text} {s : Segment} {xs us vs ys : List Line} {lang : Text} {e : Diagnostic}

lemma line_lt (h : StandsBetween source s xs us vs ys)
    (he : e ∈ (docBlocks xs).flatMap (Block.diagnostics lang) ++ Block.diagnostics lang ⟨us⟩) :
    e.line < s.start := by
  rcases List.mem_append.1 he with he | he
  · obtain ⟨l, hl, hline⟩ := exists_line_of_mem_flatMap_diagnostics he
    exact hline.trans_lt (h.number_lt l (List.mem_append_left _ hl))
  · obtain ⟨l, hl, hline⟩ := Block.exists_line_of_mem_diagnostics he
    exact hline.trans_lt (h.number_lt l (List.mem_append_right _ hl))

lemma le_line (h : StandsBetween source s xs us vs ys)
    (he : e ∈ Block.diagnostics lang ⟨vs⟩ ++ (docBlocks ys).flatMap (Block.diagnostics lang)) :
    s.start + s.lines.length ≤ e.line := by
  rcases List.mem_append.1 he with he | he
  · obtain ⟨l, hl, hline⟩ := Block.exists_line_of_mem_diagnostics he
    exact (h.le_number l (List.mem_append_left _ hl)).trans_eq hline.symm
  · obtain ⟨l, hl, hline⟩ := exists_line_of_mem_flatMap_diagnostics he
    exact (h.le_number l (List.mem_append_right _ hl)).trans_eq hline.symm

end StandsBetween

namespace Document

/-- **A segment without a place does not affect the others.**  If the delimiters in it are balanced,
its lines can be taken out of the source: the Markdown stays as it is, the one diagnostic of the
segment goes, and the line numbers behind it fall by the number of its lines. -/
theorem ofSource_eraseLines_of_dropped {source : Text} {b : Block} {s : Segment}
    (hb : b ∈ docBlocks (sourceLines source)) (hs : s ∈ b.segments)
    (htag : s.tag = none ∨ ∃ i, s.tag = some (.other i)) (hbal : IsBalanced s.lines)
    (o : Options) :
    (ofSource o (source.eraseLines (s.lines.map Line.number))).markdown =
        (ofSource o source).markdown ∧
      ∃ before d after, s.outcome o.lang = .error d ∧ d.line = s.start ∧
        (ofSource o source).diagnostics = before ++ d :: after ∧
        (ofSource o (source.eraseLines (s.lines.map Line.number))).diagnostics =
          before ++ after.map (Diagnostic.renumber (· - s.lines.length)) ∧
        (∀ e ∈ before, e.line < s.start) ∧
        ∀ e ∈ after, s.start + s.lines.length ≤ e.line := by
  obtain ⟨xs, us, vs, ys, h⟩ := exists_standsBetween hb hs hbal
  obtain ⟨d, hd, hline⟩ := Segment.exists_outcome_eq_error htag o.lang
  have hself := segments_lines_of_mem hs
  refine ⟨?_, (docBlocks xs).flatMap (Block.diagnostics o.lang) ++ Block.diagnostics o.lang ⟨us⟩, d,
    Block.diagnostics o.lang ⟨vs⟩ ++ (docBlocks ys).flatMap (Block.diagnostics o.lang), hd, hline,
    ?_, ?_, fun e he => h.line_lt he, fun e he => h.le_line he⟩
  · have hmarkdown : (docBlocks xs ++ ⟨us ++ vs⟩ :: docBlocks ys).map (Block.markdown o.lang) =
        (docBlocks xs ++ ⟨us ++ s.lines ++ vs⟩ :: docBlocks ys).map (Block.markdown o.lang) := by
      rw [List.map_append, List.map_append, List.map_cons, List.map_cons,
        Block.markdown_erase hself h.opens h.ends hd]
    rw [ofSource, ofSource, h.erased, h.blocks, map_markdown_renumber, hmarkdown]
  · rw [ofSource, h.blocks, List.flatMap_append, List.flatMap_cons,
      Block.diagnostics_around hself h.opens h.ends hd]
    simp only [List.append_assoc, List.cons_append]
  · rw [ofSource, h.erased, flatMap_diagnostics_renumber, List.flatMap_append, List.flatMap_cons,
      Block.diagnostics_append h.ends, ← Diagnostic.map_renumber_closeGap
        (fun e he => h.line_lt he) fun e he => h.le_line he]
    simp only [List.append_assoc]

/-- The segment that opens a block, without a marker and with a region inside, is taken out. -/
theorem ofSource_eraseLines_of_dropped_unmarked :
    let source : Text := "--[==[\r\nx\n--[==[ y\n]==]\n@desc\n A\n@bad\n]==]".toList
    let s : Segment :=
      ⟨none, [⟨2, "x".toList⟩, ⟨3, "--[==[ y".toList⟩, ⟨4, "]==]".toList⟩]⟩
    let b : Block :=
      ⟨s.lines ++ [⟨5, "@desc".toList⟩, ⟨6, " A".toList⟩, ⟨7, "@bad".toList⟩]⟩
    (b ∈ docBlocks (sourceLines source) ∧ s ∈ b.segments ∧ s.tag = none ∧ IsBalanced s.lines) ∧
      source.eraseLines [2, 3, 4] = "--[==[\r\n@desc\n A\n@bad\n]==]".toList ∧
      (ofSource {} (source.eraseLines [2, 3, 4])).markdown = "A".toList ∧
      ∃ before d after, s.outcome defaultLang = .error d ∧ d.line = 2 ∧
        (ofSource {} source).diagnostics = before ++ d :: after ∧
        (ofSource {} (source.eraseLines [2, 3, 4])).diagnostics =
          before ++ after.map (Diagnostic.renumber (· - 3)) ∧
        (∀ e ∈ before, e.line < 2) ∧ ∀ e ∈ after, 2 + 3 ≤ e.line := by
  intro source s b
  have hb : b ∈ docBlocks (sourceLines source) := by decide
  have hs : s ∈ b.segments := by decide
  have hmem :
      ⟨s.lines⟩ ∈ docBlocks (⟨0, openDelimiter⟩ :: s.lines ++ [⟨0, closeDelimiter⟩]) := by decide
  have hbal : IsBalanced s.lines := isBalanced_of_mem_docBlocks hmem
  obtain ⟨hmarkdown, hdiagnostics⟩ :=
    ofSource_eraseLines_of_dropped hb hs (Or.inl rfl) hbal {}
  exact ⟨⟨hb, hs, rfl, hbal⟩, by decide, hmarkdown.trans rfl, hdiagnostics⟩

end Document

end DocBlock
