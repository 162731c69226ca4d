/-
# Sources put together

What becomes of a document when more text is put behind its source.

Whatever the text is, nothing is taken back: the blocks that are complete stay as they are.  The cut
may fall inside a line, which then grows and may turn into a delimiter.  But a line that closes a
block closes it however it goes on, and no other line completes anything.

If the delimiters of the first source are balanced in number, the two sources do not interact at
all.  The depth is back at zero then, also after an excursion below zero, and no region is open; so
the second source is scanned as if it stood alone, except that its lines have other numbers.
-/
import DocBlock.Proofs.Renumber

namespace DocBlock

/-! ## Blocks -/

namespace Scan

/-- The scan with other blocks in front of those that it has found. -/
def behind (bs : List Block) (s : Scan) : Scan := { s with blocks := bs ++ s.blocks }

/-- The blocks that have been found have no influence on a step. -/
lemma step_behind (bs : List Block) (s : Scan) (l : Line) :
    (s.behind bs).step l = (s.step l).behind bs := by
  rcases step_cases s l with ⟨hl, hd, hs⟩ | ⟨hpos, hs⟩ | ⟨hneg, hd, hs⟩
  · rw [hs, step_of_closer (s := s.behind bs) hl hd]
    simp [behind]
  · rw [hs, step_of_pos (s := s.behind bs) hpos]
    rfl
  · rw [hs, step_of_nonpos (s := s.behind bs) hneg hd]
    rfl

lemma foldl_step_behind (bs : List Block) (s : Scan) (ls : List Line) :
    ls.foldl step (s.behind bs) = (ls.foldl step s).behind bs := by
  induction ls generalizing s with
  | nil => rfl
  | cons l ls ih => rw [List.foldl_cons, List.foldl_cons, step_behind, ih]

/-- A scan never gives up a block. -/
lemma blocks_prefix_foldl_step (s : Scan) (ls : List Line) :
    s.blocks <+: (ls.foldl step s).blocks := by
  have hs : Scan.behind s.blocks { s with blocks := [] } = s := by simp [behind]
  have h := foldl_step_behind s.blocks { s with blocks := [] } ls
  rw [hs] at h
  rw [h]
  exact List.prefix_append _ _

end Scan

variable {ls ms : List Line} {l m : Line}

lemma docBlocks_prefix_append (ls ms : List Line) : docBlocks ls <+: docBlocks (ls ++ ms) := by
  rw [docBlocks, docBlocks, Scan.run_append]
  exact Scan.blocks_prefix_foldl_step _ _

/-- Blocks stay complete when the last line of the source grows. -/
lemma isPrefix_docBlocks_concat (h : l.text <+: m.text) :
    docBlocks (ls ++ [l]) <+: docBlocks (ls ++ m :: ms) := by
  have hkeep : docBlocks ls <+: docBlocks (ls ++ m :: ms) := docBlocks_prefix_append _ _
  rcases Scan.step_cases (Scan.run ls) l with ⟨hl, hd, hs⟩ | ⟨-, hs⟩ | ⟨-, -, hs⟩
  · -- a closer is one by the start of its text, so the longer line closes the same block
    have hm : m.weight = -1 :=
      Line.weight_eq_neg_one_iff.2 ((Line.weight_eq_neg_one_iff.1 hl).trans h)
    have hstep : docBlocks (ls ++ [l]) = docBlocks (ls ++ [m]) := by
      rw [docBlocks, docBlocks, Scan.run_concat, Scan.run_concat, hs, Scan.step_of_closer hm hd]
    have hms : ls ++ m :: ms = ls ++ [m] ++ ms := List.append_cons ls m ms
    rw [hstep, hms]
    exact docBlocks_prefix_append _ _
  · rw [docBlocks, Scan.run_concat, hs]
    exact hkeep
  · rw [docBlocks, Scan.run_concat, hs]
    exact hkeep

/-- The blocks that are found in lines in front of which the depth is `d` and no region is open. -/
def blocksFrom (d : ℤ) (ls : List Line) : List Block := (ls.foldl Scan.step { depth := d }).blocks

/-- A source that leaves no region open has no more influence on what comes behind it than by its
depth. -/
lemma docBlocks_append_of_nonpos (h : netDepth ls ≤ 0) (ms : List Line) :
    docBlocks (ls ++ ms) = docBlocks ls ++ blocksFrom (netDepth ls) ms := by
  have hrun : Scan.run ls = Scan.behind (docBlocks ls) { depth := netDepth ls } := by
    rw [Scan.behind, List.append_nil, docBlocks, ← Scan.depth_run, ← Scan.region_run h]
  rw [docBlocks, Scan.run_append, hrun, Scan.foldl_step_behind]
  rfl

/-- Behind a source at depth zero everything is found as if it stood alone. -/
lemma docBlocks_append (h : netDepth ls = 0) (ms : List Line) :
    docBlocks (ls ++ ms) = docBlocks ls ++ docBlocks ms := by
  rw [docBlocks_append_of_nonpos h.le, h]
  rfl

/-- A line without a delimiter at a depth that is not positive could as well not be there. -/
lemma docBlocks_append_cons (hls : netDepth ls ≤ 0) (hl : l.weight = 0) (ms : List Line) :
    docBlocks (ls ++ l :: ms) = docBlocks (ls ++ ms) := by
  have hd : (Scan.run ls).depth ≤ 0 := by rwa [Scan.depth_run]
  rw [docBlocks, docBlocks, Scan.run_append, Scan.run_append, List.foldl_cons,
    Scan.step_of_weight_eq_zero hl hd]

/-! ## Texts -/

/-- A text that is put behind another adds lines and makes the last line longer. -/
lemma exists_sourceLines_append (s t : Text) : ∃ ls l m ms,
    sourceLines s = ls ++ [l] ∧ sourceLines (s ++ t) = ls ++ m :: ms ∧ l.text <+: m.text := by
  obtain ⟨us, u, v, vs, hs, -, hst⟩ := Text.exists_lines_append s t
  rw [sourceLines_eq_numberFrom, sourceLines_eq_numberFrom, hs, hst, List.map_append,
    List.map_append, numberFrom_append, numberFrom_append]
  refine ⟨_, _, _, _, rfl, rfl, ?_⟩
  rw [Text.dropReturns, Text.dropReturns, List.filter_append]
  exact List.prefix_append _ _

/-- A text on lines of its own keeps its lines, numbered from another number on. -/
lemma sourceLines_append_newline (s t : Text) :
    sourceLines (s ++ '\n' :: t) =
      sourceLines s ++ (sourceLines t).map (Line.renumber (· + s.lines.length)) := by
  have hnumbers : (numberFrom 1 (t.lines.map Text.dropReturns)).map
      (Line.renumber (· + s.lines.length)) =
        numberFrom (1 + s.lines.length) (t.lines.map Text.dropReturns) :=
    map_renumber_numberFrom fun i _ => by omega
  rw [sourceLines_eq_numberFrom, sourceLines_eq_numberFrom, sourceLines_eq_numberFrom,
    Text.lines_append_newline, List.map_append, numberFrom_append, List.length_map, hnumbers]

section Intercalate

variable {sep : Text} {ts us : List Text}

lemma intercalate_append (hts : ts ≠ []) (hus : us ≠ []) :
    sep.intercalate (ts ++ us) = sep.intercalate ts ++ sep ++ sep.intercalate us := by
  induction ts with
  | nil => exact absurd rfl hts
  | cons t ts ih =>
    by_cases h : ts = []
    · rw [h, List.singleton_append, List.intercalate_cons_of_ne_nil hus, List.intercalate_singleton]
    · rw [List.cons_append, List.intercalate_cons_of_ne_nil (by simp [h]), ih h,
        List.intercalate_cons_of_ne_nil h]
      simp only [List.append_assoc]

/-- More texts at the end make the joined text longer at its end. -/
lemma isPrefix_intercalate (h : ts <+: us) : sep.intercalate ts <+: sep.intercalate us := by
  obtain ⟨vs, rfl⟩ := h
  by_cases hts : ts = []
  · rw [hts]
    exact List.nil_prefix
  · by_cases hvs : vs = []
    · rw [hvs, List.append_nil]
    · rw [intercalate_append hts hvs, List.append_assoc]
      exact List.prefix_append _ _

end Intercalate

/-! ## Documents -/

namespace Document

/-- **More text only adds to a document.**  Whatever is put behind a source, in the middle of a line
or not, the blocks that it has are the first blocks of the longer source, its document is the start
of the longer document, and its diagnostics come first. -/
theorem ofSource_isPrefix_append (o : Options) (s t : Text) :
    docBlocks (sourceLines s) <+: docBlocks (sourceLines (s ++ t)) ∧
      (ofSource o s).markdown <+: (ofSource o (s ++ t)).markdown ∧
      (ofSource o s).diagnostics <+: (ofSource o (s ++ t)).diagnostics := by
  have hblocks : docBlocks (sourceLines s) <+: docBlocks (sourceLines (s ++ t)) := by
    obtain ⟨ls, l, m, ms, hs, hst, hlm⟩ := exists_sourceLines_append s t
    rw [hs, hst]
    exact isPrefix_docBlocks_concat hlm
  refine ⟨hblocks, ?_, hblocks.flatMap _⟩
  exact (List.prefix_append_right_inj _).2 (isPrefix_intercalate (hblocks.map _))

/-- The Markdown of the blocks of a source, without a preamble. -/
def body (lang source : Text) : Text := (ofSource { lang := lang } source).markdown

/-- **Documents compose behind balanced sources.**  If as many lines of the first source open a
region as close one, the diagnostics are those of the two sources, the latter with the numbers that
their lines have in the whole, and the Markdown is that of the two sources with one separator
between, or that of one of them if the other has no block. -/
theorem ofSource_append_newline {s : Text}
    (hs : openerCount (sourceLines s) = closerCount (sourceLines s)) (t : Text) (o : Options) :
    (ofSource o (s ++ '\n' :: t)).diagnostics =
        (ofSource o s).diagnostics ++
          (ofSource o t).diagnostics.map (Diagnostic.renumber (· + s.lines.length)) ∧
      (docBlocks (sourceLines s) ≠ [] → docBlocks (sourceLines t) ≠ [] →
        (ofSource o (s ++ '\n' :: t)).markdown =
          o.preamble ++ body o.lang s ++ blockSeparator ++ body o.lang t) ∧
      (docBlocks (sourceLines s) = [] →
        (ofSource o (s ++ '\n' :: t)).markdown = o.preamble ++ body o.lang t) ∧
      (docBlocks (sourceLines t) = [] →
        (ofSource o (s ++ '\n' :: t)).markdown = o.preamble ++ body o.lang s) := by
  have hdepth : netDepth (sourceLines s) = 0 := by
    rw [netDepth_eq_sub, hs, sub_self]
  have hblocks := docBlocks_append hdepth
    ((sourceLines t).map (Line.renumber (· + s.lines.length)))
  rw [← sourceLines_append_newline, docBlocks_renumber] at hblocks
  have hmarkdown : (ofSource o (s ++ '\n' :: t)).markdown =
      o.preamble ++ blockSeparator.intercalate
        ((docBlocks (sourceLines s)).map (Block.markdown o.lang) ++
          (docBlocks (sourceLines t)).map (Block.markdown o.lang)) := by
    rw [ofSource, assemble, hblocks, List.map_append, map_markdown_renumber]
  refine ⟨?_, fun hbs hbt => ?_, fun hbs => ?_, fun hbt => ?_⟩
  · rw [ofSource, hblocks, List.flatMap_append, flatMap_diagnostics_renumber]
    rfl
  · rw [hmarkdown, intercalate_append (by simpa using hbs) (by simpa using hbt)]
    simp only [body, ofSource, assemble, List.nil_append, List.append_assoc]
  · rw [hmarkdown, hbs]
    rfl
  · rw [hmarkdown, hbt, List.map_nil, List.append_nil]
    rfl

/-- A stray closer at the start of the first source is made up for by the opener behind it.  The
third source has no block. -/
theorem ofSource_append_newline_stray_closer :
    let s : Text := "]==]\n--[==[\n--[==[\n@desc\n A\n@x\n]==]".toList
    let t : Text := "--[==[\n@desc\n B\n@\n]==]".toList
    let e : Text := "]==]\n--[==[".toList
    let o : Options := { preamble := "# P\n".toList }
    ((openerCount (sourceLines s) = closerCount (sourceLines s) ∧
        openerCount (sourceLines e) = closerCount (sourceLines e)) ∧
      docBlocks (sourceLines s) ≠ [] ∧ docBlocks (sourceLines t) ≠ [] ∧
        docBlocks (sourceLines e) = []) ∧
      ofSource o (s ++ '\n' :: t) =
        ⟨"# P\nA\n\n---\n\nB".toList, [.unknownTag "x".toList 6, .missingTag 11]⟩ ∧
      (ofSource o (e ++ '\n' :: t)).markdown = "# P\nB".toList ∧
      (ofSource o (s ++ '\n' :: e)).markdown = "# P\nA".toList := by
  intro s t e o
  have hs : openerCount (sourceLines s) = closerCount (sourceLines s) := by decide
  have he : openerCount (sourceLines e) = closerCount (sourceLines e) := by decide
  have hbs : docBlocks (sourceLines s) ≠ [] := by decide
  have hbt : docBlocks (sourceLines t) ≠ [] := by decide
  have hbe : docBlocks (sourceLines e) = [] := by decide
  obtain ⟨hdiagnostics, hboth, -⟩ := ofSource_append_newline hs t o
  obtain ⟨-, -, hright, -⟩ := ofSource_append_newline he t o
  obtain ⟨-, -, -, hleft⟩ := ofSource_append_newline hs e o
  refine ⟨⟨⟨hs, he⟩, hbs, hbt, hbe⟩, ?_, (hright hbe).trans rfl, (hleft hbe).trans rfl⟩
  rw [Document.mk.injEq]
  exact ⟨(hboth hbs hbt).trans rfl, hdiagnostics.trans rfl⟩

end Document

end DocBlock
