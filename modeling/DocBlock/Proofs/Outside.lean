/-
# Lines outside the blocks

The code between doc blocks has no influence on the document.  A line without a delimiter that
stands where the depth is not positive leaves the scan as it is, so it can be put in, taken out or
replaced.  All that this changes is the numbers of the lines behind it, which only diagnostics show.

The depth need not be zero: where stray closers have taken it below, lines are outside as well.
-/
import DocBlock.Proofs.Append

namespace DocBlock

/-! ## Edits of a text -/

/-- The text with one more line, in front of which `p` lines stand. -/
def Text.insertLine (source : Text) (p : ℕ) (u : Text) : Text :=
  ['\n'].intercalate (source.lines.take p ++ u :: source.lines.drop p)

/-- The line can be put into the text behind its first `p` lines: it is one line, it does not start
with a delimiter, and it does not come to stand inside a region. -/
structure FitsOutside (source : Text) (p : ℕ) (u : Text) : Prop where
  position : p ≤ source.lines.length
  inline : '\n' ∉ u
  notOpener : ¬ openDelimiter <+: u.dropReturns
  notCloser : ¬ closeDelimiter <+: u.dropReturns
  outside : depthAt (sourceLines source) p ≤ 0

/-- The number that a line has after a line has been put in behind line `p`. -/
def raiseAbove (p n : ℕ) : ℕ := if p < n then n + 1 else n

/-- The number that a line has after the line behind line `p` has been taken out. -/
def lowerAbove (p n : ℕ) : ℕ := if p < n then n - 1 else n

/-- The second text is what the first becomes when lines outside its regions are put in and taken
out, one after the other; to replace a line is to take it out and put another in.  The function
tells where the lines that stay are found in the end. -/
inductive EditedOutside : Text → Text → (ℕ → ℕ) → Prop
  | refl (s : Text) : EditedOutside s s id
  | insert {s u : Text} {p : ℕ} (h : FitsOutside s p u) :
      EditedOutside s (s.insertLine p u) (raiseAbove p)
  | delete {s u : Text} {p : ℕ} (h : FitsOutside s p u) :
      EditedOutside (s.insertLine p u) s (lowerAbove p)
  | trans {s t v : Text} {f g : ℕ → ℕ} (h : EditedOutside s t f) (h' : EditedOutside t v g) :
      EditedOutside s v (g ∘ f)

lemma lowerAbove_comp_raiseAbove (p : ℕ) : lowerAbove p ∘ raiseAbove p = id := by
  funext n
  simp only [Function.comp_apply, lowerAbove, raiseAbove, id]
  split_ifs <;> omega

/-! ## One line more -/

/-- Where a line is put in, the lines in front of it keep their numbers, and the numbers of those
behind it rise by one. -/
lemma numberFrom_append_cons (ts : List Text) (u : Text) (us : List Text) :
    numberFrom 1 (ts ++ u :: us) =
      (numberFrom 1 ts).map (Line.renumber (raiseAbove ts.length)) ++
        ⟨1 + ts.length, u⟩ ::
          (numberFrom (1 + ts.length) us).map (Line.renumber (raiseAbove ts.length)) := by
  have hbefore : (numberFrom 1 ts).map (Line.renumber (raiseAbove ts.length)) = numberFrom 1 ts :=
    map_renumber_numberFrom fun i hi => if_neg (by omega)
  have hbehind : (numberFrom (1 + ts.length) us).map (Line.renumber (raiseAbove ts.length)) =
      numberFrom (1 + ts.length + 1) us := by
    refine map_renumber_numberFrom fun i _ => ?_
    rw [raiseAbove, if_pos (by omega)]
    omega
  rw [hbefore, hbehind, numberFrom_append, numberFrom_cons]

namespace FitsOutside

variable {source u : Text} {p : ℕ}

lemma lines_insertLine (h : FitsOutside source p u) :
    (source.insertLine p u).lines = source.lines.take p ++ u :: source.lines.drop p := by
  have hne : source.lines.take p ++ u :: source.lines.drop p ≠ [] := by simp
  refine Text.lines_intercalate hne fun t ht => ?_
  rcases List.mem_append.1 ht with ht | ht
  · exact Text.newline_not_mem_of_mem_lines (List.mem_of_mem_take ht)
  · rcases List.mem_cons.1 ht with rfl | ht
    · exact h.inline
    · exact Text.newline_not_mem_of_mem_lines (List.mem_of_mem_drop ht)

/-- The lines of the text are those that it had, renumbered, and one line without a delimiter
outside the regions. -/
lemma exists_sourceLines_eq (h : FitsOutside source p u) : ∃ ls l ms,
    sourceLines source = ls ++ ms ∧ netDepth ls ≤ 0 ∧ l.weight = 0 ∧
      sourceLines (source.insertLine p u) =
        ls.map (Line.renumber (raiseAbove p)) ++ l :: ms.map (Line.renumber (raiseAbove p)) := by
  obtain ⟨ts, us, hsource, hlen, hinserted⟩ : ∃ ts us,
      source.lines.map Text.dropReturns = ts ++ us ∧ ts.length = p ∧
        (source.insertLine p u).lines.map Text.dropReturns = ts ++ u.dropReturns :: us := by
    refine ⟨(source.lines.take p).map Text.dropReturns, (source.lines.drop p).map Text.dropReturns,
      ?_, by simp [h.position], by simp [h.lines_insertLine]⟩
    rw [← List.map_append, List.take_append_drop]
  have hlines : sourceLines source = numberFrom 1 ts ++ numberFrom (1 + p) us := by
    rw [sourceLines_eq_numberFrom, hsource, numberFrom_append, hlen]
  refine ⟨_, ⟨1 + p, u.dropReturns⟩, _, hlines, ?_, ?_, ?_⟩
  · have hdepth := h.outside
    rwa [depthAt, hlines, List.take_left' (by simp [hlen])] at hdepth
  · exact Line.weight_eq_zero h.notOpener h.notCloser
  · rw [sourceLines_eq_numberFrom, hinserted, ← hlen, numberFrom_append_cons]

lemma docBlocks_insertLine (h : FitsOutside source p u) :
    docBlocks (sourceLines (source.insertLine p u)) =
      (docBlocks (sourceLines source)).map (Block.renumber (raiseAbove p)) := by
  obtain ⟨ls, l, ms, hsource, hls, hl, hinserted⟩ := h.exists_sourceLines_eq
  have hdepth : netDepth (ls.map (Line.renumber (raiseAbove p))) ≤ 0 := by
    rwa [netDepth_map_renumber]
  rw [hinserted, docBlocks_append_cons hdepth hl, ← List.map_append, ← hsource, docBlocks_renumber]

end FitsOutside

/-! ## Any number of edits -/

lemma Document.ofSource_eq_of_editedOutside {s t : Text} {f : ℕ → ℕ} (o : Options)
    (h : EditedOutside s t f) : ofSource o t = (ofSource o s).renumber f := by
  induction h with
  | refl s => rw [renumber_id]
  | insert h => exact ofSource_eq_renumber o h.docBlocks_insertLine
  | @delete s u p h =>
    rw [ofSource_eq_renumber o h.docBlocks_insertLine, renumber_renumber,
      lowerAbove_comp_raiseAbove, renumber_id]
  | trans _ _ ih ih' => rw [ih', ih, renumber_renumber]

/-- **Lines outside the blocks have no influence on the document.**  A line without a delimiter that
is put in where the depth is not positive leaves the Markdown as it is and raises the line numbers
of the diagnostics behind it by one.  After any number of such edits, in either direction, the
Markdown is still the same, and the diagnostics are those of the same lines at the places where
these are found in the end. -/
theorem Document.ofSource_editedOutside (o : Options) :
    (∀ source p u, FitsOutside source p u →
      (ofSource o (source.insertLine p u)).markdown = (ofSource o source).markdown ∧
        (ofSource o (source.insertLine p u)).diagnostics =
          (ofSource o source).diagnostics.map (Diagnostic.renumber (raiseAbove p))) ∧
      ∀ s t f, EditedOutside s t f →
        (ofSource o t).markdown = (ofSource o s).markdown ∧
          (ofSource o t).diagnostics = (ofSource o s).diagnostics.map (Diagnostic.renumber f) := by
  have hedited : ∀ s t f, EditedOutside s t f →
      (ofSource o t).markdown = (ofSource o s).markdown ∧
        (ofSource o t).diagnostics = (ofSource o s).diagnostics.map (Diagnostic.renumber f) := by
    intro s t f h
    rw [ofSource_eq_of_editedOutside o h]
    exact ⟨rfl, rfl⟩
  exact ⟨fun _ _ _ h => hedited _ _ _ (.insert h), hedited⟩

/-- A line is put in at depth -1, and then replaced by another one. -/
theorem Document.ofSource_editedOutside_below_zero :
    let source : Text := "]==]\n--[==[\n--[==[\n@desc\n A\n@foo\n]==]".toList
    let u : Text := "x = 1".toList
    let v : Text := " --[==[\r".toList
    (FitsOutside source 1 u ∧
        EditedOutside (source.insertLine 1 u) (source.insertLine 1 v)
          (raiseAbove 1 ∘ lowerAbove 1)) ∧
      ofSource {} (source.insertLine 1 u) = ⟨"A".toList, [.unknownTag "foo".toList 7]⟩ ∧
      ofSource {} (source.insertLine 1 v) = ⟨"A".toList, [.unknownTag "foo".toList 7]⟩ := by
  intro source u v
  have hu : FitsOutside source 1 u :=
    ⟨by decide, by decide, by decide, by decide, by decide⟩
  have hv : FitsOutside source 1 v :=
    ⟨by decide, by decide, by decide, by decide, by decide⟩
  have huv := (EditedOutside.delete hu).trans (.insert hv)
  obtain ⟨hinsert, hedit⟩ := ofSource_editedOutside {}
  obtain ⟨hmarkdown, hdiagnostics⟩ := hinsert source 1 u hu
  obtain ⟨hmarkdown', hdiagnostics'⟩ := hedit _ _ _ huv
  refine ⟨⟨hu, huv⟩, ?_, ?_⟩
  · rw [Document.mk.injEq]
    exact ⟨hmarkdown.trans rfl, hdiagnostics.trans rfl⟩
  · rw [Document.mk.injEq, hmarkdown', hdiagnostics', hmarkdown, hdiagnostics]
    exact ⟨rfl, rfl⟩

end DocBlock
