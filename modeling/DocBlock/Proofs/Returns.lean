/-
# Carriage returns

A text is cut into lines without loss: its lines can be joined to it again, and any lines are the
lines of the text that they are joined to.  Carriage returns play no part in this.  A text that has
been freed from them has as many lines as before, with the numbers that they had before.

So the numbers in diagnostics are numbers of lines of the source as it stands, and a source has the
same document and the same diagnostics whatever carriage returns are in it.
-/
import DocBlock.Document
import DocBlock.Proofs.SourceLines

namespace DocBlock

namespace Text

/-! ## Numbered lines -/

lemma length_numberedLines (x : Text) : x.numberedLines.length = x.lines.length := by
  rw [← map_text_numberedLines, List.length_map]

lemma getElem?_numberedLines (x : Text) (k : ℕ) :
    x.numberedLines[k]? = x.lines[k]?.map fun t => ⟨k + 1, t⟩ := by
  rw [numberedLines_eq_mapIdx, List.getElem?_mapIdx]

lemma newline_not_mem_of_mem_numberedLines {x : Text} {l : Line} (h : l ∈ x.numberedLines) :
    '\n' ∉ l.text := by
  refine newline_not_mem_of_mem_lines (t := x) ?_
  rw [← map_text_numberedLines]
  exact List.mem_map_of_mem h

/-- A line keeps its place and its number when the text is freed from its carriage returns. -/
lemma getElem?_numberedLines_dropReturns (x : Text) (k : ℕ) :
    x.dropReturns.numberedLines[k]? =
      x.numberedLines[k]?.map fun l => ⟨k + 1, l.text.dropReturns⟩ := by
  rw [getElem?_numberedLines, getElem?_numberedLines, lines_dropReturns, List.getElem?_map,
    Option.map_map, Option.map_map]
  rfl

lemma length_numberedLines_dropReturns (x : Text) :
    x.dropReturns.numberedLines.length = x.numberedLines.length := by
  rw [length_numberedLines, length_numberedLines, lines_dropReturns, List.length_map]

end Text

/-! ## Sources that differ by carriage returns -/

/-- The lines of the two texts are the same but for carriage returns. -/
def AgreeUpToReturns (x y : Text) : Prop :=
  List.Forall₂ (fun l m : Line => l.text.dropReturns = m.text.dropReturns)
    x.numberedLines y.numberedLines

instance (x y : Text) : Decidable (AgreeUpToReturns x y) :=
  inferInstanceAs (Decidable (List.Forall₂ _ _ _))

lemma AgreeUpToReturns.sourceLines_eq {x y : Text} (h : AgreeUpToReturns x y) :
    sourceLines x = sourceLines y := by
  have heq : List.Forall₂ Eq (x.numberedLines.map fun l => l.text.dropReturns)
      (y.numberedLines.map fun l => l.text.dropReturns) :=
    List.forall₂_map_left_iff.2 (List.forall₂_map_right_iff.2 h)
  have hlines : ∀ z : Text, z.lines.map Text.dropReturns =
      z.numberedLines.map fun l => l.text.dropReturns := fun z => by
    rw [← Text.map_text_numberedLines, List.map_map]
    rfl
  rw [List.forall₂_eq_eq_eq, ← hlines, ← hlines] at heq
  rw [sourceLines_eq_numberFrom, sourceLines_eq_numberFrom, heq]

/-- **Lines are cut without loss, and carriage returns do not count.**  A text has one line more
than newline characters, and its lines are joined to it again; what has been joined from lines has
these lines.  A text that is freed from its carriage returns has the same number of lines, and each
line is what it was, under the same number, but for its carriage returns.  So texts whose lines
differ by carriage returns only have the same document and the same diagnostics. -/
theorem Text.numberedLines_exact :
    (∀ x : Text, x.numberedLines.length = x.count '\n' + 1 ∧
      x.dropReturns.numberedLines.length = x.numberedLines.length ∧
      (∀ k l, x.numberedLines[k]? = some l → l.number = k + 1 ∧ '\n' ∉ l.text ∧
        x.dropReturns.numberedLines[k]? = some ⟨k + 1, l.text.dropReturns⟩) ∧
      ['\n'].intercalate (x.numberedLines.map Line.text) = x) ∧
    (∀ ts : List Text, ts ≠ [] → (∀ t ∈ ts, '\n' ∉ t) →
      numberedLines (['\n'].intercalate ts) = ts.mapIdx fun k t => ⟨k + 1, t⟩) ∧
    ∀ x y, AgreeUpToReturns x y → ∀ o, Document.ofSource o x = Document.ofSource o y := by
  refine ⟨fun x => ⟨?_, length_numberedLines_dropReturns x, ?_, ?_⟩, ?_, ?_⟩
  · rw [length_numberedLines, length_lines]
  · intro k l hl
    refine ⟨?_, newline_not_mem_of_mem_numberedLines (List.mem_of_getElem? hl), ?_⟩
    · rw [getElem?_numberedLines, Option.map_eq_some_iff] at hl
      obtain ⟨t, -, rfl⟩ := hl
      rfl
    · rw [getElem?_numberedLines_dropReturns, hl, Option.map_some]
  · rw [map_text_numberedLines]
    exact List.intercalate_splitOn '\n'
  · intro ts hne hts
    rw [numberedLines_eq_mapIdx, lines_intercalate hne hts]
  · intro x y h o
    rw [Document.ofSource, Document.ofSource, h.sourceLines_eq]

/-- Carriage returns inside delimiters, inside a tag and at the end of the text. -/
theorem Text.numberedLines_exact_scattered_returns :
    let x : Text := "-\r-[==[\r\r\n @na\rme A\n@b\r\n]==]\r".toList
    let y : Text := "--[==[\n\r @name A\r\n@b\n]=\r=]".toList
    let ts : List Text := ["a\r".toList, [], ['\r']]
    (ts ≠ [] ∧ (∀ t ∈ ts, '\n' ∉ t) ∧ AgreeUpToReturns x y) ∧
      (x.numberedLines[1]? = some ⟨2, " @na\rme A".toList⟩ ∧
        x.dropReturns.numberedLines[1]? = some ⟨2, " @name A".toList⟩) ∧
      numberedLines (['\n'].intercalate ts) = [⟨1, "a\r".toList⟩, ⟨2, []⟩, ⟨3, ['\r']⟩] ∧
      ∀ o, Document.ofSource o x = Document.ofSource o y := by
  intro x y ts
  have hne : ts ≠ [] := by decide
  have hts : ∀ t ∈ ts, '\n' ∉ t := by decide
  have hxy : AgreeUpToReturns x y := by decide
  have hline : x.numberedLines[1]? = some ⟨2, " @na\rme A".toList⟩ := by decide
  obtain ⟨hlines, hjoined, hdocument⟩ := Text.numberedLines_exact
  obtain ⟨-, -, hget, -⟩ := hlines x
  obtain ⟨-, -, hfreed⟩ := hget 1 _ hline
  exact ⟨⟨hne, hts, hxy⟩, ⟨hline, hfreed.trans (by decide)⟩, (hjoined ts hne hts).trans (by decide),
    hdocument x y hxy⟩

end DocBlock
