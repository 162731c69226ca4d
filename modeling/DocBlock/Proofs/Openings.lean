/-
# Openings and diagnostics

A diagnostic is about the line that opens a segment, and about nothing else: whether there is one,
and which, can be read off that line.  So the diagnostics of a source are found without any scan or
split, by looking at each line that opens a segment.  Such a line stands inside a region, and it is
the first line there or a tag line.

The order of the diagnostics is the order of their lines, because a scan puts every line into at
most one block and never moves one (`Scan.sublist_run`).
-/
import DocBlock.Document
import DocBlock.Proofs.Regions
import DocBlock.Proofs.Segmentation
import DocBlock.Proofs.SourceLines

namespace DocBlock

/-! ## The lines that open a segment -/

/-- The lines of a block that open a segment: the first line, and every later tag line. -/
def openings : List Line → List Line
  | [] => []
  | l :: ls => l :: ls.filter Line.isTagLine

lemma openings_sublist (ls : List Line) : (openings ls).Sublist ls := by
  cases ls with
  | nil => exact List.Sublist.refl []
  | cons l ls => exact List.filter_sublist.cons_cons l

lemma openings_of_startsTagged {ls : List Line} (h : StartsTagged ls) :
    openings ls = ls.filter Line.isTagLine := by
  cases ls with
  | nil => rfl
  | cons l ls => rw [openings, List.filter_cons_of_pos (startsTagged_cons.1 h)]

lemma openings_cons_append (l : Line) {ls ms : List Line} (hls : ∀ m ∈ ls, ¬ m.isTagLine)
    (hms : StartsTagged ms) : openings (l :: ls ++ ms) = l :: openings ms := by
  rw [List.cons_append, openings, List.filter_append, List.filter_eq_nil_iff.2 hls,
    List.nil_append, openings_of_startsTagged hms]

lemma mem_openings_iff {l : Line} {ls : List Line} :
    l ∈ openings ls ↔ ls[0]? = some l ∨ l ∈ ls ∧ l.isTagLine := by
  cases ls with
  | nil => simp [openings]
  | cons m ls =>
    simp only [openings, List.mem_cons, List.mem_filter, List.getElem?_cons_zero,
      Option.some.injEq]
    constructor
    · rintro (rfl | h)
      · exact Or.inl rfl
      · exact Or.inr ⟨Or.inr h.1, h.2⟩
    · rintro (rfl | ⟨rfl | hl, ht⟩)
      · exact Or.inl rfl
      · exact Or.inl rfl
      · exact Or.inr ⟨hl, ht⟩

/-- The openings of the content of a region, by their positions in the source. -/
lemma mem_openings_regionContent_iff {ls : List Line} {i j : ℕ} {l : Line} :
    l ∈ openings (regionContent ls i j).lines ↔
      ∃ m, i < m ∧ m < j ∧ ls[m]? = some l ∧ (m = i + 1 ∨ l.isTagLine) := by
  -- line `k` of the content is line `i + 1 + k` of the source
  have hget : ∀ k, ((ls.take j).drop (i + 1))[k]? = some l ↔
      i + 1 + k < j ∧ ls[i + 1 + k]? = some l := by
    intro k
    rw [List.getElem?_drop, List.getElem?_take]
    split_ifs with h <;> simp [h]
  rw [mem_openings_iff, regionContent, hget, List.mem_iff_getElem?]
  constructor
  · rintro (⟨hj, hl⟩ | ⟨⟨k, hk⟩, ht⟩)
    · exact ⟨i + 1, by omega, by omega, hl, Or.inl rfl⟩
    · obtain ⟨hj, hl⟩ := (hget k).1 hk
      exact ⟨i + 1 + k, by omega, hj, hl, Or.inr ht⟩
  · rintro ⟨m, him, hmj, hl, rfl | ht⟩
    · exact Or.inl ⟨hmj, hl⟩
    · obtain ⟨k, rfl⟩ := Nat.exists_eq_add_of_le him
      exact Or.inr ⟨⟨k, (hget k).2 ⟨hmj, hl⟩⟩, ht⟩

/-! ## What an opening is reported for -/

/-- The diagnostic of a segment that starts with the given line, if it has one. -/
def Line.report? (l : Line) : Option Diagnostic :=
  match l.text.tag? with
  | none => some (.missingTag l.number)
  | some (.other i) => some (.unknownTag i l.number)
  | some _ => none

lemma Line.report?_eq_some_iff {l : Line} {d : Diagnostic} :
    l.report? = some d ↔
      (∃ i, l.text.tag? = some (.other i) ∧ d = .unknownTag i l.number) ∨
        l.text.tag? = none ∧ d = .missingTag l.number := by
  rcases h : l.text.tag? with - | t
  · simp [report?, h, eq_comm]
  · cases t <;> simp [report?, h, eq_comm]

lemma Line.line_of_report?_eq_some {l : Line} {d : Diagnostic} (h : l.report? = some d) :
    d.line = l.number := by
  rcases Line.report?_eq_some_iff.1 h with ⟨i, -, rfl⟩ | ⟨-, rfl⟩ <;> rfl

lemma Segment.diagnostic?_outcome_ofLines (lang : Text) (l : Line) (ls : List Line) :
    ((Segment.ofLines (l :: ls)).outcome lang).diagnostic? = l.report? := by
  rw [outcome, Segment.tag_ofLines_cons, Line.report?]
  cases l.text.tag? with
  | none => rfl
  | some t => cases t <;> rfl

lemma IsSegmentation.filterMap_diagnostic? {ls : List Line} {ss : List Segment} (lang : Text)
    (h : IsSegmentation ls ss) :
    ss.filterMap (fun s => (s.outcome lang).diagnostic?) =
      (openings ls).filterMap Line.report? := by
  induction ss generalizing ls with
  | nil => rw [isSegmentation_nil_iff.1 h]; rfl
  | cons s ss ih =>
    obtain ⟨l, t, ms, rfl, rfl, ht, hms, hss⟩ := isSegmentation_cons_iff.1 h
    rw [openings_cons_append l ht hms, List.filterMap_cons, List.filterMap_cons, ih hss,
      Segment.diagnostic?_outcome_ofLines]

/-- The diagnostics of a block are those of its openings. -/
lemma Block.diagnostics_eq (lang : Text) (b : Block) :
    b.diagnostics lang = (openings b.lines).filterMap Line.report? := by
  rw [← (isSegmentation_segments b.lines).filterMap_diagnostic? lang, diagnostics, outcomes,
    List.filterMap_map]
  rfl

/-! ## The diagnostics of a document -/

/-- The openings of all blocks of a source, in the order of the blocks. -/
def sourceOpenings (ls : List Line) : List Line := (docBlocks ls).flatMap fun b => openings b.lines

lemma sourceOpenings_sublist (ls : List Line) : (sourceOpenings ls).Sublist ls :=
  calc
    (sourceOpenings ls).Sublist ((docBlocks ls).flatMap Block.lines) :=
      List.Sublist.flatMap_right _ fun b _ => openings_sublist b.lines
    List.Sublist _ ls := (List.sublist_append_left _ _).trans (Scan.sublist_run ls)

lemma mem_sourceOpenings_iff {ls : List Line} {l : Line} :
    l ∈ sourceOpenings ls ↔ ∃ i j m, IsRegion ls i j ∧ i < m ∧ m < j ∧ ls[m]? = some l ∧
      (m = i + 1 ∨ l.isTagLine) := by
  rw [sourceOpenings, List.mem_flatMap]
  constructor
  · rintro ⟨b, hb, hl⟩
    obtain ⟨i, j, hr, rfl⟩ := mem_docBlocks_iff.1 hb
    obtain ⟨m, hm⟩ := mem_openings_regionContent_iff.1 hl
    exact ⟨i, j, m, hr, hm⟩
  · rintro ⟨i, j, m, hr, hm⟩
    exact ⟨regionContent ls i j, mem_docBlocks_iff.2 ⟨i, j, hr, rfl⟩,
      mem_openings_regionContent_iff.2 ⟨m, hm⟩⟩

lemma Document.diagnostics_ofSource (o : Options) (source : Text) :
    (ofSource o source).diagnostics =
      (sourceOpenings (physicalLines source)).filterMap Line.report? := by
  rw [ofSource, sourceLines_eq_physicalLines, sourceOpenings, List.filterMap_flatMap]
  exact congrArg (docBlocks (physicalLines source)).flatMap (funext (Block.diagnostics_eq o.lang))

/-- The line of the text with the number `n`, which reads `t` without its carriage returns, opens a
segment: it stands strictly inside a region, where it is the first line or starts, after its
indentation, with the tag marker. -/
def IsOpening (source : Text) (n : ℕ) (t : Text) : Prop :=
  ∃ i j m, IsRegion (physicalLines source) i j ∧ i < m ∧ m < j ∧ n = m + 1 ∧
    source.lines[m]?.map Text.dropReturns = some t ∧
      (m = i + 1 ∨ t.trim.head? = some tagMarker)

lemma isOpening_iff {source : Text} {l : Line} :
    IsOpening source l.number l.text ↔ l ∈ sourceOpenings (physicalLines source) := by
  simp only [IsOpening, mem_sourceOpenings_iff, getElem?_physicalLines_eq_some_iff, Line.isTagLine,
    decide_eq_true_eq, and_assoc]

lemma IsOpening.number_le {source : Text} {n : ℕ} {t : Text} (h : IsOpening source n t) :
    1 ≤ n ∧ n ≤ source.lines.length := by
  obtain ⟨i, j, m, hr, -, hmj, rfl, -⟩ := h
  have := hr.lt_length
  rw [length_physicalLines] at this
  omega

lemma Document.mem_diagnostics_iff {o : Options} {source : Text} {d : Diagnostic} :
    d ∈ (ofSource o source).diagnostics ↔
      ∃ n t, IsOpening source n t ∧ (⟨n, t⟩ : Line).report? = some d := by
  rw [diagnostics_ofSource, List.mem_filterMap]
  constructor
  · rintro ⟨⟨n, t⟩, hl, hd⟩
    exact ⟨n, t, isOpening_iff.2 hl, hd⟩
  · rintro ⟨n, t, hl, hd⟩
    exact ⟨⟨n, t⟩, isOpening_iff.1 hl, hd⟩

lemma Document.pairwise_diagnostics (o : Options) (source : Text) :
    (ofSource o source).diagnostics.Pairwise fun d e => d.line < e.line := by
  rw [diagnostics_ofSource, List.pairwise_filterMap]
  -- the openings are some of the lines, in their order, and a diagnostic has the number of its line
  refine ((pairwise_number_physicalLines source).sublist (sourceOpenings_sublist _)).imp ?_
  intro l m hlm d hd e he
  rw [Line.line_of_report?_eq_some hd, Line.line_of_report?_eq_some he]
  exact hlm

/-- **The diagnostics of a source are its bad openings.**  They come in the order of their lines,
one for each opening whose tag has no meaning and one for each opening without a tag, and each names
the number of a line of the text. -/
theorem Document.diagnostics_exact (o : Options) (source : Text) :
    (ofSource o source).diagnostics.Pairwise (fun d e => d.line < e.line) ∧
      (∀ i n, .unknownTag i n ∈ (ofSource o source).diagnostics ↔
        ∃ t, IsOpening source n t ∧ t.tag? = some (.other i)) ∧
      (∀ n, .missingTag n ∈ (ofSource o source).diagnostics ↔
        ∃ t, IsOpening source n t ∧ t.tag? = none) ∧
      ∀ d ∈ (ofSource o source).diagnostics, 1 ≤ d.line ∧ d.line ≤ source.lines.length := by
  refine ⟨pairwise_diagnostics o source, ?_, ?_, ?_⟩
  · intro i n
    simp [mem_diagnostics_iff, Line.report?_eq_some_iff]
  · intro n
    simp [mem_diagnostics_iff, Line.report?_eq_some_iff]
  · intro d hd
    obtain ⟨n, t, hn, hd⟩ := mem_diagnostics_iff.1 hd
    rw [Line.line_of_report?_eq_some hd]
    exact hn.number_le

/-- A source with one bad opening, on its third line. -/
theorem Document.diagnostics_exact_unknown :
    let source : Text := "--[==[\n@name x\n @foo\n]==]".toList
    let d := Diagnostic.unknownTag "foo".toList 3
    d ∈ (ofSource {} source).diagnostics ∧ 1 ≤ d.line ∧ d.line ≤ source.lines.length := by
  intro source d
  have hd : d ∈ (ofSource {} source).diagnostics := by decide
  exact ⟨hd, (diagnostics_exact {} source).2.2.2 d hd⟩

end DocBlock
