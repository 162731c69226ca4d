/-
# Renumbered lines

A scan looks at the kind of a line and a split looks for the marker in it; apart from that both hand
the lines on as they are.  So they commute with every map of lines that keeps what they look at.
The map that matters most changes the numbers of the lines and leaves the texts alone: it reaches
the diagnostics and nothing else, whatever the new numbers are.
-/
import DocBlock.Proofs.Openings

namespace DocBlock

/-! ## Maps of lines -/

/-- The block with a map applied to each of its lines. -/
def Block.map (f : Line → Line) (b : Block) : Block := ⟨b.lines.map f⟩

/-- The segment with a map applied to each of its lines.  Its tag is read again. -/
def Segment.map (f : Line → Line) (s : Segment) : Segment := .ofLines (s.lines.map f)

section Scan

/-- The scan with a map applied to each line that it holds. -/
def Scan.map (f : Line → Line) (s : Scan) : Scan :=
  ⟨s.depth, s.region.map f, s.blocks.map (Block.map f)⟩

variable {f : Line → Line} {ls : List Line}

/-- A step commutes with a map that keeps the weight of the line. -/
lemma Scan.step_map {l : Line} (h : (f l).weight = l.weight) (s : Scan) :
    (s.map f).step (f l) = (s.step l).map f := by
  rcases step_cases s l with ⟨hl, hd, hs⟩ | ⟨hpos, hs⟩ | ⟨hneg, hd, hs⟩
  · rw [hs, step_of_closer (s := s.map f) (h.trans hl) hd]
    simp [map, Block.map]
  · have hpos' : 0 < (s.map f).depth + (f l).weight := by rwa [h]
    rw [hs, step_of_pos hpos', h]
    simp [map]
  · have hneg' : (s.map f).depth + (f l).weight ≤ 0 := by rwa [h]
    rw [hs, step_of_nonpos hneg' hd, h]
    rfl

lemma Scan.run_map (h : ∀ l ∈ ls, (f l).weight = l.weight) : run (ls.map f) = (run ls).map f := by
  induction ls using List.reverseRecOn with
  | nil => rfl
  | append_singleton ls l ih =>
    rw [List.map_append, List.map_singleton, run_concat, run_concat,
      ih fun m hm => h m (by simp [hm]), step_map (h l (by simp))]

/-- The blocks of a source are found by the kinds of its lines alone. -/
lemma docBlocks_map (h : ∀ l ∈ ls, (f l).weight = l.weight) :
    docBlocks (ls.map f) = (docBlocks ls).map (Block.map f) := by
  rw [docBlocks, Scan.run_map h]
  rfl

end Scan

section Segments

variable {f : Line → Line} {ls : List Line}

/-- A segmentation stays one under a map that keeps the tag lines apart from the others. -/
lemma IsSegmentation.map {ss : List Segment} (h : IsSegmentation ls ss)
    (hf : ∀ l ∈ ls, (f l).isTagLine = l.isTagLine) :
    IsSegmentation (ls.map f) (ss.map (Segment.map f)) := by
  induction ss generalizing ls with
  | nil =>
    rw [isSegmentation_nil_iff.1 h]
    exact isSegmentation_nil_iff.2 rfl
  | cons s ss ih =>
    obtain ⟨l, t, ms, rfl, rfl, ht, hms, hss⟩ := isSegmentation_cons_iff.1 h
    refine isSegmentation_cons_iff.2 ⟨f l, t.map f, ms.map f, by simp, rfl, ?_, ?_, ?_⟩
    · rw [List.forall_mem_map]
      intro m hm
      rw [hf m (by simp [hm])]
      exact ht m hm
    · cases ms with
      | nil => exact startsTagged_nil
      | cons m ms =>
        rw [List.map_cons, startsTagged_cons, hf m (by simp)]
        exact startsTagged_cons.1 hms
    · exact ih hss fun m hm => hf m (by simp [hm])

/-- The segments of a block are found by its tag lines alone. -/
lemma Block.segments_map (b : Block) (hf : ∀ l ∈ b.lines, (f l).isTagLine = l.isTagLine) :
    (b.map f).segments = b.segments.map (Segment.map f) :=
  ((isSegmentation_segments b.lines).map hf).eq_segments.symm

lemma openings_map (hf : ∀ l ∈ ls, (f l).isTagLine = l.isTagLine) :
    openings (ls.map f) = (openings ls).map f := by
  cases ls with
  | nil => rfl
  | cons l ls =>
    have hls : (ls.map f).filter Line.isTagLine = (ls.filter Line.isTagLine).map f := by
      rw [List.filter_map]
      congr 1
      exact List.filter_congr fun m hm => hf m (List.mem_cons_of_mem l hm)
    rw [List.map_cons, openings, openings, hls, List.map_cons]

end Segments

/-! ## New numbers -/

/-- The line with another number. -/
def Line.renumber (g : ℕ → ℕ) (l : Line) : Line := { l with number := g l.number }

namespace Line

variable (g : ℕ → ℕ) (l : Line)

@[simp]
lemma text_renumber : (l.renumber g).text = l.text := rfl

@[simp]
lemma weight_renumber : (l.renumber g).weight = l.weight := rfl

@[simp]
lemma isTagLine_renumber : (l.renumber g).isTagLine = l.isTagLine := rfl

end Line

/-- The block with other numbers on its lines. -/
def Block.renumber (g : ℕ → ℕ) : Block → Block := Block.map (Line.renumber g)

/-- The diagnostic with another line number. -/
def Diagnostic.renumber (g : ℕ → ℕ) : Diagnostic → Diagnostic
  | unknownTag i n => unknownTag i (g n)
  | missingTag n => missingTag (g n)

lemma Diagnostic.renumber_id : renumber id = id := by
  funext e
  cases e <;> rfl

/-- The document with other line numbers in its diagnostics. -/
def Document.renumber (g : ℕ → ℕ) (d : Document) : Document :=
  { d with diagnostics := d.diagnostics.map (Diagnostic.renumber g) }

namespace Document

lemma renumber_id (d : Document) : d.renumber id = d := by
  rw [renumber, Diagnostic.renumber_id, List.map_id]

lemma renumber_renumber (f g : ℕ → ℕ) (d : Document) :
    (d.renumber f).renumber g = d.renumber (g ∘ f) := by
  have hcomp : Diagnostic.renumber g ∘ Diagnostic.renumber f = Diagnostic.renumber (g ∘ f) := by
    funext e
    cases e <;> rfl
  simp only [renumber, List.map_map, hcomp]

end Document

@[simp]
lemma netDepth_map_renumber (g : ℕ → ℕ) (ls : List Line) :
    netDepth (ls.map (Line.renumber g)) = netDepth ls := by
  simp [netDepth, Function.comp_def]

section Renumber

variable (g : ℕ → ℕ) (lang : Text)

lemma docBlocks_renumber (ls : List Line) :
    docBlocks (ls.map (Line.renumber g)) = (docBlocks ls).map (Block.renumber g) :=
  docBlocks_map fun l _ => l.weight_renumber g

/-- A fragment is made from the texts of the lines. -/
lemma Segment.fragment?_outcome_renumber (ls : List Line) :
    (((ofLines ls).map (Line.renumber g)).outcome lang).fragment? =
      ((ofLines ls).outcome lang).fragment? := by
  cases ls with
  | nil => rfl
  | cons l ls =>
    have hbody : ((ofLines (l :: ls)).map (Line.renumber g)).body = (ofLines (l :: ls)).body := by
      simp [map, body, Function.comp_def]
    have htag : ((ofLines (l :: ls)).map (Line.renumber g)).tag = l.text.tag? := rfl
    rw [outcome, outcome, htag, tag_ofLines_cons]
    -- a heading is read off the first line, prose and code are the lines behind it
    cases l.text.tag? with
    | none => rfl
    | some t =>
      cases t with
      | name => rfl
      | signature => rfl
      | description =>
        rw [descriptionFragment, descriptionFragment, hbody]
      | sample =>
        rw [sampleFragment, sampleFragment, hbody]
      | other i => rfl

lemma Block.markdown_renumber (b : Block) : (b.renumber g).markdown lang = b.markdown lang := by
  have hsegments : (b.renumber g).segments = b.segments.map (Segment.map (Line.renumber g)) :=
    b.segments_map fun l _ => l.isTagLine_renumber g
  rw [markdown, markdown, outcomes, outcomes, hsegments, segments]
  simp only [List.map_map, List.filterMap_map, Function.comp_def,
    Segment.fragment?_outcome_renumber]

lemma Line.report?_renumber (l : Line) :
    (l.renumber g).report? = l.report?.map (Diagnostic.renumber g) := by
  rw [report?, report?, text_renumber]
  cases l.text.tag? with
  | none => rfl
  | some t => cases t <;> rfl

lemma Block.diagnostics_renumber (b : Block) :
    (b.renumber g).diagnostics lang = (b.diagnostics lang).map (Diagnostic.renumber g) := by
  have hopenings : openings (b.renumber g).lines = (openings b.lines).map (Line.renumber g) :=
    openings_map fun l _ => l.isTagLine_renumber g
  rw [diagnostics_eq, diagnostics_eq, hopenings, List.filterMap_map, List.map_filterMap]
  exact List.filterMap_congr fun l _ => l.report?_renumber g

lemma map_markdown_renumber (bs : List Block) :
    (bs.map (Block.renumber g)).map (Block.markdown lang) = bs.map (Block.markdown lang) := by
  rw [List.map_map]
  exact List.map_congr_left fun b _ => b.markdown_renumber g lang

lemma flatMap_diagnostics_renumber (bs : List Block) :
    (bs.map (Block.renumber g)).flatMap (Block.diagnostics lang) =
      (bs.flatMap (Block.diagnostics lang)).map (Diagnostic.renumber g) := by
  rw [List.flatMap_map, List.map_flatMap]
  congr 1
  funext b
  exact b.diagnostics_renumber g lang

end Renumber

/-- Sources whose blocks differ in the numbers of their lines have documents that differ in the line
numbers of their diagnostics. -/
lemma Document.ofSource_eq_renumber {source target : Text} {g : ℕ → ℕ} (o : Options)
    (h : docBlocks (sourceLines target) =
      (docBlocks (sourceLines source)).map (Block.renumber g)) :
    ofSource o target = (ofSource o source).renumber g := by
  rw [ofSource, h, map_markdown_renumber, flatMap_diagnostics_renumber]
  rfl

/-- Lines that are numbered in turn are numbered in turn from another number on, if the new numbers
are in turn. -/
lemma map_renumber_numberFrom {g : ℕ → ℕ} {k m : ℕ} {ts : List Text}
    (h : ∀ i < ts.length, g (k + i) = m + i) :
    (numberFrom k ts).map (Line.renumber g) = numberFrom m ts := by
  induction ts generalizing k m with
  | nil => rfl
  | cons t ts ih =>
    have hhead : g k = m := h 0 (by simp)
    have htail : ∀ i < ts.length, g (k + 1 + i) = m + 1 + i := by
      intro i hi
      have := h (i + 1) (by simpa using hi)
      rwa [add_assoc, add_comm 1 i, add_assoc, add_comm 1 i]
    rw [numberFrom_cons, numberFrom_cons, List.map_cons, ih htail, Line.renumber, hhead]

end DocBlock
