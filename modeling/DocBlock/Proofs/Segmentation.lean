/-
# Segmentation of a block

The segments of a block are described here by what they look like and not by how they are found:
they cover the lines of the block without a gap or an overlap, none is empty, the tag lines among
the lines are their first lines, and each is tagged by its first line.  Only the first line of the
whole block may open a segment without being a tag line.

These properties leave no choice.  A segmentation is taken apart from the left, one segment at a
time (`isSegmentation_cons_iff`), and so is the list of the segments of a block
(`segments_cons_append`); the two agree at every step.
-/
import DocBlock.Segment
import Mathlib

namespace DocBlock

/-- The segments cut the lines in front of every tag line and nowhere else. -/
structure IsSegmentation (ls : List Line) (ss : List Segment) : Prop where
  cover : ss.flatMap Segment.lines = ls
  nonempty : ∀ s ∈ ss, s.lines ≠ []
  opening : ∀ s ∈ ss.tail, ∃ l ∈ s.lines.head?, l.isTagLine
  plain : ∀ s ∈ ss, ∀ l ∈ s.lines.tail, ¬ l.isTagLine
  tagged : ∀ s ∈ ss, ∃ l ∈ s.lines.head?, s.tag = l.text.tag?

/-- Lines that can follow a complete segment: there are none, or the first is a tag line. -/
def StartsTagged (ls : List Line) : Prop := ∀ l ∈ ls.head?, l.isTagLine

@[simp]
lemma startsTagged_nil : StartsTagged [] := by simp [StartsTagged]

@[simp]
lemma startsTagged_cons {l : Line} {ls : List Line} : StartsTagged (l :: ls) ↔ l.isTagLine := by
  simp [StartsTagged]

/-! ## The segments of a block, one at a time -/

@[simp]
lemma Segment.tag_ofLines_cons (l : Line) (ls : List Line) :
    (Segment.ofLines (l :: ls)).tag = l.text.tag? := rfl

@[simp]
lemma segments_nil : Block.segments ⟨[]⟩ = [] := rfl

/-- Segments can be found on the two sides of a tag line separately. -/
lemma segments_append (ls : List Line) {ms : List Line} (h : StartsTagged ms) :
    Block.segments ⟨ls ++ ms⟩ = Block.segments ⟨ls⟩ ++ Block.segments ⟨ms⟩ := by
  have hsplit := List.splitBy_append (r := fun _ next : Line => !next.isTagLine) (l := ls) (m := ms)
    (fun _ _ y hy => by simp [h y hy])
  rw [Block.segments, hsplit, List.map_append]
  rfl

lemma isChain_of_plain {l : Line} {ls : List Line} (h : ∀ m ∈ ls, ¬ m.isTagLine) :
    (l :: ls).IsChain fun _ next => !next.isTagLine := by
  induction ls generalizing l with
  | nil => simp
  | cons m ls ih =>
    rw [List.isChain_cons_cons]
    exact ⟨by simpa using h m (by simp), ih fun k hk => h k (by simp [hk])⟩

/-- Lines without a tag line, the first aside, make one segment. -/
lemma segments_of_plain (l : Line) {ls : List Line} (h : ∀ m ∈ ls, ¬ m.isTagLine) :
    Block.segments ⟨l :: ls⟩ = [Segment.ofLines (l :: ls)] := by
  rw [Block.segments, List.splitBy_of_isChain (by simp) (isChain_of_plain h)]
  rfl

/-- The first segment reaches up to the first tag line. -/
lemma segments_cons_append (l : Line) {ls ms : List Line} (hls : ∀ m ∈ ls, ¬ m.isTagLine)
    (hms : StartsTagged ms) :
    Block.segments ⟨l :: ls ++ ms⟩ = Segment.ofLines (l :: ls) :: Block.segments ⟨ms⟩ := by
  rw [segments_append _ hms, segments_of_plain l hls]
  rfl

/-! ## Segmentations, one segment at a time -/

lemma isSegmentation_nil_iff {ls : List Line} : IsSegmentation ls [] ↔ ls = [] := by
  constructor
  · intro h
    simpa using h.cover.symm
  · rintro rfl
    exact ⟨rfl, by simp, by simp, by simp, by simp⟩

/-- The first line of a segmentation is the first line of its first segment. -/
lemma IsSegmentation.startsTagged_iff {ls : List Line} {ss : List Segment}
    (h : IsSegmentation ls ss) :
    StartsTagged ls ↔ ∀ s ∈ ss.head?, ∃ l ∈ s.lines.head?, l.isTagLine := by
  cases ss with
  | nil => simp [isSegmentation_nil_iff.1 h]
  | cons s ss =>
    obtain ⟨l, t, hl⟩ := List.exists_cons_of_ne_nil (h.nonempty s (by simp))
    rw [← h.cover]
    simp [hl]

/-- A segmentation consists of a first segment, which has no tag line behind its first line, and a
segmentation of the remaining lines, which start with a tag line. -/
lemma isSegmentation_cons_iff {ls : List Line} {s : Segment} {ss : List Segment} :
    IsSegmentation ls (s :: ss) ↔
      ∃ l t ms, ls = l :: t ++ ms ∧ s = Segment.ofLines (l :: t) ∧ (∀ m ∈ t, ¬ m.isTagLine) ∧
        StartsTagged ms ∧ IsSegmentation ms ss := by
  constructor
  · intro h
    obtain ⟨l, t, hl⟩ := List.exists_cons_of_ne_nil (h.nonempty s (by simp))
    have hss : IsSegmentation (ss.flatMap Segment.lines) ss :=
      ⟨rfl, fun r hr => h.nonempty r (by simp [hr]),
        fun r hr => h.opening r (List.mem_of_mem_tail hr),
        fun r hr => h.plain r (by simp [hr]), fun r hr => h.tagged r (by simp [hr])⟩
    refine ⟨l, t, ss.flatMap Segment.lines, ?_, ?_, ?_, ?_, hss⟩
    · rw [← h.cover, List.flatMap_cons, hl]
    · obtain ⟨m, hm, htag⟩ := h.tagged s (by simp)
      obtain rfl : l = m := by simpa [hl] using hm
      rw [Segment.mk.injEq]
      exact ⟨by simpa using htag, hl⟩
    · simpa [hl] using h.plain s (by simp)
    · -- the lines that remain start with the first line of the second segment
      rw [hss.startsTagged_iff]
      exact fun r hr => h.opening r (List.mem_of_mem_head? hr)
  · rintro ⟨l, t, ms, rfl, rfl, ht, hms, h⟩
    refine ⟨by simp [h.cover], ?_, ?_, ?_, ?_⟩
    · simpa using h.nonempty
    · intro r hr
      -- the second segment has the first line of `ms`, the later ones are tagged already
      cases ss with
      | nil => simp at hr
      | cons s ss =>
        rcases List.mem_cons.1 hr with rfl | hr
        · exact h.startsTagged_iff.1 hms r (by simp)
        · exact h.opening r hr
    · simpa using ⟨by simpa using ht, by simpa using h.plain⟩
    · simpa [Segment.ofLines] using h.tagged

/-! ## Existence and uniqueness -/

/-- The segments of a block are a segmentation of its lines. -/
theorem isSegmentation_segments (ls : List Line) :
    IsSegmentation ls (Block.segments ⟨ls⟩) := by
  induction hn : ls.length using Nat.strong_induction_on generalizing ls with
  | _ n ih =>
    cases ls with
    | nil => exact isSegmentation_nil_iff.2 rfl
    | cons l ls =>
      -- the first segment ends in front of the first tag line behind `l`, and the rest is shorter
      have hplain : ∀ m ∈ ls.takeWhile (!·.isTagLine), ¬ m.isTagLine := by
        intro m hm
        simpa using List.mem_takeWhile_imp hm
      have htagged : StartsTagged (ls.dropWhile (!·.isTagLine)) := by
        intro m hm
        have := List.head?_dropWhile_not (!·.isTagLine) ls
        rw [Option.mem_def.1 hm] at this
        simpa using this
      have hlen : (ls.dropWhile (!·.isTagLine)).length < n := by
        have := (List.dropWhile_sublist (l := ls) (!·.isTagLine)).length_le
        simp at hn
        omega
      have hls : l :: ls = l :: ls.takeWhile (!·.isTagLine) ++ ls.dropWhile (!·.isTagLine) := by
        simp [List.takeWhile_append_dropWhile]
      rw [hls, segments_cons_append l hplain htagged, isSegmentation_cons_iff]
      exact ⟨_, _, _, rfl, rfl, hplain, htagged, ih _ hlen _ rfl⟩

/-- There is no other segmentation. -/
theorem IsSegmentation.eq_segments {ls : List Line} {ss : List Segment} (h : IsSegmentation ls ss) :
    ss = Block.segments ⟨ls⟩ := by
  induction ss generalizing ls with
  | nil => simp [isSegmentation_nil_iff.1 h]
  | cons s ss ih =>
    obtain ⟨l, t, ms, rfl, rfl, ht, hms, hss⟩ := isSegmentation_cons_iff.1 h
    rw [segments_cons_append l ht hms, ih hss]

/-- A segment of a block is the only segment of its own lines. -/
lemma segments_lines_of_mem {b : Block} {s : Segment} (hs : s ∈ b.segments) :
    Block.segments ⟨s.lines⟩ = [s] := by
  have h : IsSegmentation b.lines b.segments := isSegmentation_segments b.lines
  have hsingle : IsSegmentation s.lines [s] :=
    ⟨by simp, by simpa using h.nonempty s hs, by simp, by simpa using h.plain s hs,
      by simpa using h.tagged s hs⟩
  exact hsingle.eq_segments.symm

/-- A segment stands in its block between lines on which it has no influence: it opens the block or
starts with a tag line, and so do the lines behind it. -/
lemma IsSegmentation.exists_around {ls : List Line} {ss : List Segment} (h : IsSegmentation ls ss)
    {s : Segment} (hs : s ∈ ss) :
    ∃ us vs, ls = us ++ s.lines ++ vs ∧ (us = [] ∨ StartsTagged s.lines) ∧ StartsTagged vs := by
  induction ss generalizing ls with
  | nil => simp at hs
  | cons r ss ih =>
    obtain ⟨l, t, ms, rfl, rfl, ht, hms, hss⟩ := isSegmentation_cons_iff.1 h
    rcases List.mem_cons.1 hs with rfl | hs
    · exact ⟨[], ms, rfl, Or.inl rfl, hms⟩
    · obtain ⟨us, vs, rfl, hopen, hvs⟩ := ih hss hs
      refine ⟨l :: t ++ us, vs, by simp, Or.inr ?_, hvs⟩
      rcases hopen with rfl | htagged
      · -- the segment is the first of those behind, which start with a tag line
        obtain ⟨m, n, hmn⟩ := List.exists_cons_of_ne_nil (hss.nonempty s hs)
        rw [hmn] at hms ⊢
        exact startsTagged_cons.2 (startsTagged_cons.1 hms)
      · exact htagged

lemma segments_around {s : Segment} {us vs : List Line} (hs : Block.segments ⟨s.lines⟩ = [s])
    (hopen : us = [] ∨ StartsTagged s.lines) (hvs : StartsTagged vs) :
    Block.segments ⟨us ++ s.lines ++ vs⟩ = Block.segments ⟨us⟩ ++ s :: Block.segments ⟨vs⟩ := by
  have hfront : Block.segments ⟨us ++ s.lines⟩ = Block.segments ⟨us⟩ ++ [s] := by
    rcases hopen with rfl | htagged
    · exact hs
    · rw [segments_append us htagged, hs]
  rw [segments_append _ hvs, hfront, List.append_assoc]
  rfl

/-- **The segments of a block are its only segmentation.**  Hence they can be found on the two sides
of a tag line separately, and a segment is found again in its own lines. -/
theorem segments_unique (b : Block) :
    IsSegmentation b.lines b.segments ∧
      (∀ ss, IsSegmentation b.lines ss → ss = b.segments) ∧
      (∀ ms, StartsTagged ms → Block.segments ⟨b.lines ++ ms⟩ = b.segments ++ Block.segments ⟨ms⟩) ∧
      ∀ s ∈ b.segments, Block.segments ⟨s.lines⟩ = [s] :=
  ⟨isSegmentation_segments b.lines, fun _ h => h.eq_segments, fun _ h => segments_append b.lines h,
    fun _ hs => segments_lines_of_mem hs⟩

/-- A block that does not start with a tag line, and a tag line to go behind it. -/
theorem segments_unique_untagged_start :
    let b : Block := ⟨[⟨1, "x".toList⟩, ⟨2, " @a".toList⟩]⟩
    let ms : List Line := [⟨3, "@b".toList⟩]
    let s : Segment := ⟨none, [⟨1, "x".toList⟩]⟩
    let r : Segment := ⟨some (.other "a".toList), [⟨2, " @a".toList⟩]⟩
    (IsSegmentation b.lines [s, r] ∧ [s, r] = b.segments) ∧
      (StartsTagged ms ∧ Block.segments ⟨b.lines ++ ms⟩ = b.segments ++ Block.segments ⟨ms⟩) ∧
      s ∈ b.segments ∧ Block.segments ⟨s.lines⟩ = [s] := by
  intro b ms s r
  have hs : IsSegmentation b.lines [s, r] :=
    ⟨by decide, by decide, by decide, by decide, by decide⟩
  have hms : StartsTagged ms := startsTagged_cons.2 (by decide)
  have hmem : s ∈ b.segments := by decide
  obtain ⟨-, hunique, happend, hself⟩ := segments_unique b
  exact ⟨⟨hs, hunique [s, r] hs⟩, ⟨hms, happend ms hms⟩, hmem, hself s hmem⟩

end DocBlock
