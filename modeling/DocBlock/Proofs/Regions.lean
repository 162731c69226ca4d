/-
# Regions of a source

The blocks of a source are found by a scan that carries a signed depth, the lines of the open region
and the blocks so far.  This file says which blocks these are without a scan: they are the contents
of the regions of the source, where a region runs from an opener at depth zero to the first line
after which the depth is zero again.  Closers outside every region and regions that are never closed
need no clause of their own, since the depth accounts for them.

The invariant of the scan is `Scan.Tracks`.  While the depth is positive, the lines that the scan
keeps are those from the last position where the depth left zero upwards, and there is only one
position from which the depth has been positive ever since.
-/
import DocBlock.Proofs.Scan

namespace DocBlock

/-! ## Regions -/

/-- The lines at the positions `i` to `j`, counted from 0, make a region: the first is an opener at
depth zero, the depth is positive up to the last, and it is zero behind the last. -/
structure IsRegion (ls : List Line) (i j : ℕ) : Prop where
  lt : i < j
  start : depthAt ls i = 0
  opener : ∃ l ∈ ls[i]?, openDelimiter <+: l.text
  inside : ∀ k, i < k → k ≤ j → 1 ≤ depthAt ls k
  finish : depthAt ls (j + 1) = 0

/-- A region has been open since position `i` when the source ends. -/
structure IsOpenFrom (ls : List Line) (i : ℕ) : Prop where
  start : depthAt ls i = 0
  opener : ∃ l ∈ ls[i]?, openDelimiter <+: l.text
  inside : ∀ k, i < k → k ≤ ls.length → 1 ≤ depthAt ls k

/-- The content of the region from `i` to `j`: the lines strictly between its two delimiters. -/
def regionContent (ls : List Line) (i j : ℕ) : Block := ⟨(ls.take j).drop (i + 1)⟩

/-- All regions of a source, by their first and last positions and in the order of the source. -/
structure ListsRegions (ls : List Line) (rs : List (ℕ × ℕ)) : Prop where
  sorted : rs.Pairwise fun p q => p.1 < q.1
  mem_iff : ∀ i j, (i, j) ∈ rs ↔ IsRegion ls i j

lemma lt_length_of_opener {ls : List Line} {i : ℕ}
    (h : ∃ l ∈ ls[i]?, openDelimiter <+: l.text) : i < ls.length := by
  obtain ⟨l, hl, -⟩ := h
  exact (List.getElem?_eq_some_iff.1 hl).1

/-- A region ends inside the source: behind the end the depth does not change any more. -/
lemma IsRegion.lt_length {ls : List Line} {i j : ℕ} (h : IsRegion ls i j) : j < ls.length := by
  by_contra hj
  have h₁ := h.inside j h.lt le_rfl
  have h₂ := h.finish
  rw [depthAt_of_length_le (by omega)] at h₁ h₂
  omega

namespace IsOpenFrom

variable {ls : List Line} {l : Line} {i : ℕ}

lemma lt_length (h : IsOpenFrom ls i) : i < ls.length := lt_length_of_opener h.opener

lemma weight_pos (h : IsOpenFrom ls i) : 1 ≤ netDepth ls := by
  simpa using h.inside ls.length h.lt_length le_rfl

/-- A region that is open was opened after the end of every region. -/
lemma end_lt {a b : ℕ} (h : IsOpenFrom ls i) (hr : IsRegion ls a b) : b < i := by
  by_contra hb
  have h₁ := h.inside (b + 1) (by omega) hr.lt_length
  have h₂ := hr.finish
  omega

/-- At most one region is open. -/
lemma unique {k : ℕ} (h : IsOpenFrom ls i) (hk : IsOpenFrom ls k) : i = k := by
  rcases lt_trichotomy i k with hlt | rfl | hlt
  · have h₁ := h.inside k hlt hk.lt_length.le
    have h₂ := hk.start
    omega
  · rfl
  · have h₁ := hk.inside i hlt h.lt_length.le
    have h₂ := h.start
    omega

/-- A region stays open as long as the depth is positive. -/
lemma concat (h : IsOpenFrom ls i) (hl : 1 ≤ netDepth ls + l.weight) :
    IsOpenFrom (ls ++ [l]) i where
  start := by rw [depthAt_append_of_le h.lt_length.le, h.start]
  opener := by
    rw [List.getElem?_append_left h.lt_length]
    exact h.opener
  inside k hik hk := by
    rcases Nat.lt_or_ge ls.length k with hlt | hle
    · obtain rfl : k = ls.length + 1 := by simp at hk; omega
      rwa [depthAt_concat]
    · rw [depthAt_append_of_le hle]
      exact h.inside k hik hle

/-- An opener at depth zero opens a region. -/
lemma concat_opener (hw : netDepth ls = 0) (hl : l.weight = 1) :
    IsOpenFrom (ls ++ [l]) ls.length where
  start := by rw [depthAt_append_of_le le_rfl, depthAt_length, hw]
  opener := ⟨l, by simp, Line.weight_eq_one_iff.1 hl⟩
  inside k hik hk := by
    obtain rfl : k = ls.length + 1 := by simp at hk; omega
    rw [depthAt_concat, hw, hl]
    decide

end IsOpenFrom

/-- A region is one that has been open when its last line comes, and that this line closes. -/
lemma isRegion_iff {ls : List Line} {i j : ℕ} :
    IsRegion ls i j ↔ j < ls.length ∧ IsOpenFrom (ls.take j) i ∧ depthAt ls (j + 1) = 0 := by
  constructor
  · intro h
    refine ⟨h.lt_length, ⟨?_, ?_, ?_⟩, h.finish⟩
    · rw [depthAt_take_of_le h.lt.le, h.start]
    · rw [List.getElem?_take_of_lt h.lt]
      exact h.opener
    · intro k hik hk
      have hkj : k ≤ j := hk.trans (List.length_take_le _ _)
      rw [depthAt_take_of_le hkj]
      exact h.inside k hik hkj
  · rintro ⟨hj, h, hfinish⟩
    have hlen : (ls.take j).length = j := List.length_take_of_le hj.le
    have hij : i < j := by
      rw [← hlen]
      exact h.lt_length
    refine ⟨hij, ?_, ?_, ?_, hfinish⟩
    · rw [← depthAt_take_of_le hij.le, h.start]
    · rw [← List.getElem?_take_of_lt hij]
      exact h.opener
    · intro k hik hkj
      rw [← depthAt_take_of_le hkj]
      exact h.inside k hik (by rwa [hlen])

/-- The regions of a source with one more line: those there were, and the one that the line
closes. -/
lemma isRegion_concat_iff {ls : List Line} {l : Line} {i j : ℕ} :
    IsRegion (ls ++ [l]) i j ↔
      IsRegion ls i j ∨ j = ls.length ∧ IsOpenFrom ls i ∧ netDepth ls + l.weight = 0 := by
  rw [isRegion_iff, isRegion_iff, List.length_append, List.length_singleton]
  rcases lt_trichotomy j ls.length with hj | rfl | hj
  · -- a line in front of the new one: what there is to say does not mention the new line
    rw [List.take_append_of_le_length hj.le, depthAt_append_of_le hj]
    simp [hj, hj.ne, Nat.lt_succ_of_lt hj]
  · rw [List.take_left', depthAt_concat]
    · simp
    · rfl
  · constructor
    · rintro ⟨h, -⟩
      omega
    · rintro (⟨h, -⟩ | ⟨h, -⟩) <;> omega

/-- The content of a region is not affected by what follows. -/
lemma regionContent_append {ls ms : List Line} {i j : ℕ} (h : j ≤ ls.length) :
    regionContent (ls ++ ms) i j = regionContent ls i j := by
  simp [regionContent, List.take_append_of_le_length h]

/-- The content of the region that has been open since position `i`, if it ends here. -/
lemma regionContent_length (ls ms : List Line) (i : ℕ) :
    regionContent (ls ++ ms) i ls.length = ⟨(ls.drop i).tail⟩ := by
  simp [regionContent]

namespace ListsRegions

variable {ls : List Line} {rs : List (ℕ × ℕ)} {l : Line}

lemma map_regionContent_append (h : ListsRegions ls rs) (ms : List Line) :
    (rs.map fun p => regionContent (ls ++ ms) p.1 p.2) =
      rs.map fun p => regionContent ls p.1 p.2 := by
  apply List.map_congr_left
  rintro ⟨i, j⟩ hp
  exact regionContent_append ((h.mem_iff i j).1 hp).lt_length.le

/-- A line that closes nothing leaves the regions as they are. -/
lemma concat_of_ne (h : ListsRegions ls rs) (hl : 1 ≤ netDepth ls → netDepth ls + l.weight ≠ 0) :
    ListsRegions (ls ++ [l]) rs where
  sorted := h.sorted
  mem_iff i j := by
    rw [h.mem_iff, isRegion_concat_iff]
    constructor
    · exact Or.inl
    · rintro (hr | ⟨-, hi, hw⟩)
      · exact hr
      · exact absurd hw (hl hi.weight_pos)

/-- A line that closes the open region adds that region behind all others. -/
lemma concat_of_eq (h : ListsRegions ls rs) {i : ℕ} (hi : IsOpenFrom ls i)
    (hl : netDepth ls + l.weight = 0) : ListsRegions (ls ++ [l]) (rs ++ [(i, ls.length)]) where
  sorted := by
    rw [List.pairwise_append]
    refine ⟨h.sorted, by simp, ?_⟩
    rintro ⟨a, b⟩ hab q hq
    obtain rfl : q = (i, ls.length) := by simpa using hq
    have hr : IsRegion ls a b := (h.mem_iff a b).1 hab
    exact hr.lt.trans (hi.end_lt hr)
  mem_iff a b := by
    rw [List.mem_append, h.mem_iff, isRegion_concat_iff]
    constructor
    · rintro (hr | hab)
      · exact Or.inl hr
      · obtain ⟨rfl, rfl⟩ : a = i ∧ b = ls.length := by simpa using hab
        exact Or.inr ⟨rfl, hi, hl⟩
    · rintro (hr | ⟨rfl, ha, -⟩)
      · exact Or.inl hr
      · rw [ha.unique hi]
        simp

end ListsRegions

/-! ## The scan finds the regions -/

namespace Scan

/-- The scan of a source agrees with the regions of the source: its blocks are the contents of the
regions, and what it keeps is the region that is open. -/
structure Tracks (ls : List Line) (rs : List (ℕ × ℕ)) (s : Scan) : Prop where
  depth : s.depth = netDepth ls
  idle : s.depth ≤ 0 → s.region = []
  busy : 0 < s.depth → ∃ i, IsOpenFrom ls i ∧ s.region = ls.drop i
  regions : ListsRegions ls rs
  blocks : s.blocks = rs.map fun p => regionContent ls p.1 p.2

lemma tracks_nil : Tracks [] [] {} where
  depth := rfl
  idle _ := rfl
  busy h := absurd h (by decide)
  regions := ⟨List.Pairwise.nil, fun i j => ⟨by simp, fun h => absurd h.lt_length (by simp)⟩⟩
  blocks := rfl

namespace Tracks

variable {ls : List Line} {rs : List (ℕ × ℕ)} {s : Scan} {l : Line}

/-- The line closes the open region. -/
lemma step_close (h : Tracks ls rs s) (hl : l.weight = -1) (hd : s.depth = 1) :
    ∃ rs', Tracks (ls ++ [l]) rs' (s.step l) := by
  obtain ⟨i, hi, hregion⟩ := h.busy (by omega)
  have hw : netDepth ls + l.weight = 0 := by
    rw [← h.depth, hd, hl]
    rfl
  refine ⟨rs ++ [(i, ls.length)], ?_⟩
  rw [step_of_closer hl hd]
  exact {
    depth := by simp [hw]
    idle := fun _ => rfl
    busy := fun hpos => absurd hpos (lt_irrefl 0)
    regions := h.regions.concat_of_eq hi hw
    blocks := by
      rw [List.map_append, h.regions.map_regionContent_append, ← h.blocks, hregion]
      simp [regionContent_length] }

/-- The line becomes part of the open region, or opens one. -/
lemma step_keep (h : Tracks ls rs s) (hpos : 0 < s.depth + l.weight) :
    ∃ rs', Tracks (ls ++ [l]) rs' (s.step l) := by
  have hw : 0 < netDepth ls + l.weight := by rwa [← h.depth]
  refine ⟨rs, ?_⟩
  rw [step_of_pos hpos]
  exact {
    depth := by simp [h.depth]
    idle := fun hneg => absurd hpos (not_lt.2 hneg)
    busy := fun _ => by
      rcases lt_or_ge 0 s.depth with hd | hd
      · obtain ⟨i, hi, hregion⟩ := h.busy hd
        refine ⟨i, hi.concat hw, ?_⟩
        rw [hregion, List.drop_append_of_le_length hi.lt_length.le]
      · -- the depth was not positive and is so now: it was zero and the line is an opener
        have hle := l.weight_le_one
        have hzero : netDepth ls = 0 := by rw [← h.depth]; omega
        refine ⟨ls.length, IsOpenFrom.concat_opener hzero (by omega), ?_⟩
        simp [h.idle hd]
    regions := h.regions.concat_of_ne fun _ => hw.ne'
    blocks := by rw [h.regions.map_regionContent_append, h.blocks] }

/-- The line stands outside every region. -/
lemma step_skip (h : Tracks ls rs s) (hneg : s.depth + l.weight ≤ 0) (hd : s.depth ≤ 0) :
    ∃ rs', Tracks (ls ++ [l]) rs' (s.step l) := by
  refine ⟨rs, ?_⟩
  rw [step_of_nonpos hneg hd]
  exact {
    depth := by simp [h.depth]
    idle := fun _ => h.idle hd
    busy := fun hpos => absurd hneg (not_le.2 hpos)
    regions := h.regions.concat_of_ne fun hpos => by
      rw [h.depth] at hd
      omega
    blocks := by rw [h.regions.map_regionContent_append, h.blocks] }

end Tracks

/-- The scan of every source agrees with its regions. -/
theorem exists_tracks_run (ls : List Line) : ∃ rs, Tracks ls rs (run ls) := by
  induction ls using List.reverseRecOn with
  | nil => exact ⟨[], tracks_nil⟩
  | append_singleton ls l ih =>
    obtain ⟨rs, h⟩ := ih
    rw [run_concat]
    rcases step_cases (run ls) l with ⟨hl, hd, -⟩ | ⟨hpos, -⟩ | ⟨hneg, hd, -⟩
    · exact h.step_close hl hd
    · exact h.step_keep hpos
    · exact h.step_skip hneg hd

lemma depth_run (ls : List Line) : (run ls).depth = netDepth ls := by
  rw [run, depth_foldl_step, zero_add]

/-- No region is open when the depth is not positive. -/
lemma region_run {ls : List Line} (h : netDepth ls ≤ 0) : (run ls).region = [] :=
  region_foldl_step_of_nonpos (fun _ => rfl) ((depth_run ls).trans_le h)

/-- A region is open when the depth is positive. -/
lemma region_run_ne_nil {ls : List Line} (h : 0 < netDepth ls) : (run ls).region ≠ [] := by
  obtain ⟨rs, hrs⟩ := exists_tracks_run ls
  obtain ⟨i, hi, hregion⟩ := hrs.busy (h.trans_eq (depth_run ls).symm)
  rw [hregion, Ne, List.drop_eq_nil_iff]
  exact not_le.2 hi.lt_length

end Scan

/-- A block is found exactly when it is the content of a region. -/
lemma mem_docBlocks_iff {ls : List Line} {b : Block} :
    b ∈ docBlocks ls ↔ ∃ i j, IsRegion ls i j ∧ b = regionContent ls i j := by
  obtain ⟨rs, h⟩ := Scan.exists_tracks_run ls
  rw [docBlocks, h.blocks, List.mem_map]
  constructor
  · rintro ⟨⟨i, j⟩, hp, rfl⟩
    exact ⟨i, j, (h.regions.mem_iff i j).1 hp, rfl⟩
  · rintro ⟨i, j, hr, rfl⟩
    exact ⟨(i, j), (h.regions.mem_iff i j).2 hr, rfl⟩

/-- **The blocks of a source are the contents of its regions.**  The regions are the pairs `i < j`
such that the depth is zero before the opener at `i`, positive up to the line at `j` and zero behind
it.  There is one block for each of them, in the order of the openers, and it consists of the lines
strictly between. -/
theorem docBlocks_eq_map_regions (ls : List Line) :
    ∃ rs : List (ℕ × ℕ), rs.Pairwise (fun p q => p.1 < q.1) ∧
      (∀ i j, (i, j) ∈ rs ↔ IsRegion ls i j) ∧
      docBlocks ls = rs.map fun p => ⟨(ls.take p.2).drop (p.1 + 1)⟩ := by
  obtain ⟨rs, h⟩ := Scan.exists_tracks_run ls
  exact ⟨rs, h.regions.sorted, h.regions.mem_iff, h.blocks⟩

/-- The opener after a stray closer only makes up for it and opens nothing. -/
example : docBlocks [⟨1, "]==]".toList⟩, ⟨2, "--[==[".toList⟩, ⟨3, "]==]".toList⟩] = [] := by
  decide

end DocBlock
