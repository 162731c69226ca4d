/-
# The state of the scan

What the scan of a source holds after each line, in terms of the lines so far.  While the depth is
positive, the scan holds the end of these lines, from the opener of the region that is open; at any
other depth it holds none of them.  So a closer that brings the depth back to zero always finds a
region to close, and the first line of that region is its opener.

The depth is an integer in the scan.  A line changes it by one at most, so that a counter of fixed
width shows the same depth, as long as the number of lines can be counted in that width.
-/
import DocBlock.Proofs.Regions

namespace DocBlock

/-! ## The depth as a counter -/

/-- The depth moves by one at most with each line. -/
lemma abs_netDepth_le (ls : List Line) : |netDepth ls| ≤ ls.length := by
  induction ls with
  | nil => simp
  | cons l ls ih =>
    have hlow := l.neg_one_le_weight
    have hhigh := l.weight_le_one
    rw [abs_le] at ih ⊢
    rw [netDepth_cons, List.length_cons]
    push_cast
    omega

/-- The depth after a run of lines, kept by a counter of `w` bits that wraps around at its
limits. -/
def wordDepth (w : ℕ) (ls : List Line) : BitVec w :=
  ls.foldl (fun d l => d + BitVec.ofInt w l.kind.weight) 0

lemma wordDepth_eq (w : ℕ) (ls : List Line) : wordDepth w ls = BitVec.ofInt w (netDepth ls) := by
  induction ls using List.reverseRecOn with
  | nil => simp [wordDepth]
  | append_singleton ls l ih =>
    have hstep : wordDepth w (ls ++ [l]) = wordDepth w ls + BitVec.ofInt w l.kind.weight := by
      simp [wordDepth]
    rw [hstep, ih, Line.weight_kind, ← BitVec.ofInt_add, netDepth_append]
    simp

/-- The counter never wraps around if its bits, the sign aside, can count the lines. -/
lemma toInt_wordDepth {n : ℕ} {ls : List Line} (h : ls.length < 2 ^ n) :
    (wordDepth (n + 1) ls).toInt = netDepth ls := by
  obtain ⟨hlow, hhigh⟩ := abs_le.1 (abs_netDepth_le ls)
  have hlen : (ls.length : ℤ) < 2 ^ n := by exact_mod_cast h
  rw [wordDepth_eq]
  refine BitVec.toInt_ofInt_eq_self n.succ_pos ?_ ?_
  · rw [Nat.succ_sub_one]
    omega
  · rw [Nat.succ_sub_one]
    omega

/-! ## Where the blocks stand -/

/-- A region ends before a later one starts. -/
lemma IsRegion.end_lt_start {ls : List Line} {i j a b : ℕ} (h : IsRegion ls i j)
    (h' : IsRegion ls a b) (hia : i < a) : j < a := by
  by_contra hja
  have h₁ := h.inside a hia (by omega)
  have h₂ := h'.start
  omega

/-- Blocks that stand apart from each other in the lines: each consists of the lines strictly
between two positions, and the second position of a block comes before the first one of the next. -/
def StandApart (ls : List Line) (bs : List Block) : Prop :=
  ∃ rs : List (ℕ × ℕ), rs.Pairwise (fun p q => p.2 < q.1) ∧
    (∀ p ∈ rs, p.1 < p.2 ∧ p.2 < ls.length) ∧
    bs = rs.map fun p => ⟨(ls.take p.2).drop (p.1 + 1)⟩

lemma ListsRegions.standApart {ls : List Line} {rs : List (ℕ × ℕ)} (h : ListsRegions ls rs) :
    StandApart ls (rs.map fun p => regionContent ls p.1 p.2) := by
  refine ⟨rs, h.sorted.imp_of_mem ?_, ?_, rfl⟩
  · rintro ⟨i, j⟩ ⟨a, b⟩ hp hq hlt
    exact ((h.mem_iff i j).1 hp).end_lt_start ((h.mem_iff a b).1 hq) hlt
  · rintro ⟨i, j⟩ hp
    have hr := (h.mem_iff i j).1 hp
    exact ⟨hr.lt, hr.lt_length⟩

namespace Scan

/-! ## What the scan holds -/

/-- The state of the scan after the given lines. -/
structure IsStateAfter (ls : List Line) (s : Scan) : Prop where
  region_eq_nil_iff : s.region = [] ↔ s.depth ≤ 0
  region_suffix : s.region <:+ ls
  opener : ∀ o ∈ s.region.head?, openDelimiter <+: o.text
  depth_eq : 0 < s.depth → s.depth = openerCount s.region - closerCount s.region
  abs_depth_le : |s.depth| ≤ ls.length
  apart : StandApart ls s.blocks

/-- The region that is open starts with its opener. -/
lemma Tracks.exists_region_eq_cons {ls : List Line} {rs : List (ℕ × ℕ)} {s : Scan}
    (h : Tracks ls rs s) (hd : 0 < s.depth) :
    ∃ o t, s.region = o :: t ∧ openDelimiter <+: o.text ∧ s.region <:+ ls ∧
      netDepth s.region = s.depth := by
  obtain ⟨i, hi, hregion⟩ := h.busy hd
  obtain ⟨o, ho, hopener⟩ := hi.opener
  obtain ⟨hlt, ho⟩ := List.getElem?_eq_some_iff.1 ho
  refine ⟨o, ls.drop (i + 1), ?_, hopener, hregion ▸ List.drop_suffix i ls, ?_⟩
  · rw [hregion, List.drop_eq_getElem_cons hlt, ho]
  · -- in front of the opener the depth is zero
    rw [hregion, netDepth_drop, hi.start, sub_zero, h.depth]

lemma Tracks.isStateAfter {ls : List Line} {rs : List (ℕ × ℕ)} {s : Scan} (h : Tracks ls rs s) :
    IsStateAfter ls s := by
  have habs : |s.depth| ≤ ls.length := h.depth ▸ abs_netDepth_le ls
  have hapart : StandApart ls s.blocks := h.blocks ▸ h.regions.standApart
  rcases le_or_gt s.depth 0 with hd | hd
  · have hnil := h.idle hd
    exact {
      region_eq_nil_iff := iff_of_true hnil hd
      region_suffix := hnil ▸ List.nil_suffix
      opener := by simp [hnil]
      depth_eq := fun hpos => absurd hpos hd.not_gt
      abs_depth_le := habs
      apart := hapart }
  · obtain ⟨o, t, hregion, hopener, hsuffix, hdepth⟩ := h.exists_region_eq_cons hd
    exact {
      region_eq_nil_iff := iff_of_false (by simp [hregion]) hd.not_ge
      region_suffix := hsuffix
      opener := by simpa [hregion] using hopener
      depth_eq := fun _ => by rw [← netDepth_eq_sub, hdepth]
      abs_depth_le := habs
      apart := hapart }

lemma isStateAfter_run (ls : List Line) : IsStateAfter ls (run ls) := by
  obtain ⟨rs, h⟩ := exists_tracks_run ls
  exact h.isStateAfter

/-- Where a region is closed, there is one, and only its opener is left out of the block. -/
lemma exists_blocks_step_eq {ls : List Line} {s : Scan} (h : IsStateAfter ls s) {l : Line}
    (hl : l.kind = .closer) (hd : s.depth + l.kind.weight = 0) :
    ∃ o t, s.region = o :: t ∧ openDelimiter <+: o.text ∧
      (s.step l).blocks = s.blocks ++ [⟨t⟩] := by
  have hweight : l.weight = -1 := Line.kind_eq_closer_iff.1 hl
  have hone : s.depth = 1 := by
    rw [Line.weight_kind, hweight] at hd
    omega
  have hne : s.region ≠ [] := fun hnil => by
    have := h.region_eq_nil_iff.1 hnil
    omega
  obtain ⟨o, t, hregion⟩ := List.exists_cons_of_ne_nil hne
  refine ⟨o, t, hregion, h.opener o (by simp [hregion]), ?_⟩
  rw [step_of_closer hweight hone, hregion]
  rfl

/-- **The scan holds the region that is open and nothing else.**  This is so after each line,
whatever the lines are.  A region is closed only where there is one, and its block lacks nothing but
the opener.  The depth is shown by a counter that has one bit more than it takes to count the
lines. -/
theorem run_invariant (ls : List Line) :
    (∀ k, IsStateAfter (ls.take k) (run (ls.take k))) ∧
      (∀ k l, ls[k]? = some l → l.kind = .closer → (run (ls.take k)).depth + l.kind.weight = 0 →
        ∃ o t, (run (ls.take k)).region = o :: t ∧ openDelimiter <+: o.text ∧
          (run (ls.take (k + 1))).blocks = (run (ls.take k)).blocks ++ [⟨t⟩]) ∧
      ∀ n, ls.length < 2 ^ n → ∀ k,
        (wordDepth (n + 1) (ls.take k)).toInt = (run (ls.take k)).depth := by
  refine ⟨fun k => isStateAfter_run _, fun k l hk hl hd => ?_, fun n hn k => ?_⟩
  · have hrun : run (ls.take (k + 1)) = (run (ls.take k)).step l := by
      rw [List.take_add_one, hk, Option.toList_some, run_concat]
    rw [hrun]
    exact exists_blocks_step_eq (isStateAfter_run _) hl hd
  · have hlen : (ls.take k).length < 2 ^ n := (List.length_take_le' k ls).trans_lt hn
    rw [toInt_wordDepth hlen, depth_run]

/-- A stray closer, which takes the depth below zero, and a region with another one inside. -/
theorem run_invariant_stray_closer :
    let o : Line := ⟨1, "--[==[".toList⟩
    let c : Line := ⟨1, "]==]".toList⟩
    let l : Line := ⟨2, "@name x".toList⟩
    let ls : List Line := [c, o, o, l, o, c, c, o]
    ((run (ls.take 1)).depth = -1 ∧ (run (ls.take 1)).region = []) ∧
      (ls[6]? = some c ∧ c.kind = .closer ∧ (run (ls.take 6)).depth + c.kind.weight = 0 ∧
        ∃ o t, (run (ls.take 6)).region = o :: t ∧ openDelimiter <+: o.text ∧
          (run (ls.take 7)).blocks = (run (ls.take 6)).blocks ++ [⟨t⟩]) ∧
      ls.length < 2 ^ 7 ∧ (wordDepth 8 (ls.take 1)).toInt = -1 := by
  intro o c l ls
  obtain ⟨hstate, hclose, hcounter⟩ := run_invariant ls
  have hdepth : (run (ls.take 1)).depth = -1 := by decide
  have hzero : (run (ls.take 6)).depth + c.kind.weight = 0 := by decide
  have hlen : ls.length < 2 ^ 7 := by decide
  exact ⟨⟨hdepth, (hstate 1).region_eq_nil_iff.2 (by rw [hdepth]; decide)⟩,
    ⟨rfl, rfl, hzero, hclose 6 c rfl rfl hzero⟩, hlen, (hcounter 7 hlen 1).trans hdepth⟩

end Scan

end DocBlock
