/-
# Steps of the scan

What the scan of a source does with one line, and with a run of lines.  A step does one of three
things: it closes the open region, it keeps the line, or it changes nothing but the depth.  Which of
them it does depends on the depth and on the kind of the line alone.
-/
import DocBlock.Block
import Mathlib

namespace DocBlock

/-! ## Depth -/

/-- The change of depth that a line causes, read off its text. -/
def Line.weight (l : Line) : ℤ :=
  if openDelimiter <+: l.text then 1 else if closeDelimiter <+: l.text then -1 else 0

namespace Line

lemma weight_kind (l : Line) : l.kind.weight = l.weight := by
  simp only [kind, weight, List.isPrefixOf_iff_prefix]
  split_ifs <;> rfl

lemma kind_eq_closer_iff {l : Line} : l.kind = .closer ↔ l.weight = -1 := by
  rw [← weight_kind]
  cases l.kind <;> decide

lemma weight_eq_one_iff {l : Line} : l.weight = 1 ↔ openDelimiter <+: l.text := by
  unfold weight
  split_ifs <;> simp_all

lemma weight_eq_neg_one_of_prefix {l : Line} (h : closeDelimiter <+: l.text) : l.weight = -1 := by
  have hopen : ¬ openDelimiter <+: l.text := by
    rintro ⟨t, ht⟩
    obtain ⟨u, hu⟩ := h
    rw [← ht] at hu
    exact absurd hu (by simp [openDelimiter, closeDelimiter])
  rw [weight, if_neg hopen, if_pos h]

lemma weight_eq_neg_one_iff {l : Line} : l.weight = -1 ↔ closeDelimiter <+: l.text := by
  refine ⟨fun h => ?_, weight_eq_neg_one_of_prefix⟩
  unfold weight at h
  split_ifs at h with ho hc
  exact hc

lemma weight_eq_zero {l : Line} (ho : ¬ openDelimiter <+: l.text)
    (hc : ¬ closeDelimiter <+: l.text) : l.weight = 0 := by
  rw [weight, if_neg ho, if_neg hc]

lemma neg_one_le_weight (l : Line) : -1 ≤ l.weight := by
  unfold weight
  split_ifs <;> decide

lemma weight_le_one (l : Line) : l.weight ≤ 1 := by
  unfold weight
  split_ifs <;> decide

end Line

/-- The depth after a run of lines that starts at depth zero. -/
def netDepth (ls : List Line) : ℤ := (ls.map Line.weight).sum

@[simp]
lemma netDepth_nil : netDepth [] = 0 := rfl

@[simp]
lemma netDepth_cons (l : Line) (ls : List Line) : netDepth (l :: ls) = l.weight + netDepth ls := by
  simp [netDepth]

@[simp]
lemma netDepth_append (ls ms : List Line) : netDepth (ls ++ ms) = netDepth ls + netDepth ms := by
  simp [netDepth]

/-- The number of lines that start with the opening delimiter. -/
def openerCount (ls : List Line) : ℕ := ls.countP fun l => openDelimiter.isPrefixOf l.text

/-- The number of lines that start with the closing delimiter. -/
def closerCount (ls : List Line) : ℕ := ls.countP fun l => closeDelimiter.isPrefixOf l.text

lemma netDepth_eq_sub (ls : List Line) : netDepth ls = openerCount ls - closerCount ls := by
  induction ls with
  | nil => rfl
  | cons l ls ih =>
    have hl : l.weight = (if openDelimiter.isPrefixOf l.text then 1 else 0) -
        if closeDelimiter.isPrefixOf l.text then 1 else 0 := by
      simp only [List.isPrefixOf_iff_prefix]
      by_cases hc : closeDelimiter <+: l.text
      · -- no line starts with both delimiters
        have hw := Line.weight_eq_neg_one_of_prefix hc
        have ho : ¬ openDelimiter <+: l.text := by
          rw [← Line.weight_eq_one_iff, hw]
          decide
        rw [hw, if_neg ho, if_pos hc]
        rfl
      · simp [Line.weight, hc]
    rw [netDepth_cons, ih, hl, openerCount, openerCount, closerCount, closerCount,
      List.countP_cons, List.countP_cons]
    push_cast
    ring

/-- The depth after the first `k` lines of a source. -/
def depthAt (ls : List Line) (k : ℕ) : ℤ := netDepth (ls.take k)

lemma depthAt_of_length_le {ls : List Line} {k : ℕ} (h : ls.length ≤ k) :
    depthAt ls k = netDepth ls := by
  rw [depthAt, List.take_of_length_le h]

@[simp]
lemma depthAt_length (ls : List Line) : depthAt ls ls.length = netDepth ls :=
  depthAt_of_length_le le_rfl

lemma depthAt_take_of_le {ls : List Line} {j k : ℕ} (h : k ≤ j) :
    depthAt (ls.take j) k = depthAt ls k := by
  rw [depthAt, depthAt, List.take_take, min_eq_left h]

/-- Lines at the end do not change the depth in front of them. -/
lemma depthAt_append_of_le {ls ms : List Line} {k : ℕ} (h : k ≤ ls.length) :
    depthAt (ls ++ ms) k = depthAt ls k := by
  rw [depthAt, depthAt, List.take_append_of_le_length h]

/-- The depths in lines are among those in a longer list of lines. -/
lemma depthAt_eq_depthAt_append (ls ms : List Line) (k : ℕ) :
    depthAt ls k = depthAt (ls ++ ms) (min k ls.length) := by
  rcases Nat.le_total k ls.length with h | h
  · rw [min_eq_left h, depthAt_append_of_le h]
  · rw [min_eq_right h, depthAt_append_of_le le_rfl, depthAt_length, depthAt_of_length_le h]

/-- Behind some lines the depth is counted on from theirs. -/
lemma depthAt_append_add (ls ms : List Line) (k : ℕ) :
    depthAt (ls ++ ms) (ls.length + k) = netDepth ls + depthAt ms k := by
  rw [depthAt, List.take_length_add_append, netDepth_append, depthAt]

lemma depthAt_concat (ls : List Line) (l : Line) :
    depthAt (ls ++ [l]) (ls.length + 1) = netDepth ls + l.weight := by
  rw [depthAt_of_length_le (by simp)]
  simp

lemma depthAt_cons_succ (l : Line) (ls : List Line) (k : ℕ) :
    depthAt (l :: ls) (k + 1) = l.weight + depthAt ls k := by
  simp [depthAt]

lemma depthAt_add (ls : List Line) (m k : ℕ) :
    depthAt ls (m + k) = depthAt ls m + depthAt (ls.drop m) k := by
  rw [depthAt, List.take_add, netDepth_append]
  rfl

lemma depthAt_succ {ls : List Line} {k : ℕ} {l : Line} (h : ls[k]? = some l) :
    depthAt ls (k + 1) = depthAt ls k + l.weight := by
  rw [depthAt, List.take_add_one, h, netDepth_append]
  simp [depthAt]

lemma netDepth_drop (ls : List Line) (m : ℕ) :
    netDepth (ls.drop m) = netDepth ls - depthAt ls m := by
  have h := netDepth_append (ls.take m) (ls.drop m)
  rw [List.take_append_drop] at h
  rw [h, depthAt]
  ring

/-- Lines whose delimiters are balanced: no closer comes before its opener, and no opener is left
open. -/
structure IsBalanced (ls : List Line) : Prop where
  nonneg : ∀ k, 0 ≤ depthAt ls k
  total : netDepth ls = 0

/-- Lines without delimiters are balanced. -/
lemma isBalanced_of_weight_eq_zero {ls : List Line} (h : ∀ l ∈ ls, l.weight = 0) :
    IsBalanced ls := by
  have hnet : ∀ ms : List Line, (∀ l ∈ ms, l.weight = 0) → netDepth ms = 0 := by
    intro ms hms
    exact List.sum_eq_zero (by simpa using hms)
  exact ⟨fun k => (hnet _ fun l hl => h l (List.mem_of_mem_take hl)).ge, hnet ls h⟩

namespace Scan

variable {s : Scan} {l : Line}

/-! ## One step -/

/-- A closer at depth one turns the open region into a block. -/
lemma step_of_closer (hl : l.weight = -1) (hd : s.depth = 1) :
    s.step l = ⟨0, [], s.blocks ++ [⟨s.region.tail⟩]⟩ := by
  simp [step, close, Line.weight_kind, Line.kind_eq_closer_iff, hl, hd]

/-- A line after which the depth is positive is kept. -/
lemma step_of_pos (h : 0 < s.depth + l.weight) :
    s.step l = ⟨s.depth + l.weight, s.region ++ [l], s.blocks⟩ := by
  simp [step, keep, Line.weight_kind, h, h.ne']

/-- Any other line has an effect on the depth alone. -/
lemma step_of_nonpos (h : s.depth + l.weight ≤ 0) (hd : s.depth ≤ 0) :
    s.step l = ⟨s.depth + l.weight, s.region, s.blocks⟩ := by
  have hne : ¬ (l.weight = -1 ∧ s.depth + l.weight = 0) := by omega
  simp [step, keep, Line.weight_kind, Line.kind_eq_closer_iff, hne, h]

/-- What a step can do. -/
lemma step_cases (s : Scan) (l : Line) :
    (l.weight = -1 ∧ s.depth = 1 ∧ s.step l = ⟨0, [], s.blocks ++ [⟨s.region.tail⟩]⟩) ∨
      (0 < s.depth + l.weight ∧ s.step l = ⟨s.depth + l.weight, s.region ++ [l], s.blocks⟩) ∨
      (s.depth + l.weight ≤ 0 ∧ s.depth ≤ 0 ∧
        s.step l = ⟨s.depth + l.weight, s.region, s.blocks⟩) := by
  rcases lt_or_ge 0 (s.depth + l.weight) with h | h
  · exact Or.inr (Or.inl ⟨h, step_of_pos h⟩)
  · rcases lt_or_ge 0 s.depth with hd | hd
    · -- a positive depth is left in one way only, by a closer at depth one
      have hle := l.neg_one_le_weight
      have hl : l.weight = -1 := by omega
      have hd : s.depth = 1 := by omega
      exact Or.inl ⟨hl, hd, step_of_closer hl hd⟩
    · exact Or.inr (Or.inr ⟨h, hd, step_of_nonpos h hd⟩)

/-! ## Runs of lines -/

lemma run_concat (ls : List Line) (l : Line) : run (ls ++ [l]) = (run ls).step l := by
  simp [run_append]

lemma depth_foldl_step (s : Scan) (ls : List Line) :
    (ls.foldl step s).depth = s.depth + netDepth ls := by
  induction ls generalizing s with
  | nil => simp
  | cons l ls ih => rw [List.foldl_cons, ih, depth_step, Line.weight_kind, netDepth_cons, add_assoc]

/-- A step keeps it that no region is open at a depth that is not positive. -/
lemma region_step_of_nonpos (hs : s.depth ≤ 0 → s.region = []) (h : (s.step l).depth ≤ 0) :
    (s.step l).region = [] := by
  rw [depth_step, Line.weight_kind] at h
  rcases step_cases s l with ⟨-, -, hstep⟩ | ⟨hpos, -⟩ | ⟨-, hd, hstep⟩
  · rw [hstep]
  · exact absurd hpos (not_lt.2 h)
  · rw [hstep]
    exact hs hd

lemma region_foldl_step_of_nonpos {ls : List Line} (hs : s.depth ≤ 0 → s.region = [])
    (h : (ls.foldl step s).depth ≤ 0) : (ls.foldl step s).region = [] := by
  induction ls generalizing s with
  | nil => exact hs h
  | cons l ls ih => exact ih (region_step_of_nonpos hs) h

/-- While the depth stays positive, all lines are kept. -/
lemma foldl_step_of_pos {s : Scan} {ls : List Line}
    (h : ∀ k, 0 < k → k ≤ ls.length → 0 < s.depth + depthAt ls k) :
    ls.foldl step s = ⟨s.depth + netDepth ls, s.region ++ ls, s.blocks⟩ := by
  -- the scan appends to its region, so the induction takes the lines from the end
  induction ls using List.reverseRecOn with
  | nil => simp
  | append_singleton ls l ih =>
    have hls : ls.foldl step s = ⟨s.depth + netDepth ls, s.region ++ ls, s.blocks⟩ := by
      apply ih
      intro k hk hkl
      rw [← depthAt_append_of_le hkl]
      exact h k hk (by simp; omega)
    have hl : 0 < s.depth + netDepth ls + l.weight := by
      have := h (ls.length + 1) (by omega) (by simp)
      rw [depthAt_concat] at this
      omega
    rw [List.foldl_append, hls, List.foldl_cons, List.foldl_nil, step_of_pos hl]
    simp [add_assoc]

/-- A line without a delimiter outside every region has no effect. -/
lemma step_of_weight_eq_zero (hl : l.weight = 0) (hd : s.depth ≤ 0) : s.step l = s := by
  rw [step_of_nonpos (by omega) hd, hl, add_zero]

/-- Balanced lines between an opener and a closer become a block. -/
lemma foldl_step_wrap {o c : Line} {ls : List Line} (ho : o.weight = 1) (hc : c.weight = -1)
    (hls : IsBalanced ls) (hd : s.depth = 0) (hr : s.region = []) :
    (o :: ls ++ [c]).foldl step s = ⟨0, [], s.blocks ++ [⟨ls⟩]⟩ := by
  -- the opener lifts the depth by one, and the lines behind it never take that back
  have hpos : ∀ k, 0 < k → k ≤ (o :: ls).length → 0 < s.depth + depthAt (o :: ls) k := by
    intro k hk _
    obtain ⟨n, rfl⟩ := Nat.exists_eq_add_one_of_ne_zero hk.ne'
    have := hls.nonneg n
    rw [depthAt_cons_succ, ho, hd]
    omega
  have hend : s.depth + netDepth (o :: ls) = 1 := by
    rw [netDepth_cons, ho, hls.total, hd]
    rfl
  rw [List.foldl_append, foldl_step_of_pos hpos, List.foldl_cons, List.foldl_nil,
    step_of_closer hc hend, hr]
  rfl

/-- Every line is put into at most one block, and in the order of the source. -/
lemma sublist_run (ls : List Line) :
    ((run ls).blocks.flatMap Block.lines ++ (run ls).region).Sublist ls := by
  induction ls using List.reverseRecOn with
  | nil => simp
  | append_singleton ls l ih =>
    rw [run_concat]
    rcases step_cases (run ls) l with ⟨-, -, h⟩ | ⟨-, h⟩ | ⟨-, -, h⟩ <;> rw [h]
    · -- a closer turns the region into a block and drops the opener, the head of the region
      have : ((run ls).blocks.flatMap Block.lines ++ (run ls).region.tail).Sublist ls :=
        (List.Sublist.append_left (List.tail_sublist _) _).trans ih
      simpa using this.trans (List.sublist_append_left _ _)
    · simpa using ih.append (List.Sublist.refl [l])
    · exact ih.trans (List.sublist_append_left _ _)

end Scan

end DocBlock
