/-
# Stray closers

What becomes of the regions behind closers that have no opener.  A closer outside every region takes
the depth below zero, and each of the openers behind it that only make up for it opens nothing.  So
the outermost regions are lost, and the regions inside them get rid of one level of nesting: behind
one stray closer the regions right inside the outermost ones are found as if they were outermost,
behind two of them the regions one level further down, and so on.

To take one level of nesting off is to put together what the blocks hold (`peel`).  The scan of some
lines that starts one level lower is followed side by side with the scan of the peeled lines
(`Scan.Abreast`): while a region of the lines is open the two are in the same state, and between the
regions they differ in the depth alone.
-/
import DocBlock.Proofs.Wrapping

namespace DocBlock

/-! ## One level of nesting less -/

/-- The lines of all blocks of a source, put together.  This takes off the outermost level of
nesting, with everything that stands outside of it. -/
def peel (ls : List Line) : List Line := (docBlocks ls).flatMap Block.lines

lemma IsBalanced.append {ls ms : List Line} (hls : IsBalanced ls) (hms : IsBalanced ms) :
    IsBalanced (ls ++ ms) where
  nonneg k := by
    rcases Nat.le_total k ls.length with hk | hk
    · rw [depthAt_append_of_le hk]
      exact hls.nonneg k
    · obtain ⟨n, rfl⟩ := Nat.exists_eq_add_of_le hk
      rw [depthAt_append_add, hls.total, zero_add]
      exact hms.nonneg n
  total := by rw [netDepth_append, hls.total, hms.total, add_zero]

/-- Peeled lines are balanced, for each block is. -/
lemma isBalanced_peel (ls : List Line) : IsBalanced (peel ls) := by
  have hflat : ∀ bs : List Block, (∀ b ∈ bs, IsBalanced b.lines) →
      IsBalanced (bs.flatMap Block.lines) := by
    intro bs hbs
    induction bs with
    | nil => exact isBalanced_of_weight_eq_zero (by simp)
    | cons b bs ih => exact (hbs b (by simp)).append (ih fun c hc => hbs c (by simp [hc]))
  exact hflat _ fun _ => isBalanced_of_mem_docBlocks

/-! ## Scans that start below zero -/

namespace Scan

/-- What a scan has put into blocks or holds in its open region, the openers of these aside. -/
def content (s : Scan) : List Line := s.blocks.flatMap Block.lines ++ s.region.tail

section

variable {ls : List Line} {l : Line}

/-- A line between two lines of a region is part of the content. -/
lemma content_run_concat (hopen : 0 < netDepth ls) (hl : 0 < netDepth ls + l.weight) :
    (run (ls ++ [l])).content = (run ls).content ++ [l] := by
  rw [run_concat, step_of_pos (by rwa [depth_run]), content, content,
    List.tail_append_of_ne_nil (region_run_ne_nil hopen), List.append_assoc]

/-- Every other line is not: it is outside every region, or it is the first or last of one. -/
lemma content_run_concat_of_not (h : ¬ (0 < netDepth ls ∧ 0 < netDepth ls + l.weight)) :
    (run (ls ++ [l])).content = (run ls).content := by
  have hcases := step_cases (run ls) l
  rw [depth_run] at hcases
  rw [run_concat]
  rcases hcases with ⟨-, -, hs⟩ | ⟨hpos, hs⟩ | ⟨-, -, hs⟩
  · simp [hs, content]
  · have hclosed : netDepth ls ≤ 0 := not_lt.1 fun hopen => h ⟨hopen, hpos⟩
    simp [hs, content, region_run hclosed]
  · simp [hs, content]

end

/-- How the scan of some lines from the depth `d - 1` stands to the scan of their content from the
depth `d`, where `n` is the depth of the lines themselves.  In a region the two are the same scan.
Between the regions nothing is open, the blocks are the same, and the depths differ by one. -/
inductive Abreast (d n : ℤ) : Scan → Scan → Prop
  | inside {s : Scan} (hn : 0 < n) (hdepth : s.depth = d - 1 + n)
      (hidle : s.depth ≤ 0 → s.region = []) : Abreast d n s s
  | between (hn : n = 0) (bs : List Block) : Abreast d n ⟨d - 1, [], bs⟩ ⟨d, [], bs⟩

namespace Abreast

variable {d n : ℤ} {s t : Scan} {l : Line}

lemma blocks_eq (h : Abreast d n s t) : s.blocks = t.blocks := by
  cases h <;> rfl

/-- A line between the regions changes nothing. -/
lemma step_skip (hd : d ≤ 0) (h : Abreast d 0 s t) (hl : l.weight = 0) :
    Abreast d 0 (s.step l) t := by
  cases h with
  | inside hn => exact absurd hn (lt_irrefl 0)
  | between _ bs =>
    have hstep : step ⟨d - 1, [], bs⟩ l = ⟨d - 1, [], bs⟩ :=
      step_of_weight_eq_zero hl (by dsimp only; omega)
    rw [hstep]
    exact between rfl bs

/-- The opener of a region is not part of its content.  It makes up for the lower depth. -/
lemma step_open (hd : d ≤ 0) (h : Abreast d 0 s t) (hl : l.weight = 1) :
    Abreast d 1 (s.step l) t := by
  cases h with
  | inside hn => exact absurd hn (lt_irrefl 0)
  | between _ bs =>
    have hstep : step ⟨d - 1, [], bs⟩ l = ⟨d, [], bs⟩ := by
      rw [step_of_nonpos (by dsimp only; omega) (by dsimp only; omega), hl]
      simp
    rw [hstep]
    exact inside one_pos (by dsimp only; ring) fun _ => rfl

/-- A line inside a region is read by both scans. -/
lemma step_keep (h : Abreast d n s t) (hn : 0 < n) (hl : 0 < n + l.weight) :
    Abreast d (n + l.weight) (s.step l) (t.step l) := by
  cases h with
  | inside _ hdepth hidle =>
    refine inside hl ?_ (region_step_of_nonpos hidle)
    rw [depth_step, Line.weight_kind, hdepth, add_assoc]
  | between hzero => exact absurd hzero hn.ne'

/-- Neither is the closer of a region part of its content.  It takes the depth down again. -/
lemma step_close (hd : d ≤ 0) (h : Abreast d 1 s t) (hl : l.weight = -1) :
    Abreast d 0 (s.step l) t := by
  cases h with
  | inside _ hdepth hidle =>
    rw [sub_add_cancel] at hdepth
    obtain ⟨depth, region, bs⟩ := s
    obtain rfl : depth = d := hdepth
    obtain rfl : region = [] := hidle hd
    have hstep : step ⟨depth, [], bs⟩ l = ⟨depth - 1, [], bs⟩ := by
      rw [step_of_nonpos (by dsimp only; omega) hd, hl]
      rfl
    rw [hstep]
    exact between rfl bs
  | between hzero => exact absurd hzero one_ne_zero

end Abreast

/-- The scan of lines that are balanced so far, one level below the depth `d`, goes along with the
scan of their content from the depth `d`. -/
lemma abreast_foldl_step {d : ℤ} (hd : d ≤ 0) {ls : List Line} (hls : ∀ k, 0 ≤ depthAt ls k) :
    Abreast d (netDepth ls) (ls.foldl step { depth := d - 1 })
      ((run ls).content.foldl step { depth := d }) := by
  induction ls using List.reverseRecOn with
  | nil => exact .between rfl []
  | append_singleton ls l ih =>
    have hprev : ∀ k, 0 ≤ depthAt ls k := by
      intro k
      rw [depthAt_eq_depthAt_append ls [l]]
      exact hls _
    have hnonneg : 0 ≤ netDepth ls := by
      rw [← depthAt_length]
      exact hprev _
    have hnext : 0 ≤ netDepth ls + l.weight := by
      rw [← depthAt_concat]
      exact hls _
    have hle := l.weight_le_one
    have hge := l.neg_one_le_weight
    have hnet : netDepth (ls ++ [l]) = netDepth ls + l.weight := by simp
    rw [List.foldl_append, List.foldl_cons, List.foldl_nil, hnet]
    rcases hnonneg.eq_or_lt with hzero | hopen
    · -- between the regions: the line opens the next one or is skipped
      rw [content_run_concat_of_not fun h => h.1.ne hzero, ← hzero, zero_add]
      rcases (by omega : l.weight = 0 ∨ l.weight = 1) with hl | hl
      · rw [hl]
        exact (hzero ▸ ih hprev).step_skip hd hl
      · rw [hl]
        exact (hzero ▸ ih hprev).step_open hd hl
    · -- inside a region: the line closes it or is kept
      rcases hnext.eq_or_lt with hclosed | hkept
      · have hl : l.weight = -1 := by omega
        have hone : netDepth ls = 1 := by omega
        rw [content_run_concat_of_not fun h => h.2.ne hclosed, ← hclosed]
        exact (hone ▸ ih hprev).step_close hd hl
      · rw [content_run_concat hopen hkept, List.foldl_append, List.foldl_cons, List.foldl_nil]
        exact (ih hprev).step_keep hopen hkept

end Scan

/-- Balanced lines one level lower hold what their peeled lines hold. -/
lemma blocksFrom_sub_one {d : ℤ} (hd : d ≤ 0) {ls : List Line} (hls : IsBalanced ls) :
    blocksFrom (d - 1) ls = blocksFrom d (peel ls) := by
  have hcontent : (Scan.run ls).content = peel ls := by
    simp [Scan.content, Scan.region_run hls.total.le, peel, docBlocks]
  have h := Scan.abreast_foldl_step hd hls.nonneg
  rw [hcontent] at h
  exact h.blocks_eq

lemma blocksFrom_neg (k : ℕ) {ls : List Line} (hls : IsBalanced ls) :
    blocksFrom (-k) ls = docBlocks (peel^[k] ls) := by
  induction k generalizing ls with
  | zero => rfl
  | succ k ih =>
    have hk : (-((k + 1 : ℕ) : ℤ)) = -k - 1 := by push_cast; ring
    rw [hk, blocksFrom_sub_one (by omega) hls, ih (isBalanced_peel ls),
      Function.iterate_succ_apply]

/-! ## Regions inside others -/

/-- The lines at the positions `i` to `j` make a region that lies inside `d` others. -/
structure IsInnerRegion (d : ℕ) (ls : List Line) (i j : ℕ) : Prop where
  lt : i < j
  start : depthAt ls i = d
  opener : ∃ l ∈ ls[i]?, openDelimiter <+: l.text
  inside : ∀ k, i < k → k ≤ j → d < depthAt ls k
  finish : depthAt ls (j + 1) = d

/-- Behind `d` stray closers the regions inside `d` others are outermost. -/
lemma isRegion_append_iff {xs ys : List Line} {d i j : ℕ} (hxs : netDepth xs = -d) :
    IsRegion (xs ++ ys) (xs.length + i) (xs.length + j) ↔ IsInnerRegion d ys i j := by
  have hdepth : ∀ k, depthAt (xs ++ ys) (xs.length + k) = depthAt ys k - d := by
    intro k
    rw [depthAt_append_add, hxs]
    ring
  have hline : (xs ++ ys)[xs.length + i]? = ys[i]? := by
    rw [List.getElem?_append_right (Nat.le_add_right _ _), Nat.add_sub_cancel_left]
  constructor
  · rintro ⟨hlt, hstart, hopener, hinside, hfinish⟩
    rw [hdepth] at hstart
    rw [add_assoc, hdepth] at hfinish
    refine ⟨by omega, by omega, hline ▸ hopener, fun k hik hkj => ?_, by omega⟩
    have := hinside (xs.length + k) (by omega) (by omega)
    rw [hdepth] at this
    omega
  · rintro ⟨hlt, hstart, hopener, hinside, hfinish⟩
    refine ⟨by omega, by rw [hdepth]; omega, hline ▸ hopener, fun k hik hkj => ?_, ?_⟩
    · obtain ⟨n, rfl⟩ := Nat.exists_eq_add_of_le (show xs.length ≤ k by omega)
      have := hinside n (by omega) (by omega)
      rw [hdepth]
      omega
    · rw [add_assoc, hdepth]
      omega

lemma regionContent_append_add (xs ys : List Line) (i j : ℕ) :
    regionContent (xs ++ ys) (xs.length + i) (xs.length + j) = regionContent ys i j := by
  rw [regionContent, regionContent, List.take_length_add_append, add_assoc,
    List.drop_length_add_append]

/-- No region starts in lines that never take the depth above zero. -/
lemma IsRegion.length_le {xs ys : List Line} {i j : ℕ} (h : IsRegion (xs ++ ys) i j)
    (hxs : ∀ k, depthAt xs k ≤ 0) : xs.length ≤ i := by
  by_contra hi
  have h₁ := h.inside (i + 1) (by omega) h.lt
  rw [depthAt_append_of_le (by omega)] at h₁
  have h₂ := hxs (i + 1)
  omega

/-- Lines that never take the depth above zero hold no block. -/
lemma docBlocks_eq_nil {xs : List Line} (hxs : ∀ k, depthAt xs k ≤ 0) : docBlocks xs = [] := by
  rw [List.eq_nil_iff_forall_not_mem]
  intro b hb
  obtain ⟨i, j, hr, -⟩ := mem_docBlocks_iff.1 hb
  have hle : xs.length ≤ i := by
    rw [← List.append_nil xs] at hr
    exact hr.length_le hxs
  have hlt := hr.lt
  have hend := hr.lt_length
  omega

/-- The blocks found `d` levels below zero are the contents of the regions inside `d` others. -/
lemma blocksFrom_neg_eq_map_regions (d : ℕ) (ys : List Line) : ∃ rs : List (ℕ × ℕ),
    rs.Pairwise (fun p q => p.1 < q.1) ∧ (∀ i j, (i, j) ∈ rs ↔ IsInnerRegion d ys i j) ∧
      blocksFrom (-d) ys = rs.map fun p => regionContent ys p.1 p.2 := by
  -- the lines are put behind `d` closers, where the regions in question are outermost
  obtain ⟨xs, hnet, hdepth⟩ : ∃ xs : List Line, netDepth xs = -d ∧ ∀ k, depthAt xs k ≤ 0 := by
    have hweight : Line.weight ⟨0, closeDelimiter⟩ = -1 :=
      Line.weight_eq_neg_one_of_prefix (List.prefix_refl _)
    refine ⟨List.replicate d ⟨0, closeDelimiter⟩, by simp [netDepth, hweight], fun k => ?_⟩
    simp [depthAt, netDepth, hweight, List.take_replicate]
  have hblocks := docBlocks_append_of_nonpos (show netDepth xs ≤ 0 by omega) ys
  rw [docBlocks_eq_nil hdepth, List.nil_append, hnet] at hblocks
  obtain ⟨rs, h⟩ := Scan.exists_tracks_run (xs ++ ys)
  let shift : ℕ × ℕ → ℕ × ℕ := fun p => (xs.length + p.1, xs.length + p.2)
  obtain ⟨qs, rfl⟩ : rs ∈ Set.range (List.map shift) := by
    rw [Set.range_list_map]
    rintro ⟨a, b⟩ hp
    have hr := (h.regions.mem_iff a b).1 hp
    obtain ⟨i, rfl⟩ := Nat.exists_eq_add_of_le (hr.length_le hdepth)
    obtain ⟨j, rfl⟩ := Nat.exists_eq_add_of_le ((Nat.le_add_right _ _).trans hr.lt.le)
    exact ⟨(i, j), rfl⟩
  have hinj : Function.Injective shift := by
    rintro ⟨a, b⟩ ⟨c, e⟩ hpq
    simpa [shift] using hpq
  refine ⟨qs, ?_, fun i j => ?_, ?_⟩
  · simpa [shift, List.pairwise_map] using h.regions.sorted
  · rw [← isRegion_append_iff hnet, ← h.regions.mem_iff]
    exact (List.mem_map_of_injective hinj (a := (i, j))).symm
  · rw [← hblocks, docBlocks, h.blocks, List.map_map]
    exact List.map_congr_left fun p _ => regionContent_append_add xs ys p.1 p.2

/-- A region in which the depth never exceeds `d` has no line in common with a region that lies
inside `d` others. -/
lemma IsInnerRegion.disjoint {ls : List Line} {d i j a b : ℕ} (h : IsInnerRegion d ls i j)
    (hr : IsRegion ls a b) (hdepth : ∀ k, a < k → k ≤ b → depthAt ls k ≤ d) : j < a ∨ b < i := by
  by_contra hmeet
  rcases Nat.lt_or_ge i a with hia | hai
  · -- the outermost region would open inside the other one, where the depth is not zero
    have h₁ := h.inside a hia (by omega)
    have h₂ := hr.start
    omega
  · have h₁ := h.inside (i + 1) (by omega) h.lt
    rcases Nat.lt_or_ge i b with hib | hbi
    · have h₂ := hdepth (i + 1) (by omega) hib
      omega
    · obtain rfl : i = b := by omega
      have h₂ := hr.finish
      omega

/-- **What stray closers do.**  Behind `d` closers more than openers, balanced lines hold the blocks
that they hold without their `d` outermost levels of nesting, and these are the contents of the
regions that lie inside `d` others.  So a region in which there are no more than `d` levels, itself
included, is lost with all that it holds. -/
theorem docBlocks_append_of_stray_closers {xs ys : List Line} {d : ℕ}
    (hxs : closerCount xs = openerCount xs + d) (hys : IsBalanced ys) :
    docBlocks (xs ++ ys) = docBlocks xs ++ docBlocks (peel^[d] ys) ∧
      (∃ rs : List (ℕ × ℕ), rs.Pairwise (fun p q => p.1 < q.1) ∧
        (∀ i j, (i, j) ∈ rs ↔ IsInnerRegion d ys i j) ∧
        docBlocks (peel^[d] ys) = rs.map fun p => ⟨(ys.take p.2).drop (p.1 + 1)⟩) ∧
      ∀ a b, IsRegion ys a b → (∀ k, a < k → k ≤ b → depthAt ys k ≤ d) →
        ∀ i j, IsInnerRegion d ys i j → j < a ∨ b < i := by
  have hnet : netDepth xs = -d := by
    rw [netDepth_eq_sub, hxs]
    push_cast
    ring
  refine ⟨?_, ?_, fun a b hr hdepth i j h => h.disjoint hr hdepth⟩
  · rw [docBlocks_append_of_nonpos (by omega), hnet, blocksFrom_neg d hys]
  · rw [← blocksFrom_neg d hys]
    exact blocksFrom_neg_eq_map_regions d ys

/-- One stray closer in front of a plain block and of one with a region inside. -/
theorem docBlocks_append_of_stray_closers_nested :
    let o : Line := ⟨1, "--[==[".toList⟩
    let c : Line := ⟨2, "]==]".toList⟩
    let l : Line := ⟨3, "@name x".toList⟩
    let xs : List Line := [o, l, c, c, l]
    let ys : List Line := [o, l, c, o, o, l, c, c]
    (closerCount xs = openerCount xs + 1 ∧ IsBalanced ys) ∧
      docBlocks (xs ++ ys) = docBlocks xs ++ docBlocks (peel^[1] ys) ∧
      docBlocks (xs ++ ys) = [⟨[l]⟩, ⟨[l]⟩] ∧
      (IsRegion ys 0 2 ∧ ∀ k, 0 < k → k ≤ 2 → depthAt ys k ≤ 1) ∧
      IsInnerRegion 1 ys 4 6 ∧ (6 < 0 ∨ 2 < 4) := by
  intro o c l xs ys
  have hxs : closerCount xs = openerCount xs + 1 := by decide
  have hmem : ⟨ys⟩ ∈ docBlocks (o :: ys ++ [c]) := by decide
  have hys : IsBalanced ys := isBalanced_of_mem_docBlocks hmem
  have hr : IsRegion ys 0 2 :=
    ⟨by decide, by decide, by decide, fun k _ _ => by interval_cases k <;> decide, by decide⟩
  have hdepth : ∀ k, 0 < k → k ≤ 2 → depthAt ys k ≤ 1 := fun k _ _ => by
    interval_cases k <;> decide
  have hinner : IsInnerRegion 1 ys 4 6 :=
    ⟨by decide, by decide, by decide, fun k _ _ => by interval_cases k <;> decide, by decide⟩
  obtain ⟨hpeel, -, hlost⟩ := docBlocks_append_of_stray_closers hxs hys
  exact ⟨⟨hxs, hys⟩, hpeel, hpeel.trans (by decide), ⟨hr, hdepth⟩, hinner,
    hlost 0 2 hr hdepth 4 6 hinner⟩

end DocBlock
