/-
# Wrapped blocks

To wrap lines is to put them between an opening and a closing line.  Balanced lines are found again
as a block when they are wrapped, whatever they hold in the way of inner regions, and so are any
number of them with code in between.  No other lines are: a block is the content of a region, and
the content of a region is balanced, because the depth is one behind the opener and in front of the
closer and never less in between.
-/
import DocBlock.Proofs.Append

namespace DocBlock

/-! ## The content of a region -/

/-- What has been read of a region at depth one, its opener aside, is balanced. -/
lemma IsOpenFrom.isBalanced {ls : List Line} {i : ℕ} (h : IsOpenFrom ls i) (hls : netDepth ls = 1) :
    IsBalanced (ls.drop (i + 1)) := by
  obtain ⟨o, ho, hopener⟩ := h.opener
  have hstart : depthAt ls (i + 1) = 1 := by
    rw [depthAt_succ ho, h.start, Line.weight_eq_one_iff.2 hopener]
    rfl
  constructor
  · intro k
    have hk : 1 ≤ depthAt ls (i + 1 + k) := by
      rcases Nat.lt_or_ge ls.length (i + 1 + k) with hlt | hle
      · rw [depthAt_of_length_le hlt.le, hls]
      · exact h.inside _ (by omega) hle
    rw [depthAt_add, hstart] at hk
    omega
  · rw [netDepth_drop, hstart, hls, sub_self]

/-- The last line of a region is a closer at depth one. -/
lemma IsRegion.depthAt_eq_one {ls : List Line} {i j : ℕ} (h : IsRegion ls i j) :
    depthAt ls j = 1 ∧ ∃ l, ls[j]? = some l ∧ l.weight = -1 := by
  have hj := h.lt_length
  have hl := List.getElem?_eq_getElem hj
  -- one line takes the depth to zero, and a line takes it down by one at most
  have hpos := h.inside j h.lt le_rfl
  have hle := ls[j].neg_one_le_weight
  have hfinish := h.finish
  rw [depthAt_succ hl] at hfinish
  exact ⟨by omega, _, hl, by omega⟩

lemma IsRegion.isBalanced {ls : List Line} {i j : ℕ} (h : IsRegion ls i j) :
    IsBalanced (regionContent ls i j).lines :=
  (isRegion_iff.1 h).2.1.isBalanced h.depthAt_eq_one.1

/-- Every block is balanced. -/
lemma isBalanced_of_mem_docBlocks {ls : List Line} {b : Block} (h : b ∈ docBlocks ls) :
    IsBalanced b.lines := by
  obtain ⟨i, j, hr, rfl⟩ := mem_docBlocks_iff.1 h
  exact hr.isBalanced

/-- A block stands where balanced lines are wrapped behind lines at depth zero. -/
lemma exists_wrap_of_mem_docBlocks {ls : List Line} {b : Block} (h : b ∈ docBlocks ls) :
    ∃ xs o c ys, ls = xs ++ (o :: b.lines ++ [c]) ++ ys ∧ netDepth xs = 0 ∧
      openDelimiter <+: o.text ∧ closeDelimiter <+: c.text := by
  obtain ⟨i, j, hr, rfl⟩ := mem_docBlocks_iff.1 h
  obtain ⟨-, c, hc, hclose⟩ := hr.depthAt_eq_one
  obtain ⟨o, ho, hopen⟩ := hr.opener
  refine ⟨ls.take i, o, c, ls.drop (j + 1), ?_, hr.start, hopen,
    Line.weight_eq_neg_one_iff.1 hclose⟩
  have hbehind : ls.drop j = c :: ls.drop (j + 1) := by
    obtain ⟨hj, rfl⟩ := List.getElem?_eq_some_iff.1 hc
    exact List.drop_eq_getElem_cons hj
  have hregion : (ls.take j).drop i = o :: (regionContent ls i j).lines := by
    obtain ⟨hi, rfl⟩ := List.getElem?_eq_some_iff.1 ho
    have := hr.lt
    rw [List.drop_eq_getElem_cons (by simp; omega), regionContent]
    simp
  have hbefore : ls.take j = ls.take i ++ (ls.take j).drop i := by
    conv_lhs => rw [← List.take_append_drop i (ls.take j), List.take_take, min_eq_left hr.lt.le]
  calc
    ls = ls.take j ++ ls.drop j := (List.take_append_drop j ls).symm
    _ = _ := by
      rw [hbehind, hbefore, hregion]
      simp

/-! ## Wrapping -/

/-- The lines hold the given blocks, each between an opening and a closing line, and apart from that
lines without delimiters in any place outside the blocks. -/
inductive Wraps : List Block → List Line → Prop
  | nil : Wraps [] []
  | outside {bs : List Block} {l : Line} {ls : List Line} (ho : ¬ openDelimiter <+: l.text)
      (hc : ¬ closeDelimiter <+: l.text) (h : Wraps bs ls) : Wraps bs (l :: ls)
  | block {b : Block} {bs : List Block} {o c : Line} {ls : List Line}
      (ho : openDelimiter <+: o.text) (hc : closeDelimiter <+: c.text) (h : Wraps bs ls) :
      Wraps (b :: bs) (o :: b.lines ++ [c] ++ ls)

lemma docBlocks_wrap {o c : Line} {ls : List Line} (ho : openDelimiter <+: o.text)
    (hc : closeDelimiter <+: c.text) (hls : IsBalanced ls) :
    docBlocks (o :: ls ++ [c]) = [⟨ls⟩] := by
  rw [docBlocks, Scan.run, Scan.foldl_step_wrap (Line.weight_eq_one_iff.2 ho)
    (Line.weight_eq_neg_one_of_prefix hc) hls rfl rfl]
  rfl

lemma netDepth_wrap {o c : Line} {ls : List Line} (ho : openDelimiter <+: o.text)
    (hc : closeDelimiter <+: c.text) (hls : IsBalanced ls) : netDepth (o :: ls ++ [c]) = 0 := by
  simp [Line.weight_eq_one_iff.2 ho, Line.weight_eq_neg_one_of_prefix hc, hls.total]

/-- Balanced blocks are found again when they are wrapped. -/
lemma Wraps.docBlocks_eq {bs : List Block} {ls : List Line} (h : Wraps bs ls)
    (hbs : ∀ b ∈ bs, IsBalanced b.lines) : docBlocks ls = bs := by
  induction h with
  | nil => rfl
  | @outside bs l ls ho hc _ ih =>
    have hskip : docBlocks ([] ++ l :: ls) = docBlocks ([] ++ ls) :=
      docBlocks_append_cons le_rfl (Line.weight_eq_zero ho hc) ls
    exact hskip.trans (ih hbs)
  | @block b bs o c ls ho hc _ ih =>
    have hb : IsBalanced b.lines := hbs b (by simp)
    rw [docBlocks_append (netDepth_wrap ho hc hb), docBlocks_wrap ho hc hb,
      ih fun b' hb' => hbs b' (by simp [hb'])]
    rfl

/-- **Wrapping and finding blocks are inverse to each other on balanced lines.**  Lines are found as
one block between two delimiter lines if and only if they are balanced; any number of balanced
blocks are found where they are wrapped; and every block that is found is balanced, so the blocks of
a source are found again when they are wrapped afresh. -/
theorem docBlocks_inverse_wraps :
    (∀ (ls : List Line) (o c : Line), openDelimiter <+: o.text → closeDelimiter <+: c.text →
        (docBlocks (o :: ls ++ [c]) = [⟨ls⟩] ↔ IsBalanced ls)) ∧
      (∀ bs ls, (∀ b ∈ bs, IsBalanced b.lines) → Wraps bs ls → docBlocks ls = bs) ∧
      ∀ ls, (∀ b ∈ docBlocks ls, IsBalanced b.lines) ∧
        ∀ ms, Wraps (docBlocks ls) ms → docBlocks ms = docBlocks ls := by
  refine ⟨fun ls o c ho hc => ⟨fun h => ?_, docBlocks_wrap ho hc⟩,
    fun bs ls hbs h => h.docBlocks_eq hbs, fun ls => ?_⟩
  · have hmem : ⟨ls⟩ ∈ docBlocks (o :: ls ++ [c]) := by
      rw [h]
      exact List.mem_singleton_self _
    exact isBalanced_of_mem_docBlocks hmem
  · have hls : ∀ b ∈ docBlocks ls, IsBalanced b.lines := fun _ => isBalanced_of_mem_docBlocks
    exact ⟨hls, fun ms h => h.docBlocks_eq hls⟩

/-- A nested region is balanced, a closer in front of an opener is not.  The first of them and an
empty block are wrapped with code around, and then wrapped afresh without it. -/
theorem docBlocks_inverse_wraps_nested :
    let o : Line := ⟨1, "--[==[ a".toList⟩
    let c : Line := ⟨2, "]==]".toList⟩
    let code : Line := ⟨3, " ]==]".toList⟩
    let ms : List Line := [code, o, o, c, c, code, o, c, code]
    (openDelimiter <+: o.text ∧ closeDelimiter <+: c.text) ∧
      (IsBalanced [o, c] ∧ docBlocks [o, o, c, c] = [⟨[o, c]⟩]) ∧
      (¬ IsBalanced [c, o] ∧ docBlocks [o, c, o, c] ≠ [⟨[c, o]⟩]) ∧
      (Wraps [⟨[o, c]⟩, ⟨[]⟩] ms ∧ docBlocks ms = [⟨[o, c]⟩, ⟨[]⟩]) ∧
      Wraps (docBlocks ms) [o, o, c, c, o, c] ∧ docBlocks [o, o, c, c, o, c] = docBlocks ms := by
  intro o c code ms
  have ho : openDelimiter <+: o.text := by decide
  have hc : closeDelimiter <+: c.text := by decide
  have hcode : ¬ openDelimiter <+: code.text ∧ ¬ closeDelimiter <+: code.text := by decide
  obtain ⟨hiff, hwrapped, hfound⟩ := docBlocks_inverse_wraps
  have hbalanced : IsBalanced [o, c] := (hiff [o, c] o c ho hc).1 (by decide)
  have hne : docBlocks [o, c, o, c] ≠ [⟨[c, o]⟩] := by decide
  have hunbalanced : ¬ IsBalanced [c, o] := fun h => hne ((hiff [c, o] o c ho hc).2 h)
  have hempty : IsBalanced [] := (hiff [] o c ho hc).1 (by decide)
  have hms : Wraps [⟨[o, c]⟩, ⟨[]⟩] ms :=
    .outside hcode.1 hcode.2 <| .block ho hc <| .outside hcode.1 hcode.2 <| .block ho hc <|
      .outside hcode.1 hcode.2 .nil
  have hblocks : docBlocks ms = [⟨[o, c]⟩, ⟨[]⟩] :=
    hwrapped _ _ (by simp [hbalanced, hempty]) hms
  have hagain : Wraps (docBlocks ms) [o, o, c, c, o, c] := by
    rw [hblocks]
    exact .block ho hc (.block ho hc .nil)
  exact ⟨⟨ho, hc⟩, ⟨hbalanced, (hiff [o, c] o c ho hc).2 hbalanced⟩, ⟨hunbalanced, hne⟩,
    ⟨hms, hblocks⟩, hagain, (hfound ms).2 _ hagain⟩

end DocBlock
