/-
# What the grouping of lines depends on

Lines are grouped twice: those of a source into blocks, and those of a block into segments.  For the
first, nothing counts but the kind of each line, and for the second, nothing counts but whether it
is a tag line.  So lists of lines that agree in this respect are cut at the same positions, whatever
else the lines say, and the number of a line has no influence on either.

A map of lines that keeps what counts is a special case, in which the groups themselves are mapped.
-/
import DocBlock.Proofs.Renumber

namespace DocBlock

/-! ## Blocks -/

lemma Line.kind_eq_opener_iff {l : Line} : l.kind = .opener ↔ openDelimiter <+: l.text := by
  rw [← weight_eq_one_iff, ← weight_kind]
  cases l.kind <;> decide

section Kinds

variable {ls ms : List Line}

/-- The depth is found by the kinds of the lines. -/
lemma depthAt_eq_sum (ls : List Line) (k : ℕ) :
    depthAt ls k = (((ls.map Line.kind).take k).map LineKind.weight).sum := by
  rw [depthAt, netDepth, ← List.map_take, List.map_map]
  exact congrArg List.sum (List.map_congr_left fun l _ => l.weight_kind.symm)

lemma depthAt_congr (h : ls.map Line.kind = ms.map Line.kind) (k : ℕ) :
    depthAt ls k = depthAt ms k := by
  rw [depthAt_eq_sum, h, ← depthAt_eq_sum]

lemma exists_opener_iff {i : ℕ} :
    (∃ l ∈ ls[i]?, openDelimiter <+: l.text) ↔ (ls.map Line.kind)[i]? = some .opener := by
  rw [List.getElem?_map, Option.map_eq_some_iff]
  simp only [Option.mem_def, Line.kind_eq_opener_iff]

lemma IsRegion.congr {i j : ℕ} (h : ls.map Line.kind = ms.map Line.kind) (hr : IsRegion ls i j) :
    IsRegion ms i j where
  lt := hr.lt
  start := depthAt_congr h i ▸ hr.start
  opener := exists_opener_iff.2 (h ▸ exists_opener_iff.1 hr.opener)
  inside k hik hkj := depthAt_congr h k ▸ hr.inside k hik hkj
  finish := depthAt_congr h (j + 1) ▸ hr.finish

/-- The regions of a source are listed in one way only. -/
lemma ListsRegions.unique {rs qs : List (ℕ × ℕ)} (h : ListsRegions ls rs)
    (h' : ListsRegions ls qs) : rs = qs := by
  have : Std.Irrefl fun p q : ℕ × ℕ => p.1 < q.1 := ⟨fun p => lt_irrefl p.1⟩
  have : Std.Asymm fun p q : ℕ × ℕ => p.1 < q.1 := ⟨fun _ _ => lt_asymm⟩
  exact h.sorted.eq_of_mem_iff h'.sorted fun p =>
    (h.mem_iff p.1 p.2).trans (h'.mem_iff p.1 p.2).symm

/-- Sources whose blocks stand at the same positions. -/
def BlocksAlike (ls ms : List Line) : Prop :=
  ∃ rs : List (ℕ × ℕ), (docBlocks ls = rs.map fun p => ⟨(ls.take p.2).drop (p.1 + 1)⟩) ∧
    docBlocks ms = rs.map fun p => ⟨(ms.take p.2).drop (p.1 + 1)⟩

/-- The positions of the blocks are found by the kinds of the lines. -/
lemma blocksAlike_of_map_kind_eq (h : ls.map Line.kind = ms.map Line.kind) : BlocksAlike ls ms := by
  obtain ⟨rs, hls⟩ := Scan.exists_tracks_run ls
  obtain ⟨qs, hms⟩ := Scan.exists_tracks_run ms
  have hregions : ListsRegions ms rs :=
    ⟨hls.regions.sorted, fun i j => (hls.regions.mem_iff i j).trans ⟨.congr h, .congr h.symm⟩⟩
  obtain rfl := hregions.unique hms.regions
  exact ⟨rs, hls.blocks, hms.blocks⟩

end Kinds

/-! ## Segments -/

/-- A list can be split before or after a map that the split looks through. -/
lemma splitBy_map {α β : Type} (g : α → β) (r : β → β → Bool) (xs : List α) :
    (xs.map g).splitBy r = (xs.splitBy fun x y => r (g x) (g y)).map (List.map g) := by
  cases xs with
  | nil => rfl
  | cons x xs =>
    rw [List.map_cons, List.splitBy, List.splitBy]
    suffices h : ∀ (ys : List α) (zss : List (List α)),
        List.splitBy.loop r (xs.map g) (g x) (ys.map g) (zss.map (List.map g)) =
          (List.splitBy.loop (fun x y => r (g x) (g y)) xs x ys zss).map (List.map g) from h [] []
    induction xs generalizing x with
    | nil => simp [List.splitBy.loop]
    | cons y xs ih =>
      intro ys zss
      rw [List.map_cons, List.splitBy.loop, List.splitBy.loop]
      cases r (g x) (g y) with
      | true => exact ih y (x :: ys) zss
      | false => simpa using ih y [] ((x :: ys).reverse :: zss)

/-- Where segments start is found by a split of the marks that tell the tag lines. -/
lemma map_isTagLine_segments (ls : List Line) :
    (Block.segments ⟨ls⟩).map (fun s => s.lines.map Line.isTagLine) =
      (ls.map Line.isTagLine).splitBy fun _ next => !next := by
  rw [splitBy_map, Block.segments, List.map_map]
  rfl

/-- Blocks whose segments stand at the same positions: they have the same lengths. -/
def SegmentsAlike (b c : Block) : Prop :=
  b.segments.map (fun s => s.lines.length) = c.segments.map fun s => s.lines.length

lemma segmentsAlike_of_map_isTagLine_eq {b c : Block}
    (h : b.lines.map Line.isTagLine = c.lines.map Line.isTagLine) : SegmentsAlike b c := by
  have hlengths : ∀ d : Block, d.segments.map (fun s => s.lines.length) =
      ((d.lines.map Line.isTagLine).splitBy fun _ next => !next).map List.length := by
    intro d
    rw [← map_isTagLine_segments, List.map_map]
    simp [Function.comp_def]
  rw [SegmentsAlike, hlengths, hlengths, h]

/-! ## Maps of lines -/

/-- **Lines are grouped by their classes alone.**  Where the blocks of a source stand is decided by
the kinds of its lines, and where the segments of a block stand, by its tag lines.  So blocks and
segments go along with every map of lines that keeps these; only the tag of a segment is read again.
The numbers of the lines do not matter at all. -/
theorem grouped_by_class :
    (∀ (f : Line → Line) (ls : List Line), (∀ l ∈ ls, (f l).kind = l.kind) →
      docBlocks (ls.map f) = (docBlocks ls).map fun b => ⟨b.lines.map f⟩) ∧
      (∀ (f : Line → Line) (b : Block), (∀ l ∈ b.lines, (f l).isTagLine = l.isTagLine) →
        Block.segments ⟨b.lines.map f⟩ = b.segments.map (fun s =>
            ⟨(s.lines.map f).head?.bind fun l => l.text.tag?, s.lines.map f⟩) ∧
          SegmentsAlike ⟨b.lines.map f⟩ b) ∧
      (∀ ls ms, ls.map Line.kind = ms.map Line.kind → BlocksAlike ls ms) ∧
      (∀ b c : Block, b.lines.map Line.isTagLine = c.lines.map Line.isTagLine →
        SegmentsAlike b c) ∧
      ∀ ls ms, ls.map Line.text = ms.map Line.text →
        BlocksAlike ls ms ∧ SegmentsAlike ⟨ls⟩ ⟨ms⟩ := by
  refine ⟨fun f ls hf => ?_, fun f b hf => ⟨b.segments_map hf, ?_⟩,
    fun _ _ => blocksAlike_of_map_kind_eq, fun _ _ => segmentsAlike_of_map_isTagLine_eq,
    fun ls ms h => ⟨blocksAlike_of_map_kind_eq ?_, segmentsAlike_of_map_isTagLine_eq ?_⟩⟩
  · refine docBlocks_map fun l hl => ?_
    rw [← Line.weight_kind, hf l hl, Line.weight_kind]
  · refine segmentsAlike_of_map_isTagLine_eq ?_
    rw [List.map_map]
    exact List.map_congr_left hf
  · -- the kind of a line and the marker in it are read off its text
    have hkind : ∀ ls : List Line, ls.map Line.kind =
        (ls.map Line.text).map fun t => Line.kind ⟨0, t⟩ := fun ls => by simp [Line.kind]
    rw [hkind, hkind, h]
  · have htag : ∀ ls : List Line, ls.map Line.isTagLine =
        (ls.map Line.text).map fun t => Line.isTagLine ⟨0, t⟩ := fun ls => by simp [Line.isTagLine]
    rw [htag, htag, h]

/-- A map that changes all texts and gives all lines one number, and other numbers on the same
texts.  The tag of the second segment changes with its first line. -/
theorem grouped_by_class_longer_texts :
    let f : Line → Line := fun l => ⟨7, l.text ++ ['x']⟩
    let b : Block := ⟨[⟨3, "a".toList⟩, ⟨3, " @n".toList⟩, ⟨1, "]==".toList⟩]⟩
    let ls : List Line := ⟨9, "--[==[".toList⟩ :: b.lines ++ [⟨2, "]==]".toList⟩]
    let ms : List Line := ls.map fun l => ⟨l.number + 1, l.text⟩
    ((∀ l ∈ ls, (f l).kind = l.kind) ∧ docBlocks (ls.map f) = [⟨b.lines.map f⟩]) ∧
      ((∀ l ∈ b.lines, (f l).isTagLine = l.isTagLine) ∧
        (Block.segments ⟨b.lines.map f⟩).map Segment.tag = [none, some (.other "nx".toList)]) ∧
      (ls.map Line.kind = (ls.map f).map Line.kind ∧ BlocksAlike ls (ls.map f)) ∧
      (b.lines.map Line.isTagLine = (b.lines.map f).map Line.isTagLine ∧
        SegmentsAlike b ⟨b.lines.map f⟩) ∧
      ls.map Line.text = ms.map Line.text ∧ BlocksAlike ls ms ∧ SegmentsAlike ⟨ls⟩ ⟨ms⟩ := by
  intro f b ls ms
  obtain ⟨hblocks, hsegments, hkinds, htags, htexts⟩ := grouped_by_class
  have hf : ∀ l ∈ ls, (f l).kind = l.kind := by decide
  have hg : ∀ l ∈ b.lines, (f l).isTagLine = l.isTagLine := by decide
  have hkind : ls.map Line.kind = (ls.map f).map Line.kind := by decide
  have htag : b.lines.map Line.isTagLine = (b.lines.map f).map Line.isTagLine := by decide
  have htext : ls.map Line.text = ms.map Line.text := by decide
  have hls : docBlocks ls = [b] := by decide
  refine ⟨⟨hf, ?_⟩, ⟨hg, ?_⟩, ⟨hkind, hkinds _ _ hkind⟩, ⟨htag, htags _ _ htag⟩, htext,
    htexts _ _ htext⟩
  · rw [hblocks f ls hf, hls, List.map_singleton]
  · rw [(hsegments f b hg).1, List.map_map]
    decide

end DocBlock
