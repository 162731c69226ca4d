/-
# Written documentation

Whatever an author writes down comes out as the document of the articles, without a diagnostic.

The proof goes through the stages of the making of a document.  The lines of the source are the
lines that were written; each article is found as a block, since its content holds no delimiter; and
each aspect is found as a segment, since no line but its first is a tag line.
-/
import DocBlock.Proofs.Article
import DocBlock.Proofs.SourceLines

namespace DocBlock

/-! ## The segments of an article -/

section Segments

variable {e : Article} {tss : List (List Text)} {ls : List Line}

lemma startsTagged_of_forall₂ (h : List.Forall₂ Aspect.WrittenAs e tss)
    (hls : ls.map Line.text = tss.flatten) (he : ∀ a ∈ e, a.WellFormed) : StartsTagged ls := by
  cases h with
  | nil =>
    rw [List.map_eq_nil_iff.1 hls]
    exact startsTagged_nil
  | cons ha _ =>
    rw [List.flatten_cons] at hls
    obtain ⟨ls₁, ls₂, rfl, rfl, -⟩ := List.map_eq_append_iff.1 hls
    obtain ⟨l, t, rfl, hl, -⟩ := ha.exists_cons (he _ (by simp))
    exact startsTagged_cons.2 hl

/-- The segments of an article are rendered as its aspects. -/
lemma outcomes_of_forall₂ (lang : Text) (h : List.Forall₂ Aspect.WrittenAs e tss)
    (hls : ls.map Line.text = tss.flatten) (he : ∀ a ∈ e, a.WellFormed) :
    Block.outcomes lang ⟨ls⟩ = e.map fun a => .ok (a.markdown lang) := by
  induction h generalizing ls with
  | nil =>
    rw [List.map_eq_nil_iff.1 hls]
    rfl
  | @cons a _ e _ ha htail ih =>
    rw [List.flatten_cons] at hls
    obtain ⟨ls₁, ls₂, rfl, rfl, hls₂⟩ := List.map_eq_append_iff.1 hls
    have hwf : a.WellFormed := he a (by simp)
    have hwf' : ∀ b ∈ e, b.WellFormed := fun b hb => he b (by simp [hb])
    have hfirst := Aspect.outcome_of_writtenAs lang ha hwf
    have hrest := ih hls₂ hwf'
    obtain ⟨l, t, rfl, -, ht⟩ := ha.exists_cons hwf
    rw [Block.outcomes, segments_cons_append l ht (startsTagged_of_forall₂ htail hls₂ hwf'),
      List.map_cons, List.map_cons, hfirst, ← hrest]
    rfl

end Segments

lemma Article.WrittenAs.weight_eq_zero {e : Article} {us : List Text} {l : Line}
    (h : e.WrittenAs us) (hl : l.text ∈ us) : l.weight = 0 := by
  obtain ⟨tss, htss, rfl⟩ := h
  obtain ⟨ts, hts, hl⟩ := List.mem_flatten.1 hl
  obtain ⟨a, -, ha⟩ := exists_mem_of_forall₂ htss hts
  exact ha.weight_eq_zero hl

lemma Article.WrittenAs.isInline {e : Article} {us : List Text} (h : e.WrittenAs us)
    (he : ∀ a ∈ e, a.WellFormed) : ∀ t ∈ us, IsInline t := by
  obtain ⟨tss, htss, rfl⟩ := h
  intro t ht
  obtain ⟨ts, hts, ht⟩ := List.mem_flatten.1 ht
  obtain ⟨a, ha, hats⟩ := exists_mem_of_forall₂ htss hts
  exact hats.isInline (he a ha) t ht

/-! ## The blocks of the source -/

lemma isInline_openDelimiter : IsInline openDelimiter := by
  simp [IsInline, openDelimiter]

lemma isInline_closeDelimiter : IsInline closeDelimiter := by
  simp [IsInline, closeDelimiter]

namespace WrittenAs

variable {es : List Article} {ts : List Text}

lemma isInline (h : WrittenAs es ts) (hes : ∀ e ∈ es, ∀ a ∈ e, a.WellFormed) :
    ∀ t ∈ ts, IsInline t := by
  induction h with
  | nil => simp
  | outside ht _ ih =>
    rintro u (- | ⟨-, hu⟩)
    · exact ht.inline
    · exact ih hes u hu
  | @article e es us ts he _ ih =>
    have hus := he.isInline (hes e (by simp))
    have hts := ih fun e he => hes e (by simp [he])
    simp only [List.cons_append, List.append_assoc, List.nil_append, List.mem_cons,
      List.mem_append]
    rintro u (rfl | hu | rfl | hu)
    · exact isInline_openDelimiter
    · exact hus u hu
    · exact isInline_closeDelimiter
    · exact hts u hu

/-- The scan finds one block for each article. -/
lemma exists_foldl_step (lang : Text) (h : WrittenAs es ts)
    (hes : ∀ e ∈ es, ∀ a ∈ e, a.WellFormed) {ls : List Line} (hls : ls.map Line.text = ts)
    {s : Scan} (hd : s.depth = 0) (hr : s.region = []) :
    ∃ bs, ls.foldl Scan.step s = ⟨0, [], s.blocks ++ bs⟩ ∧
      bs.map (Block.outcomes lang) = es.map fun e => e.map fun a => .ok (a.markdown lang) := by
  -- between articles the scan is at depth zero with no open region, and each article ends so
  induction h generalizing ls s with
  | nil =>
    rw [List.map_eq_nil_iff.1 hls]
    obtain ⟨depth, region, blocks⟩ := s
    exact ⟨[], by simpa using ⟨hd, hr⟩, rfl⟩
  | outside ht _ ih =>
    obtain ⟨l, ls, rfl, rfl, hrest⟩ := List.map_eq_cons_iff.1 hls
    have hl : l.weight = 0 := Line.weight_eq_zero ht.notOpener ht.notCloser
    rw [List.foldl_cons, Scan.step_of_weight_eq_zero hl hd.le]
    exact ih hes hrest hd hr
  | @article e es us ts he _ ih =>
    obtain ⟨ls₁, ls₂, rfl, hls₁, hls₂⟩ := List.map_eq_append_iff.1 hls
    obtain ⟨ls₀, ms, rfl, hls₀, hms⟩ := List.map_eq_append_iff.1 hls₁
    obtain ⟨o, us', rfl, ho, rfl⟩ := List.map_eq_cons_iff.1 hls₀
    obtain ⟨c, ms, rfl, hc, hms⟩ := List.map_eq_cons_iff.1 hms
    obtain rfl : ms = [] := List.map_eq_nil_iff.1 hms
    have hopener : o.weight = 1 := Line.weight_eq_one_iff.2 (by rw [ho])
    have hcloser : c.weight = -1 := Line.weight_eq_neg_one_of_prefix (by rw [hc])
    have hcontent : IsBalanced us' :=
      isBalanced_of_weight_eq_zero fun l hl => he.weight_eq_zero (List.mem_map_of_mem hl)
    obtain ⟨tss, htss, hus⟩ := he
    have hblock := outcomes_of_forall₂ lang htss hus (hes e (by simp))
    obtain ⟨bs, hbs, hout⟩ :=
      ih (fun e he => hes e (by simp [he])) hls₂ (s := ⟨0, [], s.blocks ++ [⟨us'⟩]⟩) rfl rfl
    refine ⟨⟨us'⟩ :: bs, ?_, ?_⟩
    · rw [List.foldl_append, Scan.foldl_step_wrap hopener hcloser hcontent hd hr, hbs]
      simp
    · rw [List.map_cons, List.map_cons, hblock, hout]

lemma map_outcomes_docBlocks (lang : Text) {ls : List Line} (h : WrittenAs es (ls.map Line.text))
    (hes : ∀ e ∈ es, ∀ a ∈ e, a.WellFormed) :
    (docBlocks ls).map (Block.outcomes lang) =
      es.map fun e => e.map fun a => .ok (a.markdown lang) := by
  obtain ⟨bs, hbs, hout⟩ := h.exists_foldl_step lang hes rfl (s := {}) rfl rfl
  rw [docBlocks, Scan.run, hbs]
  exact hout

/-- A source has a line even if nothing is written. -/
lemma exists_ne_nil (h : WrittenAs es ts) :
    ∃ us, us ≠ [] ∧ WrittenAs es us ∧ ['\n'].intercalate us = ['\n'].intercalate ts := by
  cases ts with
  | cons t ts => exact ⟨t :: ts, by simp, h, rfl⟩
  | nil =>
    have hblank : IsOutside [] :=
      ⟨by simp [IsInline], by simp [openDelimiter], by simp [closeDelimiter]⟩
    exact ⟨[[]], by simp, .outside hblank h, rfl⟩

end WrittenAs

/-! ## The document -/

lemma Block.map_markdown_eq (lang : Text) (bs : List Block) :
    bs.map (Block.markdown lang) = (bs.map (Block.outcomes lang)).map fun os =>
      fragmentSeparator.intercalate (os.filterMap Outcome.fragment?) := by
  rw [List.map_map]
  rfl

lemma Block.flatMap_diagnostics_eq (lang : Text) (bs : List Block) :
    bs.flatMap (Block.diagnostics lang) =
      (bs.map (Block.outcomes lang)).flatMap fun os => os.filterMap Outcome.diagnostic? := by
  rw [List.flatMap_map]
  rfl

lemma Article.filterMap_fragment? (lang : Text) (e : Article) :
    (e.map fun a => .ok (a.markdown lang)).filterMap Outcome.fragment? =
      e.map (Aspect.markdown lang) := by
  rw [List.filterMap_map, ← List.filterMap_eq_map]
  rfl

lemma Article.filterMap_diagnostic? (lang : Text) (e : Article) :
    (e.map fun a => .ok (a.markdown lang)).filterMap Outcome.diagnostic? = [] := by
  simp [Outcome.diagnostic?]

/-- **Written documentation comes out as the document of its articles.** -/
theorem Document.ofSource_of_writtenAs {es : List Article} {ts : List Text}
    (hes : ∀ e ∈ es, ∀ a ∈ e, a.WellFormed) (h : WrittenAs es ts) (o : Options) :
    ofSource o (['\n'].intercalate ts) =
      { markdown := o.preamble ++ blockSeparator.intercalate (es.map (Article.markdown o.lang))
        diagnostics := [] } := by
  obtain ⟨us, hne, hus, hjoin⟩ := h.exists_ne_nil
  have hlines := map_text_sourceLines_intercalate hne (hus.isInline hes)
  have hblocks := WrittenAs.map_outcomes_docBlocks o.lang (hlines.symm ▸ hus) hes
  rw [hjoin] at hblocks
  rw [ofSource, assemble, Block.map_markdown_eq, Block.flatMap_diagnostics_eq, hblocks]
  congr 1
  · rw [List.map_map]
    congr 2
    apply List.map_congr_left
    intro e _
    rw [Function.comp, Article.filterMap_fragment?, Article.markdown]
  · rw [List.flatMap_map]
    simp only [Article.filterMap_diagnostic?]
    exact List.flatMap_eq_nil_iff.2 fun _ _ => rfl

open Aspect in
/-- Two articles, the second of them without aspects, behind a line of code. -/
theorem Document.ofSource_of_writtenAs_all_aspects :
    let es : List Article := [[.name "a@b".toList, .signature "a(x) @name".toList,
      .description ["Hi.".toList, [], " b".toList], .sample [" x".toList]], []]
    let ts : List Text := ["y = 1", "--[==[", "  @name a@b", "@sig a(x) @name", "\t@desc", "  Hi.",
      "\t ", "   b", "@example", "   x", "]==]", "--[==[", "]==]"].map String.toList
    (∀ e ∈ es, ∀ a ∈ e, a.WellFormed) ∧ WrittenAs es ts ∧
      ofSource { preamble := "# P\n\n".toList } (['\n'].intercalate ts) =
        ⟨("# P\n\n## a@b\n\n###### *a(x) @name*\n\nHi. \n b\n\n```lua\n x\n```" ++
          "\n\n---\n\n").toList, []⟩ := by
  intro es ts
  have hname : IsTitle .name "a@b".toList :=
    ⟨by simp [IsInline], by simp [isWhite, whiteSpaceRanges],
      by simp [isWhite, whiteSpaceRanges], by unfold Text.HasTag; decide⟩
  have hsig : IsTitle .signature "a(x) @name".toList :=
    ⟨by simp [IsInline], by simp [isWhite, whiteSpaceRanges],
      by simp [isWhite, whiteSpaceRanges], by unfold Text.HasTag; decide⟩
  have hline : ∀ t ∈ ["Hi.".toList, [], " b".toList, " x".toList], IsBodyLine t := by
    simp only [List.forall_mem_cons]
    exact ⟨⟨by simp [IsInline], by decide⟩, ⟨by simp [IsInline], by decide⟩,
      ⟨by simp [IsInline], by decide⟩, ⟨by simp [IsInline], by decide⟩, by simp⟩
  have hes : ∀ e ∈ es, ∀ a ∈ e, a.WellFormed := by
    simp only [es, List.forall_mem_cons, WellFormed]
    exact ⟨⟨hname, hsig, ⟨hline _ (by simp), hline _ (by simp), hline _ (by simp), by simp⟩,
      ⟨hline _ (by simp), by simp⟩, by simp⟩, by simp, by simp⟩
  have hindent : ∀ w ∈ [[], [' '], ['\t'], [' ', ' '], ['\t', ' ']], IsIndent w := by
    simp [IsIndent, IsInline, isWhite, whiteSpaceRanges]
  have htwo : ∀ t : Text, IndentedAs t (' ' :: ' ' :: t) :=
    fun t => ⟨' ', ' ', hindent _ (by simp), rfl⟩
  have htab : IndentedAs [] ['\t', ' '] := ⟨'\t', ' ', hindent _ (by simp), rfl⟩
  -- The four aspects of the first article stand on one, one, four and two lines.
  have hfirst : Article.WrittenAs es[0] ((ts.drop 2).take 8) := by
    refine ⟨[(ts.drop 2).take 1, (ts.drop 3).take 1, (ts.drop 4).take 4, (ts.drop 8).take 2],
      ?_, rfl⟩
    refine .cons ⟨[' ', ' '], _, hindent _ (by simp), .nil, rfl⟩ ?_
    refine .cons ⟨[], _, hindent _ (by simp), .nil, rfl⟩ ?_
    refine .cons ⟨['\t'], _, hindent _ (by simp), ?_, rfl⟩ ?_
    · exact .cons (htwo _) (.cons htab (.cons (htwo _) .nil))
    · exact .cons ⟨[], _, hindent _ (by simp), .cons (htwo _) .nil, rfl⟩ .nil
  have hsecond : Article.WrittenAs [] [] := ⟨[], .nil, rfl⟩
  have hts : WrittenAs es ts :=
    .outside ⟨by simp [IsInline], by decide, by decide⟩ (.article hfirst (.article hsecond .nil))
  refine ⟨hes, hts, ?_⟩
  rw [ofSource_of_writtenAs hes hts]
  rfl

end DocBlock
