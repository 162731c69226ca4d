/-
# Documents as forms

The user chooses a language and a preamble, and the two are seen in a document where they are meant
to be seen and nowhere else.  The preamble is the start of the document.  The language stands behind
the first fence of each sample; the rest of the document is there before it is known.

A form is a text with blanks that all take the same word.  Forms can be put together like texts, and
filling in the word commutes with that.  So the form of a document is put together from those of its
segments, and the language is filled in at the end.
-/
import DocBlock.Proofs.Openings
import DocBlock.Proofs.Samples

namespace DocBlock

/-! ## Forms -/

/-- A text with blanks for a word, the same in all of them. -/
inductive Form where
  /-- A text without a blank. -/
  | text (t : Text)
  /-- A text, a blank and the rest of the form. -/
  | blank (t : Text) (rest : Form)
  deriving DecidableEq, Repr

namespace Form

/-- The text with a word in every blank. -/
def fill (w : Text) : Form → Text
  | text t => t
  | blank t f => t ++ w ++ f.fill w

/-- The texts in front of, between and behind the blanks. -/
def pieces : Form → List Text
  | text t => [t]
  | blank t f => t :: f.pieces

/-- The number of the blanks. -/
def blanks : Form → ℕ
  | text _ => 0
  | blank _ f => f.blanks + 1

/-- The text in front of the first blank. -/
def first : Form → Text
  | text t => t
  | blank t _ => t

/-- The form with a text in front of it. -/
def prepend (s : Text) : Form → Form
  | text t => text (s ++ t)
  | blank t f => blank (s ++ t) f

/-- One form behind another. -/
def append : Form → Form → Form
  | text t, g => g.prepend t
  | blank t f, g => blank t (f.append g)

/-- Several forms with a text between any two of them. -/
def join (sep : Text) : List Form → Form
  | [] => text []
  | [f] => f
  | f :: g :: fs => f.append ((join sep (g :: fs)).prepend sep)

variable {f g : Form} {s w : Text}

/-! ### Filling in a word -/

lemma fill_prepend (w s : Text) (f : Form) : (f.prepend s).fill w = s ++ f.fill w := by
  cases f with
  | text t => rfl
  | blank t f => simp only [prepend, fill, List.append_assoc]

lemma fill_append (w : Text) (f g : Form) : (f.append g).fill w = f.fill w ++ g.fill w := by
  induction f with
  | text t => exact fill_prepend w t g
  | blank t f ih => simp only [append, fill, ih, List.append_assoc]

lemma fill_join (w sep : Text) (fs : List Form) :
    (join sep fs).fill w = sep.intercalate (fs.map (fill w)) := by
  induction fs with
  | nil => rfl
  | cons f fs ih =>
    cases fs with
    | nil => simp [join]
    | cons g fs =>
      rw [join, fill_append, fill_prepend, ih, List.map_cons (a := f),
        List.intercalate_cons_of_ne_nil (by simp), List.append_assoc]

lemma fill_eq_intercalate (w : Text) (f : Form) : f.fill w = w.intercalate f.pieces := by
  induction f with
  | text t => simp [fill, pieces]
  | blank t f ih =>
    have hne : f.pieces ≠ [] := by cases f <;> simp [pieces]
    rw [fill, pieces, List.intercalate_cons_of_ne_nil hne, ih]

/-! ### Counting blanks -/

lemma length_pieces (f : Form) : f.pieces.length = f.blanks + 1 := by
  induction f with
  | text t => rfl
  | blank t f ih => rw [pieces, blanks, List.length_cons, ih]

lemma blanks_prepend (s : Text) (f : Form) : (f.prepend s).blanks = f.blanks := by
  cases f <;> rfl

lemma blanks_append (f g : Form) : (f.append g).blanks = f.blanks + g.blanks := by
  induction f with
  | text t => rw [append, blanks_prepend, blanks, Nat.zero_add]
  | blank t f ih => rw [append, blanks, blanks, ih, Nat.add_right_comm]

lemma blanks_join (sep : Text) (fs : List Form) : (join sep fs).blanks = (fs.map blanks).sum := by
  induction fs with
  | nil => rfl
  | cons f fs ih =>
    cases fs with
    | nil => simp [join]
    | cons g fs =>
      rw [join, blanks_append, blanks_prepend, ih, List.map_cons (a := f), List.sum_cons]

lemma fill_of_blanks_eq_zero (h : f.blanks = 0) : f.fill w = f.fill s := by
  cases f with
  | text t => rfl
  | blank t f => exact absurd h (Nat.succ_ne_zero _)

/-! ### Blanks behind fences -/

/-- Every blank stands at the end of a line that starts with a fence: a fence is in front of it and
a newline character behind it. -/
def IsFenced : Form → Prop
  | text _ => True
  | blank t f => fence <:+ t ∧ ['\n'] <+: f.first ∧ f.IsFenced

lemma IsFenced.prepend (h : f.IsFenced) (s : Text) : (f.prepend s).IsFenced := by
  cases f with
  | text t => trivial
  | blank t f => exact ⟨h.1.trans (List.suffix_append s t), h.2⟩

lemma first_prefix_append (f g : Form) : f.first <+: (f.append g).first := by
  cases f with
  | text t => cases g <;> exact List.prefix_append t _
  | blank t f => exact List.prefix_refl t

lemma IsFenced.append (hf : f.IsFenced) (hg : g.IsFenced) : (f.append g).IsFenced := by
  induction f with
  | text t => exact hg.prepend t
  | blank t f ih => exact ⟨hf.1, hf.2.1.trans (first_prefix_append f g), ih hf.2.2⟩

lemma isFenced_join (sep : Text) {fs : List Form} (h : ∀ f ∈ fs, f.IsFenced) :
    (join sep fs).IsFenced := by
  induction fs with
  | nil => trivial
  | cons f fs ih =>
    have hf := h f List.mem_cons_self
    have ih := ih fun g hg => h g (List.mem_cons_of_mem f hg)
    cases fs with
    | nil => exact hf
    | cons g fs => exact hf.append (ih.prepend sep)

lemma IsFenced.suffix_of_mem (h : f.IsFenced) : ∀ t ∈ f.pieces.dropLast, fence <:+ t := by
  induction f with
  | text t => simp [pieces]
  | blank t f ih =>
    have hne : f.pieces ≠ [] := by cases f <;> simp [pieces]
    rw [pieces, List.dropLast_cons_of_ne_nil hne, List.forall_mem_cons]
    exact ⟨h.1, ih h.2.2⟩

lemma IsFenced.prefix_of_mem (h : f.IsFenced) : ∀ t ∈ f.pieces.tail, ['\n'] <+: t := by
  induction f with
  | text t => simp [pieces]
  | blank t f ih =>
    obtain ⟨-, hfirst, hf⟩ := h
    have ih := ih hf
    rw [pieces, List.tail_cons]
    cases f with
    | text u => exact List.forall_mem_singleton.2 hfirst
    | blank u f => exact List.forall_mem_cons.2 ⟨hfirst, ih⟩

end Form

/-! ## The form of a document -/

/-- The form of the fragment of a segment, if there is one.  In a sample the language is left
blank. -/
def Segment.form? (s : Segment) : Option Form :=
  if s.tag = some .sample then
    some (.blank fence (.text ('\n' :: (['\n'].intercalate s.code ++ '\n' :: fence))))
  else (s.outcome []).fragment?.map .text

/-- The form of the Markdown of a block. -/
def Block.form (b : Block) : Form := .join fragmentSeparator (b.segments.filterMap Segment.form?)

/-- The form of the document of a source, without a preamble. -/
def Document.form (source : Text) : Form :=
  .join blockSeparator ((docBlocks (sourceLines source)).map Block.form)

/-- The number of samples in the blocks of a source. -/
def sampleCount (source : Text) : ℕ :=
  ((docBlocks (sourceLines source)).flatMap Block.segments).countP (·.tag = some .sample)

namespace Segment

variable {s : Segment} {f : Form}

lemma fragment?_outcome (lang : Text) (s : Segment) :
    (s.outcome lang).fragment? = s.form?.map (Form.fill lang) := by
  unfold form? outcome
  rcases s.tag with - | t
  · rfl
  · cases t with
    | sample => simp [Outcome.fragment?, sampleFragment, Form.fill, code]
    | name | signature | description | other i => rfl

lemma blanks_of_form?_eq_some (h : s.form? = some f) :
    f.blanks = if s.tag = some .sample then 1 else 0 := by
  unfold form? at h
  split_ifs at h ⊢ with htag
  · obtain rfl := Option.some_inj.1 h
    rfl
  · obtain ⟨t, -, rfl⟩ := Option.map_eq_some_iff.1 h
    rfl

lemma isFenced_of_form?_eq_some (h : s.form? = some f) : f.IsFenced := by
  unfold form? at h
  split_ifs at h with htag
  · obtain rfl := Option.some_inj.1 h
    exact ⟨List.suffix_refl _, ⟨_, rfl⟩, trivial⟩
  · obtain ⟨t, -, rfl⟩ := Option.map_eq_some_iff.1 h
    trivial

lemma tag_ne_of_form?_eq_none (h : s.form? = none) : s.tag ≠ some .sample := by
  intro htag
  simp [form?, htag] at h

end Segment

namespace Block

lemma markdown_eq_fill (lang : Text) (b : Block) : b.markdown lang = b.form.fill lang := by
  rw [markdown, outcomes, List.filterMap_map, form, Form.fill_join, List.map_filterMap]
  congr 2
  funext s
  exact s.fragment?_outcome lang

lemma sum_blanks (ss : List Segment) : ((ss.filterMap Segment.form?).map Form.blanks).sum =
    ss.countP (·.tag = some .sample) := by
  induction ss with
  | nil => rfl
  | cons s ss ih =>
    rw [List.countP_cons, ← ih]
    cases h : s.form? with
    | none =>
      rw [List.filterMap_cons_none h, if_neg (by simpa using Segment.tag_ne_of_form?_eq_none h),
        Nat.add_zero]
    | some f =>
      rw [List.filterMap_cons_some h, List.map_cons, List.sum_cons,
        Segment.blanks_of_form?_eq_some h, Nat.add_comm]
      simp only [decide_eq_true_eq]

lemma blanks_form (b : Block) : b.form.blanks = b.segments.countP (·.tag = some .sample) := by
  rw [form, Form.blanks_join, sum_blanks]

lemma isFenced_form (b : Block) : b.form.IsFenced := by
  refine Form.isFenced_join _ fun f hf => ?_
  obtain ⟨s, -, hs⟩ := List.mem_filterMap.1 hf
  exact Segment.isFenced_of_form?_eq_some hs

end Block

namespace Document

lemma markdown_eq_fill (o : Options) (source : Text) :
    (ofSource o source).markdown = o.preamble ++ (form source).fill o.lang := by
  have hblocks : ∀ bs : List Block,
      bs.map (Block.markdown o.lang) = bs.map (Form.fill o.lang ∘ Block.form) := fun bs =>
    List.map_congr_left fun b _ => b.markdown_eq_fill o.lang
  rw [ofSource, assemble, hblocks, form, Form.fill_join, List.map_map]

lemma blanks_form (source : Text) : (form source).blanks = sampleCount source := by
  rw [form, Form.blanks_join, List.map_map, sampleCount, List.countP_flatMap]
  congr 2
  funext b
  exact b.blanks_form

lemma isFenced_form (source : Text) : (form source).IsFenced := by
  refine Form.isFenced_join _ fun f hf => ?_
  obtain ⟨b, -, rfl⟩ := List.mem_map.1 hf
  exact b.isFenced_form

/-- **The options reach the places they are meant for.**  A document is its preamble and then the
language in every blank of a form that depends on the source alone, one blank for each sample.  A
blank stands between a fence and a line end.  The diagnostics do not depend on the options, and the
language has no influence on a document without samples. -/
theorem ofSource_options (source : Text) :
    ∃ ts : List Text, ts.length = sampleCount source + 1 ∧
      (∀ o, (ofSource o source).markdown = o.preamble ++ o.lang.intercalate ts) ∧
      (∀ t ∈ ts.dropLast, fence <:+ t) ∧ (∀ t ∈ ts.tail, ['\n'] <+: t) ∧
      (∀ o o', (ofSource o source).diagnostics = (ofSource o' source).diagnostics) ∧
      (sampleCount source = 0 → ∀ preamble lang lang',
        ofSource ⟨lang, preamble⟩ source = ofSource ⟨lang', preamble⟩ source) := by
  have hdiagnostics : ∀ o o',
      (ofSource o source).diagnostics = (ofSource o' source).diagnostics := fun o o' => by
    rw [diagnostics_ofSource, diagnostics_ofSource]
  have hfenced := isFenced_form source
  refine ⟨(form source).pieces, ?_, fun o => ?_, hfenced.suffix_of_mem, hfenced.prefix_of_mem,
    hdiagnostics, fun hnone preamble lang lang' => ?_⟩
  · rw [Form.length_pieces, blanks_form]
  · rw [markdown_eq_fill, Form.fill_eq_intercalate]
  · have hmarkdown : (ofSource ⟨lang, preamble⟩ source).markdown =
        (ofSource ⟨lang', preamble⟩ source).markdown := by
      rw [markdown_eq_fill, markdown_eq_fill]
      exact congrArg _ (Form.fill_of_blanks_eq_zero ((blanks_form source).trans hnone))
    rw [ofSource, ofSource, Document.mk.injEq]
    exact ⟨hmarkdown, hdiagnostics _ _⟩

/-- Two samples in different blocks, one of them the only segment of its block; and a source whose
only sample is outside the blocks. -/
theorem ofSource_options_two_samples :
    let source : Text :=
      "--[==[\n@name a\n@example\n  b\n@x\n]==]\n--[==[\n@example\n]==]".toList
    let bare : Text := "@example\n--[==[\n@desc\n  c @example\n]==]".toList
    sampleCount source = 2 ∧ sampleCount bare = 0 ∧
      (∃ ts : List Text, ts.length = 3 ∧
        ∀ o, (ofSource o source).markdown = o.preamble ++ o.lang.intercalate ts) ∧
      ofSource ⟨"lua".toList, "P".toList⟩ bare = ofSource ⟨"c".toList, "P".toList⟩ bare := by
  intro source bare
  have hsource : sampleCount source = 2 := by decide
  have hbare : sampleCount bare = 0 := by decide
  obtain ⟨ts, hlength, hmarkdown, -⟩ := ofSource_options source
  obtain ⟨-, -, -, -, -, -, hnone⟩ := ofSource_options bare
  rw [hsource] at hlength
  exact ⟨hsource, hbare, ⟨ts, hlength, hmarkdown⟩, hnone hbare _ _ _⟩

end Document

end DocBlock
