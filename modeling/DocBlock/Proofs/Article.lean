/-
# Articles

Documentation is a list of articles, one for each documented item, and an article is a list of
aspects of the item.  This file says what Markdown an article stands for and how it is written down
in a source, with all the freedom that an author has: how far each line is indented, and what stands
between the articles.

An aspect is written as a tag line and the lines of its body.  The second half of the file shows
that these lines keep to themselves: none of them is a delimiter, the first is their only tag line,
and the segment that they make is rendered as the aspect.
-/
import DocBlock.Proofs.Samples
import DocBlock.Proofs.Scan
import DocBlock.Proofs.Segmentation
import DocBlock.Proofs.TagLines

namespace DocBlock

/-! ## Aspects and articles -/

/-- One aspect of a documented item. -/
inductive Aspect where
  /-- The name of the item. -/
  | name (title : Text)
  /-- The signature of the item. -/
  | signature (title : Text)
  /-- A description of the item, by its lines. -/
  | description (body : List Text)
  /-- A piece of code, by its lines. -/
  | sample (body : List Text)
  deriving DecidableEq, Repr

/-- What is said about one item. -/
abbrev Article := List Aspect

/-- A text that fits on one line. -/
def IsInline (t : Text) : Prop := '\n' ∉ t ∧ '\r' ∉ t

/-- A line of a description as it is to be shown: without its indentation, and a newline character
where there is nothing else on the line. -/
def shownProse (t : Text) : Text := if t.all isWhite then ['\n'] else t.trimStart

namespace Aspect

/-- The tag that says what an aspect is about. -/
def tag : Aspect → Tag
  | name _ => .name
  | signature _ => .signature
  | description _ => .description
  | sample _ => .sample

/-- What stands behind the tag on the first line of an aspect. -/
def remark : Aspect → Text
  | name n => ' ' :: n
  | signature n => ' ' :: n
  | description _ => []
  | sample _ => []

/-- The lines of an aspect after the first. -/
def body : Aspect → List Text
  | name _ => []
  | signature _ => []
  | description ls => ls
  | sample ls => ls

/-- A title is an inline text without white space at its ends that does not contain the tag it
stands behind. -/
structure IsTitle (t : Tag) (n : Text) : Prop where
  inline : IsInline n
  head : ∀ c ∈ n.head?, isWhite c = false
  last : ∀ c ∈ n.getLast?, isWhite c = false
  tagless : ¬ Text.HasTag t.ident n

/-- A line of a body is an inline text that does not start, white space aside, with the marker. -/
structure IsBodyLine (t : Text) : Prop where
  inline : IsInline t
  markerless : t.trim.head? ≠ some tagMarker

/-- What an author has to keep to. -/
def WellFormed : Aspect → Prop
  | name n => IsTitle .name n
  | signature n => IsTitle .signature n
  | description ls => ∀ t ∈ ls, IsBodyLine t
  | sample ls => ∀ t ∈ ls, IsBodyLine t

/-- The Markdown that an aspect stands for. -/
def markdown (lang : Text) : Aspect → Text
  | name n => "## ".toList ++ n
  | signature n => "###### *".toList ++ n ++ ['*']
  | description ls => [' '].intercalate (ls.map shownProse)
  | sample ls => fence ++ lang ++ ['\n'] ++ ['\n'].intercalate ls ++ ['\n'] ++ fence

end Aspect

/-- The Markdown that an article stands for. -/
def Article.markdown (lang : Text) (e : Article) : Text :=
  fragmentSeparator.intercalate (e.map (Aspect.markdown lang))

/-! ## How articles are written -/

/-- White space that fits on one line. -/
def IsIndent (w : Text) : Prop := IsInline w ∧ ∀ c ∈ w, isWhite c

/-- The second text is the first, indented by one level: two characters of white space. -/
def IndentedAs (t u : Text) : Prop := ∃ v w, IsIndent [v, w] ∧ u = v :: w :: t

/-- The first line of an aspect, with the given indentation. -/
def Aspect.tagLine (w : Text) (a : Aspect) : Text := w ++ (tagMarker :: (a.tag.ident ++ a.remark))

/-- The lines that an aspect is written on: a tag line, indented at will, and the lines of the body,
each indented by one level. -/
def Aspect.WrittenAs (a : Aspect) (ts : List Text) : Prop :=
  ∃ w us, IsIndent w ∧ List.Forall₂ IndentedAs a.body us ∧ ts = a.tagLine w :: us

/-- The lines between the delimiters of an article: the lines of its aspects. -/
def Article.WrittenAs (e : Article) (ts : List Text) : Prop :=
  ∃ tss, List.Forall₂ Aspect.WrittenAs e tss ∧ ts = tss.flatten

/-- A line outside the articles. -/
structure IsOutside (t : Text) : Prop where
  inline : IsInline t
  notOpener : ¬ openDelimiter <+: t
  notCloser : ¬ closeDelimiter <+: t

/-- The lines of a source that holds the given articles. -/
inductive WrittenAs : List Article → List Text → Prop
  | nil : WrittenAs [] []
  | outside {es : List Article} {t : Text} {ts : List Text} (ht : IsOutside t)
      (h : WrittenAs es ts) : WrittenAs es (t :: ts)
  | article {e : Article} {es : List Article} {us ts : List Text} (he : e.WrittenAs us)
      (h : WrittenAs es ts) : WrittenAs (e :: es) (openDelimiter :: us ++ [closeDelimiter] ++ ts)

/-! ## The lines of an aspect -/

/-- A line is no delimiter if it starts with white space or with the marker. -/
lemma Line.weight_eq_zero_of_head {l : Line} (h : ∀ c ∈ l.text.head?, isWhite c ∨ c = tagMarker) :
    l.weight = 0 := by
  have hstart : ∀ d t, ¬ isWhite d → d ≠ tagMarker → ¬ (d :: t) <+: l.text := by
    rintro d t hd hm ⟨u, hu⟩
    rcases h d (by rw [← hu]; rfl) with hw | rfl
    · exact hd hw
    · exact hm rfl
  exact weight_eq_zero (hstart _ _ (by decide) (by decide)) (hstart _ _ (by decide) (by decide))

lemma IsIndent.trim_append {w : Text} (h : IsIndent w) (t : Text) : (w ++ t).trim = t.trim :=
  Text.trim_append_of_white h.2 t

namespace IndentedAs

variable {t u : Text}

lemma isInline (h : IndentedAs t u) (ht : IsInline t) : IsInline u := by
  obtain ⟨v, w, ⟨⟨hn, hr⟩, -⟩, rfl⟩ := h
  exact ⟨fun hmem => (List.mem_append.1 (show '\n' ∈ [v, w] ++ t from hmem)).elim hn ht.1,
    fun hmem => (List.mem_append.1 (show '\r' ∈ [v, w] ++ t from hmem)).elim hr ht.2⟩

lemma trimStart_eq (h : IndentedAs t u) : u.trimStart = t.trimStart := by
  obtain ⟨v, w, hvw, rfl⟩ := h
  exact Text.trimStart_append_of_white hvw.2 t

lemma head?_trim_eq (h : IndentedAs t u) : u.trim.head? = t.trim.head? := by
  rw [Text.head?_trim, Text.head?_trim, h.trimStart_eq]

lemma isWhite_of_mem_head? (h : IndentedAs t u) {c : Char} (hc : c ∈ u.head?) : isWhite c := by
  obtain ⟨v, w, hvw, rfl⟩ := h
  obtain rfl : v = c := by simpa using hc
  exact hvw.2 v (by simp)

lemma dedent_eq (h : IndentedAs t u) : u.dedent = t := by
  obtain ⟨v, w, hvw, rfl⟩ := h
  exact Text.dedent_cons_cons (hvw.2 v (by simp)) (hvw.2 w (by simp)) t

lemma proseLine_eq (h : IndentedAs t u) : u.proseLine = shownProse t := by
  have hnil : t.trimStart = [] ↔ t.all isWhite := by
    rw [Text.trimStart, List.dropWhile_eq_nil_iff, List.all_eq_true]
  rw [Text.proseLine, shownProse, h.trimStart_eq]
  simp only [hnil]

end IndentedAs

/-- A function that undoes the indentation of one line recovers all lines. -/
lemma map_eq_of_forall₂ {f g : Text → Text} {ts us : List Text}
    (h : List.Forall₂ IndentedAs ts us) (hfg : ∀ t u, IndentedAs t u → f u = g t) :
    us.map f = ts.map g := by
  induction h with
  | nil => rfl
  | cons h _ ih => rw [List.map_cons, List.map_cons, hfg _ _ h, ih]

/-- Everything that is written stands for something. -/
lemma exists_mem_of_forall₂ {α β : Type} {r : α → β → Prop} {ts : List α} {us : List β}
    (h : List.Forall₂ r ts us) {u : β} (hu : u ∈ us) : ∃ t ∈ ts, r t u := by
  induction h with
  | nil => simp at hu
  | cons h _ ih =>
    rcases List.mem_cons.1 hu with rfl | hu
    · exact ⟨_, by simp, h⟩
    · obtain ⟨t, ht, htu⟩ := ih hu
      exact ⟨t, by simp [ht], htu⟩

namespace Aspect

variable {a : Aspect} {ts : List Text}

lemma tag_mem_known (a : Aspect) : a.tag ∈ Tag.known := by
  cases a <;> simp [tag, Tag.known]

lemma isBodyLine_of_mem_body (ha : a.WellFormed) {t : Text} (ht : t ∈ a.body) : IsBodyLine t := by
  cases a with
  | name n => simp [body] at ht
  | signature n => simp [body] at ht
  | description ls => exact ha t ht
  | sample ls => exact ha t ht

lemma isInline_remark (ha : a.WellFormed) : IsInline a.remark := by
  cases a with
  | name n =>
    have hn : IsInline n := ha.inline
    exact ⟨by simpa [remark] using hn.1, by simpa [remark] using hn.2⟩
  | signature n =>
    have hn : IsInline n := ha.inline
    exact ⟨by simpa [remark] using hn.1, by simpa [remark] using hn.2⟩
  | description ls => exact ⟨by simp [remark], by simp [remark]⟩
  | sample ls => exact ⟨by simp [remark], by simp [remark]⟩

/-- The identifier of a tag ends where its remark starts. -/
lemma isIdentChar_of_mem_head?_remark (a : Aspect) :
    ∀ c ∈ a.remark.head?, isIdentChar c = false := by
  intro c hc
  have hc : c = ' ' := by cases a <;> simp_all [remark, eq_comm]
  rw [hc]
  decide

variable {w : Text}

lemma isInline_tagLine (hw : IsIndent w) (ha : a.WellFormed) : IsInline (a.tagLine w) := by
  have hident : ∀ t ∈ Tag.known, IsInline (tagMarker :: t.ident) := by
    simp [IsInline, Tag.known, Tag.ident, tagMarker]
  have htag := hident a.tag a.tag_mem_known
  have hremark := isInline_remark ha
  have hsplit : a.tagLine w = w ++ ((tagMarker :: a.tag.ident) ++ a.remark) := rfl
  rw [hsplit, IsInline, List.mem_append, List.mem_append, List.mem_append, List.mem_append]
  exact ⟨by simp only [hw.1.1, htag.1, hremark.1, or_false, not_false_iff],
    by simp only [hw.1.2, htag.2, hremark.2, or_false, not_false_iff]⟩

lemma head?_trim_tagLine (hw : IsIndent w) (a : Aspect) :
    (a.tagLine w).trim.head? = some tagMarker := by
  rw [tagLine, hw.trim_append, Text.head?_trim, Text.trimStart_eq_self]
  · rfl
  · intro c hc
    obtain rfl : tagMarker = c := by simpa using hc
    exact Text.isWhite_tagMarker

lemma isWhite_or_eq_tagMarker (hw : IsIndent w) {c : Char} (hc : c ∈ (a.tagLine w).head?) :
    isWhite c ∨ c = tagMarker := by
  cases w with
  | nil => exact Or.inr (by simpa [tagLine, eq_comm] using hc)
  | cons v w =>
    obtain rfl : v = c := by simpa [tagLine] using hc
    exact Or.inl (hw.2 v (by simp))

lemma tag?_tagLine (hw : IsIndent w) (a : Aspect) : (a.tagLine w).tag? = some a.tag :=
  Text.tag?_of_tagLine hw.2 a.tag_mem_known a.isIdentChar_of_mem_head?_remark

/-- A tag line with a title holds the title as its heading. -/
lemma heading_of_isTitle {t : Tag} {n : Text} {l : Line} {ls : List Line} (hw : IsIndent w)
    (ht : t ∈ Tag.known) (hn : IsTitle t n)
    (hl : l.text = w ++ (tagMarker :: (t.ident ++ ' ' :: n))) :
    (Segment.ofLines (l :: ls)).heading t = n := by
  have hblank : ∀ c ∈ [' '], isWhite c := List.forall_mem_singleton.2 (by decide)
  have herase : Text.eraseTag t.ident l.text = n := by
    rw [hl, ← List.singleton_append (l := n), Text.eraseTag_of_tagLine hw.2 hblank ht hn.head,
      Text.eraseTag_eq_self hn.tagless]
  show (Text.eraseTag t.ident l.text).trim = n
  rw [herase, Text.trim_eq_self hn.head hn.last]

/-- A segment that is written as an aspect is rendered as the aspect. -/
lemma outcome_of_writtenAs {ls : List Line} (lang : Text) (h : a.WrittenAs (ls.map Line.text))
    (ha : a.WellFormed) : (Segment.ofLines ls).outcome lang = .ok (a.markdown lang) := by
  obtain ⟨w, us, hw, hus, hls⟩ := h
  obtain ⟨l, t, rfl, hl, ht⟩ := List.map_eq_cons_iff.1 hls
  have htag : (Segment.ofLines (l :: t)).tag = some a.tag := by
    rw [Segment.tag_ofLines_cons, hl, tag?_tagLine hw]
  have hbody : (Segment.ofLines (l :: t)).body = us := ht
  rw [Segment.outcome, htag]
  -- a title is on the tag line itself, a body is on the lines behind it
  cases a with
  | name n =>
    have hn : IsTitle .name n := ha
    have hheading : (Segment.ofLines (l :: t)).heading .name = n :=
      heading_of_isTitle hw (tag_mem_known (name n)) hn hl
    show Except.ok ("## ".toList ++ (Segment.ofLines (l :: t)).heading .name) = _
    rw [hheading]
    rfl
  | signature n =>
    have hn : IsTitle .signature n := ha
    have hheading : (Segment.ofLines (l :: t)).heading .signature = n :=
      heading_of_isTitle hw (tag_mem_known (signature n)) hn hl
    show Except.ok ("###### *".toList ++ (Segment.ofLines (l :: t)).heading .signature ++ ['*']) = _
    rw [hheading]
    rfl
  | description ls =>
    have hprose : us.map Text.proseLine = ls.map shownProse :=
      map_eq_of_forall₂ hus fun _ _ h => h.proseLine_eq
    show Except.ok ([' '].intercalate ((Segment.ofLines (l :: t)).body.map Text.proseLine)) = _
    rw [hbody, hprose]
    rfl
  | sample ls =>
    have hcode : us.map Text.dedent = ls.map id :=
      map_eq_of_forall₂ hus fun _ _ h => h.dedent_eq
    show Except.ok (Segment.sampleFragment lang (Segment.ofLines (l :: t))) = _
    rw [Segment.sampleFragment, hbody, hcode, List.map_id]
    rfl

namespace WrittenAs

lemma isInline (h : a.WrittenAs ts) (ha : a.WellFormed) : ∀ t ∈ ts, IsInline t := by
  obtain ⟨w, us, hw, hus, rfl⟩ := h
  intro t ht
  rcases List.mem_cons.1 ht with rfl | ht
  · exact isInline_tagLine hw ha
  · obtain ⟨u, hu, htu⟩ := exists_mem_of_forall₂ hus ht
    exact htu.isInline (isBodyLine_of_mem_body ha hu).inline

/-- No line of an aspect is a delimiter: each starts with white space or with the marker. -/
lemma weight_eq_zero {l : Line} (h : a.WrittenAs ts) (hl : l.text ∈ ts) : l.weight = 0 := by
  obtain ⟨w, us, hw, hus, rfl⟩ := h
  apply Line.weight_eq_zero_of_head
  intro c hc
  rcases List.mem_cons.1 hl with htag | hmem
  · -- a tag line starts with its indentation, or with the marker if there is none
    rw [htag] at hc
    exact isWhite_or_eq_tagMarker hw hc
  · obtain ⟨u, -, hu⟩ := exists_mem_of_forall₂ hus hmem
    exact Or.inl (hu.isWhite_of_mem_head? hc)

/-- The first line of an aspect is its only tag line. -/
lemma exists_cons {ls : List Line} (h : a.WrittenAs (ls.map Line.text)) (ha : a.WellFormed) :
    ∃ l t, ls = l :: t ∧ l.isTagLine ∧ ∀ m ∈ t, ¬ m.isTagLine := by
  obtain ⟨w, us, hw, hus, hls⟩ := h
  obtain ⟨l, t, rfl, hl, rfl⟩ := List.map_eq_cons_iff.1 hls
  refine ⟨l, t, rfl, ?_, ?_⟩
  · rw [Line.isTagLine, hl, head?_trim_tagLine hw]
    rfl
  · intro m hm
    obtain ⟨u, hu, hmu⟩ := exists_mem_of_forall₂ hus (List.mem_map_of_mem hm)
    rw [Line.isTagLine, hmu.head?_trim_eq, decide_eq_true_eq]
    exact (isBodyLine_of_mem_body ha hu).markerless

end WrittenAs

end Aspect

end DocBlock
