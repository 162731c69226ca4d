/-
# Samples

A sample is code, and code is shown as it is written.  Its lines come out between two fences, one
line for each and in their order.  All that is taken from a line is one level of indentation, which
the author has put in front of it; a line that has no such level is left alone.  So the indentation
of the lines relative to each other is kept, and blank lines are kept as well.

An author who indents every line by one level gets back the code that he had in mind, whatever white
space he uses for it.
-/
import DocBlock.Document
import DocBlock.Proofs.SourceLines

namespace DocBlock

namespace Text

/-! ## One level of indentation -/

/-- The second text is the first with one level of indentation in front of it. -/
def Indented (d t : Text) : Prop := ∃ v w, isWhite v ∧ isWhite w ∧ t = v :: w :: d

/-- The second text is the first without one level of indentation, or the first as it is if it has
no such level. -/
def Dedented (t d : Text) : Prop := Indented d t ∨ (∀ e, ¬ Indented e t) ∧ d = t

lemma dedent_cons_cons {v w : Char} (hv : isWhite v) (hw : isWhite w) (t : Text) :
    dedent (v :: w :: t) = t := by
  rw [dedent, hv, hw]
  rfl

lemma dedented_dedent (t : Text) : Dedented t t.dedent := by
  unfold dedent
  split
  · next v w t =>
    split_ifs with h
    · rw [Bool.and_eq_true] at h
      exact Or.inl ⟨v, w, h.1, h.2, rfl⟩
    · refine Or.inr ⟨?_, rfl⟩
      rintro e ⟨v', w', hv, hw, he⟩
      obtain ⟨rfl, rfl, -⟩ : v = v' ∧ w = w' ∧ t = e := by simpa using he
      exact h (by rw [hv, hw]; rfl)
  · next h =>
    refine Or.inr ⟨?_, rfl⟩
    rintro e ⟨v, w, -, -, rfl⟩
    exact h v w e rfl

/-- There is no choice in what a line loses. -/
lemma Dedented.eq_dedent {t d : Text} (h : Dedented t d) : d = t.dedent := by
  rcases h with ⟨v, w, hv, hw, rfl⟩ | ⟨hplain, rfl⟩
  · exact (dedent_cons_cons hv hw d).symm
  · rcases dedented_dedent d with hd | ⟨-, hd⟩
    · exact absurd hd (hplain _)
    · exact hd.symm

lemma dedent_suffix (t : Text) : t.dedent <:+ t := by
  rcases dedented_dedent t with ⟨v, w, -, -, ht⟩ | ⟨-, ht⟩
  · exact ⟨[v, w], ht.symm⟩
  · rw [ht]

lemma newline_not_mem_dedent {t : Text} (h : '\n' ∉ t) : '\n' ∉ t.dedent :=
  fun hmem => h ((dedent_suffix t).mem hmem)

/-! ## Lines between fences -/

/-- The lines of the text that some lines are joined to.  If there is nothing to join, it is the
empty text, which has one line. -/
def joinedLines : List Text → List Text
  | [] => [[]]
  | t :: ts => t :: ts

lemma lines_intercalate_eq {ts : List Text} (h : ∀ t ∈ ts, '\n' ∉ t) :
    lines (['\n'].intercalate ts) = joinedLines ts := by
  cases ts with
  | nil => rfl
  | cons t ts => exact lines_intercalate (List.cons_ne_nil t ts) h

lemma newline_not_mem_fence : '\n' ∉ fence := by decide

end Text

namespace Segment

variable {lang : Text} {s : Segment}

/-- The lines of a sample without one level of indentation. -/
def code (s : Segment) : List Text := s.body.map Text.dedent

lemma forall₂_dedented_code (s : Segment) : List.Forall₂ Text.Dedented s.body s.code :=
  List.forall₂_map_right_iff.2 (List.forall₂_same.2 fun t _ => Text.dedented_dedent t)

lemma eq_code_of_dedented {ds : List Text} (h : List.Forall₂ Text.Dedented s.body ds) :
    ds = s.code := by
  have heq : List.Forall₂ (fun d t => d = Text.dedent t) ds s.body :=
    (h.imp fun _ _ htd => htd.eq_dedent).flip
  rw [← List.forall₂_map_right_iff, List.forall₂_eq_eq_eq] at heq
  exact heq

/-- Code that is indented line by line is recovered. -/
lemma code_eq_of_indented {ds : List Text} (h : List.Forall₂ Text.Indented ds s.body) :
    s.code = ds :=
  (eq_code_of_dedented (h.imp fun _ _ hdt => Or.inl hdt).flip).symm

lemma newline_not_mem_of_mem_code (hbody : ∀ t ∈ s.body, '\n' ∉ t) : ∀ t ∈ s.code, '\n' ∉ t :=
  List.forall_mem_map.2 fun t ht => Text.newline_not_mem_dedent (hbody t ht)

lemma lines_sampleFragment (hlang : '\n' ∉ lang) (hbody : ∀ t ∈ s.body, '\n' ∉ t) :
    (s.sampleFragment lang).lines = (fence ++ lang) :: (Text.joinedLines s.code ++ [fence]) := by
  have hopen : '\n' ∉ fence ++ lang := by
    rw [List.mem_append, not_or]
    exact ⟨Text.newline_not_mem_fence, hlang⟩
  have hsplit : s.sampleFragment lang =
      (fence ++ lang) ++ '\n' :: (['\n'].intercalate s.code ++ '\n' :: fence) := by
    simp [sampleFragment, code]
  rw [hsplit, Text.lines_append_newline, Text.lines_append_newline,
    Text.lines_eq_singleton hopen, Text.lines_eq_singleton Text.newline_not_mem_fence,
    Text.lines_intercalate_eq (newline_not_mem_of_mem_code hbody)]
  rfl

/-- **A sample keeps its code line by line.**  Between the fences stands one line for each line of
the body, which is that line without one level of indentation, or one empty line if there is no
body.  So if the body is some code with one level of indentation put in front of every line, what
stands there is that code. -/
theorem outcome_sample (htag : s.tag = some .sample) (hlang : '\n' ∉ lang)
    (hbody : ∀ t ∈ s.body, '\n' ∉ t) :
    ∃ f code, s.outcome lang = .ok f ∧ List.Forall₂ Text.Dedented s.body code ∧
      f.lines = (fence ++ lang) :: (Text.joinedLines code ++ [fence]) ∧
      ∀ ds, List.Forall₂ Text.Indented ds s.body → code = ds := by
  refine ⟨s.sampleFragment lang, s.code, ?_, s.forall₂_dedented_code,
    lines_sampleFragment hlang hbody, fun _ => code_eq_of_indented⟩
  rw [outcome, htag]

/-- Lines with less than a level of indentation, with more, and with white space outside ASCII; and
a sample whose lines are indented in different ways. -/
theorem outcome_sample_mixed_indents :
    let s : Segment := ⟨some .sample, [⟨1, "@example x".toList⟩, ⟨2, "\t\u3000a".toList⟩,
      ⟨3, " b".toList⟩, ⟨4, []⟩, ⟨5, [' ']⟩, ⟨6, "\u2003  c ".toList⟩, ⟨7, [' ', '\t']⟩]⟩
    let ds : List Text := ["if t then".toList, [], "  print(t)".toList, [' '], "end".toList]
    let s' : Segment := ⟨some .sample, [⟨1, "@example".toList⟩, ⟨2, "  if t then".toList⟩,
      ⟨3, "\t ".toList⟩, ⟨4, "\u00A0\t  print(t)".toList⟩, ⟨5, "   ".toList⟩,
      ⟨6, "\u3000\u3000end".toList⟩]⟩
    (s.tag = some .sample ∧ s'.tag = some .sample ∧ '\n' ∉ defaultLang ∧
        (∀ t ∈ s.body, '\n' ∉ t) ∧ (∀ t ∈ s'.body, '\n' ∉ t) ∧
        List.Forall₂ Text.Indented ds s'.body) ∧
      (∃ f, s.outcome defaultLang = .ok f ∧ f.lines =
        ["```lua", "a", " b", "", " ", " c ", "", "```"].map String.toList) ∧
      ∃ f, s'.outcome defaultLang = .ok f ∧ f.lines = "```lua".toList :: (ds ++ [fence]) := by
  intro s ds s'
  have hlang : '\n' ∉ defaultLang := by decide
  have hbody : ∀ t ∈ s.body, '\n' ∉ t := by decide
  have hbody' : ∀ t ∈ s'.body, '\n' ∉ t := by decide
  have hds : List.Forall₂ Text.Indented ds s'.body :=
    .cons ⟨' ', ' ', by decide, by decide, rfl⟩ <| .cons ⟨'\t', ' ', by decide, by decide, rfl⟩ <|
      .cons ⟨'\u00A0', '\t', by decide, by decide, rfl⟩ <|
      .cons ⟨' ', ' ', by decide, by decide, rfl⟩ <|
      .cons ⟨'\u3000', '\u3000', by decide, by decide, rfl⟩ .nil
  obtain ⟨f, code, hf, hcode, hlines, -⟩ := outcome_sample rfl hlang hbody
  obtain ⟨f', code', hf', -, hlines', hrecovered⟩ := outcome_sample rfl hlang hbody'
  obtain rfl := hrecovered ds hds
  obtain rfl := eq_code_of_dedented hcode
  exact ⟨⟨rfl, rfl, hlang, hbody, hbody', hds⟩, ⟨f, hf, hlines.trans (by decide)⟩, f', hf',
    hlines'⟩

end Segment

end DocBlock
