/-
# Fences

A Markdown reader takes the lines behind an opening fence for code, up to the next line that closes
the block: a line of as many backticks at least, behind three spaces at most and in front of spaces
and tabs only.  The fences around a sample have three backticks, whatever its code is.  So the block
is closed by the first line of the code that is such a line itself, and what stands behind it is
read as Markdown.

Whether a line of the body does this is decided after it has lost one level of indentation.  That
brings backticks within reach of the margin that were too far to the right before.
-/
import DocBlock.Proofs.Samples

namespace DocBlock

namespace Text

/-! ## Runs of a character -/

section Runs

variable {x : Char}

/-- A text is the run that it starts with and the rest. -/
lemma replicate_append_dropWhile (x : Char) (t : Text) :
    List.replicate (t.takeWhile (· = x)).length x ++ t.dropWhile (· = x) = t := by
  have hrun : t.takeWhile (· = x) = List.replicate (t.takeWhile (· = x)).length x :=
    List.eq_replicate_iff.2 ⟨rfl, fun c hc => by simpa using List.mem_takeWhile_imp hc⟩
  rw [← hrun, List.takeWhile_append_dropWhile]

variable {u : Text} (hu : ∀ c ∈ u.head?, c ≠ x) (k : ℕ)
include hu

lemma takeWhile_replicate_append :
    (List.replicate k x ++ u).takeWhile (· = x) = List.replicate k x := by
  have hstop : u.takeWhile (· = x) = [] := by
    cases u with
    | nil => rfl
    | cons c u => exact List.takeWhile_cons_of_neg (by simpa using hu c rfl)
  rw [List.takeWhile_append_of_pos (by simp), hstop, List.append_nil]

lemma dropWhile_replicate_append : (List.replicate k x ++ u).dropWhile (· = x) = u := by
  rw [List.dropWhile_append_of_pos (by simp)]
  cases u with
  | nil => rfl
  | cons c u => exact List.dropWhile_cons_of_neg (by simpa using hu c rfl)

end Runs

end Text

/-! ## Fenced blocks of code in Markdown -/

namespace Markdown

/-- A line that closes a block of code whose opening fence has `n` backticks. -/
def IsClosingFence (n : ℕ) (t : Text) : Prop :=
  (t.takeWhile (· = ' ')).length ≤ 3 ∧
    n ≤ ((t.dropWhile (· = ' ')).takeWhile (· = '`')).length ∧
    ((t.dropWhile (· = ' ')).dropWhile (· = '`')).all (· ∈ [' ', '\t'])

instance (n : ℕ) (t : Text) : Decidable (IsClosingFence n t) :=
  inferInstanceAs (Decidable (_ ∧ _ ∧ _))

/-- The number of backticks of an opening fence: three at least, behind three spaces at most.  What
stands behind them names the language and has no backtick in it. -/
def openingFence? (t : Text) : Option ℕ :=
  let n := ((t.dropWhile (· = ' ')).takeWhile (· = '`')).length
  if (t.takeWhile (· = ' ')).length ≤ 3 ∧ 3 ≤ n ∧
      '`' ∉ (t.dropWhile (· = ' ')).dropWhile (· = '`') then some n
  else none

/-- The lines that a reader takes for code in a text that starts with an opening fence. -/
def fencedCode? (t : Text) : Option (List Text) :=
  match t.lines with
  | [] => none
  | l :: ls => (openingFence? l).map fun n => ls.takeWhile fun u => ¬ IsClosingFence n u

lemma isClosingFence_iff {n : ℕ} (hn : 0 < n) {t : Text} :
    IsClosingFence n t ↔ ∃ i k w, i ≤ 3 ∧ n ≤ k ∧ (∀ c ∈ w, c ∈ [' ', '\t']) ∧
      t = List.replicate i ' ' ++ (List.replicate k '`' ++ w) := by
  constructor
  · rintro ⟨hi, hk, hw⟩
    refine ⟨_, _, _, hi, hk, by simpa using hw, ?_⟩
    rw [Text.replicate_append_dropWhile, Text.replicate_append_dropWhile]
  · rintro ⟨i, k, w, hi, hk, hw, rfl⟩
    have hticks : ∀ c ∈ (List.replicate k '`' ++ w).head?, c ≠ ' ' := by
      obtain ⟨m, rfl⟩ : ∃ m, k = m + 1 := Nat.exists_eq_add_one.2 (hn.trans_le hk)
      simp [List.replicate_succ]
    have hblank : ∀ c ∈ w.head?, c ≠ '`' := by
      rintro c hc rfl
      exact absurd (hw '`' (List.mem_of_mem_head? hc)) (by decide)
    rw [IsClosingFence, Text.takeWhile_replicate_append hticks,
      Text.dropWhile_replicate_append hticks, Text.takeWhile_replicate_append hblank,
      Text.dropWhile_replicate_append hblank, List.length_replicate, List.length_replicate,
      List.all_eq_true]
    exact ⟨hi, hk, fun c hc => decide_eq_true (hw c hc)⟩

/-- Of some lines that follow an opening fence of `n` backticks, the last one closes the block, and
no other does. -/
def ClosedByLast (n : ℕ) (ls : List Text) : Prop :=
  ∀ us t vs, ls = us ++ t :: vs → (IsClosingFence n t ↔ vs = [])

lemma closedByLast_concat_iff {n : ℕ} {t : Text} (ht : IsClosingFence n t) {ts : List Text} :
    ClosedByLast n (ts ++ [t]) ↔ ∀ u ∈ ts, ¬ IsClosingFence n u := by
  constructor
  · intro h u hu hclosing
    obtain ⟨us, vs, rfl⟩ := List.append_of_mem hu
    have hnil := (h us u (vs ++ [t]) (by simp)).1 hclosing
    simp at hnil
  · intro h us u vs hcover
    rcases List.eq_nil_or_concat' vs with rfl | ⟨vs, v, rfl⟩
    · obtain ⟨-, hu⟩ := List.append_inj' hcover rfl
      rw [← List.singleton_inj.1 hu]
      simpa using ht
    · rw [← List.cons_append, ← List.append_assoc] at hcover
      obtain ⟨rfl, -⟩ := List.append_inj' hcover rfl
      simpa using h u (by simp)

lemma isClosingFence_fence : IsClosingFence 3 fence := by decide

/-- A line that closes the block does not belong to the code. -/
lemma takeWhile_concat {n : ℕ} {t : Text} (ht : IsClosingFence n t) (ts : List Text) :
    (ts ++ [t]).takeWhile (fun u => ¬ IsClosingFence n u) =
      ts.takeWhile fun u => ¬ IsClosingFence n u := by
  have hstop : [t].takeWhile (fun u => ¬ IsClosingFence n u) = [] :=
    List.takeWhile_cons_of_neg (by simpa using ht)
  rw [List.takeWhile_append, hstop, List.append_nil]
  split_ifs with hlength
  · exact ((List.takeWhile_prefix _).eq_of_length hlength).symm
  · rfl

/-- The line in front of a sample is an opening fence. -/
lemma openingFence?_fence_append {lang : Text} (h : '`' ∉ lang) :
    openingFence? (fence ++ lang) = some 3 := by
  have hlang : ∀ c ∈ lang.head?, c ≠ '`' := by
    rintro c hc rfl
    exact h (List.mem_of_mem_head? hc)
  have htake : (fence ++ lang).takeWhile (· = ' ') = [] := rfl
  have hdrop : (fence ++ lang).dropWhile (· = ' ') = List.replicate 3 '`' ++ lang := rfl
  rw [openingFence?, htake, hdrop, Text.takeWhile_replicate_append hlang,
    Text.dropWhile_replicate_append hlang]
  exact if_pos ⟨by decide, by decide, h⟩

end Markdown

open Markdown

namespace Text

/-! ## Lines that close a block too early -/

/-- White space in front of backticks that leaves three spaces at most when it has lost one level of
indentation. -/
def NearMargin (w : Text) : Prop :=
  w = [] ∨ w = [' '] ∨ ∃ a b i, isWhite a ∧ isWhite b ∧ i ≤ 3 ∧ w = a :: b :: List.replicate i ' '

/-- A line of a body that closes the block of code when it has lost one level of indentation. -/
def ClosesEarly (t : Text) : Prop :=
  ∃ w k v, NearMargin w ∧ 3 ≤ k ∧ (∀ c ∈ v, c ∈ [' ', '\t']) ∧
    t = w ++ (List.replicate k '`' ++ v)

lemma closesEarly_iff {t : Text} : ClosesEarly t ↔ IsClosingFence 3 t.dedent := by
  rw [isClosingFence_iff (by decide)]
  constructor
  · rintro ⟨w, k, v, hw, hk, hv, rfl⟩
    obtain ⟨k, rfl⟩ : ∃ m, k = m + 1 := Nat.exists_eq_add_one.2 (by omega)
    have htick : ¬ isWhite '`' := by decide
    rcases hw with rfl | rfl | ⟨a, b, i, ha, hb, hi, rfl⟩
    · refine ⟨0, k + 1, v, by decide, hk, hv, (Dedented.eq_dedent (Or.inr ⟨?_, rfl⟩)).symm⟩
      rintro e ⟨a, b, ha, -, he⟩
      obtain rfl : '`' = a := (List.cons.inj he).1
      exact htick ha
    · refine ⟨1, k + 1, v, by decide, hk, hv, (Dedented.eq_dedent (Or.inr ⟨?_, rfl⟩)).symm⟩
      rintro e ⟨a, b, -, hb, he⟩
      obtain rfl : '`' = b := (List.cons.inj (List.cons.inj he).2).1
      exact htick hb
    · exact ⟨i, k + 1, v, hi, hk, hv, dedent_cons_cons ha hb _⟩
  · rintro ⟨i, k, v, hi, hk, hv, hd⟩
    rcases dedented_dedent t with ⟨a, b, ha, hb, ht⟩ | ⟨hplain, ht⟩
    · refine ⟨a :: b :: List.replicate i ' ', k, v, Or.inr (Or.inr ⟨a, b, i, ha, hb, hi, rfl⟩),
        hk, hv, ?_⟩
      rw [ht, hd]
      rfl
    · rw [ht] at hd
      refine ⟨List.replicate i ' ', k, v, ?_, hk, hv, hd⟩
      -- two spaces would be a level of indentation
      match i with
      | 0 => exact Or.inl rfl
      | 1 => exact Or.inr (Or.inl rfl)
      | i + 2 => exact absurd ⟨' ', ' ', by decide, by decide, hd⟩ (hplain _)

instance (t : Text) : Decidable (ClosesEarly t) := decidable_of_iff _ closesEarly_iff.symm

end Text

/-! ## The fences around a sample -/

namespace Segment

variable {lang : Text} {s : Segment}

lemma forall_not_closesEarly_iff :
    (∀ t ∈ s.body, ¬ t.ClosesEarly) ↔ ∀ t ∈ Text.joinedLines s.code, ¬ IsClosingFence 3 t := by
  have hcode : (∀ t ∈ s.body, ¬ t.ClosesEarly) ↔ ∀ t ∈ s.code, ¬ IsClosingFence 3 t := by
    simp only [code, List.forall_mem_map, Text.closesEarly_iff]
  rw [hcode]
  cases s.code with
  | nil => exact ⟨fun _ => by decide, fun _ => by simp⟩
  | cons t ts => rfl

/-- **What the fences around a sample enclose.**  A Markdown reader takes the code up to its first
line that is a closing fence itself.  The last line of the fragment is the only one that closes the
block, and the reader gets the whole code, exactly if no line of the body closes the block when it
has lost one level of indentation. -/
theorem outcome_sample_fenced (htag : s.tag = some .sample) (hlang : '\n' ∉ lang ∧ '`' ∉ lang)
    (hbody : ∀ t ∈ s.body, '\n' ∉ t) :
    ∃ f, s.outcome lang = .ok f ∧
      fencedCode? f =
        some ((Text.joinedLines s.code).takeWhile fun t => ¬ IsClosingFence 3 t) ∧
      (ClosedByLast 3 f.lines.tail ↔ ∀ t ∈ s.body, ¬ t.ClosesEarly) ∧
      (fencedCode? f = some (Text.joinedLines s.code) ↔ ∀ t ∈ s.body, ¬ t.ClosesEarly) := by
  have hlines := lines_sampleFragment (s := s) hlang.1 hbody
  have hread : fencedCode? (s.sampleFragment lang) =
      some ((Text.joinedLines s.code).takeWhile fun t => ¬ IsClosingFence 3 t) := by
    simp only [fencedCode?, hlines, openingFence?_fence_append hlang.2, Option.map_some,
      takeWhile_concat isClosingFence_fence]
  refine ⟨s.sampleFragment lang, ?_, hread, ?_, ?_⟩
  · rw [outcome, htag]
  · rw [hlines, List.tail_cons, closedByLast_concat_iff isClosingFence_fence,
      forall_not_closesEarly_iff]
  · rw [hread, Option.some_inj, List.takeWhile_eq_self_iff, forall_not_closesEarly_iff]
    simp only [decide_eq_true_eq]

/-- Backticks that close nothing: with a word behind them, too far to the right, or too few. -/
theorem outcome_sample_fenced_harmless_backticks :
    let s : Segment := ⟨some .sample, [⟨1, "@example".toList⟩, ⟨2, "  ```lua".toList⟩,
      ⟨3, "\t     ``` ".toList⟩, ⟨4, " ``".toList⟩, ⟨5, "   `````x`".toList⟩]⟩
    (s.tag = some .sample ∧ ('\n' ∉ defaultLang ∧ '`' ∉ defaultLang) ∧ ∀ t ∈ s.body, '\n' ∉ t) ∧
      ∃ f, s.outcome defaultLang = .ok f ∧ ClosedByLast 3 f.lines.tail ∧ fencedCode? f =
        some (["```lua", "    ``` ", " ``", " `````x`"].map String.toList) := by
  intro s
  have hlang : '\n' ∉ defaultLang ∧ '`' ∉ defaultLang := by decide
  have hbody : ∀ t ∈ s.body, '\n' ∉ t := by decide
  have hharmless : ∀ t ∈ s.body, ¬ t.ClosesEarly := by decide
  obtain ⟨f, hf, -, hclosed, hread⟩ := outcome_sample_fenced rfl hlang hbody
  exact ⟨⟨rfl, hlang, hbody⟩, f, hf, hclosed.2 hharmless, hread.2 hharmless⟩

/-- A text in the code has a line of three backticks.  It closes the block, so the reader gets one
line of the code, and what stands behind is no code to him. -/
theorem outcome_sample_own_fence :
    let s : Segment := .ofLines (Text.numberedLines "@example\n  s = [[\n  ```\n  ]]".toList)
    s.tag = some .sample ∧ ('\n' ∉ defaultLang ∧ '`' ∉ defaultLang) ∧
      (∀ l ∈ s.lines, '\n' ∉ l.text) ∧ s.code = ["s = [[", "```", "]]"].map String.toList ∧
      ∃ f, s.outcome defaultLang = .ok f ∧
        f.lines.tail = ["s = [["].map String.toList ++ fence :: ["]]".toList, fence] ∧
        IsClosingFence 3 fence ∧ ¬ ClosedByLast 3 f.lines.tail ∧
        fencedCode? f = some (["s = [["].map String.toList) := by
  intro s
  refine ⟨by decide, by decide, by decide, by decide, "```lua\ns = [[\n```\n]]\n```".toList,
    by decide, by decide, isClosingFence_fence, ?_, by decide⟩
  intro h
  have hnil := (h ["s = [[".toList] fence ["]]".toList, fence] (by decide)).1 isClosingFence_fence
  simp at hnil

end Segment

end DocBlock
