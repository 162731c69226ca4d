/-
# Prose

A description is written on several lines and shown as running text.  The lines are joined by spaces
and a blank line becomes a newline character, so the newline characters of the fragment are the
blank lines of the description, and between two of them stands one paragraph.  The space characters
that are put in and the indentation that is taken away are white space at the ends of lines: they
separate words and belong to none, so each paragraph has the words of its lines.

The equation `map_words_lines_intercalate` says this for all paragraphs at once, as an equation
between two lists.  The number of the newline characters follows from the lengths of the lists.
-/
import DocBlock.Fragment
import DocBlock.Proofs.SourceLines

namespace DocBlock

namespace Text

/-- The words of a text: its longest stretches without white space. -/
def words (t : Text) : List Text := (t.splitOnP isWhite).filter (· ≠ [])

/-- A text of white space only. -/
def isBlank (t : Text) : Bool := t.all isWhite

/-! ## Words -/

@[simp]
lemma words_nil : words [] = [] := rfl

/-- White space keeps words apart. -/
lemma words_append_cons {c : Char} (hc : isWhite c) (s t : Text) :
    words (s ++ c :: t) = words s ++ words t := by
  rw [words, List.splitOnP_append_cons s t hc, List.filter_append]
  rfl

lemma words_trimStart (t : Text) : words t.trimStart = words t := by
  induction t with
  | nil => rfl
  | cons c t ih =>
    by_cases hc : isWhite c
    · have hstart : trimStart (c :: t) = trimStart t := List.dropWhile_cons_of_pos hc
      have hwords : words (c :: t) = words t := words_append_cons hc [] t
      rw [hstart, hwords, ih]
    · have hstart : trimStart (c :: t) = c :: t := List.dropWhile_cons_of_neg hc
      rw [hstart]

/-! ## Lines of prose -/

lemma trimStart_eq_nil_iff {t : Text} : t.trimStart = [] ↔ t.isBlank := by
  rw [trimStart, List.dropWhile_eq_nil_iff, isBlank, List.all_eq_true]

lemma proseLine_of_isBlank {t : Text} (h : t.isBlank) : t.proseLine = ['\n'] :=
  if_pos (trimStart_eq_nil_iff.2 h)

lemma proseLine_of_not_isBlank {t : Text} (h : ¬ t.isBlank) : t.proseLine = t.trimStart :=
  if_neg (mt trimStart_eq_nil_iff.1 h)

lemma newline_not_mem_trimStart {t : Text} (h : '\n' ∉ t) : '\n' ∉ t.trimStart :=
  fun hmem => h ((List.dropWhile_sublist isWhite).mem hmem)

lemma lines_append_of_not_mem {s : Text} (hs : '\n' ∉ s) (t : Text) :
    lines (s ++ t) = (lines t).modifyHead (s ++ ·) := by
  induction s with
  | nil => exact (congrFun List.modifyHead_id _).symm
  | cons c s ih =>
    rw [List.mem_cons, not_or] at hs
    rw [List.cons_append, lines_cons, if_neg (Ne.symm hs.1), ih hs.2, List.modifyHead_modifyHead]
    rfl

/-- A text of one line in front of a space adds its words to those of the line behind the space. -/
lemma map_words_lines_append {s : Text} (hs : '\n' ∉ s) (t : Text) :
    (lines (s ++ ' ' :: t)).map words = ((lines t).map words).modifyHead (words s ++ ·) := by
  have hsplit : lines (s ++ ' ' :: t) = (lines t).modifyHead ((s ++ [' ']) ++ ·) := by
    rw [List.append_cons]
    exact lines_append_of_not_mem (by simpa using hs) t
  obtain ⟨u, us, hu⟩ := List.exists_cons_of_ne_nil (lines_ne_nil t)
  have hspace : isWhite ' ' := by decide
  rw [hsplit, hu, List.modifyHead_cons, List.map_cons, List.map_cons, List.modifyHead_cons,
    ← List.append_cons, words_append_cons hspace]

/-! ## Paragraphs -/

lemma map_words_lines_proseLine {t : Text} (ht : '\n' ∉ t) :
    (lines t.proseLine).map words = if t.isBlank then [[], []] else [words t] := by
  split_ifs with hblank
  · rw [proseLine_of_isBlank hblank]
    rfl
  · rw [proseLine_of_not_isBlank hblank, lines_eq_singleton (newline_not_mem_trimStart ht),
      List.map_singleton, words_trimStart]

/-- The fragment of one line more. -/
lemma map_words_lines_cons {t : Text} (ht : '\n' ∉ t) (s : Text) :
    (lines (t.proseLine ++ ' ' :: s)).map words =
      if t.isBlank then [] :: (lines s).map words
      else ((lines s).map words).modifyHead (words t ++ ·) := by
  split_ifs with hblank
  · -- the space behind the newline character belongs to no word
    have hspace := map_words_lines_append (s := []) List.not_mem_nil s
    rw [proseLine_of_isBlank hblank, List.singleton_append, lines_cons, if_pos rfl, List.map_cons,
      ← List.nil_append (' ' :: s), hspace]
    exact congrArg _ (congrFun List.modifyHead_id _)
  · rw [proseLine_of_not_isBlank hblank, map_words_lines_append (newline_not_mem_trimStart ht),
      words_trimStart]

/-- **The words of the paragraphs** are the words of the lines between blank lines. -/
theorem map_words_lines_intercalate {ts : List Text} (h : ∀ t ∈ ts, '\n' ∉ t) :
    (lines ([' '].intercalate (ts.map proseLine))).map words =
      (ts.splitOnP isBlank).map (List.flatMap words) := by
  induction ts with
  | nil => rfl
  | cons t ts ih =>
    have ht : '\n' ∉ t := h t List.mem_cons_self
    have ih := ih fun u hu => h u (List.mem_cons_of_mem t hu)
    have hwords : (List.splitOnP isBlank (t :: ts)).map (List.flatMap words) =
        if t.isBlank then [] :: (ts.splitOnP isBlank).map (List.flatMap words)
        else ((ts.splitOnP isBlank).map (List.flatMap words)).modifyHead (words t ++ ·) := by
      obtain ⟨us, uss, hus⟩ := List.exists_cons_of_ne_nil (List.splitOnP_ne_nil isBlank ts)
      rw [List.splitOnP_cons_eq_if_modifyHead, hus]
      split_ifs <;> simp
    rw [hwords, ← ih]
    cases ts with
    | nil =>
      rw [List.map_singleton, List.intercalate_singleton, map_words_lines_proseLine ht]
      simp [lines]
    | cons u us =>
      rw [List.map_cons, List.map_cons, List.intercalate_cons_cons, List.append_assoc,
        List.singleton_append, map_words_lines_cons ht, ← List.map_cons]

lemma count_newline_intercalate {ts : List Text} (h : ∀ t ∈ ts, '\n' ∉ t) :
    ([' '].intercalate (ts.map proseLine)).count '\n' = ts.countP isBlank := by
  have hlength := congrArg List.length (map_words_lines_intercalate h)
  rw [List.length_map, List.length_map, length_lines, length_splitOnP] at hlength
  exact Nat.succ.inj hlength

end Text

/-- **A description keeps its words and its paragraphs.**  There is a newline character for each
blank line, and between two of them stand the words of the lines between two blank lines. -/
theorem Segment.outcome_description (lang : Text) (s : Segment) (htag : s.tag = some .description)
    (hbody : ∀ t ∈ s.body, '\n' ∉ t) :
    ∃ f, s.outcome lang = .ok f ∧ f.count '\n' = s.body.countP Text.isBlank ∧
      (s.body.splitOnP Text.isBlank).length = s.body.countP Text.isBlank + 1 ∧
      (Text.lines f).map Text.words =
        (s.body.splitOnP Text.isBlank).map (List.flatMap Text.words) := by
  refine ⟨s.descriptionFragment, ?_, Text.count_newline_intercalate hbody,
    Text.length_splitOnP _ _, Text.map_words_lines_intercalate hbody⟩
  rw [outcome, htag]

/-- Blank lines at the start, at the end and in a row, and white space outside ASCII. -/
theorem Segment.outcome_description_blank_lines :
    let s : Segment := ⟨some .description, [⟨1, "@desc x".toList⟩, ⟨2, [' ']⟩,
      ⟨3, "  a\u2003b ".toList⟩, ⟨4, ['c']⟩, ⟨5, []⟩, ⟨6, ['\u3000']⟩, ⟨7, "\td".toList⟩, ⟨8, []⟩]⟩
    (s.tag = some .description ∧ ∀ t ∈ s.body, '\n' ∉ t) ∧
      ∃ f, s.outcome [] = .ok f ∧ f.count '\n' = 4 ∧
        (Text.lines f).map Text.words = [[], [['a'], ['b'], ['c']], [], [['d']], []] := by
  intro s
  have hbody : ∀ t ∈ s.body, '\n' ∉ t := by decide
  obtain ⟨f, hf, hcount, -, hwords⟩ := Segment.outcome_description [] s rfl hbody
  exact ⟨⟨rfl, hbody⟩, f, hf, hcount.trans (by decide), hwords.trans (by decide)⟩

end DocBlock
