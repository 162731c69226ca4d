/-
# Source lines and the lines of the text

A source is freed from its carriage returns as a whole before it is cut into lines.  The lines that
come out are those of the text as it stands, each freed from its carriage returns: a carriage return
never makes or joins a line, so the number of a line is its number in the text.
-/
import DocBlock.Block
import Mathlib

namespace DocBlock

/-- What separates the parts of a list is in none of them. -/
lemma not_mem_of_mem_splitOn {α : Type} [BEq α] [LawfulBEq α] {a : α} {xs ys : List α}
    (h : ys ∈ xs.splitOn a) : a ∉ ys := by
  induction xs generalizing ys with
  | nil =>
    obtain rfl : ys = [] := List.mem_singleton.1 h
    exact List.not_mem_nil
  | cons x xs ih =>
    obtain ⟨zs, zss, hz⟩ := List.exists_cons_of_ne_nil (List.splitOn_ne_nil a xs)
    rw [hz] at ih
    rw [List.splitOn_cons_eq_if_modifyHead, hz] at h
    split_ifs at h with hx
    · rcases List.mem_cons.1 h with rfl | h
      · exact List.not_mem_nil
      · exact ih h
    · rcases List.mem_cons.1 h with rfl | h
      · rw [List.mem_cons, not_or]
        exact ⟨fun ha => hx (by simp [ha]), ih List.mem_cons_self⟩
      · exact ih (List.mem_cons_of_mem zs h)

namespace Text

lemma lines_cons (c : Char) (t : Text) :
    lines (c :: t) = if c = '\n' then [] :: lines t else (lines t).modifyHead (c :: ·) := by
  rw [lines, List.splitOn_cons_eq_if_modifyHead]
  simp only [beq_iff_eq]
  rfl

lemma lines_ne_nil (t : Text) : lines t ≠ [] := List.splitOn_ne_nil '\n' t

lemma length_splitOnP {α : Type} (p : α → Bool) (xs : List α) :
    (xs.splitOnP p).length = xs.countP p + 1 := by
  induction xs with
  | nil => simp
  | cons x xs ih =>
    rw [List.splitOnP_cons_eq_if_modifyHead, List.countP_cons]
    split_ifs <;> simp [ih]

/-- A text has one line more than it has newline characters. -/
lemma length_lines (t : Text) : t.lines.length = t.count '\n' + 1 := by
  rw [lines, List.splitOn_eq_splitOnP, length_splitOnP]
  rfl

/-- Cutting a text into lines and joining lines are inverse to each other. -/
lemma lines_intercalate {ts : List Text} (hne : ts ≠ []) (h : ∀ t ∈ ts, '\n' ∉ t) :
    lines (['\n'].intercalate ts) = ts :=
  List.splitOn_intercalate '\n' h hne

/-- A newline character between two texts keeps their lines apart. -/
lemma lines_append_newline (s t : Text) : lines (s ++ '\n' :: t) = lines s ++ lines t :=
  List.splitOn_append_cons_self s t

lemma lines_eq_singleton {t : Text} (h : '\n' ∉ t) : lines t = [t] := by
  simpa using lines_intercalate (List.cons_ne_nil t []) (List.forall_mem_singleton.2 h)

/-- Where two texts meet, the last line of the first and the first line of the second become one
line. -/
lemma exists_lines_append (s t : Text) : ∃ us u v vs,
    lines s = us ++ [u] ∧ lines t = v :: vs ∧ lines (s ++ t) = us ++ (u ++ v) :: vs := by
  obtain ⟨v, vs, ht⟩ := List.exists_cons_of_ne_nil (lines_ne_nil t)
  induction s with
  | nil => exact ⟨[], [], v, vs, rfl, ht, ht⟩
  | cons c s ih =>
    obtain ⟨us, u, v', vs', hs, ht', hst⟩ := ih
    rw [List.cons_append, lines_cons, lines_cons, hs, hst]
    by_cases hc : c = '\n'
    · exact ⟨[] :: us, u, v', vs', by simp [hc], ht', by simp [hc]⟩
    · -- the character goes to the front of the first line, which is `u` if there is no other
      cases us with
      | nil => exact ⟨[], c :: u, v', vs', by simp [hc], ht', by simp [hc]⟩
      | cons w us => exact ⟨(c :: w) :: us, u, v', vs', by simp [hc], ht', by simp [hc]⟩

lemma newline_not_mem_of_mem_lines {t u : Text} (h : u ∈ lines t) : '\n' ∉ u :=
  not_mem_of_mem_splitOn h

lemma dropReturns_cons (c : Char) (t : Text) :
    dropReturns (c :: t) = if c = '\r' then dropReturns t else c :: dropReturns t := by
  by_cases h : c = '\r' <;> simp [dropReturns, h]

lemma dropReturns_eq_self {t : Text} (h : '\r' ∉ t) : dropReturns t = t := by
  rw [dropReturns, List.filter_eq_self]
  rintro c hc
  simpa using fun hr : c = '\r' => h (hr ▸ hc)

/-- Carriage returns can be removed before or after a text is cut into lines. -/
lemma lines_dropReturns (t : Text) : t.dropReturns.lines = t.lines.map dropReturns := by
  induction t with
  | nil => rfl
  | cons c t ih =>
    obtain ⟨u, us, hu⟩ := List.exists_cons_of_ne_nil (lines_ne_nil t)
    rw [hu, List.map_cons] at ih
    rw [dropReturns_cons, lines_cons]
    -- a carriage return counts on neither side, and a line end starts a line on both
    by_cases hr : c = '\r'
    · subst hr
      rw [if_pos rfl, if_neg (by decide), ih, hu]
      rfl
    · rw [if_neg hr, lines_cons, ih, hu]
      by_cases hn : c = '\n'
      · rw [if_pos hn, if_pos hn]
        rfl
      · rw [if_neg hn, if_neg hn]
        simp [dropReturns_cons, hr]

lemma numberedLines_eq_mapIdx (t : Text) :
    t.numberedLines = t.lines.mapIdx fun k u => ⟨k + 1, u⟩ := by
  apply List.ext_getElem?
  intro k
  simp only [numberedLines, List.getElem?_map, List.getElem?_zipIdx, List.getElem?_mapIdx]
  cases t.lines[k]? with
  | none => rfl
  | some u => simp [Nat.add_comm]

lemma map_text_numberedLines (t : Text) : t.numberedLines.map Line.text = t.lines := by
  rw [numberedLines_eq_mapIdx]
  apply List.ext_getElem?
  intro k
  simp [Function.comp_def]

end Text

/-! ## Numbering -/

/-- Lines with the given texts, numbered from `k` upwards. -/
def numberFrom (k : ℕ) (ts : List Text) : List Line := (ts.zipIdx k).map fun x => ⟨x.2, x.1⟩

@[simp]
lemma numberFrom_nil (k : ℕ) : numberFrom k [] = [] := rfl

@[simp]
lemma numberFrom_cons (k : ℕ) (t : Text) (ts : List Text) :
    numberFrom k (t :: ts) = ⟨k, t⟩ :: numberFrom (k + 1) ts := rfl

lemma numberFrom_append (k : ℕ) (ts us : List Text) :
    numberFrom k (ts ++ us) = numberFrom k ts ++ numberFrom (k + ts.length) us := by
  rw [numberFrom, List.zipIdx_append, List.map_append]
  rfl

@[simp]
lemma length_numberFrom (k : ℕ) (ts : List Text) : (numberFrom k ts).length = ts.length := by
  simp [numberFrom]

lemma number_of_mem_numberFrom {k : ℕ} {ts : List Text} {l : Line} (h : l ∈ numberFrom k ts) :
    k ≤ l.number ∧ l.number < k + ts.length := by
  obtain ⟨⟨t, n⟩, hx, rfl⟩ := List.mem_map.1 h
  obtain ⟨hk, hn, -⟩ := List.mem_zipIdx hx
  exact ⟨hk, hn⟩

lemma map_text_numberFrom (k : ℕ) (ts : List Text) : (numberFrom k ts).map Line.text = ts := by
  rw [numberFrom, List.map_map]
  exact List.zipIdx_map_fst k ts

lemma map_number_numberFrom (k : ℕ) (ts : List Text) :
    (numberFrom k ts).map Line.number = List.range' k ts.length := by
  rw [numberFrom, List.map_map]
  exact List.zipIdx_map_snd k ts

/-- Where lines that are numbered in turn are cut, both parts are numbered in turn. -/
lemma numberFrom_eq_append {k : ℕ} {ts : List Text} {ls ms : List Line}
    (h : numberFrom k ts = ls ++ ms) :
    ∃ us vs, ts = us ++ vs ∧ ls = numberFrom k us ∧ ms = numberFrom (k + us.length) vs := by
  have hts : ts = ls.map Line.text ++ ms.map Line.text := by
    rw [← List.map_append, ← h, map_text_numberFrom]
  refine ⟨_, _, hts, ?_⟩
  rw [hts, numberFrom_append] at h
  obtain ⟨hls, hms⟩ := List.append_inj h (by simp)
  exact ⟨hls.symm, hms.symm⟩

/-- The lines of a source are those of its text, each without its carriage returns. -/
lemma sourceLines_eq_numberFrom (source : Text) :
    sourceLines source = numberFrom 1 (source.lines.map Text.dropReturns) := by
  rw [sourceLines, Text.numberedLines, Text.lines_dropReturns, numberFrom]

/-- The lines of a text as it stands, numbered from 1 and each without its carriage returns. -/
def physicalLines (source : Text) : List Line :=
  source.lines.mapIdx fun k t => ⟨k + 1, t.dropReturns⟩

/-- The lines of a source are the lines of its text. -/
lemma sourceLines_eq_physicalLines (source : Text) : sourceLines source = physicalLines source := by
  rw [sourceLines, Text.numberedLines_eq_mapIdx, Text.lines_dropReturns, physicalLines]
  apply List.ext_getElem?
  intro k
  simp only [List.getElem?_mapIdx, List.getElem?_map, Option.map_map]
  rfl

@[simp]
lemma length_physicalLines (source : Text) :
    (physicalLines source).length = source.lines.length := by
  simp [physicalLines]

lemma getElem?_physicalLines_eq_some_iff {source : Text} {k : ℕ} {l : Line} :
    (physicalLines source)[k]? = some l ↔
      l.number = k + 1 ∧ source.lines[k]?.map Text.dropReturns = some l.text := by
  obtain ⟨n, t⟩ := l
  rw [physicalLines, List.getElem?_mapIdx]
  cases source.lines[k]? with
  | none => simp
  | some u => simp [eq_comm]

lemma pairwise_number_physicalLines (source : Text) :
    (physicalLines source).Pairwise fun l m => l.number < m.number := by
  rw [List.pairwise_iff_getElem]
  intro i j hi hj hij
  simp only [physicalLines, List.getElem_mapIdx]
  omega

/-- A source that is joined from lines has these lines. -/
lemma map_text_sourceLines_intercalate {ts : List Text} (hne : ts ≠ [])
    (h : ∀ t ∈ ts, '\n' ∉ t ∧ '\r' ∉ t) :
    (sourceLines (['\n'].intercalate ts)).map Line.text = ts := by
  have hreturns : ts.map Text.dropReturns = ts := by
    conv_rhs => rw [← List.map_id ts]
    exact List.map_congr_left fun t ht => Text.dropReturns_eq_self (h t ht).2
  rw [sourceLines, Text.map_text_numberedLines, Text.lines_dropReturns,
    Text.lines_intercalate hne fun t ht => (h t ht).1, hreturns]

end DocBlock
