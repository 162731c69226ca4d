/-
# Tag lines

What the parts of a tag line come to when the line is read: the white space in front of the tag, the
tag itself and the text behind it.  The tag of a line is found at its first marker, and the heading
on it is what is left when every occurrence of the tag is erased.  An occurrence is a stretch of the
line whose characters fold to the marker and the identifier.
-/
import DocBlock.Fragment
import Mathlib

namespace DocBlock

namespace Text

/-! ## White space at the ends -/

lemma isWhite_tagMarker : isWhite tagMarker = false := by decide

lemma isWhite_of_mem_head?_tagMarker_cons (t : Text) :
    ∀ c ∈ (tagMarker :: t).head?, isWhite c = false := by
  simpa using isWhite_tagMarker

lemma tagMarker_not_mem_of_white {w : Text} (hw : ∀ c ∈ w, isWhite c) : tagMarker ∉ w := by
  intro hmem
  have := hw tagMarker hmem
  rw [isWhite_tagMarker] at this
  exact Bool.false_ne_true this

lemma trimStart_eq_self {t : Text} (h : ∀ c ∈ t.head?, isWhite c = false) : t.trimStart = t := by
  cases t with
  | nil => rfl
  | cons c t => exact List.dropWhile_cons_of_neg (by simp [h c rfl])

lemma trimStart_append_of_white {w : Text} (hw : ∀ c ∈ w, isWhite c) (t : Text) :
    (w ++ t).trimStart = t.trimStart :=
  List.dropWhile_append_of_pos hw

lemma isWhite_of_mem_head?_trimStart {t : Text} {c : Char} (h : c ∈ t.trimStart.head?) :
    isWhite c = false := by
  have := List.head?_dropWhile_not isWhite t
  rw [← trimStart, Option.mem_def.1 h] at this
  simpa using this

lemma trimEnd_eq_self {t : Text} (h : ∀ c ∈ t.getLast?, isWhite c = false) : t.trimEnd = t := by
  have hr : Text.trimStart t.reverse = t.reverse := trimStart_eq_self (by simpa using h)
  rw [trimEnd, ← trimStart, hr, List.reverse_reverse]

lemma trimEnd_cons_of_not_white {c : Char} (h : isWhite c = false) (t : Text) :
    trimEnd (c :: t) = c :: t.trimEnd := by
  rw [trimEnd, List.reverse_cons, List.dropWhile_append]
  split_ifs with hnil
  · rw [List.isEmpty_iff] at hnil
    simp [trimEnd, hnil, h]
  · rw [List.reverse_append, trimEnd]
    rfl

lemma trim_eq_self {t : Text} (hstart : ∀ c ∈ t.head?, isWhite c = false)
    (hend : ∀ c ∈ t.getLast?, isWhite c = false) : t.trim = t := by
  rw [trim, trimStart_eq_self hstart, trimEnd_eq_self hend]

/-- Trimming the end does not affect how the trimmed text starts. -/
lemma head?_trim (t : Text) : t.trim.head? = t.trimStart.head? := by
  rw [trim]
  cases h : t.trimStart with
  | nil => rfl
  | cons c u =>
    have hc : isWhite c = false := isWhite_of_mem_head?_trimStart (by rw [h]; rfl)
    rw [trimEnd_cons_of_not_white hc]
    rfl

lemma trim_append_of_white {w : Text} (hw : ∀ c ∈ w, isWhite c) (t : Text) :
    (w ++ t).trim = t.trim := by
  rw [trim, trimStart_append_of_white hw, trim]

/-! ## The tag of a line -/

/-- Characters in front of the first marker have no part in the tag. -/
lemma tagIdent?_append_of_not_mem {w : Text} (h : tagMarker ∉ w) (t : Text) :
    tagIdent? (w ++ t) = tagIdent? t := by
  induction w with
  | nil => rfl
  | cons c w ih =>
    rw [List.mem_cons, not_or] at h
    rw [List.cons_append, tagIdent?, if_neg (fun hc => h.1 hc.1.symm), ih h.2]

lemma tagIdent?_tagMarker_append {i rest : Text} (hi : ∀ c ∈ i, isIdentChar c) (hne : i ≠ [])
    (hrest : ∀ c ∈ rest.head?, isIdentChar c = false) :
    tagIdent? (tagMarker :: (i ++ rest)) = some i := by
  have htake : (i ++ rest).takeWhile isIdentChar = i := by
    rw [List.takeWhile_append_of_pos hi]
    cases rest with
    | nil => simp
    | cons c rest => simp [hrest c rfl]
  rw [tagIdent?, htake, if_pos ⟨rfl, hne⟩]

end Text

namespace Tag

lemma isIdentChar_of_mem_ident {t : Tag} (ht : t ∈ known) {c : Char} (hc : c ∈ t.ident) :
    isIdentChar c := by
  have h : ∀ t ∈ known, ∀ c ∈ t.ident, isIdentChar c := by simp [known, ident, isIdentChar]
  exact h t ht c hc

lemma ident_ne_nil {t : Tag} (ht : t ∈ known) : t.ident ≠ [] := by
  revert t
  decide

/-- A known tag is what its identifier denotes. -/
lemma ofIdent_ident {t : Tag} (ht : t ∈ known) : ofIdent t.ident = t := by
  revert t
  decide

/-- The identifier of a known tag is in lower case. -/
lemma map_foldCase_ident {t : Tag} (ht : t ∈ known) : t.ident.map foldCase = t.ident := by
  revert t
  decide

end Tag

namespace Text

/-- The tag of a tag line is the one behind its indentation. -/
lemma tag?_of_tagLine {w : Text} {t : Tag} {rest : Text} (hw : ∀ c ∈ w, isWhite c)
    (ht : t ∈ Tag.known) (hrest : ∀ c ∈ rest.head?, isIdentChar c = false) :
    tag? (w ++ (tagMarker :: (t.ident ++ rest))) = some t := by
  have hmarker : tagMarker ∉ w := by
    intro h
    have := hw tagMarker h
    rw [isWhite_tagMarker] at this
    exact Bool.false_ne_true this
  rw [tag?, tagIdent?_append_of_not_mem hmarker,
    tagIdent?_tagMarker_append (fun c hc => Tag.isIdentChar_of_mem_ident ht hc)
      (Tag.ident_ne_nil ht) hrest, Option.map_some, Tag.ofIdent_ident ht]

/-! ## Erasing a tag -/

/-- A word is dropped together with any way to write it. -/
lemma dropWord?_eq_some_iff {w t rest : Text} :
    dropWord? w t = some rest ↔ ∃ u, t = u ++ rest ∧ u.map foldCase = w := by
  induction w generalizing t with
  | nil => simp [dropWord?, eq_comm]
  | cons x w ih =>
    cases t with
    | nil => simp [dropWord?]
    | cons c t =>
      rw [dropWord?]
      constructor
      · intro h
        split_ifs at h with hc
        obtain ⟨u, rfl, rfl⟩ := ih.1 h
        exact ⟨c :: u, rfl, by rw [List.map_cons, hc]⟩
      · rintro ⟨u, hu, hw⟩
        cases u with
        | nil => simp at hw
        | cons d u =>
          rw [List.cons_append, List.cons.injEq] at hu
          rw [List.map_cons, List.cons.injEq] at hw
          obtain ⟨rfl, rfl⟩ := hu
          rw [if_pos hw.1]
          exact ih.2 ⟨u, rfl, hw.2⟩

/-- A text contains a tag if the marker and the identifier occur in it, letter case ignored. -/
def HasTag (ident t : Text) : Prop := (tagMarker :: ident) <:+: t.map foldCase

lemma hasTag_of_dropSpacedTag?_eq_some {ident t rest : Text}
    (h : dropSpacedTag? ident t = some rest) : HasTag ident t := by
  obtain ⟨u, hu, -⟩ := Option.map_eq_some_iff.1 h
  obtain ⟨v, hv, hfold⟩ := dropWord?_eq_some_iff.1 hu
  -- what is dropped, `v`, stands behind the white space at the start of `t`
  have hsuffix : v ++ u <:+ t := hv ▸ List.dropWhile_suffix isWhite
  have hmap : (v ++ u).map foldCase <:+ t.map foldCase := hsuffix.map foldCase
  rw [List.map_append, hfold] at hmap
  exact (List.prefix_append _ _).isInfix.trans hmap.isInfix

/-- A text without a tag is left as it is. -/
lemma eraseTag_eq_self {ident t : Text} (h : ¬ HasTag ident t) : eraseTag ident t = t := by
  induction t with
  | nil => rw [eraseTag]
  | cons c t ih =>
    have ht : ¬ HasTag ident t := fun hi => h (hi.trans (List.suffix_cons _ _).isInfix)
    rw [eraseTag]
    split
    · next rest hrest => exact absurd (hasTag_of_dropSpacedTag?_eq_some hrest) h
    · rw [ih ht]

lemma eraseTag_of_dropSpacedTag?_eq_some {ident t rest : Text}
    (h : dropSpacedTag? ident t = some rest) : eraseTag ident t = eraseTag ident rest := by
  cases t with
  | nil =>
    -- something has been dropped, so the text is not empty
    exact absurd (length_lt_of_dropSpacedTag?_eq_some h) (by simp)
  | cons c t =>
    rw [eraseTag]
    split
    · next r hr =>
      rw [h, Option.some.injEq] at hr
      rw [hr]
    · next hnone => simp [h] at hnone

/-- The tag at the start of a tag line is erased with the white space around it. -/
lemma eraseTag_of_tagLine {w v : Text} {t : Tag} {rest : Text} (hw : ∀ c ∈ w, isWhite c)
    (hv : ∀ c ∈ v, isWhite c) (ht : t ∈ Tag.known) (hrest : ∀ c ∈ rest.head?, isWhite c = false) :
    eraseTag t.ident (w ++ (tagMarker :: (t.ident ++ (v ++ rest)))) = eraseTag t.ident rest := by
  apply eraseTag_of_dropSpacedTag?_eq_some
  have hstart : trimStart (tagMarker :: (t.ident ++ (v ++ rest))) =
      tagMarker :: (t.ident ++ (v ++ rest)) :=
    trimStart_eq_self fun c hc => by
      obtain rfl : tagMarker = c := by simpa using hc
      exact isWhite_tagMarker
  have hdrop : dropTag? t.ident (tagMarker :: (t.ident ++ (v ++ rest))) = some (v ++ rest) :=
    dropWord?_eq_some_iff.2 ⟨tagMarker :: t.ident, rfl, by
      rw [List.map_cons, Tag.map_foldCase_ident ht]
      rfl⟩
  rw [dropSpacedTag?, trimStart_append_of_white hw, hstart, hdrop, Option.map_some,
    trimStart_append_of_white hv, trimStart_eq_self hrest]

end Text

end DocBlock
