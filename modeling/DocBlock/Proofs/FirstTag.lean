/-
# The tag of a line

The tag of a line is searched from the left: it stands at the first marker that is directly followed
by an identifier character, and its identifier reaches as far as there are such characters.  This
file says the same without a search, by a decomposition of the line into what stands in front of the
tag, the identifier, and what stands behind it.  No line has two such decompositions, and a line has
none exactly if none of its markers is directly followed by an identifier character.

A tag line starts, white space aside, with a marker.  If an identifier follows this marker, no other
marker of the line counts: what stands in front of it is white space.
-/
import DocBlock.Proofs.TagLines

namespace DocBlock

namespace Text

/-- A text that starts with an identifier. -/
def StartsIdent (t : Text) : Prop := ∃ c ∈ t.head?, isIdentChar c

/-- A text in which some marker is directly followed by an identifier. -/
def IsTagged (t : Text) : Prop := ∃ u v, t = u ++ tagMarker :: v ∧ StartsIdent v

/-- The first tag of a text has the identifier `i` and stands between the two other parts of the
text. -/
structure IsFirstTag (t front i rest : Text) : Prop where
  cover : t = front ++ tagMarker :: (i ++ rest)
  nonempty : i ≠ []
  ident : ∀ c ∈ i, isIdentChar c
  maximal : ¬ StartsIdent rest
  leftmost : ¬ IsTagged front

/-! ## Identifiers and markers -/

@[simp]
lemma not_startsIdent_nil : ¬ StartsIdent [] := by simp [StartsIdent]

@[simp]
lemma startsIdent_cons {c : Char} {t : Text} : StartsIdent (c :: t) ↔ isIdentChar c := by
  simp [StartsIdent]

/-- An identifier in front of a marker ends there. -/
lemma startsIdent_append_tagMarker {t u : Text} :
    StartsIdent (t ++ tagMarker :: u) ↔ StartsIdent t := by
  cases t with
  | nil =>
    have hmarker : ¬ isIdentChar tagMarker := by decide
    simp [hmarker]
  | cons c t => simp

lemma startsIdent_append {i : Text} (hi : ∀ c ∈ i, isIdentChar c) (hne : i ≠ []) (t : Text) :
    StartsIdent (i ++ t) := by
  obtain ⟨c, j, rfl⟩ := List.exists_cons_of_ne_nil hne
  exact startsIdent_cons.2 (hi c List.mem_cons_self)

lemma takeWhile_ne_nil_iff {t : Text} : t.takeWhile isIdentChar ≠ [] ↔ StartsIdent t := by
  cases t with
  | nil => simp
  | cons c t => by_cases hc : isIdentChar c <;> simp [hc]

/-- An identifier in front of a text is taken as a whole and nothing else with it. -/
lemma takeWhile_append_eq_left_iff {i t : Text} :
    (i ++ t).takeWhile isIdentChar = i ↔ (∀ c ∈ i, isIdentChar c) ∧ ¬ StartsIdent t := by
  rw [← takeWhile_ne_nil_iff, not_not]
  constructor
  · intro h
    have hi : ∀ c ∈ i, isIdentChar c := fun c hc => List.mem_takeWhile_imp (h.symm ▸ hc)
    rw [List.takeWhile_append_of_pos hi] at h
    exact ⟨hi, by simpa using h⟩
  · rintro ⟨hi, ht⟩
    rw [List.takeWhile_append_of_pos hi, ht, List.append_nil]

/-- What is left behind an identifier does not go on with it. -/
lemma not_startsIdent_dropWhile (t : Text) : ¬ StartsIdent (t.dropWhile isIdentChar) := by
  rintro ⟨c, hc, hident⟩
  have := List.head?_dropWhile_not isIdentChar t
  rw [Option.mem_def.1 hc] at this
  simp [hident] at this

@[simp]
lemma not_isTagged_nil : ¬ IsTagged [] := by
  rintro ⟨u, v, h, -⟩
  simp at h

lemma isTagged_cons_iff {c : Char} {t : Text} :
    IsTagged (c :: t) ↔ c = tagMarker ∧ StartsIdent t ∨ IsTagged t := by
  constructor
  · rintro ⟨u, v, h, hv⟩
    cases u with
    | nil =>
      obtain ⟨rfl, rfl⟩ := List.cons.inj h
      exact Or.inl ⟨rfl, hv⟩
    | cons d u => exact Or.inr ⟨u, v, (List.cons.inj h).2, hv⟩
  · rintro (⟨rfl, h⟩ | ⟨u, v, rfl, hv⟩)
    · exact ⟨[], t, rfl, h⟩
    · exact ⟨c :: u, v, rfl, hv⟩

/-! ## The search, one character at a time -/

lemma tagIdent?_of_startsIdent {t : Text} (h : StartsIdent t) :
    tagIdent? (tagMarker :: t) = some (t.takeWhile isIdentChar) := by
  rw [tagIdent?, if_pos ⟨rfl, takeWhile_ne_nil_iff.2 h⟩]

lemma tagIdent?_cons_of_not {c : Char} {t : Text} (h : ¬ (c = tagMarker ∧ StartsIdent t)) :
    tagIdent? (c :: t) = tagIdent? t := by
  rw [← takeWhile_ne_nil_iff] at h
  rw [tagIdent?, if_neg h]

/-- The search finds something wherever there is something to be found. -/
theorem tagIdent?_eq_none_iff {t : Text} : tagIdent? t = none ↔ ¬ IsTagged t := by
  induction t with
  | nil => simp [tagIdent?]
  | cons c t ih =>
    rw [isTagged_cons_iff]
    by_cases h : c = tagMarker ∧ StartsIdent t
    · obtain ⟨rfl, ht⟩ := h
      simp [tagIdent?_of_startsIdent ht, ht]
    · rw [tagIdent?_cons_of_not h, ih]
      simp only [h, false_or]

/-- Markers that no identifier follows have no part in the search. -/
lemma tagIdent?_append_of_not_isTagged {front t : Text} (h : ¬ IsTagged front) :
    tagIdent? (front ++ tagMarker :: t) = tagIdent? (tagMarker :: t) := by
  induction front with
  | nil => rfl
  | cons c front ih =>
    rw [isTagged_cons_iff, not_or] at h
    rw [List.cons_append, tagIdent?_cons_of_not, ih h.2]
    rw [startsIdent_append_tagMarker]
    exact h.1

/-! ## The first tag -/

namespace IsFirstTag

variable {t front i rest : Text}

lemma tagIdent?_eq (h : IsFirstTag t front i rest) : tagIdent? t = some i := by
  rw [h.cover, tagIdent?_append_of_not_isTagged h.leftmost]
  apply tagIdent?_tagMarker_append h.ident h.nonempty
  intro c hc
  by_contra hident
  exact h.maximal ⟨c, hc, by simpa using hident⟩

/-- The tag that stands at the front of a text. -/
lemma of_startsIdent {u : Text} (hfront : ¬ IsTagged front) (hu : StartsIdent u) :
    IsFirstTag (front ++ tagMarker :: u) front (u.takeWhile isIdentChar)
      (u.dropWhile isIdentChar) where
  cover := by rw [List.takeWhile_append_dropWhile]
  nonempty := takeWhile_ne_nil_iff.2 hu
  ident := fun _ hc => List.mem_takeWhile_imp hc
  maximal := not_startsIdent_dropWhile u
  leftmost := hfront

/-- One more character in front of a text, which makes no tag with it. -/
lemma cons {c : Char} (h : IsFirstTag t front i rest) (hc : ¬ (c = tagMarker ∧ StartsIdent t)) :
    IsFirstTag (c :: t) (c :: front) i rest where
  cover := by rw [h.cover, List.cons_append]
  nonempty := h.nonempty
  ident := h.ident
  maximal := h.maximal
  leftmost := by
    rw [isTagged_cons_iff, not_or]
    rw [h.cover, startsIdent_append_tagMarker] at hc
    exact ⟨hc, h.leftmost⟩

/-- A first tag cannot stand in front of another one. -/
lemma eq_nil_of_append (h : IsFirstTag t front i rest) {u v : Text}
    (hcover : t = front ++ u ++ tagMarker :: v) (hleft : ¬ IsTagged (front ++ u)) : u = [] := by
  have hsplit : tagMarker :: (i ++ rest) = u ++ tagMarker :: v := by
    rw [h.cover, List.append_assoc] at hcover
    exact List.append_cancel_left hcover
  cases u with
  | nil => rfl
  | cons c u =>
    rw [List.cons_append, List.cons.injEq] at hsplit
    obtain ⟨rfl, hu⟩ := hsplit
    have hident : StartsIdent (u ++ tagMarker :: v) :=
      hu ▸ startsIdent_append h.ident h.nonempty rest
    exact absurd ⟨front, u, rfl, startsIdent_append_tagMarker.1 hident⟩ hleft

/-- A text has no two first tags. -/
theorem unique {front' i' rest' : Text} (h : IsFirstTag t front i rest)
    (h' : IsFirstTag t front' i' rest') : front = front' ∧ i = i' ∧ rest = rest' := by
  have hi : i = i' := Option.some.inj (h.tagIdent?_eq.symm.trans h'.tagIdent?_eq)
  have hfront : front = front' := by
    have hcover := h.cover.symm.trans h'.cover
    rcases List.append_eq_append_iff.1 hcover with ⟨u, rfl, -⟩ | ⟨u, rfl, -⟩
    · simp [h.eq_nil_of_append h'.cover h'.leftmost]
    · simp [h'.eq_nil_of_append h.cover h.leftmost]
  refine ⟨hfront, hi, ?_⟩
  have hcover := h.cover.symm.trans h'.cover
  rw [hfront, hi] at hcover
  simpa using hcover

end IsFirstTag

/-- The search finds the first tag. -/
theorem tagIdent?_eq_some_iff {t i : Text} :
    tagIdent? t = some i ↔ ∃ front rest, IsFirstTag t front i rest := by
  constructor
  · intro h
    induction t with
    | nil => simp [tagIdent?] at h
    | cons c t ih =>
      by_cases hc : c = tagMarker ∧ StartsIdent t
      · obtain ⟨rfl, ht⟩ := hc
        rw [tagIdent?_of_startsIdent ht, Option.some.injEq] at h
        subst h
        exact ⟨[], _, IsFirstTag.of_startsIdent not_isTagged_nil ht⟩
      · rw [tagIdent?_cons_of_not hc] at h
        obtain ⟨front, rest, hfirst⟩ := ih h
        exact ⟨c :: front, rest, hfirst.cons hc⟩
  · rintro ⟨front, rest, h⟩
    exact h.tagIdent?_eq

theorem tag?_eq_some_iff {t : Text} {g : Tag} :
    tag? t = some g ↔ ∃ front i rest, IsFirstTag t front i rest ∧ g = Tag.ofIdent i := by
  rw [tag?, Option.map_eq_some_iff]
  constructor
  · rintro ⟨i, hi, rfl⟩
    obtain ⟨front, rest, h⟩ := tagIdent?_eq_some_iff.1 hi
    exact ⟨front, i, rest, h, rfl⟩
  · rintro ⟨front, i, rest, h, rfl⟩
    exact ⟨i, h.tagIdent?_eq, rfl⟩

theorem tag?_eq_none_iff {t : Text} : tag? t = none ↔ ¬ IsTagged t := by
  rw [tag?, Option.map_eq_none_iff, tagIdent?_eq_none_iff]

end Text

/-! ## Tags and their identifiers -/

/-- An identifier without a meaning is none of those that have one. -/
lemma Tag.ofIdent_eq_other {i j : Text} (h : Tag.ofIdent i = .other j) :
    j = i ∧ ∀ g ∈ Tag.known, g.ident ≠ i := by
  have hij : j = i := by simpa [h, Tag.ident] using Tag.ident_ofIdent i
  refine ⟨hij, ?_⟩
  rintro g hg rfl
  rw [Tag.ofIdent_ident hg] at h
  -- a tag with a meaning is not one without
  rw [h] at hg
  simp [Tag.known] at hg

/-! ## Tag lines -/

/-- A tag line starts with white space and a marker. -/
lemma Line.isTagLine_iff {l : Line} :
    l.isTagLine ↔ ∃ w u, (∀ c ∈ w, isWhite c) ∧ l.text = w ++ tagMarker :: u := by
  rw [Line.isTagLine, decide_eq_true_eq, Text.head?_trim]
  constructor
  · intro h
    obtain ⟨u, hu⟩ := List.head?_eq_some_iff.1 h
    refine ⟨l.text.takeWhile isWhite, u, fun _ hc => List.mem_takeWhile_imp hc, ?_⟩
    rw [← hu, Text.trimStart, List.takeWhile_append_dropWhile]
  · rintro ⟨w, u, hw, hl⟩
    rw [hl, Text.trimStart_append_of_white hw,
      Text.trimStart_eq_self (Text.isWhite_of_mem_head?_tagMarker_cons u)]
    rfl

lemma Text.not_isTagged_of_white {w : Text} (hw : ∀ c ∈ w, isWhite c) : ¬ IsTagged w := by
  rintro ⟨u, v, rfl, -⟩
  exact tagMarker_not_mem_of_white hw (by simp)

namespace Text

/-- **The tag of a text is its first tag.**  It is found if there is one, and it is the only one
that satisfies the description.  An identifier that is not in the list of those with a meaning is
kept as it is written, so the tag tells identifiers apart.  On a tag line the marker behind the
indentation counts, if an identifier follows it. -/
theorem tag?_exact :
    (∀ t g, tag? t = some g ↔ ∃ front i rest, IsFirstTag t front i rest ∧ g = Tag.ofIdent i) ∧
      (∀ t front i rest front' i' rest', IsFirstTag t front i rest →
        IsFirstTag t front' i' rest' → front = front' ∧ i = i' ∧ rest = rest') ∧
      (∀ t, tag? t = none ↔ ¬ IsTagged t) ∧
      (∀ t i, tag? t = some (.other i) →
        i ≠ [] ∧ (∀ c ∈ i, isIdentChar c) ∧ ∀ g ∈ Tag.known, g.ident ≠ i) ∧
      (∀ i j, i ≠ j → Tag.ofIdent i ≠ Tag.ofIdent j) ∧
      (∀ l : Line, l.isTagLine ↔ ∃ w u, (∀ c ∈ w, isWhite c) ∧ l.text = w ++ tagMarker :: u) ∧
      ∀ (l : Line) (w u : Text), (∀ c ∈ w, isWhite c) → l.text = w ++ tagMarker :: u →
        StartsIdent u →
        IsFirstTag l.text w (u.takeWhile isIdentChar) (u.dropWhile isIdentChar) ∧
          l.text.tag? = some (Tag.ofIdent (u.takeWhile isIdentChar)) := by
  refine ⟨fun _ _ => tag?_eq_some_iff, fun _ _ _ _ _ _ _ h h' => h.unique h',
    fun _ => tag?_eq_none_iff, ?_, fun _ _ hij h => hij (Tag.ofIdent_injective h),
    fun _ => Line.isTagLine_iff, ?_⟩
  · intro t i h
    obtain ⟨front, j, rest, hfirst, hother⟩ := tag?_eq_some_iff.1 h
    obtain ⟨rfl, hknown⟩ := Tag.ofIdent_eq_other hother.symm
    exact ⟨hfirst.nonempty, hfirst.ident, hknown⟩
  · intro l w u hw hl hu
    have hfirst := IsFirstTag.of_startsIdent (not_isTagged_of_white hw) hu
    rw [← hl] at hfirst
    exact ⟨hfirst, tag?_eq_some_iff.2 ⟨_, _, _, hfirst, rfl⟩⟩

/-- Markers without an identifier stand in front of the tag and a letter outside ASCII behind it,
and a tag line has a second tag. -/
theorem tag?_exact_bare_markers :
    let t : Text := "a@ @@n1é@sig".toList
    let l : Line := ⟨7, "\u00a0@sig2 @sig".toList⟩
    (IsFirstTag t "a@ @".toList "n1".toList "é@sig".toList ∧
        ∃ front i rest, IsFirstTag t front i rest ∧ "a@ @".toList = front ∧ "n1".toList = i ∧
          "é@sig".toList = rest) ∧
      (tag? t = some (.other "n1".toList) ∧ "n1".toList ≠ [] ∧ ∀ g ∈ Tag.known,
        g.ident ≠ "n1".toList) ∧
      ("sig2".toList ≠ "sig".toList ∧ Tag.ofIdent "sig2".toList ≠ Tag.ofIdent "sig".toList) ∧
      ((∀ c ∈ ['\u00a0'], isWhite c) ∧ l.text = ['\u00a0'] ++ tagMarker :: "sig2 @sig".toList ∧
        StartsIdent "sig2 @sig".toList ∧ l.isTagLine ∧
        l.text.tag? = some (.other "sig2".toList)) := by
  intro t l
  obtain ⟨hsome, hunique, -, hother, hinj, hline, hfirst⟩ := tag?_exact
  have hleft : ¬ IsTagged "a@ @".toList := tagIdent?_eq_none_iff.1 (by decide)
  have hrest : ¬ StartsIdent "é@sig".toList := mt takeWhile_ne_nil_iff.2 (by decide)
  have ht : IsFirstTag t "a@ @".toList "n1".toList "é@sig".toList :=
    ⟨by decide, by decide, by simp [isIdentChar], hrest, hleft⟩
  have htag : tag? t = some (.other "n1".toList) := by decide
  obtain ⟨front, i, rest, h, -⟩ := (hsome t _).1 htag
  have hwhite : ∀ c ∈ ['\u00a0'], isWhite c := List.forall_mem_singleton.2 (by decide)
  have hstart : StartsIdent "sig2 @sig".toList := takeWhile_ne_nil_iff.1 (by decide)
  have hl : l.text = ['\u00a0'] ++ tagMarker :: "sig2 @sig".toList := by decide
  obtain ⟨hne, -, hknown⟩ := hother t _ htag
  exact ⟨⟨ht, front, i, rest, h, hunique t _ _ _ _ _ _ ht h⟩, ⟨htag, hne, hknown⟩,
    ⟨by decide, hinj _ _ (by decide)⟩, hwhite, hl, hstart, (hline l).2 ⟨_, _, hwhite, hl⟩,
    (hfirst l _ _ hwhite hl hstart).2⟩

end Text

end DocBlock
