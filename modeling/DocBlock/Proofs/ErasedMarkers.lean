/-
# The markers that a heading loses

Two rules say where a tag stands on a line.  The tag of the line is read at a marker with the whole
identifier behind it.  The heading loses its tag at every marker behind which the characters of the
identifier stand in any letter case, whatever comes next.  The rules agree where the identifier is
spelled in ASCII and ends there; they differ where it goes on (`@sig2`) and where a letter outside
ASCII folds to a letter of the identifier (the long s).

This file says what becomes of each marker of a line and when the two rules agree on it.
-/
import DocBlock.Document
import DocBlock.Proofs.FirstTag
import DocBlock.Proofs.Headings

namespace DocBlock

namespace Text

/-- The heading loses the tag at a marker with the given text behind it. -/
def ErasedAt (g : Tag) (v : Text) : Prop := g.ident <+: v.map foldCase

/-- The identifier behind a marker, taken as far as it goes, is that of the tag in some letter
case. -/
def ReadAt (g : Tag) (v : Text) : Prop := (v.takeWhile isIdentChar).map Char.toLower = g.ident

instance (g : Tag) (v : Text) : Decidable (ErasedAt g v) :=
  inferInstanceAs (Decidable (g.ident <+: v.map foldCase))

instance (g : Tag) (v : Text) : Decidable (ReadAt g v) :=
  inferInstanceAs (Decidable ((v.takeWhile isIdentChar).map Char.toLower = g.ident))

/-! ## The two rules at one marker -/

section Rules

variable {g : Tag} {v : Text}

lemma erasedAt_iff_spellsTag :
    ErasedAt g v ↔ SpellsTag g.ident (tagMarker :: v.take g.ident.length) := by
  rw [ErasedAt, List.prefix_iff_eq_take, SpellsTag, List.map_cons, List.cons.injEq, List.map_take,
    eq_comm]
  simp [foldCase_eq_tagMarker_iff]

/-- Letters outside ASCII are the only ones for which the two rules treat letter case
differently. -/
lemma foldCase_eq_toLower {c : Char} (hc : isIdentChar c) : foldCase c = c.toLower := by
  have hs : c ≠ '\u017F' := by rintro rfl; exact absurd hc (by decide)
  have hk : c ≠ '\u212A' := by rintro rfl; exact absurd hc (by decide)
  rw [foldCase, if_neg hs, if_neg hk]

lemma map_foldCase_eq_map_toLower {i : Text} (hi : ∀ c ∈ i, isIdentChar c) :
    i.map foldCase = i.map Char.toLower :=
  List.map_congr_left fun c hc => foldCase_eq_toLower (hi c hc)

/-- A marker is read as a tag if it is erased with it and the identifier is spelled in ASCII and
does not go on. -/
lemma readAt_iff : ReadAt g v ↔ ErasedAt g v ∧ (∀ c ∈ v.take g.ident.length, isIdentChar c) ∧
    ¬ StartsIdent (v.drop g.ident.length) := by
  have hcut := takeWhile_append_eq_left_iff (i := v.take g.ident.length)
    (t := v.drop g.ident.length)
  rw [List.take_append_drop] at hcut
  constructor
  · intro h
    have hident : ∀ c ∈ v.takeWhile isIdentChar, isIdentChar c := fun _ hc =>
      List.mem_takeWhile_imp hc
    have hlen : (v.takeWhile isIdentChar).length = g.ident.length := by
      rw [← List.length_map Char.toLower, h]
    have htake : v.takeWhile isIdentChar = v.take g.ident.length := by
      rw [← hlen]
      exact List.prefix_iff_eq_take.1 (List.takeWhile_prefix isIdentChar)
    refine ⟨?_, hcut.1 htake⟩
    rw [erasedAt_iff_spellsTag, SpellsTag, ← htake, List.map_cons,
      map_foldCase_eq_map_toLower hident, h]
    rfl
  · rintro ⟨herased, hexact⟩
    rw [ReadAt, hcut.2 hexact, ← map_foldCase_eq_map_toLower hexact.1]
    exact (List.cons.inj (erasedAt_iff_spellsTag.1 herased)).2

example : ErasedAt .signature "\u017Fig".toList ∧ ¬ ReadAt .signature "\u017Fig".toList := by decide

end Rules

/-! ## Markers that stay -/

lemma isWhite_of_isIdentChar {c : Char} (h : isIdentChar c) : isWhite c = false := by
  unfold isIdentChar Char.isAlphanum Char.isAlpha Char.isUpper Char.isLower Char.isDigit at h
  simp only [Char.reduceVal, ge_iff_le, UInt32.le_iff_toNat_le, UInt32.reduceToNat,
    Char.toNat_val, Bool.decide_and, Bool.or_eq_true, Bool.and_eq_true, decide_eq_true_eq, isWhite,
    whiteSpaceRanges, List.any_cons, List.any_nil, Bool.or_false, Bool.or_eq_false_iff,
    Bool.and_eq_false_imp, decide_eq_false_iff_not, not_le] at h ⊢
  omega

/-- A tag is found only where a marker stands behind white space. -/
lemma dropSpacedTag?_eq_none_of_head {ident : Text} {c : Char} (hc : isWhite c = false)
    (hmarker : c ≠ tagMarker) (t : Text) : dropSpacedTag? ident (c :: t) = none := by
  rw [Option.eq_none_iff_forall_ne_some]
  intro rest hrest
  obtain ⟨w, m, v, hcover, hw, hm, -⟩ := dropSpacedTag?_eq_some_iff.1 hrest
  obtain ⟨n, rfl, -⟩ := hm.exists_cons
  cases w with
  | nil => exact hmarker (List.cons.inj hcover).1
  | cons d w =>
    rw [(List.cons.inj hcover).1, hw d List.mem_cons_self] at hc
    exact Bool.false_ne_true hc.symm

lemma eraseTag_ident_append (ident : Text) {i : Text} (hi : ∀ c ∈ i, isIdentChar c) (t : Text) :
    eraseTag ident (i ++ t) = i ++ eraseTag ident t := by
  induction i with
  | nil => rfl
  | cons c i ih =>
    have hc := hi c List.mem_cons_self
    have hmarker : c ≠ tagMarker := by
      rintro rfl
      exact absurd hc (by decide)
    rw [List.cons_append, eraseTag_cons_of_eq_none
      (dropSpacedTag?_eq_none_of_head (isWhite_of_isIdentChar hc) hmarker _),
      ih fun d hd => hi d (List.mem_cons_of_mem c hd), List.cons_append]

section Kept

variable {g : Tag} {v : Text}

lemma SpellsTag.append_ne {m : Text} (hm : SpellsTag g.ident m) (h : ¬ ErasedAt g v) (r : Text) :
    m ++ r ≠ tagMarker :: v := by
  intro hcover
  obtain ⟨n, rfl, hn⟩ := hm.exists_cons
  obtain rfl : n ++ r = v := (List.cons.inj hcover).2
  exact h ⟨r.map foldCase, by rw [List.map_append, hn]⟩

/-- No occurrence of the tag reaches over a marker that stays. -/
lemma dropSpacedTag?_append_tagMarker (hident : tagMarker ∉ g.ident) (h : ¬ ErasedAt g v)
    (u : Text) : dropSpacedTag? g.ident (u ++ tagMarker :: v) =
      (dropSpacedTag? g.ident u).map (· ++ tagMarker :: v) := by
  cases hdrop : dropSpacedTag? g.ident u with
  | some rest =>
    obtain ⟨w, m, b, rfl, hw, hm, rfl⟩ := dropSpacedTag?_eq_some_iff.1 hdrop
    have hstart := trimStart_append_of_head (isWhite_of_mem_head?_tagMarker_cons v) b
    exact dropSpacedTag?_eq_some_iff.2
      ⟨w, m, b ++ tagMarker :: v, by simp, hw, hm, hstart.symm⟩
  | none =>
    rw [Option.map_none, Option.eq_none_iff_forall_ne_some]
    intro rest hrest
    obtain ⟨w, m, r, hcover, hw, hm, -⟩ := dropSpacedTag?_eq_some_iff.1 hrest
    rcases List.append_eq_append_iff.1 hcover with ⟨a, rfl, ha⟩ | ⟨a, rfl, ha⟩
    · -- the occurrence stands behind `u`: at the marker, or with the marker as white space
      cases a with
      | nil => exact hm.append_ne h r ha.symm
      | cons c a =>
        obtain ⟨rfl, -⟩ := List.cons.inj ha
        exact tagMarker_not_mem_of_white hw (by simp)
    · by_cases hnil : a = []
      · exact hm.append_ne h r (by rw [ha, hnil, List.nil_append])
      · obtain ⟨b, rfl, -⟩ := hm.exists_eq_append hident ha hnil
        rw [dropSpacedTag?_eq_some_iff.2 ⟨w, m, b, rfl, hw, hm, rfl⟩] at hdrop
        exact Option.some_ne_none _ hdrop

/-- What is erased in front of a marker that stays is independent of what is erased behind it. -/
lemma eraseTag_append_tagMarker (hident : tagMarker ∉ g.ident) (h : ¬ ErasedAt g v) (u : Text) :
    eraseTag g.ident (u ++ tagMarker :: v) =
      eraseTag g.ident u ++ tagMarker :: eraseTag g.ident v := by
  induction hlen : u.length using Nat.strong_induction_on generalizing u with
  | _ k ih =>
    have happend := dropSpacedTag?_append_tagMarker hident h u
    cases u with
    | nil => rw [List.nil_append, eraseTag_cons_of_eq_none happend, eraseTag, List.nil_append]
    | cons c u =>
      cases hdrop : dropSpacedTag? g.ident (c :: u) with
      | none =>
        rw [hdrop, List.cons_append] at happend
        rw [List.cons_append, eraseTag_cons_of_eq_none happend, eraseTag_cons_of_eq_none hdrop,
          ih u.length (by simp at hlen; omega) u rfl, List.cons_append]
      | some rest =>
        rw [hdrop] at happend
        have hlt := length_lt_of_dropSpacedTag?_eq_some hdrop
        rw [eraseTag_of_dropSpacedTag?_eq_some happend, eraseTag_of_dropSpacedTag?_eq_some hdrop,
          ih rest.length (hlen ▸ hlt) rest rfl]

/-- A marker that stays, stays with its identifier. -/
lemma trim_eraseTag_of_not_erasedAt (hident : tagMarker ∉ g.ident) (h : ¬ ErasedAt g v)
    (u : Text) : (eraseTag g.ident (u ++ tagMarker :: v)).trim =
      (eraseTag g.ident u).trimStart ++ tagMarker ::
        (v.takeWhile isIdentChar ++ (eraseTag g.ident (v.dropWhile isIdentChar)).trimEnd) := by
  have hi : ∀ c ∈ v.takeWhile isIdentChar, isIdentChar c := fun _ hc => List.mem_takeWhile_imp hc
  have hsplit : eraseTag g.ident v =
      v.takeWhile isIdentChar ++ eraseTag g.ident (v.dropWhile isIdentChar) := by
    rw [← eraseTag_ident_append g.ident hi, List.takeWhile_append_dropWhile]
  have hlast : ∀ c ∈ ((eraseTag g.ident u).trimStart ++
      tagMarker :: v.takeWhile isIdentChar).getLast?, isWhite c = false := by
    intro c hc
    rw [List.getLast?_append_cons] at hc
    rcases List.mem_cons.1 (List.mem_of_mem_getLast? hc) with rfl | hc
    · exact isWhite_tagMarker
    · exact isWhite_of_isIdentChar (hi c hc)
  rw [eraseTag_append_tagMarker hident h, hsplit, trim,
    trimStart_append_of_head (isWhite_of_mem_head?_tagMarker_cons _), ← List.cons_append,
    ← List.append_assoc, trimEnd_append_of_last hlast, List.append_assoc, List.cons_append]

end Kept

end Text

/-! ## The markers of a line -/

namespace Segment

/-- **What becomes of the markers of a line.**  The heading loses the tag that the line is read by.
Every other marker goes with what spells the tag behind it, or it stays with its identifier.  The
markers that go are those that are read as the tag, letter case ignored, exactly if none of them
has a longer identifier or one that is spelled with a letter outside ASCII. -/
theorem heading_markers {g : Tag} (hg : g = .name ∨ g = .signature) {l : Line}
    (htag : l.text.tag? = some g) (ls : List Line) :
    (∃ u v, Text.IsFirstTag l.text u g.ident v ∧ Text.ErasedAt g (g.ident ++ v)) ∧
      (∀ u v, l.text = u ++ tagMarker :: v →
        (Text.ErasedAt g v → heading ⟨some g, l :: ls⟩ g = (Text.eraseTag g.ident u).trim ++
          (Text.eraseTag g.ident (v.drop g.ident.length)).trim) ∧
        (¬ Text.ErasedAt g v → heading ⟨some g, l :: ls⟩ g =
          (Text.eraseTag g.ident u).trimStart ++ tagMarker :: (v.takeWhile isIdentChar ++
            (Text.eraseTag g.ident (v.dropWhile isIdentChar)).trimEnd)) ∧
        (Text.ReadAt g v → Text.ErasedAt g v)) ∧
      ((∀ u v, l.text = u ++ tagMarker :: v → Text.ErasedAt g v → Text.ReadAt g v) ↔
        ∀ u v, l.text = u ++ tagMarker :: v → Text.ErasedAt g v →
          (∀ c ∈ v.take g.ident.length, isIdentChar c) ∧
            ¬ Text.StartsIdent (v.drop g.ident.length)) := by
  have hknown : g ∈ Tag.known := by rcases hg with rfl | rfl <;> decide
  have hident : tagMarker ∉ g.ident := by rcases hg with rfl | rfl <;> decide
  have hheading : heading ⟨some g, l :: ls⟩ g = (Text.eraseTag g.ident l.text).trim := rfl
  refine ⟨?_, ?_, ?_⟩
  · obtain ⟨u, i, v, hfirst, rfl⟩ := Text.tag?_eq_some_iff.1 htag
    refine ⟨u, v, by rwa [Tag.ident_ofIdent], v.map foldCase, ?_⟩
    rw [List.map_append, Tag.map_foldCase_ident hknown]
  · intro u v hl
    rw [hheading, hl]
    refine ⟨fun h => ?_, fun h => Text.trim_eraseTag_of_not_erasedAt hident h u,
      fun h => (Text.readAt_iff.1 h).1⟩
    have hsplit : tagMarker :: v =
        (tagMarker :: v.take g.ident.length) ++ v.drop g.ident.length := by
      rw [List.cons_append, List.take_append_drop]
    rw [hsplit, Text.trim_eraseTag_append hident (Text.erasedAt_iff_spellsTag.1 h)]
  · -- the rules differ at a marker only by the two conditions
    have hread : ∀ v, Text.ErasedAt g v → (Text.ReadAt g v ↔
        (∀ c ∈ v.take g.ident.length, isIdentChar c) ∧
          ¬ Text.StartsIdent (v.drop g.ident.length)) := fun v h => by
      rw [Text.readAt_iff, and_iff_right h]
    exact forall_congr' fun u => forall_congr' fun v => imp_congr_right fun _ =>
      imp_congr_right fun h => hread v h

/-- A line with a marker that stays and two that go, one of them in capitals. -/
theorem heading_markers_capitals :
    let l : Line := ⟨4, "@sig f @x1 @SIG b".toList⟩
    (Tag.signature = .name ∨ Tag.signature = .signature) ∧ l.text.tag? = some .signature ∧
      (l.text = "@sig f ".toList ++ tagMarker :: "x1 @SIG b".toList ∧
        ¬ Text.ErasedAt .signature "x1 @SIG b".toList ∧
        heading ⟨some .signature, [l]⟩ .signature =
          (Text.eraseTag Tag.signature.ident "@sig f ".toList).trimStart ++ tagMarker ::
            ("x1".toList ++ (Text.eraseTag Tag.signature.ident " @SIG b".toList).trimEnd)) ∧
      l.text = "@sig f @x1 ".toList ++ tagMarker :: "SIG b".toList ∧
        Text.ErasedAt .signature "SIG b".toList ∧ Text.ReadAt .signature "SIG b".toList ∧
        heading ⟨some .signature, [l]⟩ .signature =
          (Text.eraseTag Tag.signature.ident "@sig f @x1 ".toList).trim ++
            (Text.eraseTag Tag.signature.ident " b".toList).trim := by
  intro l
  have htag : l.text.tag? = some .signature := by decide
  obtain ⟨-, hmarkers, -⟩ := heading_markers (Or.inr rfl) htag []
  have hkept : l.text = "@sig f ".toList ++ tagMarker :: "x1 @SIG b".toList := by decide
  have hlost : l.text = "@sig f @x1 ".toList ++ tagMarker :: "SIG b".toList := by decide
  have hstays : ¬ Text.ErasedAt .signature "x1 @SIG b".toList := by decide
  have hgoes : Text.ErasedAt .signature "SIG b".toList := by decide
  exact ⟨Or.inr rfl, htag, ⟨hkept, hstays, (hmarkers _ _ hkept).2.1 hstays⟩, hlost, hgoes,
    by decide, (hmarkers _ _ hlost).1 hgoes⟩

/-- A marker with a longer identifier, which is a tag without a meaning, does not stay. -/
theorem heading_markers_longer_identifier :
    let l : Line := ⟨1, "@sig f @sig2".toList⟩
    l.text.tag? = some .signature ∧ l.text = "@sig f ".toList ++ tagMarker :: "sig2".toList ∧
      Text.tag? (tagMarker :: "sig2".toList) = some (.other "sig2".toList) ∧
      ¬ Text.ReadAt .signature "sig2".toList ∧ Text.ErasedAt .signature "sig2".toList ∧
      (ofLines [l]).outcome defaultLang = .ok "###### *f2*".toList := by
  intro l
  have hspells : Text.SpellsTag Tag.signature.ident "@sig".toList := by rw [Text.SpellsTag]; decide
  have hlast : Text.CutAtTags Tag.signature.ident ['2'] [['2']] := .last (by decide)
  have hcut : Text.CutAtTags Tag.signature.ident l.text [[], " f ".toList, ['2']] :=
    .cons (show ¬ Text.HasTag Tag.signature.ident [] by decide) hspells
      (.cons (show ¬ Text.HasTag Tag.signature.ident " f ".toList by decide) hspells hlast)
  have hident : tagMarker ∉ Tag.signature.ident := by decide
  have hheading : (Text.eraseTag Tag.signature.ident l.text).trim = "f2".toList :=
    (hcut.trim_eraseTag hident).trans (by decide)
  refine ⟨by decide, by decide, by decide, by decide, by decide, ?_⟩
  show Except.ok ("###### *".toList ++ (Text.eraseTag Tag.signature.ident l.text).trim ++ ['*']) = _
  rw [hheading]
  rfl

end Segment

end DocBlock
