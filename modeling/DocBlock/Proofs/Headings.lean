/-
# Headings

A heading is what a line says beside a tag.  The scan that erases the tag goes from the left and
takes the white space around each occurrence along, so the white space between two occurrences goes
with the first of them.  What comes out can be said without a scan: the line is cut at every
occurrence of the tag, the pieces are trimmed, and they are joined again.

Everything rests on the fact that two occurrences do not overlap.  An occurrence starts with the
marker and has no other marker in it, so whatever starts in front of an occurrence ends in front of
it, too (`SpellsTag.exists_eq_append`).
-/
import DocBlock.Fragment
import DocBlock.Proofs.TagLines

namespace DocBlock

namespace Text

/-! ## White space at both ends -/

/-- A text without white space at its ends. -/
structure IsTight (t : Text) : Prop where
  head : ∀ c ∈ t.head?, isWhite c = false
  last : ∀ c ∈ t.getLast?, isWhite c = false

lemma trimStart_append_of_head {t : Text} (ht : ∀ c ∈ t.head?, isWhite c = false) (s : Text) :
    trimStart (s ++ t) = s.trimStart ++ t := by
  rw [trimStart, List.dropWhile_append]
  split_ifs with hs
  · rw [List.isEmpty_iff] at hs
    rw [trimStart, hs]
    exact trimStart_eq_self ht
  · rfl

lemma trimEnd_append_of_last {s : Text} (hs : ∀ c ∈ s.getLast?, isWhite c = false) (t : Text) :
    trimEnd (s ++ t) = s ++ t.trimEnd := by
  have hrev : trimStart (t.reverse ++ s.reverse) = trimStart t.reverse ++ s.reverse :=
    trimStart_append_of_head (by simpa using hs) _
  rw [trimEnd, List.reverse_append, ← trimStart, hrev, List.reverse_append, List.reverse_reverse]
  rfl

lemma trimEnd_append_of_ne_nil {t : Text} (ht : t.trimEnd ≠ []) (s : Text) :
    trimEnd (s ++ t) = s ++ t.trimEnd := by
  have hne : t.reverse.dropWhile isWhite ≠ [] := fun h => ht (by rw [trimEnd, h]; rfl)
  rw [trimEnd, List.reverse_append, List.dropWhile_append, if_neg (by simpa using hne),
    List.reverse_append, List.reverse_reverse]
  rfl

lemma isWhite_of_mem_getLast?_trimEnd {t : Text} {c : Char} (h : c ∈ t.trimEnd.getLast?) :
    isWhite c = false := by
  rw [trimEnd, List.getLast?_reverse] at h
  exact isWhite_of_mem_head?_trimStart h

lemma trimEnd_eq_nil_iff {t : Text} : t.trimEnd = [] ↔ ∀ c ∈ t, isWhite c := by
  rw [trimEnd, List.reverse_eq_nil_iff, List.dropWhile_eq_nil_iff]
  simp only [List.mem_reverse]

/-- White space in front stays as long as something stands behind it. -/
lemma trimEnd_cons_of_not_all {c : Char} {t : Text} (h : ¬ ∀ x ∈ c :: t, isWhite x) :
    trimEnd (c :: t) = c :: t.trimEnd := by
  by_cases hc : isWhite c
  · have ht : t.trimEnd ≠ [] := fun hnil =>
      h (List.forall_mem_cons.2 ⟨hc, trimEnd_eq_nil_iff.1 hnil⟩)
    exact trimEnd_append_of_ne_nil ht [c]
  · exact trimEnd_cons_of_not_white (by simpa using hc) t

lemma takeWhile_append_trimStart (t : Text) : t.takeWhile isWhite ++ t.trimStart = t :=
  List.takeWhile_append_dropWhile

/-- The two ends of a text are trimmed independently. -/
lemma trimStart_trimEnd (t : Text) : t.trimEnd.trimStart = t.trim := by
  have hwhite : ∀ c ∈ t.takeWhile isWhite, isWhite c := fun _ hc => List.mem_takeWhile_imp hc
  have hsplit := takeWhile_append_trimStart t
  rw [trim]
  cases h : t.trimStart with
  | nil =>
    rw [h, List.append_nil] at hsplit
    rw [← hsplit, trimEnd_eq_nil_iff.2 hwhite]
    rfl
  | cons c u =>
    have hc : isWhite c = false := isWhite_of_mem_head?_trimStart (by rw [h]; rfl)
    have hne : trimEnd (c :: u) ≠ [] := by
      rw [trimEnd_cons_of_not_white hc]
      exact List.cons_ne_nil _ _
    conv_lhs => rw [← hsplit, h]
    rw [trimEnd_append_of_ne_nil hne, trimStart_append_of_white hwhite,
      trimEnd_cons_of_not_white hc]
    exact trimStart_eq_self (by simpa using hc)

lemma isTight_trim (t : Text) : t.trim.IsTight where
  head := fun _ hc => isWhite_of_mem_head?_trimStart (by rwa [head?_trim] at hc)
  last := fun _ hc => isWhite_of_mem_getLast?_trimEnd hc

/-- Trimming takes nothing but white space away. -/
lemma exists_eq_append_trim (t : Text) :
    ∃ v w, (∀ c ∈ v, isWhite c) ∧ (∀ c ∈ w, isWhite c) ∧ t = v ++ (t.trim ++ w) := by
  refine ⟨t.takeWhile isWhite, (t.trimStart.reverse.takeWhile isWhite).reverse,
    fun _ hc => List.mem_takeWhile_imp hc, fun _ hc => ?_, ?_⟩
  · exact List.mem_takeWhile_imp (List.mem_reverse.1 hc)
  · rw [trim, trimEnd, ← List.reverse_append, List.takeWhile_append_dropWhile,
      List.reverse_reverse, takeWhile_append_trimStart]

lemma trim_trimEnd_append {t : Text} (ht : ∀ c ∈ t.head?, isWhite c = false) (s : Text) :
    trim (s.trimEnd ++ t) = s.trim ++ t.trim := by
  have hlast : ∀ c ∈ s.trim.getLast?, isWhite c = false := (isTight_trim s).last
  rw [trim, trimStart_append_of_head ht, trimStart_trimEnd, trimEnd_append_of_last hlast,
    trim.eq_1 t, trimStart_eq_self ht]

/-! ## Occurrences of a tag -/

/-- A way to write a tag: the marker and the identifier, letter case ignored. -/
def SpellsTag (ident m : Text) : Prop := m.map foldCase = tagMarker :: ident

/-- No other character folds to the marker. -/
lemma foldCase_eq_tagMarker_iff {c : Char} : foldCase c = tagMarker ↔ c = tagMarker := by
  constructor
  · intro h
    unfold foldCase at h
    split_ifs at h with hs hk
    · exact absurd h (by decide)
    · exact absurd h (by decide)
    · unfold Char.toLower at h
      split_ifs at h with hupper
      · -- a capital becomes a small letter
        have hval := congrArg (fun c => c.val.toNat) h
        have hA := UInt32.le_iff_toNat_le.1 hupper.1
        have hZ := UInt32.le_iff_toNat_le.1 hupper.2
        simp only [tagMarker, Char.reduceVal, UInt32.toNat_add, UInt32.reduceSub,
          UInt32.reduceToNat] at hval hA hZ
        omega
      · exact h
  · rintro rfl
    decide

/-- What stands in front of a character reaches over a stretch without that character. -/
lemma exists_eq_append_of_not_mem {c : Char} {n r a s : Text} (hn : c ∉ n)
    (h : n ++ r = a ++ c :: s) : ∃ b, a = n ++ b ∧ r = b ++ c :: s := by
  rcases List.append_eq_append_iff.1 h with ⟨b, ha, hr⟩ | ⟨b, hn', hs⟩
  · exact ⟨b, ha, hr⟩
  · cases b with
    | nil => exact ⟨[], by simpa using hn'.symm, by simpa using hs.symm⟩
    | cons d b =>
      obtain ⟨rfl, -⟩ := List.cons.inj hs
      exact absurd (by simp [hn']) hn

instance (ident t : Text) : Decidable (HasTag ident t) :=
  inferInstanceAs (Decidable ((tagMarker :: ident) <:+: t.map foldCase))

variable {ident : Text}

lemma hasTag_iff {t : Text} :
    HasTag ident t ↔ ∃ u m v, t = u ++ (m ++ v) ∧ SpellsTag ident m := by
  constructor
  · rintro ⟨u, v, h⟩
    rw [List.append_assoc] at h
    obtain ⟨u', r, rfl, -, hr⟩ := List.map_eq_append_iff.1 h.symm
    obtain ⟨m, v', rfl, hm, -⟩ := List.map_eq_append_iff.1 hr
    exact ⟨u', m, v', rfl, hm⟩
  · rintro ⟨u, m, v, rfl, hm⟩
    rw [HasTag, List.map_append, List.map_append, hm]
    exact ⟨_, _, List.append_assoc ..⟩

namespace SpellsTag

variable {m n : Text}

lemma exists_cons (h : SpellsTag ident m) : ∃ n, m = tagMarker :: n ∧ n.map foldCase = ident := by
  obtain ⟨c, n, rfl, hc, hn⟩ := List.map_eq_cons_iff.1 h
  rw [foldCase_eq_tagMarker_iff] at hc
  exact ⟨n, by rw [hc], hn⟩

lemma length_eq (h : SpellsTag ident m) : m.length = ident.length + 1 := by
  rw [← List.length_map foldCase, h, List.length_cons]

/-- An occurrence in front of a marker ends there. -/
lemma exists_eq_append (hident : tagMarker ∉ ident) (hm : SpellsTag ident m) {r a s : Text}
    (h : m ++ r = a ++ tagMarker :: s) (ha : a ≠ []) :
    ∃ b, a = m ++ b ∧ r = b ++ tagMarker :: s := by
  obtain ⟨n, rfl, hn⟩ := hm.exists_cons
  have hmem : tagMarker ∉ n := fun hmem =>
    hident (hn ▸ List.mem_map.2 ⟨tagMarker, hmem, foldCase_eq_tagMarker_iff.2 rfl⟩)
  obtain ⟨c, a, rfl⟩ := List.exists_cons_of_ne_nil ha
  rw [List.cons_append, List.cons_append, List.cons.injEq] at h
  obtain ⟨rfl, h⟩ := h
  obtain ⟨b, rfl, hr⟩ := exists_eq_append_of_not_mem hmem h
  exact ⟨b, rfl, hr⟩

/-- An occurrence does not start in front of another one that is the first. -/
lemma eq_nil_of_append (hident : tagMarker ∉ ident) (hm : SpellsTag ident m)
    (hn : SpellsTag ident n) {p a s t : Text} (h : m ++ s = a ++ (n ++ t))
    (hfirst : ¬ HasTag ident (p ++ a)) : a = [] := by
  by_contra ha
  obtain ⟨n, rfl, -⟩ := hn.exists_cons
  obtain ⟨b, rfl, -⟩ := hm.exists_eq_append hident h ha
  exact hfirst (hasTag_iff.2 ⟨p, m, b, rfl, hm⟩)

/-- The first occurrence in a text is determined. -/
lemma first_unique (hident : tagMarker ∉ ident) (hm : SpellsTag ident m) (hn : SpellsTag ident n)
    {p q s t : Text} (hp : ¬ HasTag ident p) (hq : ¬ HasTag ident q)
    (h : p ++ (m ++ s) = q ++ (n ++ t)) : p = q ∧ s = t := by
  have hpq : p = q := by
    rcases List.append_eq_append_iff.1 h with ⟨a, rfl, ha⟩ | ⟨a, rfl, ha⟩
    · simp [hm.eq_nil_of_append hident hn ha hq]
    · simp [hn.eq_nil_of_append hident hm ha hp]
  rw [hpq] at h
  have hlen : m.length = n.length := hm.length_eq.trans hn.length_eq.symm
  exact ⟨hpq, (List.append_inj (List.append_cancel_left h) hlen).2⟩

end SpellsTag

/-! ## Cutting a text at a tag -/

/-- The text is cut at every occurrence of a tag: the pieces are what stands in front of the first
occurrence, between two occurrences and behind the last one. -/
inductive CutAtTags (ident : Text) : Text → List Text → Prop
  | last {p : Text} (hp : ¬ HasTag ident p) : CutAtTags ident p [p]
  | cons {p m t : Text} {ps : List Text} (hp : ¬ HasTag ident p) (hm : SpellsTag ident m)
      (h : CutAtTags ident t ps) : CutAtTags ident (p ++ (m ++ t)) (p :: ps)

namespace CutAtTags

variable {s t : Text} {ps qs : List Text}

/-- The two sides of an occurrence can be cut separately. -/
lemma append (h : CutAtTags ident s ps) {m : Text} (hm : SpellsTag ident m)
    (h' : CutAtTags ident t qs) : CutAtTags ident (s ++ (m ++ t)) (ps ++ qs) := by
  induction h with
  | last hp => exact .cons hp hm h'
  | cons hp hn _ ih =>
    rw [List.append_assoc, List.append_assoc]
    exact .cons hp hn ih

lemma unique (hident : tagMarker ∉ ident) (h : CutAtTags ident t ps) (h' : CutAtTags ident t qs) :
    ps = qs := by
  induction h generalizing qs with
  | last hp =>
    cases h' with
    | last _ => rfl
    | cons _ hn _ => exact absurd (hasTag_iff.2 ⟨_, _, _, rfl, hn⟩) hp
  | @cons p m t ps hp hm _ ih =>
    generalize ht : p ++ (m ++ t) = t' at h'
    cases h' with
    | last hq => exact absurd (hasTag_iff.2 ⟨_, _, _, ht.symm, hm⟩) hq
    | cons hq hn h' =>
      obtain ⟨rfl, rfl⟩ := hm.first_unique hident hn hp hq ht
      rw [ih h']

end CutAtTags

theorem exists_cutAtTags (ident t : Text) : ∃ ps, CutAtTags ident t ps := by
  induction hlen : t.length using Nat.strong_induction_on generalizing t with
  | _ k ih =>
    by_cases ht : HasTag ident t
    · -- both sides of an occurrence are shorter than the text
      obtain ⟨u, m, v, rfl, hm⟩ := hasTag_iff.1 ht
      have hpos := hm.length_eq
      simp only [List.length_append] at hlen
      obtain ⟨ps, hps⟩ := ih u.length (by omega) u rfl
      obtain ⟨qs, hqs⟩ := ih v.length (by omega) v rfl
      exact ⟨ps ++ qs, hps.append hm hqs⟩
    · exact ⟨[t], .last ht⟩

/-! ## Erasing a tag -/

lemma dropSpacedTag?_eq_some_iff {t rest : Text} :
    dropSpacedTag? ident t = some rest ↔
      ∃ w m v, t = w ++ (m ++ v) ∧ (∀ c ∈ w, isWhite c) ∧ SpellsTag ident m ∧
        rest = v.trimStart := by
  rw [dropSpacedTag?, Option.map_eq_some_iff]
  constructor
  · rintro ⟨v, hv, rfl⟩
    obtain ⟨m, hm, hspells⟩ := dropWord?_eq_some_iff.1 hv
    refine ⟨t.takeWhile isWhite, m, v, ?_, fun _ hc => List.mem_takeWhile_imp hc, hspells, rfl⟩
    rw [← hm, takeWhile_append_trimStart]
  · rintro ⟨w, m, v, rfl, hw, hm, rfl⟩
    refine ⟨v, dropWord?_eq_some_iff.2 ⟨m, ?_, hm⟩, rfl⟩
    obtain ⟨n, rfl, -⟩ := hm.exists_cons
    rw [trimStart_append_of_white hw]
    exact trimStart_eq_self (isWhite_of_mem_head?_tagMarker_cons _)

lemma eraseTag_cons_of_eq_none {c : Char} {t : Text} (h : dropSpacedTag? ident (c :: t) = none) :
    eraseTag ident (c :: t) = c :: eraseTag ident t := by
  rw [eraseTag]
  split
  · next rest hrest => simp [h] at hrest
  · rfl

/-- In front of the first occurrence nothing is erased but the white space next to it. -/
lemma eraseTag_append (hident : tagMarker ∉ ident) {p m : Text} (hp : ¬ HasTag ident p)
    (hm : SpellsTag ident m) (t : Text) :
    eraseTag ident (p ++ (m ++ t)) = p.trimEnd ++ eraseTag ident t.trimStart := by
  have hspaced : ∀ w, (∀ c ∈ w, isWhite c) →
      eraseTag ident (w ++ (m ++ t)) = eraseTag ident t.trimStart := fun w hw =>
    eraseTag_of_dropSpacedTag?_eq_some
      (dropSpacedTag?_eq_some_iff.2 ⟨w, m, t, rfl, hw, hm, rfl⟩)
  induction p with
  | nil => exact hspaced [] (by simp)
  | cons c p ih =>
    by_cases hwhite : ∀ x ∈ c :: p, isWhite x
    · rw [hspaced _ hwhite, trimEnd_eq_nil_iff.2 hwhite, List.nil_append]
    · have hnone : dropSpacedTag? ident (c :: (p ++ (m ++ t))) = none := by
        rw [Option.eq_none_iff_forall_ne_some]
        intro rest hrest
        obtain ⟨w, n, v, hcover, hw, hn, -⟩ := dropSpacedTag?_eq_some_iff.1 hrest
        rw [← List.cons_append] at hcover
        rcases List.append_eq_append_iff.1 hcover with ⟨a, rfl, -⟩ | ⟨a, ha, hcover⟩
        · exact hwhite fun x hx => hw x (List.mem_append_left _ hx)
        · -- an occurrence behind white space starts in `a`, so `a` is empty
          obtain rfl := hn.eq_nil_of_append hident hm hcover (ha ▸ hp)
          exact hwhite (by simpa [ha] using hw)
      have hp' : ¬ HasTag ident p := fun h => hp (h.trans (List.suffix_cons _ _).isInfix)
      rw [List.cons_append, eraseTag_cons_of_eq_none hnone, ih hp',
        trimEnd_cons_of_not_all hwhite, List.cons_append]

/-- Erasing a tag leaves no white space at the start of a text that has none there. -/
lemma isWhite_of_mem_head?_eraseTag {t : Text} {c : Char}
    (hc : c ∈ (eraseTag ident t.trimStart).head?) : isWhite c = false := by
  induction hlen : t.length using Nat.strong_induction_on generalizing t with
  | _ k ih =>
    cases h : t.trimStart with
    | nil => simp [h, eraseTag] at hc
    | cons d u =>
      rw [h] at hc
      cases hdrop : dropSpacedTag? ident (d :: u) with
      | none =>
        rw [eraseTag_cons_of_eq_none hdrop] at hc
        obtain rfl : d = c := by simpa using hc
        exact isWhite_of_mem_head?_trimStart (by rw [h]; rfl)
      | some rest =>
        rw [eraseTag_of_dropSpacedTag?_eq_some hdrop] at hc
        obtain ⟨w, m, v, hcover, -, hm, rfl⟩ := dropSpacedTag?_eq_some_iff.1 hdrop
        have hle := length_trimStart_le t
        rw [h, hcover] at hle
        simp only [List.length_append, hm.length_eq] at hle
        exact ih v.length (by omega) hc rfl

/-- White space in front of a text has no influence on what is left of it. -/
lemma trim_eraseTag_trimStart (ident t : Text) :
    (eraseTag ident t.trimStart).trim = (eraseTag ident t).trim := by
  induction t with
  | nil => rfl
  | cons c t ih =>
    by_cases hc : isWhite c
    · have hstart : trimStart (c :: t) = trimStart t := List.dropWhile_cons_of_pos hc
      rw [hstart, ih]
      cases hdrop : dropSpacedTag? ident (c :: t) with
      | none =>
        rw [eraseTag_cons_of_eq_none hdrop]
        exact (trim_append_of_white (w := [c]) (by simpa using hc) _).symm
      | some rest =>
        have hdrop' : dropSpacedTag? ident t = some rest := by
          rwa [dropSpacedTag?, hstart, ← dropSpacedTag?] at hdrop
        rw [eraseTag_of_dropSpacedTag?_eq_some hdrop, eraseTag_of_dropSpacedTag?_eq_some hdrop']
    · rw [trimStart_eq_self (by simpa using hc)]

/-- The pieces of a text, trimmed and joined, are what is left when the tag is erased. -/
theorem CutAtTags.trim_eraseTag {t : Text} {ps : List Text} (hident : tagMarker ∉ ident)
    (h : CutAtTags ident t ps) : (eraseTag ident t).trim = (ps.map trim).flatten := by
  induction h with
  | last hp => simp [eraseTag_eq_self hp]
  | cons hp hm _ ih =>
    rw [eraseTag_append hident hp hm,
      trim_trimEnd_append (fun _ hc => isWhite_of_mem_head?_eraseTag hc),
      trim_eraseTag_trimStart, ih, List.map_cons, List.flatten_cons]

/-- Nothing of an occurrence is left, and its two sides do not affect each other. -/
lemma trim_eraseTag_append (hident : tagMarker ∉ ident) {m : Text} (hm : SpellsTag ident m)
    (s t : Text) : (eraseTag ident (s ++ (m ++ t))).trim =
      (eraseTag ident s).trim ++ (eraseTag ident t).trim := by
  obtain ⟨ps, hps⟩ := exists_cutAtTags ident s
  obtain ⟨qs, hqs⟩ := exists_cutAtTags ident t
  rw [(hps.append hm hqs).trim_eraseTag hident, hps.trim_eraseTag hident,
    hqs.trim_eraseTag hident, List.map_append, List.flatten_append]

/-- The text `h` is what the line `t` says beside a tag: it consists of the pieces of the line, each
without the white space at its ends and with everything else. -/
structure SaysBeside (ident t h : Text) (ps : List Text) : Prop where
  cut : CutAtTags ident t ps
  unique : ∀ qs, CutAtTags ident t qs → qs = ps
  everywhere : ∀ u m v, t = u ++ (m ++ v) → SpellsTag ident m →
    ∃ qs rs, CutAtTags ident u qs ∧ CutAtTags ident v rs ∧ ps = qs ++ rs
  joined : h = (ps.map trim).flatten
  tight : IsTight h
  kept : ∀ p ∈ ps, ∃ v w, (∀ c ∈ v, isWhite c) ∧ (∀ c ∈ w, isWhite c) ∧ p = v ++ (p.trim ++ w)

lemma exists_saysBeside (hident : tagMarker ∉ ident) (t : Text) :
    ∃ ps, SaysBeside ident t (eraseTag ident t).trim ps := by
  obtain ⟨ps, hps⟩ := exists_cutAtTags ident t
  refine ⟨ps, hps, fun _ hqs => hqs.unique hident hps, ?_, hps.trim_eraseTag hident,
    isTight_trim _, fun p _ => exists_eq_append_trim p⟩
  rintro u m v rfl hm
  obtain ⟨qs, hqs⟩ := exists_cutAtTags ident u
  obtain ⟨rs, hrs⟩ := exists_cutAtTags ident v
  exact ⟨qs, rs, hqs, hrs, hps.unique hident (hqs.append hm hrs)⟩

end Text

/-- **A heading is its line, cut at the tag and trimmed piece by piece.**  A segment without lines
has an empty heading. -/
theorem Segment.outcome_heading (lang : Text) :
    (outcome lang ⟨some .name, []⟩ = .ok "## ".toList ∧
        outcome lang ⟨some .signature, []⟩ = .ok "###### **".toList) ∧
      ∀ (l : Line) (ls : List Line),
        (∃ h ps, Text.SaysBeside Tag.name.ident l.text h ps ∧
          outcome lang ⟨some .name, l :: ls⟩ = .ok ("## ".toList ++ h)) ∧
        ∃ h ps, Text.SaysBeside Tag.signature.ident l.text h ps ∧
          outcome lang ⟨some .signature, l :: ls⟩ = .ok ("###### *".toList ++ h ++ ['*']) := by
  refine ⟨⟨rfl, rfl⟩, fun l ls => ⟨?_, ?_⟩⟩
  · have hident : tagMarker ∉ Tag.name.ident := by decide
    obtain ⟨ps, hps⟩ := Text.exists_saysBeside hident l.text
    exact ⟨_, ps, hps, rfl⟩
  · have hident : tagMarker ∉ Tag.signature.ident := by decide
    obtain ⟨ps, hps⟩ := Text.exists_saysBeside hident l.text
    exact ⟨_, ps, hps, rfl⟩

end DocBlock
