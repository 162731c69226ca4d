/-
# Placeholders

A template can be cut at its placeholders, in one way and no other: into pieces that contain no
placeholder, with one placeholder between any two neighbours.  To fill the template is to put the
name between the pieces.  So every placeholder is replaced once, the pieces come out as they are,
and it does not matter what the name looks like, alone or together with the text around it.

All of this rests on the first character of a placeholder, which is found nowhere else in it.
Hence no placeholder starts in a piece and goes on in the placeholder behind that piece.
-/
import DocBlock.Program
import DocBlock.Proofs.Append

namespace DocBlock

namespace Template

variable {t u p q : Text} {ps qs : List Text}

/-! ## Cuts -/

/-- The pieces of a template that is cut at its placeholders. -/
structure IsCut (template : Text) (ps : List Text) : Prop where
  /-- There is a piece. -/
  ne_nil : ps ≠ []
  /-- The template is made of the pieces, with a placeholder between any two neighbours. -/
  joined : placeholder.intercalate ps = template
  /-- No piece contains a placeholder. -/
  plain : ∀ p ∈ ps, ¬ placeholder <:+: p

lemma isCut_singleton_iff : IsCut t [p] ↔ p = t ∧ ¬ placeholder <:+: p := by
  constructor
  · intro h
    exact ⟨by simpa using h.joined, h.plain p (List.mem_singleton_self p)⟩
  · rintro ⟨rfl, hp⟩
    exact ⟨by simp, by simp, by simpa using hp⟩

lemma isCut_cons_cons_iff :
    IsCut t (p :: q :: ps) ↔
      ¬ placeholder <:+: p ∧ ∃ u, p ++ (placeholder ++ u) = t ∧ IsCut u (q :: ps) := by
  constructor
  · rintro ⟨-, hjoined, hplain⟩
    rw [List.intercalate_cons_cons, List.append_assoc] at hjoined
    obtain ⟨hp, hrest⟩ := List.forall_mem_cons.1 hplain
    exact ⟨hp, _, hjoined, ⟨List.cons_ne_nil q ps, rfl, hrest⟩⟩
  · rintro ⟨hp, u, rfl, hu⟩
    refine ⟨List.cons_ne_nil _ _, ?_, List.forall_mem_cons.2 ⟨hp, hu.plain⟩⟩
    rw [List.intercalate_cons_cons, hu.joined, List.append_assoc]

/-- Two templates are cut with a placeholder between them. -/
lemma IsCut.append (ht : IsCut t ps) (hu : IsCut u qs) :
    IsCut (t ++ (placeholder ++ u)) (ps ++ qs) := by
  refine ⟨by simp [ht.ne_nil], ?_, ?_⟩
  · rw [intercalate_append ht.ne_nil hu.ne_nil, ht.joined, hu.joined, List.append_assoc]
  · intro p hp
    exact (List.mem_append.1 hp).elim (ht.plain p) (hu.plain p)

/-- Every template can be cut. -/
lemma exists_isCut (t : Text) : ∃ ps, IsCut t ps := by
  induction hn : t.length using Nat.strong_induction_on generalizing t with
  | _ n ih =>
    by_cases h : placeholder <:+: t
    · -- any placeholder will do, since the parts on either side of it are shorter
      obtain ⟨s, u, rfl⟩ := h
      simp only [List.length_append] at hn
      have hlength : 0 < placeholder.length := by decide
      obtain ⟨ps, hps⟩ := ih s.length (by omega) s rfl
      obtain ⟨qs, hqs⟩ := ih u.length (by omega) u rfl
      rw [List.append_assoc]
      exact ⟨ps ++ qs, hps.append hqs⟩
    · exact ⟨[t], isCut_singleton_iff.2 ⟨rfl, h⟩⟩

/-! ## Placeholders do not overlap -/

/-- No placeholder starts in a text and goes on in the placeholder behind it. -/
lemma not_isPrefix_append (hne : p ≠ []) (hp : ¬ placeholder <+: p) (t : Text) :
    ¬ placeholder <+: p ++ (placeholder ++ t) := by
  intro h
  rcases List.prefix_or_prefix_of_prefix h (List.prefix_append p _) with h' | ⟨b, hb⟩
  · exact hp h'
  · cases b with
    | nil => exact hp (by simp [← hb])
    | cons c b =>
      obtain ⟨v, hv⟩ := h
      have hc : c :: b ++ v = placeholder ++ t := by
        rw [← List.append_cancel_left_eq p, ← hv, ← List.append_assoc, hb]
      -- what starts the placeholder behind the text stands in the middle of the first one
      obtain rfl : c = '$' := (List.cons.inj hc).1
      have hmem : '$' ∈ placeholder.tail := by
        rw [← hb, List.tail_append_of_ne_nil hne]
        simp
      exact absurd hmem (by decide)

/-- The first placeholder of a text is where the first piece ends. -/
lemma eq_of_append_eq (hp : ¬ placeholder <:+: p) (hq : ¬ placeholder <:+: q)
    (h : p ++ (placeholder ++ t) = q ++ (placeholder ++ u)) : p = q ∧ t = u := by
  -- what one piece has more than the other would start with a placeholder, or run into one
  have hnil {a v w : Text} (ha : ¬ placeholder <:+: a)
      (heq : placeholder ++ v = a ++ (placeholder ++ w)) : a = [] := by
    by_contra hne
    exact not_isPrefix_append hne (fun hpre => ha hpre.isInfix) w ⟨v, heq⟩
  rcases List.append_eq_append_iff.1 h with ⟨a, rfl, ha⟩ | ⟨a, rfl, ha⟩
  · obtain rfl := hnil (fun hin => hq (hin.trans (List.suffix_append p a).isInfix)) ha
    exact ⟨by simp, by simpa using ha⟩
  · obtain rfl := hnil (fun hin => hp (hin.trans (List.suffix_append q a).isInfix)) ha
    exact ⟨by simp, by simpa using ha.symm⟩

/-- A piece that is the whole template has no placeholder in it, so there is nothing to cut at. -/
lemma IsCut.not_cons_cons {r : Text} {rs : List Text} (h : IsCut t [p]) :
    ¬ IsCut t (q :: r :: rs) := by
  intro h'
  obtain ⟨rfl, hp⟩ := isCut_singleton_iff.1 h
  obtain ⟨-, u, hu, -⟩ := isCut_cons_cons_iff.1 h'
  exact hp ⟨q, u, by rw [List.append_assoc, hu]⟩

/-- A template is cut in one way only. -/
lemma IsCut.unique (hps : IsCut t ps) (hqs : IsCut t qs) : ps = qs := by
  induction ps generalizing t qs with
  | nil => exact absurd rfl hps.ne_nil
  | cons p ps ih =>
    cases qs with
    | nil => exact absurd rfl hqs.ne_nil
    | cons q qs =>
      cases ps with
      | nil =>
        cases qs with
        | nil => rw [(isCut_singleton_iff.1 hps).1, (isCut_singleton_iff.1 hqs).1]
        | cons r qs => exact absurd hqs hps.not_cons_cons
      | cons r ps =>
        cases qs with
        | nil => exact absurd hps hqs.not_cons_cons
        | cons r' qs =>
          obtain ⟨hp, u, rfl, hu⟩ := isCut_cons_cons_iff.1 hps
          obtain ⟨hq, v, hv, hv'⟩ := isCut_cons_cons_iff.1 hqs
          obtain ⟨rfl, rfl⟩ := eq_of_append_eq hp hq hv.symm
          rw [ih hu hv']

/-! ## Filling a template -/

lemma fill_append (name : Text) (hp : ¬ placeholder <:+: p) (t : Text) :
    fill name (p ++ (placeholder ++ t)) = p ++ (name ++ fill name t) := by
  induction p with
  | nil => exact fill_placeholder name t
  | cons c p ih =>
    have hstart : ¬ placeholder <+: c :: p ++ (placeholder ++ t) :=
      not_isPrefix_append (List.cons_ne_nil c p) (fun h => hp h.isInfix) t
    rw [List.cons_append] at hstart ⊢
    rw [fill_cons name hstart, ih fun h => hp (List.infix_cons h), List.cons_append]

/-- A text without a placeholder is left alone. -/
lemma fill_eq_self (name : Text) (hp : ¬ placeholder <:+: p) : fill name p = p := by
  induction p with
  | nil => rfl
  | cons c p ih =>
    rw [fill_cons name fun h => hp h.isInfix, ih fun h => hp (List.infix_cons h)]

/-- The name comes between the pieces. -/
lemma IsCut.fill_eq (h : IsCut t ps) (name : Text) : fill name t = name.intercalate ps := by
  induction ps generalizing t with
  | nil => exact absurd rfl h.ne_nil
  | cons p ps ih =>
    cases ps with
    | nil =>
      obtain ⟨rfl, hp⟩ := isCut_singleton_iff.1 h
      rw [fill_eq_self name hp, List.intercalate_singleton]
    | cons q ps =>
      obtain ⟨hp, u, rfl, hu⟩ := isCut_cons_cons_iff.1 h
      rw [fill_append name hp, ih hu, List.intercalate_cons_cons, List.append_assoc]

/-- **A preamble is its template with the name between the pieces.**  There is one way to cut a
template at its placeholders.  Filling the template joins the pieces by the name, whatever the name
is, and the document is made with the preamble that this gives. -/
theorem preamble_exact (template : Text) :
    (∃! ps, IsCut template ps) ∧
      ∀ ps, IsCut template ps →
        (∀ name, fill name template = name.intercalate ps) ∧
        ∀ (c : CommandLine.Config) (source : Text),
          c.document source template =
            .ofSource ⟨c.lang.getD defaultLang, c.moduleName.intercalate ps⟩ source := by
  obtain ⟨ps, hps⟩ := exists_isCut template
  refine ⟨⟨ps, hps, fun qs hqs => hqs.unique hps⟩, fun qs hqs => ⟨hqs.fill_eq, fun c source => ?_⟩⟩
  rw [CommandLine.Config.document, hqs.fill_eq]

/-- There is a sign in front of one placeholder, and something like a placeholder between the two.
The name makes up a placeholder with what comes before it. -/
theorem preamble_exact_seams :
    let template : Text := "$$\x7bname\x7d$\x7bnam\x7d$\x7bname\x7d".toList
    let ps : List Text := ["$".toList, "$\x7bnam\x7d".toList, []]
    let c : CommandLine.Config := { name := some "\x7bname\x7d".toList }
    IsCut template ps ∧ (∃! qs, IsCut template qs) ∧
      (c.document [] template).markdown =
        "$\x7bname\x7d$\x7bnam\x7d\x7bname\x7d".toList := by
  intro template ps c
  have hcut : IsCut template ps := ⟨by simp [ps], by decide, by decide⟩
  obtain ⟨hunique, hfill⟩ := preamble_exact template
  refine ⟨hcut, hunique, ?_⟩
  rw [(hfill ps hcut).2 c []]
  rfl

end Template

end DocBlock
