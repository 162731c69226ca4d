/-
# Settled command lines

A command line that spells a configuration asks for a document with this configuration, whatever the
spelling.  The items that are read are taken into account one after another.  At any time those that
are left are the settings of the configuration that have not been made so far: none of them is
repeated, each can be made, and nothing is missing at the end.
-/
import DocBlock.Proofs.Spellings
import DocBlock.World
import Mathlib.Data.List.Nodup

namespace DocBlock

namespace CommandLine

/-! ## Settling -/

section

variable {c d : Config} {ss : List Setting} {p : Parameter} {v : Bytes}

/-- The settings of a configuration that are still to be made, when those of another one have been
made. -/
structure Remaining (c d : Config) (ss : List Setting) : Prop where
  /-- No setting is made twice. -/
  nodup : ss.Nodup
  /-- The values that remain are those that are not there. -/
  mem_value : ∀ p v, .value p v ∈ ss ↔ c.value? p = some v ∧ d.value? p = none
  /-- The flag remains if it is not there. -/
  mem_quiet : .quiet ∈ ss ↔ c.quiet = true ∧ d.quiet = false
  /-- The values that are there are right. -/
  value_eq : ∀ p v, d.value? p = some v → c.value? p = some v
  /-- The flag is right, if it is there. -/
  quiet_eq : d.quiet = true → c.quiet = true

lemma Config.mem_settings_value : .value p v ∈ c.settings ↔ c.value? p = some v := by
  have hp : p ∈ [Parameter.file, .output, .preamble, .name, .lang] := by cases p <;> decide
  simp only [Config.settings, List.mem_append, List.mem_filterMap, Option.map_eq_some_iff,
    Setting.value.injEq]
  constructor
  · rintro (⟨q, -, w, hw, rfl, rfl⟩ | h)
    · exact hw
    · split at h <;> simp at h
  · intro h
    exact Or.inl ⟨p, hp, v, h, rfl, rfl⟩

lemma Config.mem_settings_quiet : .quiet ∈ c.settings ↔ c.quiet = true := by
  cases hq : c.quiet <;> simp [Config.settings, hq]

lemma Config.nodup_settings (c : Config) : c.settings.Nodup := by
  refine List.Nodup.append (List.Nodup.filterMap ?_ (by decide)) (by split <;> simp) ?_
  · intro p q s hp hq
    obtain ⟨v, -, rfl⟩ := Option.map_eq_some_iff.1 hp
    obtain ⟨w, -, hw⟩ := Option.map_eq_some_iff.1 hq
    cases hw
    rfl
  · intro s hs hquiet
    obtain ⟨p, -, hp⟩ := List.mem_filterMap.1 hs
    obtain ⟨v, -, rfl⟩ := Option.map_eq_some_iff.1 hp
    split at hquiet <;> simp at hquiet

/-- At first, all settings remain. -/
lemma remaining_of_perm (h : ss.Perm c.settings) : Remaining c {} ss := by
  have hnone : ∀ p, ({} : Config).value? p = none := by
    intro p
    cases p <;> rfl
  refine ⟨h.nodup_iff.2 c.nodup_settings, fun p v => ?_, ?_, ?_, ?_⟩
  · rw [h.mem_iff, Config.mem_settings_value]
    exact (and_iff_left (hnone p)).symm
  · rw [h.mem_iff, Config.mem_settings_quiet]
    exact (and_iff_left rfl).symm
  · intro p v hv
    rw [hnone] at hv
    cases hv
  · intro hquiet
    cases hquiet

/-- The values of the parameters and the flag make up a configuration. -/
lemma Config.ext_value (hvalue : ∀ p, d.value? p = c.value? p) (hquiet : d.quiet = c.quiet) :
    d = c := by
  have hencode : Function.Injective Utf8.encode := by
    intro s t h
    simpa using congrArg Utf8.decode? h
  have hname : d.name = c.name := Option.map_injective hencode (hvalue .name)
  have hlang : d.lang = c.lang := Option.map_injective hencode (hvalue .lang)
  have hfile : d.file = c.file := hvalue .file
  have houtput : d.output = c.output := hvalue .output
  have hpreamble : d.preamble = c.preamble := hvalue .preamble
  cases c
  cases d
  simp_all

/-- If nothing remains, the configuration is complete. -/
lemma Remaining.eq_of_nil (h : Remaining c d []) : d = c := by
  refine Config.ext_value (fun p => ?_) ?_
  · cases hd : d.value? p with
    | some v => rw [h.value_eq p v hd]
    | none =>
      cases hc : c.value? p with
      | none => rfl
      | some v => exact absurd ((h.mem_value p v).2 ⟨hc, hd⟩) (by simp)
  · have hquiet := h.mem_quiet
    have heq := h.quiet_eq
    cases hc : c.quiet <;> cases hd : d.quiet <;> simp_all

/-- After the flag, the other settings remain. -/
lemma Remaining.quiet (h : Remaining c d (.quiet :: ss)) :
    d.quiet = false ∧ Remaining c { d with quiet := true } ss := by
  obtain ⟨hc, hd⟩ := h.mem_quiet.1 List.mem_cons_self
  have hnodup := List.nodup_cons.1 h.nodup
  have hvalue (p : Parameter) : ({ d with quiet := true } : Config).value? p = d.value? p := by
    cases p <;> rfl
  refine ⟨hd, hnodup.2, fun p v => ?_, ?_, fun p v => ?_, fun _ => hc⟩
  · rw [hvalue, ← h.mem_value]
    simp
  · simp [hnodup.1]
  · rw [hvalue]
    exact h.value_eq p v

lemma Config.has_eq_false (h : d.value? p = none) : d.has p = false := by
  cases p <;> simpa [Config.value?, Config.has] using h

/-- A value that a parameter has in one configuration can be put into another one. -/
lemma Config.exists_put_eq_ok (hpaths : c.HasPaths) (hc : c.value? p = some v) (d : Config) :
    ∃ d', d.put p v = .ok d' ∧ d'.quiet = d.quiet ∧
      ∀ q, d'.value? q = if q = p then some v else d.value? q := by
  cases p with
  | file =>
    have hv : v ≠ [] := fun hv => hpaths.file (hv ▸ hc)
    exact ⟨{ d with file := some v }, if_neg hv, rfl, fun q => by cases q <;> rfl⟩
  | output =>
    have hv : v ≠ [] := fun hv => hpaths.output (hv ▸ hc)
    exact ⟨{ d with output := some v }, if_neg hv, rfl, fun q => by cases q <;> rfl⟩
  | preamble =>
    have hv : v ≠ [] := fun hv => hpaths.preamble (hv ▸ hc)
    exact ⟨{ d with preamble := some v }, if_neg hv, rfl, fun q => by cases q <;> rfl⟩
  | name =>
    obtain ⟨t, -, rfl⟩ := Option.map_eq_some_iff.1 hc
    exact ⟨{ d with name := some t }, by rw [put, Utf8.decode?_encode], rfl,
      fun q => by cases q <;> rfl⟩
  | lang =>
    obtain ⟨t, -, rfl⟩ := Option.map_eq_some_iff.1 hc
    exact ⟨{ d with lang := some t }, by rw [put, Utf8.decode?_encode], rfl,
      fun q => by cases q <;> rfl⟩

/-- After a value, the other settings remain. -/
lemma Remaining.value (h : Remaining c d (.value p v :: ss)) (hpaths : c.HasPaths) :
    ∃ d', d.assign p v = .ok d' ∧ Remaining c d' ss := by
  obtain ⟨hc, hd⟩ := (h.mem_value p v).1 List.mem_cons_self
  obtain ⟨hfirst, hnodup⟩ := List.nodup_cons.1 h.nodup
  obtain ⟨d', hput, hquiet, hvalue⟩ := Config.exists_put_eq_ok hpaths hc d
  have hassign : d.assign p v = .ok d' := by
    rw [Config.assign, Config.has_eq_false hd, hput]
    rfl
  refine ⟨d', hassign, hnodup, fun q w => ?_, ?_, fun q w => ?_, ?_⟩
  · rw [hvalue]
    by_cases hq : q = p
    · -- the parameter has its value now, and no other setting gives it one
      subst hq
      refine iff_of_false (fun hmem => ?_) (by simp)
      have hw := ((h.mem_value q w).1 (List.mem_cons_of_mem _ hmem)).1
      rw [hc] at hw
      cases hw
      exact hfirst hmem
    · rw [if_neg hq, ← h.mem_value]
      simp [hq]
  · rw [hquiet, ← h.mem_quiet]
    simp
  · rw [hvalue]
    split_ifs with hq
    · rintro ⟨⟩
      rw [hq, hc]
    · exact h.value_eq q w
  · rw [hquiet]
    exact h.quiet_eq

/-- A detached value is settled unless the argument behind it has no place in a command line. -/
lemma settle_detached {is : List Item} (h : ∀ e, is.head? ≠ some (.stray e)) (d : Config)
    (p : Parameter) (v : Bytes) :
    settle d (.detached p (some v) :: is) = settle d (.attached p v :: is) := by
  cases is with
  | nil => rfl
  | cons i is =>
    cases i with
    | stray e => exact absurd rfl (h e)
    | flag | attached | detached => rfl

/-- Items that say what remains complete the configuration. -/
lemma Remaining.settle_eq (hpaths : c.HasPaths) {is : List Item}
    (his : List.Forall₂ Item.Says is ss) (h : Remaining c d ss) :
    settle d is = .ok (.document c) := by
  -- on the items that are left, with `Remaining` as the invariant
  induction his generalizing d with
  | nil =>
    rw [h.eq_of_nil]
    rfl
  | @cons i s is ss hi his ih =>
    have hattached {p : Parameter} {v : Bytes} (h : Remaining c d (.value p v :: ss)) :
        settle d (.attached p v :: is) = .ok (.document c) := by
      obtain ⟨d', hassign, h'⟩ := h.value hpaths
      rw [settle, hassign]
      exact ih h'
    cases hi with
    | flag =>
      obtain ⟨hquiet, h'⟩ := h.quiet
      rw [settle, hquiet]
      exact ih h'
    | attached p v => exact hattached h
    | detached p v =>
      have hhead : ∀ e, is.head? ≠ some (.stray e) := by
        intro e he
        cases his with
        | nil => cases he
        | cons hi _ =>
          cases he
          cases hi
      rw [settle_detached hhead]
      exact hattached h

end

/-! ## What a spelling asks for -/

section

variable {c : Config} {args : List Bytes}

lemma Config.countP_isFile_settings (h : c.file = none) :
    c.settings.countP Setting.isFile = 0 := by
  refine List.countP_eq_zero.2 fun s hs => ?_
  cases s with
  | quiet => exact Bool.false_ne_true
  | value p v =>
    have hv := mem_settings_value.1 hs
    cases p with
    | file =>
      rw [value?, h] at hv
      cases hv
    | output | preamble | name | lang => exact Bool.false_ne_true

lemma Config.settings_of_file {f : Path} (h : c.file = some f) :
    c.settings = .value .file f :: { c with file := none }.settings := by
  obtain ⟨file, output, preamble, name, lang, quiet⟩ := c
  obtain rfl : file = some f := h
  rfl

/-- There is one source file at most. -/
lemma Config.countP_isFile_settings_le (c : Config) : c.settings.countP Setting.isFile ≤ 1 := by
  cases h : c.file with
  | none => simp [countP_isFile_settings h]
  | some f =>
    have hrest : { c with file := none }.settings.countP Setting.isFile = 0 :=
      countP_isFile_settings rfl
    simp only [settings_of_file h, List.countP_cons, hrest, Setting.isFile, reduceIte,
      Nat.zero_add, Nat.le_refl]

/-- A command line that spells a configuration asks for it. -/
lemma Config.Spelled.request_eq (hpaths : c.HasPaths) (h : c.Spelled args) :
    request args = .ok (.document c) := by
  cases h with
  | @inOrder ss parts order spelled =>
    have hfile : false.toNat + ss.countP Setting.isFile ≤ 1 := by
      rw [order.countP_eq]
      simpa using c.countP_isFile_settings_le
    obtain ⟨is, his, hread⟩ := exists_forall₂_says spelled hfile []
    have hitems : items parts.flatten = is := by
      simpa [items, readArguments, unanswered] using hread
    rw [request, hitems]
    exact (remaining_of_perm order).settle_eq hpaths his
  | @fileLast f ss parts file order spelled =>
    have hnone : ss.countP Setting.isFile = 0 := by
      rw [order.countP_eq]
      exact countP_isFile_settings rfl
    have hany : ss.any Setting.isFile = false := by
      simpa using List.countP_eq_zero.1 hnone
    have hfile : false.toNat + ss.countP Setting.isFile ≤ 1 := by simp [hnone]
    obtain ⟨is, his, hread⟩ := exists_forall₂_says spelled hfile [Utf8.encode "--".toList, f]
    have hlast : readArguments false none [Utf8.encode "--".toList, f] =
        [.detached .file (some f)] := rfl
    have hitems : items (parts.flatten ++ [Utf8.encode "--".toList, f]) =
        is ++ [.detached .file (some f)] := by
      rw [items, hread, hany, Bool.or_false, hlast]
    -- it is as if the source file were the last of the settings
    have hperm : (ss ++ [Setting.value .file f]).Perm c.settings := by
      rw [settings_of_file file]
      exact List.perm_append_comm.trans (order.cons _)
    rw [request, hitems]
    exact (remaining_of_perm hperm).settle_eq hpaths
      (List.rel_append his (.cons (.detached .file f) .nil))

/-- Whether the language is given makes no difference, if it is the one that is taken anyway. -/
lemma run_of_request_eq {args' : List Bytes} (hlang : c.lang = none)
    (request_eq : request args = .ok (.document c))
    (request_eq' : request args' = .ok (.document { c with lang := some defaultLang }))
    (w : World) (spec : Option Text) : w.run args' spec = w.run args spec := by
  unfold World.run Program.run
  rw [request_eq, request_eq']
  obtain ⟨file, output, preamble, name, lang, quiet⟩ := c
  obtain rfl : lang = none := hlang
  rfl

/-- **All spellings of a configuration ask for the same thing.**  Whatever the order of the settings
is, and however each of them is spelled, the command line asks for a document with this
configuration.  So the runs are the same, in every world; a command line without a language is no
different from one with the language `lua`. -/
theorem request_of_spelled (hpaths : c.HasPaths) (h : c.Spelled args) :
    request args = .ok (.document c) ∧
      (∀ args', c.Spelled args' →
        ∀ (w : World) (spec : Option Text), w.run args' spec = w.run args spec) ∧
      (c.lang = none → ∀ args', { c with lang := some "lua".toList }.Spelled args' →
        ∀ (w : World) (spec : Option Text), w.run args' spec = w.run args spec) := by
  have hrequest := h.request_eq hpaths
  refine ⟨hrequest, fun args' h' w spec => ?_, fun hlang args' h' w spec => ?_⟩
  · unfold World.run Program.run
    rw [hrequest, h'.request_eq hpaths]
  · have hpaths' : { c with lang := some "lua".toList }.HasPaths :=
      ⟨hpaths.file, hpaths.output, hpaths.preamble⟩
    exact run_of_request_eq hlang hrequest (h'.request_eq hpaths') w spec

/-- The name is empty, the source file is a hyphen, and the values have signs in them that mean
something elsewhere. -/
theorem request_of_spelled_odd_values :
    let bytes (t : String) : Bytes := Utf8.encode t.toList
    let c : Config :=
      { file := some (bytes "-"), output := some (bytes "a=b"), preamble := some (bytes "--quiet"),
        name := some [], lang := some "=c".toList, quiet := true }
    let args := ["-n=", "-", "--output=a=b", "-q", "-p--quiet", "-l==c"].map bytes
    let args' :=
      ["--lang==c", "-p=--quiet", "--name", "", "-o", "a=b", "--quiet", "--", "-"].map bytes
    c.HasPaths ∧ c.Spelled args ∧ c.Spelled args' ∧ request args = .ok (.document c) ∧
      ∀ (w : World) (spec : Option Text), w.run args' spec = w.run args spec := by
  intro bytes c args args'
  have hpaths : c.HasPaths := ⟨by decide, by decide, by decide⟩
  have hargs : c.Spelled args := by
    have spelled : List.Forall₂ Setting.Spelled
        [.value .name [], .value .file (bytes "-"), .value .output (bytes "a=b"), .quiet,
          .value .preamble (bytes "--quiet"), .value .lang (bytes "=c")]
        (args.map fun a => [a]) :=
      .cons (.letterEquals .name []) <| .cons (.operand (.inl rfl)) <|
        .cons (.wordEquals .output _) <| .cons .quietLetter <|
        .cons (.letterValue .preamble (by decide) (by decide)) <|
        .cons (.letterEquals .lang _) .nil
    exact .inOrder (by decide) spelled
  have hargs' : c.Spelled args' := by
    have spelled : List.Forall₂ Setting.Spelled
        [.value .lang (bytes "=c"), .value .preamble (bytes "--quiet"), .value .name [],
          .value .output (bytes "a=b"), .quiet]
        ([["--lang==c"], ["-p=--quiet"], ["--name", ""], ["-o", "a=b"], ["--quiet"]].map
          (List.map bytes)) :=
      .cons (.wordEquals .lang _) <| .cons (.letterEquals .preamble _) <|
        .cons (.word .name (.inr (by decide))) <| .cons (.letter .output (.inr (by decide))) <|
        .cons .quietWord .nil
    exact .fileLast rfl (by decide) spelled
  obtain ⟨hrequest, hrun, -⟩ := request_of_spelled hpaths hargs
  exact ⟨hpaths, hargs, hargs', hrequest, hrun args' hargs'⟩

end

end CommandLine

end DocBlock
