/-
# Spellings of a configuration

A configuration can be spelled in many ways.  Its settings come in any order; a value stands apart
from its option or is attached to it, and the option is written by its word or by its letter; the
source file stands anywhere, or at the end behind `--`.

Whatever the spelling of a setting is, it is read as one item that says the same.  What comes behind
it makes no difference, and it makes none for what comes behind it, except that there is room for
one source file only.
-/
import DocBlock.CommandLine.Request
import Mathlib.Data.List.Forall2

namespace DocBlock

namespace CommandLine

/-! ## Settings -/

/-- What a part of a command line says, however it is spelled. -/
inductive Setting where
  /-- Only errors are logged. -/
  | quiet
  /-- A parameter has a value. -/
  | value (p : Parameter) (v : Bytes)
  deriving DecidableEq, Repr

/-- Whether a setting gives the source file. -/
def Setting.isFile : Setting → Bool
  | value .file _ => true
  | _ => false

namespace Config

/-- The value of a parameter, as it is written on a command line. -/
def value? (c : Config) : Parameter → Option Bytes
  | .file => c.file
  | .output => c.output
  | .preamble => c.preamble
  | .name => c.name.map Utf8.encode
  | .lang => c.lang.map Utf8.encode

/-- The settings that make up a configuration. -/
def settings (c : Config) : List Setting :=
  ([.file, .output, .preamble, .name, .lang].filterMap fun p => (c.value? p).map (.value p)) ++
    if c.quiet then [.quiet] else []

/-- A configuration whose paths are not empty. -/
structure HasPaths (c : Config) : Prop where
  /-- The path of the source file. -/
  file : c.file ≠ some []
  /-- The path of the output file. -/
  output : c.output ≠ some []
  /-- The path of the preamble. -/
  preamble : c.preamble ≠ some []

end Config

/-! ## Spellings -/

/-- The word and the letter of an option that has a value. -/
inductive Parameter.IsCalled : Parameter → Text → Char → Prop
  | output : IsCalled .output "output".toList 'o'
  | preamble : IsCalled .preamble "preamble".toList 'p'
  | name : IsCalled .name "name".toList 'n'
  | lang : IsCalled .lang "lang".toList 'l'

/-- An argument that is not taken for an option. -/
def StandsAlone (v : Bytes) : Prop := v = Utf8.encode ['-'] ∨ v.head? ≠ some hyphen

/-- The ways to spell a setting. -/
inductive Setting.Spelled : Setting → List Bytes → Prop
  /-- The flag, by its word. -/
  | quietWord : Spelled .quiet [Utf8.encode "--quiet".toList]
  /-- The flag, by its letter. -/
  | quietLetter : Spelled .quiet [Utf8.encode "-q".toList]
  /-- `--option v` -/
  | word {p : Parameter} {w : Text} {l : Char} {v : Bytes} (called : p.IsCalled w l)
    (alone : StandsAlone v) : Spelled (.value p v) [Utf8.encode ("--".toList ++ w), v]
  /-- `--option=v` -/
  | wordEquals {p : Parameter} {w : Text} {l : Char} (called : p.IsCalled w l) (v : Bytes) :
    Spelled (.value p v) [Utf8.encode ("--".toList ++ w ++ ['=']) ++ v]
  /-- `-o v` -/
  | letter {p : Parameter} {w : Text} {l : Char} {v : Bytes} (called : p.IsCalled w l)
    (alone : StandsAlone v) : Spelled (.value p v) [Utf8.encode ['-', l], v]
  /-- `-ov` -/
  | letterValue {p : Parameter} {w : Text} {l : Char} {v : Bytes} (called : p.IsCalled w l)
    (ne_nil : v ≠ []) (head : v.head? ≠ some equals) :
    Spelled (.value p v) [Utf8.encode ['-', l] ++ v]
  /-- `-o=v` -/
  | letterEquals {p : Parameter} {w : Text} {l : Char} (called : p.IsCalled w l) (v : Bytes) :
    Spelled (.value p v) [Utf8.encode ['-', l, '='] ++ v]
  /-- The source file, without any option. -/
  | operand {v : Bytes} (alone : StandsAlone v) : Spelled (.value .file v) [v]

/-- The command lines that spell a configuration. -/
inductive Config.Spelled (c : Config) : List Bytes → Prop
  /-- The settings are spelled in any order. -/
  | inOrder {ss : List Setting} {parts : List (List Bytes)} (order : ss.Perm c.settings)
    (spelled : List.Forall₂ Setting.Spelled ss parts) : c.Spelled parts.flatten
  /-- The source file comes last, behind `--`. -/
  | fileLast {f : Path} {ss : List Setting} {parts : List (List Bytes)} (file : c.file = some f)
    (order : ss.Perm { c with file := none }.settings)
    (spelled : List.Forall₂ Setting.Spelled ss parts) :
    c.Spelled (parts.flatten ++ [Utf8.encode "--".toList, f])

/-! ## Reading -/

/-- An item that says what a setting is. -/
inductive Item.Says : Item → Setting → Prop
  | flag : Says (.flag .quiet) .quiet
  | attached (p : Parameter) (v : Bytes) : Says (.attached p v) (.value p v)
  | detached (p : Parameter) (v : Bytes) : Says (.detached p (some v)) (.value p v)

/-- An argument is an option and has a reading. -/
structure ReadsAs (a : Bytes) (r : Reading) : Prop where
  /-- The argument is taken for an option. -/
  isOption_eq : isOption a = true
  /-- This is what it holds. -/
  readOption_eq : readOption a = r

section

variable {p : Parameter} {w : Text} {l : Char} {v a : Bytes}

lemma readsAs_word (h : p.IsCalled w l) :
    ReadsAs (Utf8.encode ("--".toList ++ w)) ⟨[], some p⟩ := by
  cases h <;> exact ⟨rfl, rfl⟩

lemma readsAs_wordEquals (h : p.IsCalled w l) (v : Bytes) :
    ReadsAs (Utf8.encode ("--".toList ++ w ++ ['=']) ++ v) ⟨[.attached p v], none⟩ := by
  cases h <;> exact ⟨rfl, rfl⟩

lemma readsAs_letter (h : p.IsCalled w l) : ReadsAs (Utf8.encode ['-', l]) ⟨[], some p⟩ := by
  cases h <;> exact ⟨rfl, rfl⟩

lemma attachedValue_eq_self (h : v.head? ≠ some equals) : attachedValue v = v := by
  cases v with
  | nil => rfl
  | cons b v => exact if_neg (by simpa using h)

lemma readsAs_letterValue (h : p.IsCalled w l) (hne : v ≠ []) (hv : v.head? ≠ some equals) :
    ReadsAs (Utf8.encode ['-', l] ++ v) ⟨[.attached p v], none⟩ := by
  have hread : (if v = [] then ⟨[], some p⟩ else ⟨[.attached p (attachedValue v)], none⟩ :
      Reading) = ⟨[.attached p v], none⟩ := by
    rw [if_neg hne, attachedValue_eq_self hv]
  cases h <;> exact ⟨rfl, hread⟩

lemma readsAs_letterEquals (h : p.IsCalled w l) (v : Bytes) :
    ReadsAs (Utf8.encode ['-', l, '='] ++ v) ⟨[.attached p v], none⟩ := by
  cases h <;> exact ⟨rfl, rfl⟩

lemma StandsAlone.ne_terminator (h : StandsAlone v) : v ≠ terminator := by
  rintro rfl
  rcases h with h | h
  · exact absurd h (by decide)
  · exact h rfl

lemma StandsAlone.isOption_eq (h : StandsAlone v) : isOption v = false := by
  rcases h with rfl | h
  · rfl
  · simp [isOption, h]

/-- What an option holds comes first.  If it waits for its value, the next argument is read with
that in mind. -/
lemma ReadsAs.readArguments_eq {r : Reading} (h : ReadsAs a r) (hasFile : Bool)
    (rest : List Bytes) :
    readArguments hasFile none (a :: rest) = r.items ++ readArguments hasFile r.awaiting rest := by
  have hne : a ≠ terminator := by
    rintro rfl
    cases h.isOption_eq
  rw [readArguments, if_neg hne, if_pos h.isOption_eq, h.readOption_eq]
  rfl

lemma ReadsAs.readArguments_value (h : ReadsAs a ⟨[], some p⟩) (hv : StandsAlone v)
    (hasFile : Bool) (rest : List Bytes) :
    readArguments hasFile none (a :: v :: rest) =
      .detached p (some v) :: readArguments hasFile none rest := by
  rw [h.readArguments_eq, readArguments, if_neg hv.ne_terminator, if_neg (by simp [hv.isOption_eq])]
  rfl

lemma readArguments_operand (hv : StandsAlone v) (rest : List Bytes) :
    readArguments false none (v :: rest) =
      .detached .file (some v) :: readArguments true none rest := by
  rw [readArguments, if_neg hv.ne_terminator, if_neg (by simp [hv.isOption_eq])]
  rfl

end

section

variable {s : Setting} {as : List Bytes}

/-- The spelling of a setting is read as one item that says the same.  The source file is no such
setting, because it changes what is read afterwards. -/
lemma Setting.Spelled.exists_says (h : s.Spelled as) (hs : s.isFile = false) (hasFile : Bool) :
    ∃ i, Item.Says i s ∧ ∀ rest, readArguments hasFile none (as ++ rest) =
      i :: readArguments hasFile none rest := by
  cases h with
  | quietWord => exact ⟨_, .flag, ReadsAs.readArguments_eq ⟨rfl, rfl⟩ hasFile⟩
  | quietLetter => exact ⟨_, .flag, ReadsAs.readArguments_eq ⟨rfl, rfl⟩ hasFile⟩
  | word called alone =>
    exact ⟨_, .detached _ _, (readsAs_word called).readArguments_value alone hasFile⟩
  | wordEquals called v =>
    exact ⟨_, .attached _ v, (readsAs_wordEquals called v).readArguments_eq hasFile⟩
  | letter called alone =>
    exact ⟨_, .detached _ _, (readsAs_letter called).readArguments_value alone hasFile⟩
  | letterValue called ne_nil head =>
    exact ⟨_, .attached _ _, (readsAs_letterValue called ne_nil head).readArguments_eq hasFile⟩
  | letterEquals called v =>
    exact ⟨_, .attached _ v, (readsAs_letterEquals called v).readArguments_eq hasFile⟩
  | operand => cases hs

/-- The source file is an operand. -/
lemma Setting.Spelled.exists_says_file (h : s.Spelled as) (hs : s.isFile = true) :
    ∃ i, Item.Says i s ∧ ∀ rest, readArguments false none (as ++ rest) =
      i :: readArguments true none rest := by
  cases h with
  | operand alone => exact ⟨_, .detached _ _, readArguments_operand alone⟩
  | quietWord | quietLetter => cases hs
  | word called | wordEquals called | letter called | letterValue called | letterEquals called =>
    -- no option is called by the source file
    cases called <;> cases hs

/-- The parts of a command line are read one after another.  There must be no more than one operand
in all. -/
lemma exists_forall₂_says {ss : List Setting} {parts : List (List Bytes)}
    (h : List.Forall₂ Setting.Spelled ss parts) {hasFile : Bool}
    (hfile : hasFile.toNat + ss.countP Setting.isFile ≤ 1) (rest : List Bytes) :
    ∃ is, List.Forall₂ Item.Says is ss ∧ readArguments hasFile none (parts.flatten ++ rest) =
      is ++ readArguments (hasFile || ss.any Setting.isFile) none rest := by
  induction h generalizing hasFile with
  | nil => exact ⟨[], .nil, by simp⟩
  | @cons s as ss parts hs _ ih =>
    rw [List.flatten_cons, List.append_assoc, List.any_cons]
    cases hsfile : s.isFile with
    | false =>
      rw [List.countP_cons_of_neg (by simp [hsfile])] at hfile
      obtain ⟨i, hi, hread⟩ := hs.exists_says hsfile hasFile
      obtain ⟨is, his, hreads⟩ := ih hfile
      exact ⟨i :: is, .cons hi his, by rw [hread, hreads, Bool.false_or, List.cons_append]⟩
    | true =>
      rw [List.countP_cons_of_pos hsfile] at hfile
      cases hasFile with
      | true =>
        -- this would be the second operand
        rw [Bool.toNat_true] at hfile
        omega
      | false =>
        have hrest : true.toNat + ss.countP Setting.isFile ≤ 1 := by
          rw [Bool.toNat_false] at hfile
          rw [Bool.toNat_true]
          omega
        obtain ⟨i, hi, hread⟩ := hs.exists_says_file hsfile
        obtain ⟨is, his, hreads⟩ := ih hrest
        exact ⟨i :: is, .cons hi his, by rw [hread, hreads]; rfl⟩

end

end CommandLine

end DocBlock
