/-
# Patterns given by a text

The pattern that a text describes.  The text is read from left to right; what has been read of a
group is kept until the group ends, while the groups around it wait.
-/
import DocBlock.Pattern.Bracket
import DocBlock.Pattern.Group

namespace DocBlock

namespace Pattern

/-! ## Groups that are being read -/

/-- What has been read of a group. -/
structure Level where
  /-- The choices before the one that is being read, the last one first. -/
  choices : List Pattern := []
  /-- The parts of the choice that is being read, the last one first.  Flags are a part that cannot
  be repeated. -/
  parts : List (Option Pattern) := []

namespace Level

/-- The group with one more part. -/
def add (l : Level) (p : Pattern) : Level := { l with parts := some p :: l.parts }

/-- The choice that is being read. -/
def current (l : Level) : Pattern := concat (l.parts.reverse.filterMap id)

/-- The group after a bar. -/
def divide (l : Level) : Level := ⟨l.current :: l.choices, []⟩

/-- The pattern of the whole group. -/
def pattern (l : Level) : Pattern := choice l.divide.choices.reverse

end Level

/-- A group around the one that is being read. -/
structure Outer where
  /-- Where the parenthesis stands that starts the inner group. -/
  parenthesis : Span
  /-- The flags to return to. -/
  flags : Flags
  /-- What has been read of the group. -/
  level : Level

/-- How far a pattern has been read. -/
structure Progress where
  /-- The flags that are on. -/
  flags : Flags := .initial
  /-- The names of groups so far. -/
  names : List (Text × Span) := []
  /-- The group that is being read. -/
  level : Level := {}
  /-- The groups around it, from the inside to the outside. -/
  outer : List Outer := []

namespace Progress

/-- The progress after another part of the group. -/
def add (s : Progress) (p : Pattern) : Progress := { s with level := s.level.add p }

end Progress

/-! ## Repetitions -/

namespace Reader

/-- The part of the group that is to be repeated, with the group without it. -/
def operand (l : Level) : Reader (Pattern × Level) :=
  match l.parts with
  | some p :: parts => return (p, { l with parts })
  | _ => failHere .operandMissing

/-- The largest number that a repetition can be given. -/
def countLimit : Nat := 4294967295

/-- Reads a number.  It is in error where a number is needed and there is none. -/
def count (fs : Flags) : Reader (Except PatternFault Nat) := do
  discard (collect [] isWhite)
  let start ← position
  let digits ← collect fs CharSet.asciiDigit
  let span : Span := ⟨start, ← position⟩
  discard (collect fs isWhite)
  let n := Nat.ofDigitChars 10 digits 0
  if digits = [] then return .error ⟨.countEmpty, span⟩
  else if countLimit < n then return .error ⟨.countTooLarge, span⟩
  else return .ok n

/-- Reads how often something is to be repeated, in braces: a number, a number and a comma, or two
numbers with a comma between them. -/
def counts (fs : Flags) : Reader (Nat × Option Nat) := do
  let start ← position
  nextOrFail fs .countUnclosed start
  let least ← count fs
  if ← isAtEnd then failFrom .countUnclosed start
  let (least, most) ←
    if (← char?) ≠ some ',' then
      let n ← liftM least
      pure (n, some n)
    else
      nextOrFail fs .countUnclosed start
      let least ← liftM least
      if (← char?) = some '\x7d' then pure (least, none)
      else pure (least, some (← liftM (← count fs)))
  if (← char?) ≠ some '\x7d' then failFrom .countUnclosed start
  next fs
  discard (accept ['?'])
  match most with
  | some m => if m < least then failFrom .countOrder start
  | none => pure ()
  return (least, most)

/-- Reads a sign that repeats the last part of a group. -/
def repetition (s : Progress) (least : Nat) (most : Option Nat) : Reader Progress := do
  let (p, l) ← operand s.level
  advance
  discard (accept ['?'])
  return { s with level := l.add (.many p least most) }

/-- Reads a number of repetitions of the last part of a group. -/
def countedRepetition (s : Progress) : Reader Progress := do
  let (p, l) ← operand s.level
  let (least, most) ← counts s.flags
  return { s with level := l.add (.many p least most) }

/-! ## Steps -/

/-- Reads the start of a group, or flags. -/
def openGroup (s : Progress) : Reader Progress := do
  let parenthesis ← charSpan
  advance
  match ← opening s.flags parenthesis with
  | .settings fs =>
    return { s with flags := fs, level := { s.level with parts := none :: s.level.parts } }
  | .group name fs =>
    let names ← match name with
      | none => pure s.names
      | some (n, span) =>
        match s.names.lookup n with
        | some earlier => fail (.nameRepeated earlier) span
        | none => pure ((n, span) :: s.names)
    return ⟨fs, names, {}, ⟨parenthesis, s.flags, s.level⟩ :: s.outer⟩

/-- Reads the end of a group. -/
def closeGroup (s : Progress) : Reader Progress :=
  match s.outer with
  | [] => failChar .groupUnopened
  | o :: outer => do
    advance
    return { s with flags := o.flags, level := o.level.add s.level.pattern, outer }

/-- Reads the next part of a pattern, of which the first character is given. -/
def step (s : Progress) (c : Char) : Reader Progress :=
  match c with
  | '(' => openGroup s
  | ')' => closeGroup s
  | '|' => do
    advance
    return { s with level := s.level.divide }
  | '[' => return s.add (.one (← bracket s.flags))
  | '?' => repetition s 0 (some 1)
  | '*' => repetition s 0 none
  | '+' => repetition s 1 none
  | '\x7b' => countedRepetition s
  | _ => return s.add (← (← atom s.flags false).pattern s.flags)

/-- Reads a pattern to its end.  The text has so many characters at most. -/
def steps : Nat → Progress → Reader Progress
  | 0, s => return s
  | n + 1, s => do
    skipSpace s.flags
    match ← char? with
    | none => return s
    | some c => steps n (← step s c)

/-- Reads a whole pattern. -/
def whole : Reader Pattern := do
  let length := (← get).rest.length
  let s ← steps length {}
  match s.outer with
  | o :: _ => fail .groupUnclosed o.parenthesis
  | [] =>
    match (← get).deferred with
    | some f => throw f
    | none => return s.level.pattern

end Reader

/-! ## The pattern of a text -/

/-- The reasons why a text gives no pattern. -/
inductive Refusal where
  /-- The text is at fault. -/
  | malformed (f : PatternFault)
  /-- The pattern is too large. -/
  | tooLarge
  deriving DecidableEq, Repr

/-- The number of octets that a pattern may take up. -/
def sizeLimit : Nat := 10485760

/-- The number of octets that a step of a pattern takes up. -/
def stepSize : Nat := 32

/-- What a refusal tells the user about a text. -/
def Refusal.report (t : Text) : Refusal → Text
  | malformed f => f.report t
  | tooLarge =>
    "Compiled regex exceeds size limit of ".toList ++ Text.ofNat sizeLimit ++ " bytes.".toList

/-- The pattern that a text describes. -/
def ofText (t : Text) : Except Refusal Pattern :=
  match Reader.whole.run { rest := t } with
  | .error f => .error (.malformed f)
  | .ok (p, _) => if p.size * stepSize ≤ sizeLimit then .ok p else .error .tooLarge

end Pattern

end DocBlock
