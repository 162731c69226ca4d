/-
# Groups

What follows an opening parenthesis: nothing special, the name of a group, or flags.  Flags hold for
the rest of the group around them, or for the group that they introduce.
-/
import DocBlock.Pattern.Reader
import DocBlock.Text.Category

namespace DocBlock

namespace Pattern

/-- What an opening parenthesis turns out to start. -/
inductive Opening where
  /-- A group.  It may have a name, and it has flags of its own. -/
  | group (name : Option (Text × Span)) (fs : Flags)
  /-- No group, but flags for what follows. -/
  | settings (fs : Flags)
  deriving DecidableEq, Repr

/-- Whether a character can be part of the name of a group.  The first character is a letter or an
underscore. -/
def isNameChar (isFirst : Bool) (c : Char) : Bool :=
  let k := Category.of c
  c = '_' || k.isLetter || k = .nl || !isFirst && (k.isNumber || ['.', '[', ']'].contains c)

/-- A flag that has been read. -/
structure FlagItem where
  /-- The flag, or nothing for the sign that turns off the flags after it. -/
  flag : Option Flag
  /-- Where it stands. -/
  span : Span
  deriving DecidableEq, Repr

/-- The flags after the given ones have been turned on, or off if they come after the sign. -/
def Flags.apply (fs : Flags) (items : List FlagItem) : Flags :=
  (items.foldl (fun (fs, on) i =>
    match i.flag with
    | some f => (Flags.set fs f on, on)
    | none => (fs, false)) (fs, true)).1

namespace Reader

/-- Reads the name of a group, which ends with an angle bracket. -/
def groupName : Reader (Text × Span) := do
  let start ← position
  let initial ← collect [] (isNameChar true)
  let name := initial ++ (← if initial = [] then pure [] else collect [] (isNameChar false))
  match ← char? with
  | none => failHere .nameUnclosed
  | some c =>
    if c ≠ '>' then failChar .nameCharacter
    else
      let stop ← position
      advance
      if name = [] then fail .nameEmpty (.point start)
      else return (name, ⟨start, stop⟩)

/-- Reads a flag. -/
def flag (c : Char) : Reader (Option Flag) :=
  if c = '-' then return none
  else
    match Flag.ofChar? c with
    | some f => return some f
    | none => failChar .flagUnknown

/-- Reads flags up to a colon or a closing parenthesis.  Those that have been read before are given,
and the text has so many characters at most. -/
def flagItems : Nat → List FlagItem → Reader (List FlagItem)
  | 0, items => return items
  | n + 1, items => do
    match ← char? with
    | none => failHere .flagMissing
    | some c =>
      if c = ':' ∨ c = ')' then
        match items.getLast? with
        | some ⟨none, s⟩ => fail .negationEmpty s
        | _ => return items
      else
        let f ← flag c
        let s ← charSpan
        match items.find? (·.flag = f) with
        | some earlier =>
          fail (if f = none then .negationRepeated earlier.span else .flagRepeated earlier.span) s
        | none =>
          advance
          flagItems n (items ++ [⟨f, s⟩])

/-- Reads what follows an opening parenthesis, whose place is given. -/
def opening (fs : Flags) (parenthesis : Span) : Reader Opening := do
  skipSpace fs
  let inner ← position
  for sign in [['?', '='], ['?', '!'], ['?', '<', '='], ['?', '<', '!']] do
    if ← accept sign then failFrom .lookAround parenthesis.start
  if (← accept ['?', 'P', '<']) || (← accept ['?', '<']) then
    return .group (some (← groupName)) fs
  if !(← accept ['?']) then return .group none fs
  if ← isAtEnd then fail .groupUnclosed parenthesis
  let items ← flagItems ((← get).rest.length + 1) []
  let last ← char?
  advance
  if last = some ':' then return .group none (fs.apply items)
  else if items = [] then fail .operandMissing (.point inner)
  else return .settings (fs.apply items)

end Reader

end Pattern

end DocBlock
