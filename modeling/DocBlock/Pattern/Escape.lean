/-
# Escape sequences

A backslash and what follows it stand for a character, for a set of characters or for a condition on
a place.  The same goes for some single characters: the dot, the circumflex and the dollar sign.
-/
import DocBlock.Pattern.Basic
import DocBlock.Pattern.Property
import DocBlock.Pattern.Reader

namespace DocBlock

namespace Pattern

/-! ## Conditions on places -/

/-- A condition on a place of a text. -/
inductive Assertion where
  /-- The start of the text. -/
  | textStart
  /-- The end of the text. -/
  | textEnd
  /-- The start of a line, or of the text where lines do not count. -/
  | lineStart
  /-- The end of a line, or of the text where lines do not count. -/
  | lineEnd
  /-- An end of a word. -/
  | boundary
  /-- No end of a word. -/
  | noBoundary
  /-- The start of a word. -/
  | wordStart
  /-- The end of a word. -/
  | wordEnd
  /-- A place behind no word. -/
  | wordStartHalf
  /-- A place before no word. -/
  | wordEndHalf
  deriving DecidableEq, Repr

/-- Whether a condition holds between two characters. -/
def Assertion.holds (a : Assertion) (fs : Flags) (before after : Option Char) : Bool :=
  let isWord := CharSet.Shorthand.word.members fs.alphabet
  let left := before.any isWord
  let right := after.any isWord
  let lines := fs.contains .multiLine
  let returns := fs.contains .carriageReturn
  match a with
  | textStart => before.isNone
  | textEnd => after.isNone
  | lineStart =>
    before.isNone || lines && (before = some '\n' ||
      returns && before = some '\r' && after ≠ some '\n')
  | lineEnd =>
    after.isNone || lines && if returns then
      after = some '\r' || after = some '\n' && before ≠ some '\r' else after = some '\n'
  | boundary => left != right
  | noBoundary => left == right
  | wordStart => !left && right
  | wordEnd => left && !right
  | wordStartHalf => !left
  | wordEndHalf => !right

/-- The kinds of boundaries that are named in braces. -/
def boundaryNames : List (Text × Assertion) :=
  [("start".toList, .wordStart), ("end".toList, .wordEnd),
    ("start-half".toList, .wordStartHalf), ("end-half".toList, .wordEndHalf)]

/-! ## Atoms -/

/-- The smallest parts of a pattern. -/
inductive Atom where
  /-- A character.  An octet is given by two hexadecimal digits. -/
  | char (c : Char) (isOctet : Bool)
  /-- A set that an escaped letter stands for, or its complement. -/
  | shorthand (s : CharSet.Shorthand) (isNegated : Bool)
  /-- The characters with a property, or those without it. -/
  | property (p : Property) (isNegated : Bool)
  /-- A condition. -/
  | assertion (a : Assertion)
  /-- Any character, line ends excepted where nothing else is said. -/
  | dot
  deriving DecidableEq, Repr

/-- An atom, with the part of the text that it has been read from. -/
structure Located where
  /-- The atom. -/
  atom : Atom
  /-- Where it stands. -/
  span : Span
  deriving DecidableEq, Repr

/-! ## Reading escape sequences -/

/-- Whether a backslash makes a character stand for itself: any ASCII character but letters, digits
and angle brackets, which might mean something else. -/
def isEscapable (c : Char) : Bool :=
  c ≤ '\x7f' && !CharSet.asciiAlphanumeric c && c ≠ '<' && c ≠ '>'

/-- The letters that stand for a control character when they are escaped. -/
def controlLetters : List (Char × Char) :=
  [('a', '\x07'), ('f', '\x0c'), ('t', '\t'), ('n', '\n'), ('r', '\r'), ('v', '\x0b')]

/-- The characters that stand for a condition when they are escaped. -/
def assertionLetters : List (Char × Assertion) :=
  [('A', .textStart), ('z', .textEnd), ('b', .boundary), ('B', .noBoundary), ('<', .wordStart),
    ('>', .wordEnd)]

/-- The letters that stand for a set when they are escaped. -/
def shorthandLetters : List (Char × CharSet.Shorthand) :=
  [('d', .digit), ('s', .space), ('w', .word)]

/-- The character whose code point is a number, if there is one. -/
def charOfNat? (n : Nat) : Option Char := if n.isValidChar then some (Char.ofNat n) else none

/-- The value of a hexadecimal digit. -/
def hexValue (c : Char) : Nat :=
  if CharSet.asciiDigit c then c.toNat - '0'.toNat else c.toLower.toNat - 'a'.toNat + 10

/-- What a text contains before and after the first occurrence of another one. -/
def cut? (mark : Text) : Text → Option (Text × Text)
  | [] => none
  | c :: t =>
    match mark.isPrefixOf? (c :: t) with
    | some rest => some ([], rest)
    | none => (cut? mark t).map fun x => (c :: x.1, x.2)

namespace Reader

/-- The character with the given hexadecimal digits. -/
def charOfDigits (digits : Text) (s : Span) : Reader Char :=
  match charOfNat? (digits.foldl (fun n c => 16 * n + hexValue c) 0) with
  | some c => return c
  | none => fail .hexRange s

/-- Reads so many hexadecimal digits. -/
def hexDigits (fs : Flags) : Nat → Reader Text
  | 0 => return []
  | n + 1 => do
    match ← char? with
    | none => failHere .escapeUnfinished
    | some c =>
      if CharSet.hexDigit c then
        next fs
        return c :: (← hexDigits fs n)
      else failChar .hexDigit

/-- Reads hexadecimal digits in braces. -/
def bracedHex (fs : Flags) : Reader Char := do
  let brace ← position
  let start := (← charSpan).stop
  next fs
  let digits ← collect fs CharSet.hexDigit
  match ← char? with
  | none => failFrom .escapeUnfinished brace
  | some c =>
    if c ≠ '\x7d' then failChar .hexDigit
    else
      let stop ← position
      next fs
      if digits = [] then failFrom .hexEmpty brace
      else charOfDigits digits ⟨start, stop⟩

/-- Reads what follows the letter of a hexadecimal escape sequence: so many digits, or any number of
them in braces. -/
def hex (fs : Flags) (width : Nat) : Reader Atom := do
  next fs
  if (← char?) = some '\x7b' then return .char (← bracedHex fs) false
  else
    let start ← position
    let digits ← hexDigits fs width
    return .char (← charOfDigits digits ⟨start, ← position⟩) (width = 2)

/-- The property that the text in the braces stands for.  There are three signs that can separate a
value from the name of the property, and they mean the same. -/
def propertyOfText (t : Text) : Property :=
  match ((cut? ['!', '='] t).or (cut? [':'] t)).or (cut? ['='] t) with
  | some (name, value) => ⟨name, some value⟩
  | none => ⟨t, none⟩

/-- Reads what follows the letter of a property: one letter, or a name in braces. -/
def property (fs : Flags) (isNegated : Bool) : Reader Atom := do
  next fs
  match ← char? with
  | none => failHere .escapeUnfinished
  | some '\\' => failChar .propertyMissing
  | some '\x7b' =>
    next fs
    let name ← collect fs (· ≠ '\x7d')
    if ← isAtEnd then failHere .escapeUnfinished
    advance
    return .property (propertyOfText name) isNegated
  | some c =>
    next fs
    return .property ⟨[c], none⟩ isNegated

/-- Reads the kind of a boundary in braces, if letters follow the brace; otherwise the brace belongs
to a repetition. -/
def boundary (fs : Flags) (start : Position) : Reader Assertion := do
  if (← char?) ≠ some '\x7b' then return .boundary
  let isNameChar := CharSet.asciiLetter.union (CharSet.single '-')
  let brace ← get
  nextOrFail fs .boundaryUnfinished start
  let nameStart ← position
  let name ← collect fs isNameChar
  if name = [] then
    set brace
    return .boundary
  if (← char?) ≠ some '\x7d' then failFrom .boundaryUnclosed brace.position
  let nameStop ← position
  advance
  match boundaryNames.lookup name with
  | some a => return a
  | none => fail .boundaryUnknown ⟨nameStart, nameStop⟩

/-- Reads what follows a backslash. -/
def escaped (fs : Flags) (start : Position) : Reader Atom := do
  match ← char? with
  | none => failFrom .escapeUnfinished start
  | some 'x' => hex fs 2
  | some 'u' => hex fs 4
  | some 'U' => hex fs 8
  | some 'p' => property fs false
  | some 'P' => property fs true
  | some c =>
    advance
    if CharSet.asciiDigit c then failFrom .backreference start
    else if isEscapable c then return .char c false
    else if c = 'b' then return .assertion (← boundary fs start)
    else
      match shorthandLetters.lookup c.toLower, controlLetters.lookup c,
        assertionLetters.lookup c with
      | some s, _, _ => return .shorthand s (c ≠ c.toLower)
      | none, some x, _ => return .char x false
      | none, none, some a => return .assertion a
      | none, none, none => failFrom .escapeUnknown start

/-- Reads an atom.  Where only escape sequences are special, every other character stands for
itself. -/
def atom (fs : Flags) (onlyEscapes : Bool) : Reader Located := do
  let start ← position
  match ← char? with
  | some '\\' =>
    advance
    let a ← escaped fs start
    return ⟨a, ⟨start, ← position⟩⟩
  | some c =>
    advance
    let a : Atom :=
      if onlyEscapes then .char c false
      else if c = '.' then .dot
      else if c = '^' then .assertion .lineStart
      else if c = '$' then .assertion .lineEnd
      else .char c false
    return ⟨a, ⟨start, ← position⟩⟩
  | none => failHere .escapeUnfinished

end Reader

/-! ## The meaning of atoms -/

namespace Located

/-- The set of characters that an atom stands for.  A single character is meant to be part of a
class or to stand on its own; in a class of octets, it has to be ASCII. -/
def members (l : Located) (fs : Flags) (inClass : Bool) : Reader CharSet := do
  let octets := fs.alphabet = .octets
  match l.atom with
  | .char c isOctet =>
    let wide := octets && !(c ≤ '\x7f')
    Reader.deferIf (wide && isOctet) .notText l.span
    Reader.deferIf (wide && !isOctet && inClass) .unicodeForbidden l.span
    return CharSet.single c
  | .shorthand s isNegated =>
    Reader.deferIf (octets && isNegated) .notText l.span
    return (s.members fs.alphabet).complementIf isNegated fs.alphabet
  | .property p isNegated =>
    Reader.deferIf octets .unicodeForbidden l.span
    match p.members with
    | .ok s =>
      let s := if fs.ignoreCase then s.closeUnderCase .unicode else s
      return s.complementIf isNegated .unicode
    | .error e =>
      Reader.deferIf true e l.span
      return CharSet.empty
  | .dot =>
    Reader.deferIf octets .notText l.span
    return fun c => fs.contains .dotAll ||
      c ≠ '\n' && !(fs.contains .carriageReturn && c = '\r')
  | .assertion _ => return CharSet.empty

/-- The pattern that an atom stands for. -/
def pattern (l : Located) (fs : Flags) : Reader Pattern := do
  match l.atom with
  | .assertion a => return .look (a.holds fs)
  | .char _ _ =>
    let s ← l.members fs false
    return .one (if fs.ignoreCase then s.closeUnderCase fs.alphabet else s)
  | _ => return .one (← l.members fs false)

end Located

end Pattern

end DocBlock
