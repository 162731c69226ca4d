/-
# Sets of characters

A set of characters is given by its membership test.  Patterns know some sets by a name.  A name can
mean a set of Unicode characters or a set of octets; in the second case the characters up to U+00FF
stand for the octets, and a named set contains ASCII characters only.
-/
import DocBlock.Text.Category
import DocBlock.Text.SimpleFold
import DocBlock.Text.Basic

namespace DocBlock

/-- A set of characters. -/
abbrev CharSet := Char → Bool

/-- What a set is a set of. -/
inductive Alphabet where
  /-- Unicode characters. -/
  | unicode
  /-- Octets. -/
  | octets
  deriving DecidableEq, Repr

/-- Whether a character belongs to an alphabet. -/
def Alphabet.contains (a : Alphabet) (c : Char) : Bool := a = .unicode || c ≤ 'ÿ'

namespace CharSet

/-! ## Operations -/

/-- The set without members. -/
def empty : CharSet := fun _ => false

/-- The set with one member. -/
def single (c : Char) : CharSet := fun x => x = c

/-- The characters from one to another, ends included. -/
def range (first last : Char) : CharSet := fun x => first ≤ x && x ≤ last

/-- The characters of a text. -/
def ofText (t : Text) : CharSet := fun x => t.contains x

/-- The members of either set. -/
def union (s t : CharSet) : CharSet := fun x => s x || t x

/-- The common members. -/
def intersection (s t : CharSet) : CharSet := fun x => s x && t x

/-- The members of the first set that the second one lacks. -/
def difference (s t : CharSet) : CharSet := fun x => s x && !t x

/-- The members of exactly one set. -/
def symmetricDifference (s t : CharSet) : CharSet := fun x => s x != t x

/-- The characters of an alphabet that a set lacks. -/
def complement (a : Alphabet) (s : CharSet) : CharSet := fun x => a.contains x && !s x

/-- A set, or its complement. -/
def complementIf (b : Bool) (a : Alphabet) (s : CharSet) : CharSet :=
  if b then s.complement a else s

/-- The members of a set in any letter case.  Of octets, the ASCII letters alone have two cases. -/
def closeUnderCase (a : Alphabet) (s : CharSet) : CharSet := fun x =>
  match a with
  | .unicode => (caseVariants x).any s
  | .octets => s x || s x.toLower || s x.toUpper

/-- Whether a set of octets contains ASCII characters only. -/
def isAsciiOnly (s : CharSet) : Bool := (List.range 128).all fun n => !s (Char.ofNat (128 + n))

/-! ## Named sets -/

/-- Digits. -/
def asciiDigit : CharSet := range '0' '9'

/-- Capitals. -/
def asciiUpper : CharSet := range 'A' 'Z'

/-- Small letters. -/
def asciiLower : CharSet := range 'a' 'z'

/-- Letters. -/
def asciiLetter : CharSet := asciiUpper.union asciiLower

/-- Letters and digits. -/
def asciiAlphanumeric : CharSet := asciiLetter.union asciiDigit

/-- Letters, digits and the underscore. -/
def asciiWord : CharSet := asciiAlphanumeric.union (single '_')

/-- White space. -/
def asciiSpace : CharSet := (range '\t' '\r').union (single ' ')

/-- Hexadecimal digits. -/
def hexDigit : CharSet := asciiDigit.union ((range 'A' 'F').union (range 'a' 'f'))

/-- Characters that are printed and are neither letters nor digits. -/
def asciiPunctuation : CharSet := (range '!' '~').difference asciiAlphanumeric

/-- The sets of ASCII characters that have a name inside a bracketed class. -/
def asciiClasses : List (Text × CharSet) :=
  [("alnum".toList, asciiAlphanumeric), ("alpha".toList, asciiLetter),
    ("ascii".toList, range '\x00' '\x7f'), ("blank".toList, ofText ['\t', ' ']),
    ("cntrl".toList, (range '\x00' '\x1f').union (single '\x7f')),
    ("digit".toList, asciiDigit), ("graph".toList, range '!' '~'),
    ("lower".toList, asciiLower), ("print".toList, range ' ' '~'),
    ("punct".toList, asciiPunctuation), ("space".toList, asciiSpace),
    ("upper".toList, asciiUpper), ("word".toList, asciiWord), ("xdigit".toList, hexDigit)]

/-- The sets that an escaped letter stands for. -/
inductive Shorthand where
  /-- Digits. -/
  | digit
  /-- White space. -/
  | space
  /-- Characters of words. -/
  | word
  deriving DecidableEq, Repr

/-- The members of a set that an escaped letter stands for. -/
def Shorthand.members (s : Shorthand) (a : Alphabet) : CharSet :=
  match s, a with
  | digit, .unicode => fun x => Category.of x = .nd
  | space, .unicode => isWhite
  | word, .unicode => isWordChar
  | digit, .octets => asciiDigit
  | space, .octets => asciiSpace
  | word, .octets => asciiWord

/-- The characters whose general category is one of the given ones. -/
def ofCategories (ks : List Category) : CharSet := fun x => ks.contains (Category.of x)

end CharSet

end DocBlock
