/-
# Texts

Everything the library reads and writes is a *text*, a finite sequence of Unicode characters, or a
sequence of octets that stands for one.  This file fixes the two types and treats what can be said
of a text character by character: its lines, the white space at its ends, and its letter case.
-/

namespace DocBlock

/-- A text: a finite sequence of characters. -/
abbrev Text := List Char

/-- A sequence of octets: the content of a file, a path, an argument of the command line. -/
abbrev Bytes := List UInt8

namespace Text

/-- The decimal digits of a natural number, without leading zeros. -/
def ofNat (n : Nat) : Text := Nat.toDigits 10 n

/-- The lines of a text. -/
def lines (t : Text) : List Text := t.splitOn '\n'

/-- A text without its carriage returns. -/
def dropReturns (t : Text) : Text := t.filter (· ≠ '\r')

/-- A text whose lines after the first are indented. -/
def hang (t : Text) : Text :=
  t.flatMap fun c => if c = '\n' then '\n' :: List.replicate 4 ' ' else [c]

end Text

/-! ## White space

The characters with the Unicode property `White_Space`, and the removal of white space from the
ends of a text.  The class is wider than that of `Char.isWhitespace`, which knows ASCII only; the
controls U+001C to U+001F, the Mongolian vowel separator and the zero width space do not belong
to it. -/

/-- The ranges of code points with the property `White_Space`, ends included. -/
def whiteSpaceRanges : List (Nat × Nat) :=
  [(0x0009, 0x000D), (0x0020, 0x0020), (0x0085, 0x0085), (0x00A0, 0x00A0), (0x1680, 0x1680),
    (0x2000, 0x200A), (0x2028, 0x2029), (0x202F, 0x202F), (0x205F, 0x205F), (0x3000, 0x3000)]

/-- Whether a character has the property `White_Space`. -/
def isWhite (c : Char) : Bool :=
  whiteSpaceRanges.any fun r => r.1 ≤ c.toNat && c.toNat ≤ r.2

namespace Text

/-- A text without the white space it starts with. -/
def trimStart (t : Text) : Text := t.dropWhile isWhite

/-- A text without the white space it ends with. -/
def trimEnd (t : Text) : Text := (t.reverse.dropWhile isWhite).reverse

/-- A text without the white space at its two ends. -/
def trim (t : Text) : Text := t.trimStart.trimEnd

/-- Dropping the leading white space does not make a text longer. -/
theorem length_trimStart_le (t : Text) : t.trimStart.length ≤ t.length :=
  (List.dropWhile_sublist _).length_le

end Text

/-! ## Letter case

Comparison of a text with an ASCII word, letter case ignored.  Besides the ASCII capitals, two
characters have an ASCII letter as their simple case folding: the long s (U+017F) and the Kelvin
sign (U+212A).  The dotted and dotless variants of the letter i (U+0130, U+0131) have none. -/

/-- The simple case folding of a character whose folding is an ASCII letter; every other character
is left alone. -/
def foldCase (c : Char) : Char :=
  if c = '\u017F' then 's' else if c = '\u212A' then 'k' else c.toLower

namespace Text

/-- What follows a word at the start of a text, if the text starts with that word in any letter
case.  The word is given in lower case. -/
def dropWord? : Text → Text → Option Text
  | [], t => some t
  | _ :: _, [] => none
  | w :: ws, c :: t => if foldCase c = w then dropWord? ws t else none

/-- What remains after a word is shorter than the text by the length of the word. -/
theorem length_of_dropWord?_eq_some {w t rest : Text} (h : dropWord? w t = some rest) :
    t.length = w.length + rest.length := by
  induction w generalizing t with
  | nil => simp_all [dropWord?]
  | cons x w ih =>
    cases t with
    | nil => simp [dropWord?] at h
    | cons c t =>
      simp only [dropWord?] at h
      split at h
      · simp [ih h]; omega
      · simp at h

end Text

end DocBlock
