/-
# Faults of patterns

A text that should describe a pattern can be at fault in many ways.  A fault has a place in the
text, and the report on it shows the text with the place marked.
-/
import DocBlock.Text.Basic

namespace DocBlock

/-! ## Places in a text -/

/-- A position in a text. -/
structure Position where
  /-- How many characters stand before it. -/
  offset : Nat := 0
  /-- The line that it is in.  The first line has the number 1. -/
  line : Nat := 1
  /-- The column that it is in.  The first column of a line has the number 1. -/
  column : Nat := 1
  deriving DecidableEq, Repr

/-- The position after a character. -/
def Position.after (p : Position) (c : Char) : Position :=
  if c = '\n' then ⟨p.offset + 1, p.line + 1, 1⟩ else ⟨p.offset + 1, p.line, p.column + 1⟩

/-- A part of a text, given by where it starts and where it stops. -/
structure Span where
  /-- The position before its first character. -/
  start : Position
  /-- The position after its last character. -/
  stop : Position
  deriving DecidableEq, Repr

namespace Span

/-- The empty part at a position. -/
def point (p : Position) : Span := ⟨p, p⟩

/-- Whether a part starts and stops in the same line. -/
def isInLine (s : Span) : Bool := s.start.line = s.stop.line

/-- Whether a part comes before another, or starts with it and is not longer. -/
def isBefore (s t : Span) : Bool :=
  s.start.offset < t.start.offset ||
    s.start.offset = t.start.offset && s.stop.offset ≤ t.stop.offset

end Span

/-! ## Faults -/

/-- What can be wrong with the text of a pattern.  The messages say what each of them means. -/
inductive PatternError where
  | classUnclosed
  | classEscape
  | rangeEnd
  | rangeOrder
  | countUnclosed
  | countEmpty
  | countTooLarge
  | countOrder
  | operandMissing
  | escapeUnfinished
  | escapeUnknown
  | backreference
  | hexDigit
  | hexEmpty
  | hexRange
  | lookAround
  | groupUnclosed
  | groupUnopened
  | nameEmpty
  | nameCharacter
  | nameUnclosed
  /-- Two groups have the same name. -/
  | nameRepeated (first : Span)
  | flagUnknown
  | flagMissing
  /-- A flag is given twice. -/
  | flagRepeated (first : Span)
  /-- Flags are turned off twice. -/
  | negationRepeated (first : Span)
  | negationEmpty
  | propertyMissing
  | propertyUnknown
  | valueUnknown
  | boundaryUnclosed
  | boundaryUnknown
  | boundaryUnfinished
  | unicodeForbidden
  | notText
  deriving DecidableEq, Repr

namespace PatternError

/-- The message that shows an error to the user. -/
def message : PatternError → Text
  | classUnclosed => "unclosed character class".toList
  | classEscape => "invalid escape sequence found in character class".toList
  | rangeEnd => "invalid range boundary, must be a literal".toList
  | rangeOrder => "invalid character class range, the start must be <= the end".toList
  | countUnclosed => "unclosed counted repetition".toList
  | countEmpty => "repetition quantifier expects a valid decimal".toList
  | countTooLarge => "decimal literal invalid".toList
  | countOrder => "invalid repetition count range, the start must be <= the end".toList
  | operandMissing => "repetition operator missing expression".toList
  | escapeUnfinished =>
    "incomplete escape sequence, reached end of pattern prematurely".toList
  | escapeUnknown => "unrecognized escape sequence".toList
  | backreference => "backreferences are not supported".toList
  | hexDigit => "invalid hexadecimal digit".toList
  | hexEmpty => "hexadecimal literal empty".toList
  | hexRange => "hexadecimal literal is not a Unicode scalar value".toList
  | lookAround => "look-around, including look-ahead and look-behind, is not supported".toList
  | groupUnclosed => "unclosed group".toList
  | groupUnopened => "unopened group".toList
  | nameEmpty => "empty capture group name".toList
  | nameCharacter => "invalid capture group character".toList
  | nameUnclosed => "unclosed capture group name".toList
  | nameRepeated _ => "duplicate capture group name".toList
  | flagUnknown => "unrecognized flag".toList
  | flagMissing => "expected flag but got end of regex".toList
  | flagRepeated _ => "duplicate flag".toList
  | negationRepeated _ => "flag negation operator repeated".toList
  | negationEmpty => "dangling flag negation operator".toList
  | propertyMissing => "invalid Unicode character class".toList
  | propertyUnknown => "Unicode property not found".toList
  | valueUnknown => "Unicode property value not found".toList
  | boundaryUnclosed =>
    "special word boundary assertion is either unclosed or contains an invalid character".toList
  | boundaryUnknown =>
    "unrecognized special word boundary assertion, valid choices are: start, end, ".toList ++
      "start-half or end-half".toList
  | boundaryUnfinished =>
    "found either the beginning of a special word boundary or a bounded repetition on a ".toList ++
      "\\b with an opening brace, but no closing brace".toList
  | unicodeForbidden => "Unicode not allowed here".toList
  | notText => "pattern can match invalid UTF-8".toList

/-- The earlier place that an error refers to, if there is one. -/
def earlier? : PatternError → Option Span
  | nameRepeated s | flagRepeated s | negationRepeated s => some s
  | _ => none

end PatternError

/-- A fault: what is wrong, and where. -/
structure PatternFault where
  /-- What is wrong. -/
  error : PatternError
  /-- The part of the text that is wrong. -/
  span : Span
  deriving DecidableEq, Repr

namespace PatternFault

/-! ## Reports -/

/-- The places that a report marks, in order. -/
def spans (f : PatternFault) : List Span :=
  match f.error.earlier? with
  | none => [f.span]
  | some s => if s.isBefore f.span then [s, f.span] else [f.span, s]

/-- The marks below a line of which some columns are behind: each place is marked by as many signs
as it has characters, but by one at least. -/
def marks : Nat → List Span → Text
  | _, [] => []
  | n, s :: ss =>
    let start := max n (s.start.column - 1)
    let width := max 1 (s.stop.column - s.start.column)
    List.replicate (start - n) ' ' ++ List.replicate width '^' ++ marks (start + width) ss

/-- The lines that a report shows of a text.  A line end at the end of the text does not start
another line, and carriage returns before line ends are not shown. -/
def shownLines (t : Text) : List Text :=
  match (t.splitOn '\n').reverse with
  | [] => []
  | last :: earlier =>
    (earlier.map fun l => if l.getLast? = some '\r' then l.dropLast else l).reverse ++
      (if last = [] then [] else [last])

/-- The number of columns that the numbers of lines take up in a report.  The only line of a text
has no number. -/
def numberWidth (t : Text) : Nat :=
  let lines := (t.splitOn '\n').length
  if lines ≤ 1 then 0 else (Text.ofNat lines).length

/-- What stands before a line in a report. -/
def margin (width number : Nat) : Text :=
  if width = 0 then List.replicate 4 ' '
  else (Text.ofNat number).leftpad width ' ' ++ [':', ' ']

/-- A line of a text with its margin, and a line of marks below it if some of the places are in
it. -/
def annotated (width : Nat) (places : List Span) (number : Nat) (line : Text) : Text :=
  let here := places.filter fun s => s.isInLine && s.start.line = number
  let left := margin width number
  left ++ line ++ '\n' ::
    (if here = [] then [] else List.replicate left.length ' ' ++ marks 0 here ++ ['\n'])

/-- What a report says of a place that extends over several lines. -/
def extent (s : Span) : Text :=
  "on line ".toList ++ Text.ofNat s.start.line ++ " (column ".toList ++
    Text.ofNat s.start.column ++ ") through line ".toList ++ Text.ofNat s.stop.line ++
    " (column ".toList ++ Text.ofNat (s.stop.column - 1) ++ ")\n".toList

/-- The line that sets off a text of several lines in a report. -/
def divider : Text := List.replicate 79 '~' ++ ['\n']

/-- The text with the places of a fault marked. -/
def notes (f : PatternFault) (t : Text) : Text :=
  ((shownLines t).zipIdx 1).flatMap fun x => annotated (numberWidth t) f.spans x.2 x.1

/-- The report on a fault of a text. -/
def report (f : PatternFault) (t : Text) : Text :=
  let notes :=
    if t.contains '\n' then
      divider ++ f.notes t ++ divider ++ (f.spans.filter (!·.isInLine)).flatMap extent
    else f.notes t
  "regex parse error:\n".toList ++ notes ++ "error: ".toList ++ f.error.message

end PatternFault

end DocBlock
