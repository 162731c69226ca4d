/-
# Tags and segments

A doc block is a sequence of segments, each about one aspect of the documented item.  The first line
of the block opens a segment whatever it says, and so does every later line that starts, after its
indentation, with the tag marker.  The tag on the first line of a segment says how to read it.
-/
import DocBlock.Block

namespace DocBlock

/-! ## Tags

A tag marks what a part of a doc block describes.  It is written as the marker `@` followed by an
identifier, a run of ASCII letters and digits.  Four identifiers have a meaning; every other one is
kept as it is written. -/

/-- The character that a tag starts with. -/
def tagMarker : Char := '@'

/-- A tag, without its marker. -/
inductive Tag where
  /-- The name of the documented item, `name`. -/
  | name
  /-- The signature of the item, `sig`. -/
  | signature
  /-- A description in prose, `desc`. -/
  | description
  /-- A piece of code that shows the use of the item, `example`. -/
  | sample
  /-- An identifier without a meaning. -/
  | other (ident : Text)
  deriving DecidableEq, Repr

namespace Tag

/-- The identifier of a tag. -/
def ident : Tag → Text
  | name => ['n', 'a', 'm', 'e']
  | signature => ['s', 'i', 'g']
  | description => ['d', 'e', 's', 'c']
  | sample => ['e', 'x', 'a', 'm', 'p', 'l', 'e']
  | other i => i

/-- The tags whose identifier has a meaning. -/
def known : List Tag := [name, signature, description, sample]

/-- The tag that an identifier denotes.  Letter case counts. -/
def ofIdent (i : Text) : Tag := (known.find? (·.ident = i)).getD (.other i)

/-- A tag has the identifier it was read from. -/
@[simp]
theorem ident_ofIdent (i : Text) : (ofIdent i).ident = i := by
  unfold ofIdent
  cases h : known.find? (·.ident = i) with
  | none => rfl
  | some t => simpa using List.find?_some h

/-- Different identifiers denote different tags. -/
theorem ofIdent_injective {i j : Text} (h : ofIdent i = ofIdent j) : i = j := by
  simpa using congrArg ident h

end Tag

/-- Whether a character may occur in the identifier of a tag: an ASCII letter or digit. -/
def isIdentChar (c : Char) : Bool := c.isAlphanum

namespace Text

/-- The identifier after the first marker of a text that is followed by one.  An identifier is not
empty, and it extends as far as possible. -/
def tagIdent? : Text → Option Text
  | [] => none
  | c :: t =>
    if c = tagMarker ∧ t.takeWhile isIdentChar ≠ [] then some (t.takeWhile isIdentChar)
    else tagIdent? t

/-- The tag at the first marker of a text that is followed by an identifier. -/
def tag? (t : Text) : Option Tag := t.tagIdent?.map Tag.ofIdent

end Text

/-! ## Segments -/

/-- A run of lines together with the tag that says how to read it. -/
structure Segment where
  /-- The tag of the segment, if it has one. -/
  tag : Option Tag
  /-- The lines of the segment. -/
  lines : List Line
  deriving DecidableEq, Repr

/-- Whether the text of a line starts, white space aside, with the tag marker. -/
def Line.isTagLine (l : Line) : Bool := l.text.trim.head? = some tagMarker

namespace Segment

/-- The segment made of the given lines.  Its tag is the one on the first line. -/
def ofLines (ls : List Line) : Segment := ⟨ls.head?.bind fun l => l.text.tag?, ls⟩

@[simp]
theorem lines_ofLines (ls : List Line) : (ofLines ls).lines = ls := rfl

/-- The number of the first line of a segment, and 0 if the segment has no lines. -/
def start (s : Segment) : Nat := (s.lines.head?.map Line.number).getD 0

/-- The lines of a segment after the first, which carries the tag. -/
def body (s : Segment) : List Text := s.lines.tail.map Line.text

end Segment

/-- The segments of a block, in order. -/
def Block.segments (b : Block) : List Segment :=
  (b.lines.splitBy fun _ next => !next.isTagLine).map Segment.ofLines

end DocBlock
