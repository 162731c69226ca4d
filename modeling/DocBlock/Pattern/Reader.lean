/-
# Reading the text of a pattern

The readers that the text of a pattern is read with.  A reader moves a cursor over the text, and it
fails with a fault.  There are two kinds of faults: those of the form, which end the reading, and
those of the meaning, which are kept until the form of the whole text has turned out to be right.

Flags in the text itself say how the rest of it is to be read.  One of them allows white space and
comments between the parts of a pattern.
-/
import DocBlock.Pattern.CharSet
import DocBlock.Pattern.Fault

namespace DocBlock

namespace Pattern

/-! ## Flags -/

/-- A flag. -/
inductive Flag where
  /-- Letter case is ignored. -/
  | ignoreCase
  /-- The start and the end of a line count as those of the text. -/
  | multiLine
  /-- The dot stands for line ends as well. -/
  | dotAll
  /-- Repetitions prefer few times to many, which makes no difference to a search. -/
  | reluctant
  /-- Sets of characters are sets of Unicode characters, not of octets. -/
  | unicode
  /-- A carriage return is a part of line ends. -/
  | carriageReturn
  /-- White space and comments are left out. -/
  | spaced
  deriving DecidableEq, Repr

/-- The flag that a letter stands for. -/
def Flag.ofChar? : Char → Option Flag
  | 'i' => some ignoreCase
  | 'm' => some multiLine
  | 's' => some dotAll
  | 'U' => some reluctant
  | 'u' => some unicode
  | 'R' => some carriageReturn
  | 'x' => some spaced
  | _ => none

/-- The flags that are on. -/
abbrev Flags := List Flag

namespace Flags

/-- The flags at the start of a text. -/
def initial : Flags := [.unicode]

/-- The flags after one has been turned on or off. -/
def set (fs : Flags) (f : Flag) (on : Bool) : Flags :=
  if on then f :: fs else fs.filter (· ≠ f)

/-- Whether white space and comments are left out. -/
def spaced (fs : Flags) : Bool := fs.contains .spaced

/-- Whether letter case is ignored. -/
def ignoreCase (fs : Flags) : Bool := fs.contains .ignoreCase

/-- What sets of characters are sets of. -/
def alphabet (fs : Flags) : Alphabet := if fs.contains .unicode then .unicode else .octets

end Flags

/-! ## The cursor -/

/-- How far the text of a pattern has been read. -/
structure Cursor where
  /-- The position that has been reached. -/
  position : Position := {}
  /-- The text after it. -/
  rest : Text
  /-- The first fault of the meaning of what has been read. -/
  deferred : Option PatternFault := none
  deriving DecidableEq, Repr

namespace Cursor

/-- The cursor after the next character. -/
def advance (c : Cursor) : Cursor :=
  match c.rest with
  | [] => c
  | x :: t => { c with position := c.position.after x, rest := t }

/-- The position after white space and comments, with the text after it.  A comment starts with a
number sign and ends with the line. -/
def skip : (isComment : Bool) → Position → Text → Position × Text
  | _, p, [] => (p, [])
  | true, p, x :: t => skip (x ≠ '\n') (p.after x) t
  | false, p, x :: t =>
    if isWhite x then skip false (p.after x) t
    else if x = '#' then skip true (p.after x) t
    else (p, x :: t)

theorem length_skip_le (b : Bool) (p : Position) (t : Text) :
    (skip b p t).2.length ≤ t.length := by
  induction t generalizing b p with
  | nil => simp [skip]
  | cons x t ih =>
    cases b with
    | true => exact Nat.le_succ_of_le (ih _ _)
    | false =>
      unfold skip
      split
      · exact Nat.le_succ_of_le (ih _ _)
      · split
        · exact Nat.le_succ_of_le (ih _ _)
        · exact Nat.le_refl _

/-- The cursor after white space and comments, if they are left out. -/
def skipSpace (c : Cursor) (fs : Flags) : Cursor :=
  if fs.spaced then
    let (p, t) := skip false c.position c.rest
    { c with position := p, rest := t }
  else c

theorem length_rest_skipSpace_le (c : Cursor) (fs : Flags) :
    (c.skipSpace fs).rest.length ≤ c.rest.length := by
  unfold skipSpace
  split
  · exact length_skip_le false c.position c.rest
  · exact Nat.le_refl _

/-- The cursor after the next character and the white space behind it. -/
def next (c : Cursor) (fs : Flags) : Cursor := c.advance.skipSpace fs

theorem length_rest_next_lt {c : Cursor} (h : c.rest ≠ []) (fs : Flags) :
    (c.next fs).rest.length < c.rest.length := by
  refine Nat.lt_of_le_of_lt (length_rest_skipSpace_le _ fs) ?_
  unfold advance
  split
  · contradiction
  · simp_all

/-- The characters of a set that come next, with the cursor after them. -/
def collect (fs : Flags) (s : CharSet) (c : Cursor) : Text × Cursor :=
  if h : c.rest = [] then ([], c)
  else
    let x := c.rest.head h
    if s x then
      let (t, d) := collect fs s (c.next fs)
      (x :: t, d)
    else ([], c)
  termination_by c.rest.length
  decreasing_by exact length_rest_next_lt h fs

end Cursor

/-! ## Readers -/

/-- A reader: it moves the cursor and gives a result, or it fails. -/
abbrev Reader := StateT Cursor (Except PatternFault)

namespace Reader

/-- The next character, if there is one. -/
def char? : Reader (Option Char) := return (← get).rest.head?

/-- Whether the text is at its end. -/
def isAtEnd : Reader Bool := return (← get).rest.isEmpty

/-- The position that has been reached. -/
def position : Reader Position := return (← get).position

/-- The next character, as a part of the text. -/
def charSpan : Reader Span := return ⟨(← get).position, (← get).advance.position⟩

/-- Moves past the next character. -/
def advance : Reader Unit := modify Cursor.advance

/-- Moves past white space and comments, if they are left out. -/
def skipSpace (fs : Flags) : Reader Unit := modify (·.skipSpace fs)

/-- Moves past the next character and the white space behind it. -/
def next (fs : Flags) : Reader Unit := modify (·.next fs)

/-- Reads the characters of a set that come next. -/
def collect (fs : Flags) (s : CharSet) : Reader Text := modifyGet (·.collect fs s)

/-- Moves past a given text, if it comes next. -/
def accept (t : Text) : Reader Bool := do
  if t.isPrefixOf (← get).rest then
    t.forM fun _ => advance
    return true
  else return false

/-- Fails because of a part of the text. -/
def fail {α : Type} (e : PatternError) (s : Span) : Reader α := throw ⟨e, s⟩

/-- Fails because of the text from a position on. -/
def failFrom {α : Type} (e : PatternError) (start : Position) : Reader α := do
  fail e ⟨start, ← position⟩

/-- Fails because of what is missing where the cursor is. -/
def failHere {α : Type} (e : PatternError) : Reader α := do failFrom e (← position)

/-- Fails because of the next character. -/
def failChar {α : Type} (e : PatternError) : Reader α := do fail e (← charSpan)

/-- Moves past the next character and the white space behind it.  It fails if the text is then at
its end. -/
def nextOrFail (fs : Flags) (e : PatternError) (start : Position) : Reader Unit := do
  next fs
  if ← isAtEnd then failFrom e start

/-- Keeps a fault of the meaning, if there is one.  The first fault is kept. -/
def deferIf (b : Bool) (e : PatternError) (s : Span) : Reader Unit :=
  if b then modify fun c => { c with deferred := c.deferred.or (some ⟨e, s⟩) } else pure ()

end Reader

end Pattern

end DocBlock
