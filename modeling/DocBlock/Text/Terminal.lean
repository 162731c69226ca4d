/-
# Control sequences

A terminal shows some characters and takes others for commands.  A control character is a command of
its own; the escape character starts a sequence of characters that are a command together.  What a
program tells its user may quote texts with such characters in them, and where the output is not
meant for a terminal they are left out.  This file says which characters of a text remain.

A sequence is read by a machine with finitely many states.  White space has its effect wherever it
stands, so it is shown even inside a sequence, and it interrupts the reading: what follows it is
shown until the next control character, and only then does the sequence go on.
-/
import DocBlock.Text.Utf8

namespace DocBlock

namespace Terminal

/-! ## Characters -/

/-- The character that starts a sequence. -/
def escape : Char := '\x1b'

/-- Whether a character ends every sequence. -/
def isCancel (c : Char) : Bool := c = '\x18' || c = '\x1a'

/-- Whether a character is white space that has its effect inside a sequence as well. -/
def isBlank (c : Char) : Bool := c = '\t' || c = '\n' || c = '\x0c' || c = '\r'

/-- Whether a character lies between two others, ends included. -/
def isBetween (first last : Char) (c : Char) : Bool := first ≤ c && c ≤ last

/-- Whether a character belongs to ASCII. -/
def isAscii (c : Char) : Bool := c ≤ '\x7f'

/-- Whether a character is shown: it is printable or white space, or it is beyond ASCII. -/
def isVisible (c : Char) : Bool := isBetween ' ' '~' c || isBlank c || !isAscii c

/-! ## The reader of sequences -/

/-- What a reader is in the middle of. -/
inductive Context where
  /-- Plain text. -/
  | text
  /-- A sequence of which only the escape character has been read. -/
  | escape
  /-- A sequence of an escape character, characters from space to slash and a final one. -/
  | designation
  /-- A control sequence, which ends with a letter or a character like it. -/
  | control
  /-- A command of the operating system, which ends with the bell. -/
  | command
  /-- The start of a string for the device. -/
  | device
  /-- The parameters of a string for the device. -/
  | deviceParameters
  /-- What stands between these parameters and the string. -/
  | deviceIntermediates
  /-- A string of any kind. -/
  | string
  deriving DecidableEq, Repr

namespace Context

/-- Whether white space has its effect in a context. -/
def showsBlanks : Context → Bool
  | text | escape | designation | control => true
  | command | device | deviceParameters | deviceIntermediates | string => false

/-- Whether a context shows a character. -/
def admits (x : Context) (c : Char) : Bool :=
  if x = text then isVisible c else x.showsBlanks && isBlank c

/-- The context that a character after the escape character leads to. -/
def opened (c : Char) : Context :=
  if c = '[' then control
  else if c = ']' then command
  else if c = 'P' then device
  else if c = 'X' ∨ c = '^' ∨ c = '_' then string
  else if isBetween ' ' '/' c then designation
  else if isBetween '0' '~' c then text
  else escape

/-- Whether an octet of the encoding of a character ends a string. -/
def endsString (c : Char) : Bool := !isAscii c && (Utf8.encode [c]).contains 0x9C

/-- The context that a character leads to which neither starts nor ends a sequence whatever the
context. -/
def next (x : Context) (c : Char) : Context :=
  match x with
  | text => text
  | escape => opened c
  | designation => if isBetween '0' '~' c then text else designation
  | control => if isBetween '@' '~' c then text else control
  | command => if c = '\x07' then text else command
  | device =>
    if isBetween ' ' '/' c then deviceIntermediates
    else if c = ':' ∨ isBetween '@' '~' c then string
    else if isBetween '0' '?' c then deviceParameters
    else device
  | deviceParameters =>
    if isBetween ' ' '/' c then deviceIntermediates
    else if c = ':' ∨ isBetween '<' '~' c then string
    else deviceParameters
  | deviceIntermediates => if isBetween '0' '~' c then string else deviceIntermediates
  | string => if endsString c then text else string

end Context

/-- What a reader of sequences knows between two characters. -/
structure Reader where
  /-- What it is in the middle of. -/
  context : Context := .text
  /-- Whether the last character was shown, so that visible ones are shown in any context. -/
  showing : Bool := false
  deriving DecidableEq, Repr

namespace Reader

/-- Whether a reader shows the next character. -/
def shows (r : Reader) (c : Char) : Bool := (r.showing && isVisible c) || r.context.admits c

/-- The reader after a character.  A character beyond ASCII that is shown ends a sequence. -/
def step (r : Reader) (c : Char) : Reader :=
  if isCancel c then {}
  else if c = Terminal.escape then ⟨.escape, false⟩
  else if r.showing && isVisible c then ⟨if isAscii c then r.context else .text, true⟩
  else ⟨r.context.next c, r.context.admits c⟩

/-- The characters that a reader shows of a text. -/
def read (r : Reader) : Text → Text
  | [] => []
  | c :: t => if r.shows c then c :: (r.step c).read t else (r.step c).read t

end Reader

end Terminal

namespace Text

/-- A text without the characters that a terminal takes for commands. -/
def shown (t : Text) : Text := ({} : Terminal.Reader).read t

end Text

namespace Terminal

/-! ## What remains of a text -/

end Terminal

namespace Text

end Text

end DocBlock
