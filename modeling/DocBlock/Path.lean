/-
# Paths

A path is a sequence of octets in which slashes separate components.  Empty components and the
component `.` lead nowhere, except that a path may start with a slash, which makes it absolute, or
with `.`; the component `..` leads to the parent directory.

The operations of this file work on the spelling of a path alone.  What a path leads to is a
question about the files that there are.
-/
import DocBlock.Text.Utf8

namespace DocBlock

/-- A path, as it is spelled. -/
abbrev Path := Bytes

namespace Path

/-- The octet that separates components. -/
def slash : UInt8 := 0x2F

/-- The length of the longest name of a file or a directory. -/
def nameLimit : Nat := 255

/-- The length of the longest path. -/
def lengthLimit : Nat := 4095

/-- The octet that separates the stem of a file name from its extension. -/
def dot : UInt8 := 0x2E

/-- The components of a path, those that lead nowhere included. -/
def components (p : Path) : List Bytes := p.splitOn slash

/-- Whether a component leads nowhere: it is empty or `.`. -/
def isIdle (c : Bytes) : Bool := c = [] || c = [dot]

/-- Whether a component is the name of a file or a directory. -/
def isName (c : Bytes) : Bool := !isIdle c && c != [dot, dot]

/-- Components without those that lead nowhere at the end.  The first one stays in any case, because
it tells where the path starts. -/
def dropIdle : List Bytes → List Bytes
  | [] => []
  | c :: cs => c :: (cs.reverse.dropWhile isIdle).reverse

/-- The last component of a path, if it is the name of a file or a directory. -/
def fileName? (p : Path) : Option Bytes := (dropIdle p.components).getLast?.filter isName

/-- A path without the slashes it ends with. -/
def dropSlashes (p : Path) : Path := (p.reverse.dropWhile (· = slash)).reverse

/-- The path of a file in the directory that a path leads to. -/
def child (p : Path) (name : Bytes) : Path :=
  if p = [] ∨ p.getLast? = some slash then p ++ name else p ++ slash :: name

/-- The path with another name in the place of its last component.  A path that does not end with
a name is taken for the path of a directory. -/
def withFileName (p : Path) (name : Bytes) : Path :=
  match p.fileName? with
  | some _ => [slash].intercalate (dropIdle (dropIdle p.components).dropLast ++ [name])
  | none => p.child name

/-- A file name up to its last dot.  A name without a dot, or with none but at the start, is its own
stem. -/
def stem (name : Bytes) : Bytes :=
  match name.reverse.dropWhile (· ≠ dot) with
  | _ :: c :: cs => (c :: cs).reverse
  | _ => name

/-- The text that shows a path to the user. -/
def display (p : Path) : Text := Utf8.decodeLossy p

end Path

end DocBlock
