/-
# Requests

What a command line asks for.  Its arguments are read in two steps: first into items, as far as that
needs no knowledge of their values, and then the items are taken into account from left to right.
-/
import DocBlock.CommandLine.Basic

namespace DocBlock

namespace CommandLine

/-! ## Items

An argument is an option if it starts with a hyphen and is not a hyphen alone; every other argument
is an operand, or the value of the option before it.  After the argument `--` there are operands
only.

The items of a command line tell for each value whether it is attached to its option or detached
from it, for that decides which of two problems is reported. -/

/-- What is read from a command line. -/
inductive Item where
  /-- A flag. -/
  | flag (f : Flag)
  /-- A parameter with the value that is attached to it. -/
  | attached (p : Parameter) (value : Bytes)
  /-- A parameter with the argument after it as its value, if that can be a value; or an operand. -/
  | detached (p : Parameter) (value : Option Bytes)
  /-- An argument that has no place in a command line. -/
  | stray (problem : Problem)
  deriving DecidableEq, Repr

/-- The octet that options start with. -/
def hyphen : UInt8 := 0x2D

/-- The octet between an option and the value that is attached to it. -/
def equals : UInt8 := 0x3D

/-- The argument after which there are operands only. -/
def terminator : Bytes := [hyphen, hyphen]

/-- Whether an argument is an option. -/
def isOption (a : Bytes) : Bool := a.head? = some hyphen && a ≠ [hyphen] && a ≠ terminator

/-! ## Options -/

/-- What one argument holds, when it is an option: items, and the parameter that still waits for its
value. -/
structure Reading where
  /-- The items of the argument. -/
  items : List Item := []
  /-- The parameter that the next argument may be the value of. -/
  awaiting : Option Parameter := none
  deriving DecidableEq, Repr

/-- The reading of a long option, given by what follows its hyphens. -/
def readLong (body : Bytes) : Reading :=
  let name := body.takeWhile (· ≠ equals)
  let value := body.dropWhile (· ≠ equals)
  match longNames.lookup name, value with
  | none, _ => ⟨[.stray (.unexpectedArgument ("--".toList ++ Utf8.decodeLossy name))], none⟩
  | some (.flag f), [] => ⟨[.flag f], none⟩
  | some (.flag f), _ :: v => ⟨[.stray (.unexpectedValue f (Utf8.decodeLossy v))], none⟩
  | some (.parameter p), [] => ⟨[], some p⟩
  | some (.parameter p), _ :: v => ⟨[.attached p v], none⟩

/-- A value that is attached to a short option, without the sign that may stand before it. -/
def attachedValue : Bytes → Bytes
  | b :: v => if b = equals then v else b :: v
  | [] => []

/-- How a short option without a meaning is shown, given what follows it too: by its character, and
by all that is left if no character is there. -/
def shortUsage (body : Bytes) : Text :=
  match Utf8.scan body with
  | some c :: _ => ['-', c]
  | _ => '-' :: Utf8.decodeLossy body

/-- The reading of a cluster of short options, given by what follows its hyphen.  Any number of
flags may stand before a parameter, and the rest of the cluster is the value of that parameter. -/
def readShort : Bytes → Reading
  | [] => {}
  | b :: rest =>
    match shortNames.lookup b with
    | none => ⟨[.stray (.unexpectedArgument (shortUsage (b :: rest)))], none⟩
    | some (.flag f) => ⟨.flag f :: (readShort rest).items, (readShort rest).awaiting⟩
    | some (.parameter p) =>
      if rest = [] then ⟨[], some p⟩ else ⟨[.attached p (attachedValue rest)], none⟩

/-- The reading of an option. -/
def readOption (a : Bytes) : Reading :=
  match a with
  | _ :: b :: body => if b = hyphen then readLong body else readShort (b :: body)
  | _ => {}

/-! ## All arguments -/

/-- An operand is the source file, if there is none so far. -/
def readOperand (hasFile : Bool) (a : Bytes) : Item :=
  if hasFile then .stray (.unexpectedArgument (Utf8.decodeLossy a)) else .detached .file (some a)

/-- The items of arguments that are all operands. -/
def readOperands (hasFile : Bool) : List Bytes → List Item
  | [] => []
  | a :: rest => readOperand hasFile a :: readOperands true rest

/-- The item of a parameter that waits for its value in vain. -/
def unanswered (awaiting : Option Parameter) : List Item :=
  awaiting.toList.map fun p => .detached p none

/-- The items of arguments that follow an option.  It is given whether there was an operand before
them, and which parameter waits for its value. -/
def readArguments (hasFile : Bool) (awaiting : Option Parameter) : List Bytes → List Item
  | [] => unanswered awaiting
  | a :: rest =>
    if a = terminator then unanswered awaiting ++ readOperands hasFile rest
    else if isOption a then
      unanswered awaiting ++
        ((readOption a).items ++ readArguments hasFile (readOption a).awaiting rest)
    else
      match awaiting with
      | some p => .detached p (some a) :: readArguments hasFile none rest
      | none => readOperand hasFile a :: readArguments true none rest

/-- The items of a command line. -/
def items (args : List Bytes) : List Item := readArguments false none args

/-! ## What is asked for

The first problem is reported.  A parameter whose value is detached, or missing, is taken into
account when the item after it has been seen: if that is an argument without a place in a command
line, the problem of that argument comes first. -/

/-- What the items ask for, where the values in `c` were given before them. -/
def settle (c : Config) : List Item → Except Problem Request
  | [] => .ok (.document c)
  | .stray p :: _ => .error p
  | .flag .help :: _ => .ok .help
  | .flag .quiet :: rest =>
    if c.quiet then .error (.repeated (.flag .quiet)) else settle { c with quiet := true } rest
  | .attached p v :: rest =>
    match c.assign p v with
    | .ok c' => settle c' rest
    | .error e => .error e
  | .detached p v :: rest =>
    match rest, v with
    | .stray e :: _, _ => .error e
    | _, none => .error (.missingValue p)
    | _, some v =>
      match c.assign p v with
      | .ok c' => settle c' rest
      | .error e => .error e

/-- What a command line asks for.  The name of the program is not among the arguments. -/
def request (args : List Bytes) : Except Problem Request := settle {} (items args)

end CommandLine

end DocBlock
