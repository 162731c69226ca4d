/-
# The command line

The arguments that the program accepts, what is wrong with those that it does not accept, what a
command line can ask for, and the text that tells about all this.  How arguments are read is the
subject of the file beside this one.
-/
import DocBlock.Path
import DocBlock.Text.Terminal

namespace DocBlock

namespace CommandLine

/-! ## Arguments -/

/-- The arguments that have a value. -/
inductive Parameter where
  /-- The source file. -/
  | file
  /-- The file that the document is written to. -/
  | output
  /-- The file with the preamble. -/
  | preamble
  /-- The name of the documented module. -/
  | name
  /-- The language of the samples. -/
  | lang
  deriving DecidableEq, Repr

/-- The arguments that have no value. -/
inductive Flag where
  /-- Only errors are logged. -/
  | quiet
  /-- The help text is printed, and nothing else is done. -/
  | help
  deriving DecidableEq, Repr

/-- An argument of the command line. -/
inductive Argument where
  /-- An argument with a value. -/
  | parameter (p : Parameter)
  /-- An argument without a value. -/
  | flag (f : Flag)
  deriving DecidableEq, Repr

/-- The arguments with a long name, which is written after two hyphens. -/
def longNames : List (Bytes × Argument) :=
  [(Utf8.encode "output".toList, .parameter .output),
    (Utf8.encode "preamble".toList, .parameter .preamble),
    (Utf8.encode "name".toList, .parameter .name), (Utf8.encode "lang".toList, .parameter .lang),
    (Utf8.encode "quiet".toList, .flag .quiet), (Utf8.encode "help".toList, .flag .help)]

/-- The arguments with a short name, which is one ASCII letter and is written after one hyphen. -/
def shortNames : List (UInt8 × Argument) :=
  [('o'.toUInt8, .parameter .output), ('p'.toUInt8, .parameter .preamble),
    ('n'.toUInt8, .parameter .name), ('l'.toUInt8, .parameter .lang),
    ('q'.toUInt8, .flag .quiet), ('h'.toUInt8, .flag .help)]

/-- How an argument is shown to the user. -/
def Argument.usage : Argument → Text
  | parameter .file => "[FILE]".toList
  | parameter .output => "--output <OUTPUT>".toList
  | parameter .preamble => "--preamble <PREAMBLE>".toList
  | parameter .name => "--name <NAME>".toList
  | parameter .lang => "--lang <LANG>".toList
  | flag .quiet => "--quiet".toList
  | flag .help => "--help".toList

/-! ## Problems -/

/-- What is wrong with a command line. -/
inductive Problem where
  /-- There is no such option, or no room for another operand. -/
  | unexpectedArgument (arg : Text)
  /-- An argument has no value where it needs one. -/
  | missingValue (p : Parameter)
  /-- An argument is given twice. -/
  | repeated (a : Argument)
  /-- A flag is given a value. -/
  | unexpectedValue (f : Flag) (value : Text)
  /-- A value is not a text. -/
  | notText
  deriving DecidableEq, Repr

/-- The message that shows a problem to the user.  What it quotes is quoted as a terminal would show
it. -/
def Problem.message : Problem → Text
  | unexpectedArgument arg => "unexpected argument '".toList ++ arg.shown ++ "' found".toList
  | missingValue p =>
    "a value is required for '".toList ++ (Argument.parameter p).usage ++
      "' but none was supplied".toList
  | repeated a => "the argument '".toList ++ a.usage ++ "' cannot be used multiple times".toList
  | unexpectedValue f value =>
    "unexpected value '".toList ++ value.shown ++ "' for '".toList ++ (Argument.flag f).usage ++
      "' found; no more were expected".toList
  | notText => "invalid UTF-8 was detected in one or more arguments".toList

/-! ## What is asked for -/

/-- The values of the arguments. -/
structure Config where
  /-- The source file.  Without one, the source is read from standard input. -/
  file : Option Path := none
  /-- The file that the document is written to. -/
  output : Option Path := none
  /-- The file with the preamble. -/
  preamble : Option Path := none
  /-- The name of the documented module. -/
  name : Option Text := none
  /-- The language of the samples. -/
  lang : Option Text := none
  /-- Whether only errors are logged. -/
  quiet : Bool := false
  deriving DecidableEq, Repr

/-- What a command line asks for. -/
inductive Request where
  /-- The help text. -/
  | help
  /-- A document. -/
  | document (c : Config)
  deriving DecidableEq, Repr

namespace Config

/-- Whether an argument has a value already. -/
def has (c : Config) : Parameter → Bool
  | .file => c.file.isSome
  | .output => c.output.isSome
  | .preamble => c.preamble.isSome
  | .name => c.name.isSome
  | .lang => c.lang.isSome

/-- Gives an argument a value, whether or not it has one.  A path must not be empty, and what is not
a path has to be a text. -/
def put (c : Config) (p : Parameter) (value : Bytes) : Except Problem Config :=
  match p with
  | .file => if value = [] then .error (.missingValue p) else .ok { c with file := some value }
  | .output => if value = [] then .error (.missingValue p) else .ok { c with output := some value }
  | .preamble =>
    if value = [] then .error (.missingValue p) else .ok { c with preamble := some value }
  | .name =>
    match Utf8.decode? value with
    | some t => .ok { c with name := some t }
    | none => .error .notText
  | .lang =>
    match Utf8.decode? value with
    | some t => .ok { c with lang := some t }
    | none => .error .notText

/-- Gives a value to an argument that has none so far. -/
def assign (c : Config) (p : Parameter) (value : Bytes) : Except Problem Config :=
  if c.has p then .error (.repeated (.parameter p)) else c.put p value

end Config

/-! ## Help -/

/-- The lines of the help text. -/
def helpLines : List String :=
  ["Generate Markdown documentation from --[==[ ]==] comment blocks",
    "",
    "Usage: luadoc [OPTIONS] [FILE]",
    "",
    "Arguments:",
    "  [FILE]  Source file. If omitted, reads from stdin and writes to stdout",
    "",
    "Options:",
    "  -o, --output <OUTPUT>      Output file (default: README.md next to the source file)",
    "  -p, --preamble <PREAMBLE>  File whose content replaces the built-in preamble. " ++
      "Supports $\x7bname\x7d substitution",
    "  -n, --name <NAME>          Value for $\x7bname\x7d in the preamble " ++
      "(default: source file stem)",
    "  -l, --lang <LANG>          Code fence language for @example blocks [default: lua]",
    "  -q, --quiet                Only log errors",
    "  -h, --help                 Print help"]

/-- The help text. -/
def helpText : Text := helpLines.flatMap fun l => l.toList ++ ['\n']

end CommandLine

end DocBlock
