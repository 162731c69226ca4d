/-
# Worlds

A world on paper that the program can run in: a tree of files, a place in it where relative paths
start, and the input and outputs of the program.  A run of the program takes a world to another.

The standard streams are there as a whole or not at all: input that cannot be read gives nothing,
and output that cannot be written takes nothing.  On the error output everything can be said.
-/
import DocBlock.Program

namespace DocBlock

/-- All that a run of the program depends on, arguments and settings apart, and all that it
leaves. -/
structure World where
  /-- The files. -/
  files : FileTree := {}
  /-- The directory in which the program runs. -/
  here : Place := []
  /-- What is to be read from standard input. -/
  input : Bytes := []
  /-- Why standard input cannot be read, if it cannot. -/
  inputFault : Option FileError := none
  /-- What has been written to standard output. -/
  output : Bytes := []
  /-- Why standard output cannot be written, if it cannot. -/
  outputFault : Option FileError := none
  /-- What has been said on the error output. -/
  messages : List Message := []
  deriving DecidableEq, Repr

namespace World

/-- The outcome of reading standard input. -/
def readInput (w : World) : Except FileError Bytes :=
  match w.inputFault with
  | some e => .error e
  | none => .ok w.input

/-- The outcome of writing to standard output, with the world after it. -/
def print (w : World) (content : Bytes) : Except FileError Unit × World :=
  match w.outputFault with
  | some e => (.error e, w)
  | none => (.ok (), { w with output := w.output ++ content })

/-- The outcome of writing a file, with the world after it. -/
def writeFile (w : World) (p : Path) (content : Bytes) : Except FileError Unit × World :=
  match w.files.write w.here p content with
  | .ok t => (.ok (), { w with files := t })
  | .error e => (.error e, w)

instance : Host (StateM World) where
  readInput := return (← get).readInput
  readFile p := return (← get).files.read (← get).here p
  writeFile p content := modifyGet fun w => w.writeFile p content
  print content := modifyGet fun w => w.print content
  say x := modify fun w => { w with messages := w.messages ++ [x] }

/-! ## The operations of a world -/

@[simp]
theorem run_readInput (w : World) :
    StateT.run (m := Id) Host.readInput w = pure (w.readInput, w) := rfl

@[simp]
theorem run_readFile (w : World) (p : Path) :
    StateT.run (m := Id) (Host.readFile p) w = pure (w.files.read w.here p, w) := rfl

@[simp]
theorem run_writeFile (w : World) (p : Path) (content : Bytes) :
    StateT.run (m := Id) (Host.writeFile p content) w = pure (w.writeFile p content) := rfl

@[simp]
theorem run_print (w : World) (content : Bytes) :
    StateT.run (m := Id) (Host.print content) w = pure (w.print content) := rfl

@[simp]
theorem run_say (w : World) (x : Message) :
    StateT.run (m := Id) (Host.say x) w = pure ((), { w with messages := w.messages ++ [x] }) :=
  rfl

/-- Printing changes no file. -/
@[simp]
theorem files_print (w : World) (content : Bytes) : (w.print content).2.files = w.files := by
  unfold print
  split <;> rfl

/-- Printing says nothing. -/
@[simp]
theorem messages_print (w : World) (content : Bytes) :
    (w.print content).2.messages = w.messages := by
  unfold print
  split <;> rfl

/-- Messages are said in order. -/
@[simp]
theorem run_forM_say {α : Type} (xs : List α) (f : α → Message) (w : World) :
    StateT.run (m := Id) (forM xs fun x => Host.say (f x)) w =
      pure ((), { w with messages := w.messages ++ xs.map f }) := by
  induction xs generalizing w with
  | nil => simp
  | cons x xs ih => simp [ih]

/-! ## Runs -/

/-- The run of the program in a world: how it ends, and the world after it. -/
def run (w : World) (args : List Bytes) (logSpec : Option Text) : ExitStatus × World :=
  (Program.run args logSpec : StateM World ExitStatus).run w

/-- The text on the error output. -/
def errorText (w : World) : Text := w.messages.flatMap Message.text

/-- The files that are new or changed in the second world, by their path from the directory in which
the program runs.  Files outside that directory do not count. -/
def changes (before after : World) : List (Path × Bytes) :=
  (before.files.changes after.files).filterMap fun x =>
    (before.here.isPrefixOf? x.1).map fun names => ([Path.slash].intercalate names, x.2)

end World

end DocBlock
