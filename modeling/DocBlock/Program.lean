/-
# The program

A run of the program: what it reads, what it says and what it writes, in which order.  The program
is written over an arbitrary host, which supplies the input, the files and the outputs, so that the
same definition runs on the system and in a world that exists on paper only.

A run that makes a document reads the source, then the template of the preamble; it logs a warning
for every diagnostic and delivers the document.  The first step that fails ends the run.
-/
import DocBlock.CommandLine.Basic
import DocBlock.CommandLine.Request
import DocBlock.Document
import DocBlock.Message

namespace DocBlock

/-! ## What a command line decides -/

namespace CommandLine.Config

/-- The name of the module where nothing else gives one. -/
def fallbackName : Text := ['A', 'P', 'I']

/-- The name of the file that a document is written to where the user gives none. -/
def standardOutput : Bytes := Utf8.encode "README.md".toList

/-- The name of the documented module: the one that is given, else the stem of the source file. -/
def moduleName (c : Config) : Text :=
  (c.name.or ((c.file.bind Path.fileName?).map fun n => Utf8.decodeLossy (Path.stem n))).getD
    fallbackName

/-- The file that the document is written to, if there is one: the one that is given, else a file
beside the source file. -/
def destination (c : Config) : Option Path :=
  c.output.or (c.file.map (·.withFileName standardOutput))

/-- The document of a source, with a preamble made from a template. -/
def document (c : Config) (source template : Text) : Document :=
  .ofSource ⟨c.lang.getD defaultLang, Template.fill c.moduleName template⟩ source

/-- The filter of the log.  A quiet run does not look at what the user set up. -/
def logFilter (c : Config) (spec : Option Text) : Log.Filter :=
  if c.quiet then Log.quietFilter else Log.Filter.ofSpec (spec.getD [])

/-- The complaints about what the user set up, if the run looks at it. -/
def logComplaints (c : Config) (spec : Option Text) : List Log.Complaint :=
  if c.quiet then [] else Log.complaints (spec.getD [])

end CommandLine.Config

/-! ## Hosts -/

/-- The operations of the system that the program uses. -/
class Host (m : Type → Type) where
  /-- The whole of standard input. -/
  readInput : m (Except FileError Bytes)
  /-- The content of a file. -/
  readFile (p : Path) : m (Except FileError Bytes)
  /-- Writes a file, which is made if there is none. -/
  writeFile (p : Path) (content : Bytes) : m (Except FileError Unit)
  /-- Writes to standard output. -/
  print (content : Bytes) : m (Except FileError Unit)
  /-- Writes a message to the error output. -/
  say (x : Message) : m Unit

/-- How a run ended. -/
inductive ExitStatus where
  /-- Everything that was asked for has been done. -/
  | success
  /-- A step failed. -/
  | failure
  /-- The command line is at fault. -/
  | misuse
  deriving DecidableEq, Repr

/-- The number that tells the system how a run ended. -/
def ExitStatus.code : ExitStatus → Nat
  | success => 0
  | failure => 1
  | misuse => 2

/-! ## Runs -/

namespace Program

open CommandLine (Config)

variable {m : Type → Type} [Monad m] [Host m]

/-- The text that a step has read. -/
def textOf (s : Step) : Except FileError Bytes → Except Failure Text
  | .error e => .error ⟨s, .file e⟩
  | .ok content =>
    match Utf8.decode? content with
    | some t => .ok t
    | none => .error ⟨s, .notText⟩

/-- Reads the source. -/
def readSource (c : Config) : ExceptT Failure m Text :=
  match c.file with
  | some p => .mk (textOf (.readSource p) <$> Host.readFile p)
  | none => .mk (textOf .readInput <$> Host.readInput)

/-- Reads the template of the preamble. -/
def readTemplate (c : Config) : ExceptT Failure m Text :=
  match c.preamble with
  | some p => .mk (textOf (.readPreamble p) <$> Host.readFile p)
  | none => pure Template.standard

/-- The target of the records that the program logs. -/
def logTarget : Text := "luadoc".toList

/-- Logs a record, if the filter admits it. -/
def log (f : Log.Filter) (l : Log.Level) (message : Text) : m Unit :=
  if f.admits logTarget l message then Host.say (.record l message) else pure ()

/-- Delivers a document. -/
def deliver (c : Config) (f : Log.Filter) (content : Bytes) : ExceptT Failure m Unit :=
  match c.destination with
  | none => .mk (Except.mapError (⟨.printDocument, .file ·⟩) <$> Host.print content)
  | some p => do
    .mk (Except.mapError (⟨.writeDocument p, .file ·⟩) <$> Host.writeFile p content)
    ExceptT.lift (log f .info ("Done! Wrote ".toList ++ p.display))

/-- Makes a document and delivers it. -/
def makeDocument (c : Config) (f : Log.Filter) : ExceptT Failure m Unit := do
  let source ← readSource c
  let template ← readTemplate c
  let d := c.document source template
  ExceptT.lift (d.diagnostics.forM fun x => log f .warn x.message)
  deliver c f (Utf8.encode d.markdown)

/-- A run of the program, for the given arguments and what the user has set up for the log.  Whether
the help text can be printed makes no difference. -/
def run (args : List Bytes) (logSpec : Option Text) : m ExitStatus :=
  match CommandLine.request args with
  | .error p => do
    Host.say (.problem p)
    return .misuse
  | .ok .help => do
    discard (Host.print (Utf8.encode CommandLine.helpText))
    return .success
  | .ok (.document c) => do
    (c.logComplaints logSpec).forM fun x => Host.say (.complaint x)
    match ← (makeDocument c (c.logFilter logSpec)).run with
    | .ok () => return .success
    | .error f => do
      Host.say (.failure f)
      return .failure

end Program

end DocBlock
