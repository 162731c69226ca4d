/-
# Messages

What the program tells the user apart from the document: complaints about the command line, records
of the log, and the reason why a run failed.
-/
import DocBlock.CommandLine.Basic
import DocBlock.FileTree
import DocBlock.Log

namespace DocBlock

/-- The steps of a run that can fail. -/
inductive Step where
  /-- The source is read from standard input. -/
  | readInput
  /-- The source is read from a file. -/
  | readSource (p : Path)
  /-- The preamble is read from a file. -/
  | readPreamble (p : Path)
  /-- The document is written to a file. -/
  | writeDocument (p : Path)
  /-- The document is written to standard output. -/
  | printDocument
  deriving DecidableEq, Repr

/-- What was attempted, for the user. -/
def Step.message : Step → Text
  | readInput => "failed to read stdin".toList
  | readSource p => "failed to read ".toList ++ p.display
  | readPreamble p => "failed to read preamble file: ".toList ++ p.display
  | writeDocument p => "failed to write ".toList ++ p.display
  | printDocument => "failed to write stdout".toList

/-- The reasons for which a step fails. -/
inductive Cause where
  /-- A file, or a standard stream, cannot be read or written. -/
  | file (e : FileError)
  /-- What was read is not a text. -/
  | notText
  deriving DecidableEq, Repr

/-- The message that shows a reason to the user. -/
def Cause.message : Cause → Text
  | file e => e.message
  | notText => "stream did not contain valid UTF-8".toList

/-- The failure of a run. -/
structure Failure where
  /-- The step that failed. -/
  step : Step
  /-- The reason why it failed. -/
  cause : Cause
  deriving DecidableEq, Repr

/-- What the program tells the user on the error output. -/
inductive Message where
  /-- The command line is at fault. -/
  | problem (p : CommandLine.Problem)
  /-- The text that sets up the log is at fault. -/
  | complaint (c : Log.Complaint)
  /-- A record of the log. -/
  | record (l : Log.Level) (message : Text)
  /-- The run failed. -/
  | failure (f : Failure)
  deriving DecidableEq, Repr

/-- The text of a message, line ends included.  Of a failure, the reason is indented as a whole; the
step is quoted as it is. -/
def Message.text : Message → Text
  | problem p => "error: ".toList ++ p.message ++ ['\n']
  | complaint c => "warning: ".toList ++ c.message ++ ", ignoring it\n".toList
  | record l m => (Log.record l m).shown
  | failure f =>
    "Error: ".toList ++ f.step.message ++ "\n\nCaused by:\n    ".toList ++ f.cause.message.hang ++
      ['\n']

end DocBlock
