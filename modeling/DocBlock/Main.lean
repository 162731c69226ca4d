/-
# The command

The program on the system: arguments, files and outputs are those of the process.
-/
import DocBlock.Program

namespace DocBlock

/-- A reason in the words of the system, with its number. -/
def FileError.ofWords (code : UInt32) (details : String) : FileError :=
  .system (details ++ " (os error " ++ toString code ++ ")").toList

/-- The reason that an error of the system stands for. -/
def FileError.ofSystem : IO.Error → FileError
  | .noFileOrDirectory _ _ _ => .notFound
  | .inappropriateType _ code details =>
    if code = 20 ∨ code = -20 then .notDirectory
    else if code = 21 ∨ code = -21 then .isDirectory
    else .ofWords code details
  | .invalidArgument _ code details =>
    if code = 36 ∨ code = -36 then .nameTooLong
    else .ofWords code details
  | .permissionDenied _ code details | .resourceExhausted _ code details
  | .resourceVanished code details | .hardwareFault code details => .ofWords code details
  | e => .system (toString e).toList

/-- The octets of an array. -/
def Bytes.ofArray (a : ByteArray) : Bytes := a.data.toList

/-- An array of octets. -/
def Bytes.toByteArray (bs : Bytes) : ByteArray := ⟨bs.toArray⟩

/-- A text, as the system takes it. -/
def Text.toString (t : Text) : String := String.ofList t

/-- The result of an action, or the reason why it failed. -/
def attempt {α : Type} (action : IO α) : IO (Except FileError α) :=
  return (← action.toBaseIO).mapError FileError.ofSystem

instance : Host IO where
  readInput := attempt (return Bytes.ofArray (← (← IO.getStdin).readBinToEnd))
  readFile p := attempt (return Bytes.ofArray (← IO.FS.readBinFile p.display.toString))
  writeFile p content := attempt (IO.FS.writeBinFile p.display.toString content.toByteArray)
  print content := attempt do
    (← IO.getStdout).write (Bytes.toByteArray content)
    (← IO.getStdout).flush
  say x := discard (attempt do (← IO.getStderr).putStr x.text.toString)

end DocBlock

/-- Runs the program on the arguments of the process. -/
def main (args : List String) : IO UInt32 := do
  let octets := args.map fun a => DocBlock.Bytes.ofArray a.toUTF8
  let spec := (← IO.getEnv "RUST_LOG").map String.toList
  let status ← DocBlock.Program.run octets spec
  return status.code.toUInt32
