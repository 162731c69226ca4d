/-
# Warnings on the error output

The error output of a run is a text.  Where the log is not set up otherwise, it starts with a line
for each diagnostic of the document, and these lines can be read back: the diagnostics are those
that the lines in front warn of, up to the first line that does not start like a warning.

What follows the warnings is the news that a file has been written, or the report of a failure.
Both quote a path, and a path can have line ends in it.  In the log, the lines of a message after
the first are indented, and no command for the terminal takes the indentation away, so that none of
them starts like a warning.  In the report of a failure, the reason is indented as well, but the
path is quoted as it is.  So a part of the path can stand on a line of its own there, and look like
a warning of something that is not in the document.
-/
import DocBlock.Proofs.Threshold
import DocBlock.Proofs.Wording

namespace DocBlock

/-! ## Lines that warn -/

namespace Diagnostic

end Diagnostic

namespace Text

variable {ds : List Diagnostic} {t : Text}

end Text

/-! ## Indented lines -/

namespace Text

end Text

namespace Message

end Message

/-! ## The error output of a run -/

namespace World

open CommandLine (Config)

variable {w v : World} {c : Config} {d : Document} {args : List Bytes} {s : ExitStatus}
  {said : List Message}

end World

end DocBlock
