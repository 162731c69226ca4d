/-
# The log is a threshold

What a run has to log is the same, however the log is set up: a warning for each diagnostic, and the
news that a file has been written.  The set-up decides which of it appears, and nothing else.  All
records of the program have the same target, so that one directive decides about all of them, the
most specific; it allows the records up to some level and no others.  Three cases are left: none of
it appears, or the warnings do, or everything.

A pattern can make a difference between records of one level, but the text of a set-up has none
unless there is a slash in it.
-/
import DocBlock.Proofs.Delivery

namespace DocBlock

/-! ## The level that decides -/

namespace Log

namespace Directives

variable {ds : Directives}

/-- There is a directive for all targets. -/
def HasDefault (ds : Directives) : Prop := ∃ d ∈ ds, d.target = none

lemma HasDefault.insert (h : ds.HasDefault) (d : Directive) : (ds.insert d).HasDefault := by
  obtain ⟨e, he, hnone⟩ := h
  unfold Directives.insert
  split_ifs
  · refine ⟨if e.target = d.target then d else e, List.mem_map.2 ⟨e, he, rfl⟩, ?_⟩
    split_ifs with heq
    · exact heq.symm.trans hnone
    · exact hnone
  · exact ⟨e, List.mem_append_left _ he, hnone⟩

end Directives

/-- The highest level of the records of a target that are allowed. -/
def Directives.limit (ds : Directives) (target : Text) : Level :=
  ((ds.decisive? target).map Directive.limit).getD .off

end Log

namespace Message

end Message

namespace CommandLine

namespace Config

end Config

end CommandLine

namespace World

open CommandLine (Config)

variable {w v : World} {c : Config} {args : List Bytes} {spec : Option Text} {s : ExitStatus}
  {said : List Message}

/-- How a run ends and what it leaves, apart from its messages. -/
def outcome (w : World) : Except CommandLine.Problem CommandLine.Request → ExitStatus × World
  | .error _ => (.misuse, w)
  | .ok .help => (.success, w.receiving none (Utf8.encode CommandLine.helpText))
  | .ok (.document c) =>
    match w.document c, w.sink c with
    | .error _, _ => (.failure, w)
    | .ok _, .error _ => (.failure, w)
    | .ok d, .ok k => (.success, w.receiving k (Utf8.encode d.markdown))

end World

end DocBlock
