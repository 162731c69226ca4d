/-
# Logging

The program logs what it has to say about a run: a warning for every diagnostic, and the path of the
file that it wrote.  Which of these records appear depends on a filter, a list of directives.  A
directive allows records up to a level, either for all targets or for those that start with a given
text; the most specific directive decides.  Besides, a filter can have a pattern, which has to be
found in the message of a record.

The user sets up the filter by a text, a list of entries separated by commas, which a slash and the
pattern may follow.
-/
import DocBlock.Pattern.OfText
import DocBlock.Text.Basic

namespace DocBlock

namespace Log

/-! ## Levels -/

/-- The level of a record, or the limit that a directive sets.  No record has the level `off`. -/
inductive Level where
  | off
  | error
  | warn
  | info
  | debug
  | trace
  deriving DecidableEq, Repr

namespace Level

/-- How much detail a level stands for. -/
def rank : Level → Nat
  | off => 0
  | error => 1
  | warn => 2
  | info => 3
  | debug => 4
  | trace => 5

/-- The name of a level. -/
def label : Level → Text
  | off => ['O', 'F', 'F']
  | error => ['E', 'R', 'R', 'O', 'R']
  | warn => ['W', 'A', 'R', 'N']
  | info => ['I', 'N', 'F', 'O']
  | debug => ['D', 'E', 'B', 'U', 'G']
  | trace => ['T', 'R', 'A', 'C', 'E']

/-- All levels. -/
def all : List Level := [off, error, warn, info, debug, trace]

/-- The level with a given name.  Letter case is ignored. -/
def ofText? (t : Text) : Option Level := all.find? fun l => l.label = t.map Char.toUpper

end Level

/-! ## Filters -/

/-- A limit for the level of records. -/
structure Directive where
  /-- What the target of a record has to start with for the directive to apply, if anything. -/
  target : Option Text := none
  /-- The highest level that the directive allows. -/
  limit : Level
  deriving DecidableEq, Repr

namespace Directive

/-- Whether a directive applies to the records of a target. -/
def appliesTo (d : Directive) (target : Text) : Bool := (d.target.getD []).isPrefixOf target

/-- How specific a directive is: the length of its target. -/
def weight (d : Directive) : Nat := (d.target.getD []).length

end Directive

/-- The directives that decide about levels and targets, in the order in which they were first
given. -/
abbrev Directives := List Directive

namespace Directives

/-- The directives with one more.  It takes the place of the directive with the same target, if
there is one. -/
def insert (ds : Directives) (d : Directive) : Directives :=
  if ds.any (·.target = d.target) then ds.map fun e => if e.target = d.target then d else e
  else ds ++ [d]

/-- The more specific of a directive and the one found before it; the later one, if they are equally
specific. -/
def prefer (found : Option Directive) (d : Directive) : Option Directive :=
  match found with
  | none => some d
  | some e => if e.weight ≤ d.weight then some d else some e

/-- The directive that decides about the records of a target. -/
def decisive? (ds : Directives) (target : Text) : Option Directive :=
  (ds.filter (·.appliesTo target)).foldl prefer none

/-- Whether the records of a target and level are allowed. -/
def admits (ds : Directives) (target : Text) (l : Level) : Bool :=
  match ds.decisive? target with
  | none => false
  | some d => l.rank ≤ d.limit.rank

end Directives

/-- What decides which records appear. -/
structure Filter where
  /-- The levels that are allowed. -/
  directives : Directives
  /-- What has to be found in a message. -/
  pattern : Option Pattern := none

/-- Whether a record appears. -/
def Filter.admits (f : Filter) (target : Text) (l : Level) (message : Text) : Bool :=
  f.directives.admits target l && f.pattern.all (·.isFoundIn message)

/-! ## Filters given by a text -/

/-- The directive of an entry.  An entry is a level, or a target, or a target and a level with an
equals sign between them; a target alone allows every record.  If there is no such directive, the
result is the part of the entry that is to blame. -/
def Directive.ofEntry (entry : Text) : Except Text Directive :=
  match entry.splitOn '=' with
  | [t] =>
    match Level.ofText? t with
    | some l => .ok ⟨none, l⟩
    | none => .ok ⟨some t, .trace⟩
  | [t, l] =>
    if Text.trim l = [] then .ok ⟨some t, .trace⟩
    else
      match Level.ofText? (Text.trim l) with
      | some l => .ok ⟨some t, l⟩
      | none => .error (Text.trim l)
  | _ => .error entry

/-- The entries of a list, each with its directive or with what is to blame. -/
def entries (list : Text) : List (Except Text Directive) :=
  (((list.splitOn ',').map Text.trim).filter (· ≠ [])).map Directive.ofEntry

/-- The filter before the user has a say. -/
def defaultFilter : Filter := ⟨[⟨none, .info⟩], none⟩

/-- The filter that lets nothing but errors appear. -/
def quietFilter : Filter := ⟨[⟨none, .error⟩], none⟩

/-- The directives that a list of entries adds to those of the filter before. -/
def Directives.ofEntries (list : Text) : Directives :=
  ((entries list).filterMap Except.toOption).foldl insert defaultFilter.directives

/-- The filter that a text sets up.  A text with several slashes sets up nothing. -/
def Filter.ofSpec (spec : Text) : Filter :=
  match spec.splitOn '/' with
  | [list] => ⟨.ofEntries list, none⟩
  | [list, pattern] => ⟨.ofEntries list, (Pattern.ofText pattern).toOption⟩
  | _ => defaultFilter

/-! ## Complaints about the text -/

/-- What is wrong with a text that should set up a filter. -/
inductive Complaint where
  /-- A part of the text gives no directive. -/
  | entry (part : Text)
  /-- The text has more than one slash. -/
  | slashes (spec : Text)
  /-- What stands after the slash gives no pattern. -/
  | pattern (t : Text) (r : Pattern.Refusal)
  deriving DecidableEq, Repr

/-- The message that shows a complaint to the user. -/
def Complaint.message : Complaint → Text
  | entry part => "invalid logging spec '".toList ++ part ++ "'".toList
  | slashes spec => "invalid logging spec '".toList ++ spec ++ "' (too many '/'s)".toList
  | pattern t r => "invalid regex filter - ".toList ++ r.report t

/-- The complaints about a list of entries. -/
def complaintsAboutEntries (list : Text) : List Complaint :=
  (entries list).filterMap fun
    | .ok _ => none
    | .error part => some (.entry part)

/-- The complaints about a text. -/
def complaints (spec : Text) : List Complaint :=
  match spec.splitOn '/' with
  | [list] => complaintsAboutEntries list
  | [list, pattern] =>
    complaintsAboutEntries list ++
      match Pattern.ofText pattern with
      | .ok _ => []
      | .error r => [.pattern pattern r]
  | _ => [.slashes spec]

/-- The text of a record.  Its level takes up five columns, and the lines of its message after the
first are indented. -/
def record (l : Level) (message : Text) : Text :=
  '[' :: (l.label.rightpad 5 ' ' ++ [']', ' ']) ++ message.hang ++ ['\n']

end Log

end DocBlock
