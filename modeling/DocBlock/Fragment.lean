/-
# Fragments

A fragment is the Markdown of one segment: a heading for a name or a signature, a paragraph text for
a description, a fenced block of code for a sample.  A segment whose tag is missing or has no
meaning has a diagnostic in place of a fragment.
-/
import DocBlock.Segment

namespace DocBlock

/-! ## Diagnostics

A diagnostic reports a segment that has no place in the document.  It is a value and not a failure:
the rest of the document is produced all the same. -/

/-- The reasons for which a segment is left out of the document. -/
inductive Diagnostic where
  /-- The tag of the segment has no meaning. -/
  | unknownTag (ident : Text) (line : Nat)
  /-- The segment has no tag. -/
  | missingTag (line : Nat)
  deriving DecidableEq, Repr

namespace Diagnostic

/-- The number of the line that a diagnostic is about. -/
def line : Diagnostic → Nat
  | unknownTag _ n => n
  | missingTag n => n

/-- The wording of a diagnostic, apart from the line number. -/
def reason : Diagnostic → Text
  | unknownTag i _ => "unknown type comment @".toList ++ i
  | missingTag _ => "segment has no tag identifier".toList

/-- The message that shows a diagnostic to the user. -/
def message (d : Diagnostic) : Text :=
  "line ".toList ++ (Text.ofNat d.line ++ (": ".toList ++ d.reason))

end Diagnostic

/-! ## Headings

The name and the signature of an item are written on the line of their tag.  The heading of the
item is that line without the tag: every occurrence of the tag, in any letter case, is erased
together with the white space around it, and the rest is trimmed. -/

namespace Text

/-- What follows a tag at the start of a text, letter case ignored. -/
def dropTag? (ident t : Text) : Option Text := dropWord? (tagMarker :: ident) t

/-- What follows a tag at the start of a text, where white space may stand on both sides of the
tag. -/
def dropSpacedTag? (ident t : Text) : Option Text :=
  (dropTag? ident t.trimStart).map trimStart

/-- What follows a tag is shorter than the text. -/
theorem length_lt_of_dropSpacedTag?_eq_some {ident t rest : Text}
    (h : dropSpacedTag? ident t = some rest) : rest.length < t.length := by
  obtain ⟨u, hu, rfl⟩ := Option.map_eq_some_iff.1 h
  have h₁ := length_of_dropWord?_eq_some hu
  have h₂ := length_trimStart_le u
  have h₃ := length_trimStart_le t
  simp only [List.length_cons] at h₁
  omega

/-- A text without any occurrence of a tag and without the white space around the occurrences. -/
def eraseTag (ident : Text) : Text → Text
  | [] => []
  | c :: t =>
    match _h : dropSpacedTag? ident (c :: t) with
    | some rest => eraseTag ident rest
    | none => c :: eraseTag ident t
  termination_by t => t.length
  decreasing_by
    · exact length_lt_of_dropSpacedTag?_eq_some _h
    · simp

end Text

/-- The heading that the first line of a segment holds beside the given tag. -/
def Segment.heading (s : Segment) (t : Tag) : Text :=
  match s.lines with
  | [] => []
  | l :: _ => (Text.eraseTag t.ident l.text).trim

/-! ## Fragments of a segment -/

namespace Text

/-- A line of prose without its indentation.  A blank line stands for the end of a paragraph and
becomes a newline character. -/
def proseLine (t : Text) : Text := if t.trimStart = [] then ['\n'] else t.trimStart

/-- A line of code without one level of indentation, which is two white space characters.  A line
that is not indented that far is left alone. -/
def dedent : Text → Text
  | c :: d :: t => if isWhite c && isWhite d then t else c :: d :: t
  | t => t

end Text

/-- What becomes of a segment: a fragment, or the reason why there is none. -/
abbrev Outcome := Except Diagnostic Text

namespace Outcome

/-- The fragment, if there is one. -/
def fragment? : Outcome → Option Text
  | .ok t => some t
  | .error _ => none

/-- The reason why there is no fragment, if there is none. -/
def diagnostic? : Outcome → Option Diagnostic
  | .ok _ => none
  | .error d => some d

end Outcome

/-- The line that opens and closes a fenced block of code. -/
def fence : Text := ['`', '`', '`']

namespace Segment

/-- The fragment of a name: a heading of the second level. -/
def nameFragment (s : Segment) : Text := "## ".toList ++ s.heading .name

/-- The fragment of a signature: a heading of the sixth level, emphasised. -/
def signatureFragment (s : Segment) : Text :=
  "###### *".toList ++ s.heading .signature ++ ['*']

/-- The fragment of a description: its lines of prose, joined by spaces. -/
def descriptionFragment (s : Segment) : Text := [' '].intercalate (s.body.map Text.proseLine)

/-- The fragment of a sample: its lines of code between two fences.  The opening fence names the
language of the code. -/
def sampleFragment (lang : Text) (s : Segment) : Text :=
  fence ++ lang ++ ['\n'] ++ ['\n'].intercalate (s.body.map Text.dedent) ++ ['\n'] ++ fence

/-- What becomes of a segment depends on its tag. -/
def outcome (lang : Text) (s : Segment) : Outcome :=
  match s.tag with
  | some .name => .ok s.nameFragment
  | some .signature => .ok s.signatureFragment
  | some .description => .ok s.descriptionFragment
  | some .sample => .ok (s.sampleFragment lang)
  | some (.other i) => .error (.unknownTag i s.start)
  | none => .error (.missingTag s.start)

end Segment

end DocBlock
