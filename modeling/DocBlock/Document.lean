/-
# Documents

The document of a source is a preamble followed by the Markdown of its doc blocks.  The segments of
a block that have no fragment are left out, and a diagnostic for each of them goes with the
document.  The preamble is made from a template.
-/
import DocBlock.Fragment

namespace DocBlock

/-! ## Preamble templates

A template is a text in which a placeholder stands for the name of the documented module.
Placeholders are found in one pass from left to right; a name that is put in is not searched for
placeholders again. -/

namespace Template

/-- What stands for the name of the module. -/
def placeholder : Text := ['$', '{', 'n', 'a', 'm', 'e', '}']

/-- The template with a name in the place of every placeholder. -/
def fill (name : Text) : Text → Text
  | '$' :: '{' :: 'n' :: 'a' :: 'm' :: 'e' :: '}' :: t => name ++ fill name t
  | c :: t => c :: fill name t
  | [] => []

/-- The template that is used when the user gives none: a title and a horizontal rule. -/
def standard : Text :=
  ['#', ' '] ++ placeholder ++ ['\n', '\n', '-', '-', '-', '\n', '\n']

/-- A placeholder is replaced by the name. -/
@[simp]
theorem fill_placeholder (name t : Text) : fill name (placeholder ++ t) = name ++ fill name t := rfl

/-- A character that starts no placeholder is kept. -/
theorem fill_cons {c : Char} {t : Text} (name : Text) (h : ¬ placeholder <+: c :: t) :
    fill name (c :: t) = c :: fill name t := by
  rw [fill]
  rintro u ⟨⟩ rfl
  exact h ⟨u, rfl⟩

end Template

/-! ## Documents of a source -/

/-- What separates the blocks of a document: a horizontal rule. -/
def blockSeparator : Text := ['\n', '\n', '-', '-', '-', '\n', '\n']

/-- What separates the fragments of a block. -/
def fragmentSeparator : Text := ['\n', '\n']

/-- The language of the samples where the user gives none. -/
def defaultLang : Text := ['l', 'u', 'a']

/-- What is left open by a source and chosen by the user. -/
structure Options where
  /-- The language of the samples. -/
  lang : Text := defaultLang
  /-- The text before the first block. -/
  preamble : Text := []
  deriving DecidableEq, Repr

/-- A document with the diagnostics of its making. -/
structure Document where
  /-- The text of the document. -/
  markdown : Text
  /-- The diagnostics, in the order of the source. -/
  diagnostics : List Diagnostic
  deriving DecidableEq, Repr

namespace Block

/-- What becomes of the segments of a block. -/
def outcomes (lang : Text) (b : Block) : List Outcome := b.segments.map (Segment.outcome lang)

/-- The Markdown of a block: its fragments, joined by separators. -/
def markdown (lang : Text) (b : Block) : Text :=
  fragmentSeparator.intercalate ((b.outcomes lang).filterMap Outcome.fragment?)

/-- The diagnostics of a block. -/
def diagnostics (lang : Text) (b : Block) : List Diagnostic :=
  (b.outcomes lang).filterMap Outcome.diagnostic?

end Block

namespace Document

/-- The text made of a preamble and the Markdown of the blocks. -/
def assemble (preamble : Text) (blocks : List Text) : Text :=
  preamble ++ blockSeparator.intercalate blocks

/-- The document of a source text. -/
def ofSource (o : Options) (source : Text) : Document where
  markdown := assemble o.preamble ((docBlocks (sourceLines source)).map (Block.markdown o.lang))
  diagnostics := (docBlocks (sourceLines source)).flatMap (Block.diagnostics o.lang)

end Document

end DocBlock
