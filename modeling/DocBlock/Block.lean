/-
# Doc blocks

A source is a list of lines, each with its number.  A doc block is what a source holds between an
opening delimiter line and the closing delimiter line that balances it.  Delimiters nest, and only
the outermost pairs make blocks: what they enclose, inner delimiters included, is the content of the
block.

The blocks of a source are found in one pass that counts the depth of nesting.  The depth is an
integer and not a natural number: a closing line outside every region takes it below zero, and the
openings that follow have to make up for that first.
-/
import DocBlock.Text.Basic

namespace DocBlock

/-! ## Lines of a source

The number of a line is what diagnostics refer to; no operation depends on it in any other way. -/

/-- A line of a source together with its number. -/
structure Line where
  /-- The number of the line in its source. -/
  number : Nat
  /-- The text of the line. -/
  text : Text
  deriving DecidableEq, Repr

/-- The lines of a text, numbered from 1. -/
def Text.numberedLines (t : Text) : List Line :=
  (t.lines.zipIdx 1).map fun x => ⟨x.2, x.1⟩

/-- The lines of a source text.  Carriage returns have no place in a line. -/
def sourceLines (source : Text) : List Line := source.dropReturns.numberedLines

/-! ## Delimiters -/

/-- What the text of an opening delimiter line starts with. -/
def openDelimiter : Text := ['-', '-', '[', '=', '=', '[']

/-- What the text of a closing delimiter line starts with. -/
def closeDelimiter : Text := [']', '=', '=', ']']

/-- The part that a line plays in the nesting of regions. -/
inductive LineKind where
  | opener
  | closer
  | plain
  deriving DecidableEq, Repr

/-- The change of depth that a line of this kind causes. -/
def LineKind.weight : LineKind → Int
  | opener => 1
  | closer => -1
  | plain => 0

/-- The kind of a line.  It depends on the start of the text alone. -/
def Line.kind (l : Line) : LineKind :=
  if openDelimiter.isPrefixOf l.text then .opener
  else if closeDelimiter.isPrefixOf l.text then .closer
  else .plain

/-! ## Blocks of a source -/

/-- A doc block: the lines strictly between its two delimiter lines. -/
structure Block where
  /-- The lines of the block. -/
  lines : List Line := []
  deriving DecidableEq, Repr

/-- What is known after a part of a source has been scanned. -/
structure Scan where
  /-- The number of openers less the number of closers so far. -/
  depth : Int := 0
  /-- The lines of the region that is open, its opener included. -/
  region : List Line := []
  /-- The blocks found so far. -/
  blocks : List Block := []
  deriving DecidableEq, Repr

namespace Scan

/-- Adds a line to the open region, if there is one. -/
def keep (s : Scan) (l : Line) : Scan :=
  if 0 < s.depth then { s with region := s.region ++ [l] } else s

/-- Turns the open region into a block.  The first line of the region, its opener, is not part of
the block. -/
def close (s : Scan) : Scan :=
  { s with region := [], blocks := s.blocks ++ [⟨s.region.tail⟩] }

/-- Takes the next line of the source into account.  A closer that brings the depth back to zero
ends the open region; any other line belongs to the open region, if there is one. -/
def step (s : Scan) (l : Line) : Scan :=
  let next : Scan := { s with depth := s.depth + l.kind.weight }
  if l.kind = .closer ∧ next.depth = 0 then next.close else next.keep l

@[simp]
theorem depth_keep (s : Scan) (l : Line) : (s.keep l).depth = s.depth := by
  unfold keep; split <;> rfl

@[simp]
theorem depth_close (s : Scan) : s.close.depth = s.depth := rfl

/-- A step changes the depth by the weight of the line. -/
@[simp]
theorem depth_step (s : Scan) (l : Line) : (s.step l).depth = s.depth + l.kind.weight := by
  unfold step; dsimp only; split <;> simp

/-- The scan of a whole source. -/
def run (ls : List Line) : Scan := ls.foldl step {}

@[simp]
theorem run_nil : run [] = {} := rfl

theorem run_append (ls ms : List Line) : run (ls ++ ms) = ms.foldl step (run ls) := by
  simp [run]

end Scan

/-- The doc blocks of a source, in the order of their closing lines. -/
def docBlocks (ls : List Line) : List Block := (Scan.run ls).blocks

end DocBlock
