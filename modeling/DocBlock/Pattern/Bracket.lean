/-
# Bracketed classes

A class in brackets lists the characters of a set: single ones, ranges, named sets and classes in
turn.  Two lists in one pair of brackets can be joined by an operator, which takes what stands on
its left and on its right; several operators are applied from left to right.
-/
import DocBlock.Pattern.Escape

namespace DocBlock

namespace Pattern

/-- An operator between two lists of a class. -/
inductive SetOperator where
  /-- The common members. -/
  | intersection
  /-- The members of the first list that the second one lacks. -/
  | difference
  /-- The members of exactly one list. -/
  | symmetricDifference
  deriving DecidableEq, Repr

/-- What an operator does to two sets. -/
def SetOperator.apply : SetOperator → CharSet → CharSet → CharSet
  | intersection => CharSet.intersection
  | difference => CharSet.difference
  | symmetricDifference => CharSet.symmetricDifference

/-- The character that an operator consists of twice. -/
def SetOperator.ofChar? : Char → Option SetOperator
  | '&' => some intersection
  | '-' => some difference
  | '~' => some symmetricDifference
  | _ => none

/-- A class of which some has been read. -/
structure Bracket where
  /-- Where its opening part stands. -/
  opener : Span
  /-- Whether it stands for the characters that are not listed. -/
  isNegated : Bool
  /-- The members listed since the last operator. -/
  members : CharSet
  /-- The last operator, with what stands on its left. -/
  pending : Option (SetOperator × CharSet) := none

namespace Bracket

/-- A set in the letter cases that the flags ask for. -/
def inCase (fs : Flags) (s : CharSet) : CharSet :=
  if fs.ignoreCase then s.closeUnderCase fs.alphabet else s

/-- The members listed so far, with the last operator applied. -/
def value (b : Bracket) (fs : Flags) : CharSet :=
  match b.pending with
  | none => b.members
  | some (op, left) => op.apply (inCase fs left) (inCase fs b.members)

/-- The class with more members. -/
def add (b : Bracket) (s : CharSet) : Bracket := { b with members := b.members.union s }

/-- The class after an operator. -/
def operate (b : Bracket) (fs : Flags) (op : SetOperator) : Bracket :=
  { b with members := CharSet.empty, pending := some (op, b.value fs) }

/-- The characters that a finished class stands for. -/
def meaning (b : Bracket) (fs : Flags) : CharSet :=
  (inCase fs (b.value fs)).complementIf b.isNegated fs.alphabet

end Bracket

namespace Reader

/-- Fails because a class has no end. -/
def failUnclosed {α : Type} (b : Bracket) : Reader α := fail .classUnclosed b.opener

/-- Reads the opening part of a class: the bracket, a circumflex that negates the class, and hyphens
or a closing bracket that belong to the list because nothing stands before them. -/
def openBracket (fs : Flags) : Reader Bracket := do
  let start ← position
  nextOrFail fs .classUnclosed start
  let isNegated := (← char?) = some '^'
  if isNegated then nextOrFail fs .classUnclosed start
  let hyphens ← collect fs (· = '-')
  if hyphens ≠ [] then
    if ← isAtEnd then fail .classUnclosed (.point start)
    return ⟨⟨start, ← position⟩, isNegated, CharSet.single '-', none⟩
  else if (← char?) = some ']' then
    nextOrFail fs .classUnclosed start
    return ⟨⟨start, ← position⟩, isNegated, CharSet.single ']', none⟩
  else return ⟨⟨start, ← position⟩, isNegated, CharSet.empty, none⟩

/-- Reads the name of a set of ASCII characters, if there is one: it stands between colons in
brackets, and a circumflex before it stands for the other characters. -/
def asciiClass? (fs : Flags) : Reader (Option CharSet) := do
  let before ← get
  if !(← accept ['[', ':']) then return none
  let isNegated ← accept ['^']
  let name ← collect [] (· ≠ ':')
  if !(← accept [':', ']']) then
    set before
    return none
  match CharSet.asciiClasses.lookup name with
  | none =>
    set before
    return none
  | some s =>
    deferIf (isNegated && fs.alphabet = .octets) .notText ⟨before.position, ← position⟩
    return some ((Bracket.inCase fs s).complementIf isNegated fs.alphabet)

/-- The next character but one where white space is left out, for the decision whether a hyphen
makes a range.  Of a comment, the first character that is not white space counts. -/
def afterHyphen? (fs : Flags) : Reader (Option Char) := do
  let t := (← get).rest.tail
  if !fs.spaced then return t.head?
  match t.dropWhile isWhite with
  | '#' :: u => return (u.dropWhile isWhite).head?.or t.head?
  | u => return u.head?.or t.head?

/-- The character that an end of a range is. -/
def rangeEnd (l : Located) : Reader Char :=
  match l.atom with
  | .char c _ => return c
  | _ => fail .rangeEnd l.span

/-- Reads a member of a list or a range of them. -/
def bracketItem (fs : Flags) (b : Bracket) : Reader CharSet := do
  let l ← atom fs true
  skipSpace fs
  match ← char? with
  | none => failUnclosed b
  | some c =>
    let after ← afterHyphen? fs
    if c ≠ '-' ∨ after = some ']' ∨ after = some '-' then
      match l.atom with
      | .assertion _ => fail .classEscape l.span
      | _ => l.members fs true
    else
      next fs
      if ← isAtEnd then failUnclosed b
      let r ← atom fs true
      let first ← rangeEnd l
      let last ← rangeEnd r
      if last < first then fail .rangeOrder ⟨l.span.start, r.span.stop⟩
      discard (l.members fs true)
      discard (r.members fs true)
      return CharSet.range first last

/-- Reads the rest of a class.  The classes around it are given from the inside to the outside, and
the text has so many characters at most. -/
def bracketRest (fs : Flags) : Nat → Bracket → List Bracket → Reader CharSet
  | 0, b, _ => failUnclosed b
  | n + 1, b, outer => do
    skipSpace fs
    let rest := (← get).rest
    match rest with
    | [] => failUnclosed b
    | '[' :: _ =>
      match ← asciiClass? fs with
      | some s => bracketRest fs n (b.add s) outer
      | none => bracketRest fs n (← openBracket fs) (b :: outer)
    | ']' :: _ =>
      advance
      let s := b.meaning fs
      deferIf (fs.alphabet = .octets && !s.isAsciiOnly) .notText ⟨b.opener.start, ← position⟩
      match outer with
      | [] => return s
      | c :: outer => bracketRest fs n (c.add s) outer
    | c :: t =>
      match SetOperator.ofChar? c with
      | some op =>
        if t.head? = some c then
          advance
          advance
          bracketRest fs n (b.operate fs op) outer
        else bracketRest fs n (b.add (← bracketItem fs b)) outer
      | none => bracketRest fs n (b.add (← bracketItem fs b)) outer

/-- Reads a class. -/
def bracket (fs : Flags) : Reader CharSet := do
  let length := (← get).rest.length
  bracketRest fs length (← openBracket fs) []

end Reader

end Pattern

end DocBlock
