/-
# Patterns

A pattern describes texts, and the search for a pattern in a text asks whether some part of the text
is among them.  Patterns are regular: they are built from sets of characters and from conditions on
places, by sequence, choice and repetition.

The search handles all parts of the text at once.  It marks the places where a part may start, and
takes the marks through the pattern to the places where such a part may end.
-/
import DocBlock.Pattern.CharSet

namespace DocBlock

/-- A pattern. -/
inductive Pattern where
  /-- The empty text. -/
  | empty
  /-- One character of a set. -/
  | one (s : CharSet)
  /-- The empty text, at a place where a condition on the characters before and after it holds. -/
  | look (holds : Option Char → Option Char → Bool)
  /-- One pattern after the other. -/
  | seq (p q : Pattern)
  /-- One pattern or the other. -/
  | alt (p q : Pattern)
  /-- A pattern again and again, so many times at least and at most. -/
  | many (p : Pattern) (least : Nat) (most : Option Nat)

namespace Pattern

/-! ## Building patterns -/

/-- Several patterns, one after the other. -/
def concat : List Pattern → Pattern
  | [] => empty
  | [p] => p
  | p :: ps => seq p (concat ps)

/-- One of several patterns. -/
def choice : List Pattern → Pattern
  | [] => empty
  | [p] => p
  | p :: ps => alt p (choice ps)

/-! ## Searching -/

/-- The places of a text, from its start to its end, each with the characters before and after
it. -/
def places : Option Char → Text → List (Option Char × Option Char)
  | before, [] => [(before, none)]
  | before, c :: t => (before, some c) :: places (some c) t

/-- Repeats a step until it changes nothing, but so many times at most. -/
def settle {α : Type} [BEq α] (step : α → α) : Nat → α → α
  | 0, x => x
  | n + 1, x => let y := step x; if y == x then x else settle step n y

/-- The places where a part may end that is described by a pattern and starts at a marked place.  In
more repetitions than there are places one at least is empty, so that further ones change
nothing. -/
def reach (ps : List (Option Char × Option Char)) : Pattern → List Bool → List Bool
  | empty, m => m
  | one s, m => false :: (List.zipWith (fun x b => b && x.2.any s) ps m).dropLast
  | look holds, m => List.zipWith (fun x b => b && holds x.1 x.2) ps m
  | seq p q, m => reach ps q (reach ps p m)
  | alt p q, m => List.zipWith or (reach ps p m) (reach ps q m)
  | many p least most, m =>
    let again := (most.map (· - least)).getD ps.length
    settle (fun m => List.zipWith or m (reach ps p m)) (min again ps.length)
      (settle (reach ps p) (min least ps.length) m)

/-- Whether some part of a text is described by a pattern. -/
def isFoundIn (p : Pattern) (t : Text) : Bool :=
  let ps := places none t
  (p.reach ps (ps.map fun _ => true)).any id

/-! ## Size -/

/-- The number of steps of a pattern when its repetitions are written out. -/
def size : Pattern → Nat
  | empty | one _ | look _ => 1
  | seq p q => p.size + q.size
  | alt p q => p.size + q.size + 1
  | many p least none => p.size * max least 1 + 1
  | many p least (some most) => p.size * most + (most - least)

end Pattern

end DocBlock
