/-
# Properties of characters

A pattern can ask for the characters with a Unicode property.  It names a general category, a group
of categories or one of a few other sets; letter case, spaces, hyphens and underscores do not matter
in a name.
-/
import DocBlock.Pattern.CharSet
import DocBlock.Pattern.Fault

namespace DocBlock

namespace Pattern

/-- A property that a pattern asks for. -/
structure Property where
  /-- The name of the property, or of one of its values. -/
  name : Text
  /-- The value that the property should have, if it is named. -/
  value : Option Text := none
  deriving DecidableEq, Repr

namespace Property

/-- A name without what does not matter in it: letter case, separators and an `is` at the start.
What remains of `isc` is not the name of a category, and the name stays whole. -/
def normalize (name : Text) : Text :=
  let plain (t : Text) : Text :=
    (t.filter fun c => c ≤ '\x7f' && !([' ', '_', '-'].contains c)).map Char.toLower
  match name with
  | i :: s :: t =>
    if i.toLower = 'i' ∧ s.toLower = 's' then
      if plain t = ['c'] then ['i', 's', 'c'] else plain t
    else plain name
  | _ => plain name

/-- The general categories and their groups, each with its names. -/
def categoryNames : List (List String × List Category) :=
  [(["lu", "uppercaseletter"], [.lu]), (["ll", "lowercaseletter"], [.ll]),
    (["lt", "titlecaseletter"], [.lt]), (["lc", "casedletter"], [.lu, .ll, .lt]),
    (["lm", "modifierletter"], [.lm]), (["lo", "otherletter"], [.lo]),
    (["l", "letter"], [.lu, .ll, .lt, .lm, .lo]), (["mn", "nonspacingmark"], [.mn]),
    (["mc", "spacingmark"], [.mc]), (["me", "enclosingmark"], [.me]),
    (["m", "mark", "combiningmark"], [.mn, .mc, .me]), (["nd", "decimalnumber", "digit"], [.nd]),
    (["nl", "letternumber"], [.nl]), (["no", "othernumber"], [.no]),
    (["n", "number"], [.nd, .nl, .no]), (["pc", "connectorpunctuation"], [.pc]),
    (["pd", "dashpunctuation"], [.pd]), (["ps", "openpunctuation"], [.ps]),
    (["pe", "closepunctuation"], [.pe]), (["pi", "initialpunctuation"], [.pi]),
    (["pf", "finalpunctuation"], [.pf]), (["po", "otherpunctuation"], [.po]),
    (["p", "punctuation", "punct"], [.pc, .pd, .ps, .pe, .pi, .pf, .po]),
    (["sm", "mathsymbol"], [.sm]), (["sc", "currencysymbol"], [.sc]),
    (["sk", "modifiersymbol"], [.sk]), (["so", "othersymbol"], [.so]),
    (["s", "symbol"], [.sm, .sc, .sk, .so]), (["zs", "spaceseparator"], [.zs]),
    (["zl", "lineseparator"], [.zl]), (["zp", "paragraphseparator"], [.zp]),
    (["z", "separator"], [.zs, .zl, .zp]), (["cc", "control", "cntrl"], [.cc]),
    (["cf", "format"], [.cf]), (["cs", "surrogate"], [.cs]), (["co", "privateuse"], [.co]),
    (["cn", "unassigned"], [.cn]), (["c", "other"], [.cc, .cf, .cs, .co, .cn])]

/-- The characters of the category, group or set with a normalized name. -/
def category? (name : Text) : Option CharSet :=
  let named (names : List String) : Bool := names.any (·.toList = name)
  if named ["any"] then some fun _ => true
  else if named ["assigned"] then some fun c => Category.of c ≠ .cn
  else if named ["ascii"] then some fun c => c ≤ '\x7f'
  else (categoryNames.find? (named ·.1)).map fun x => CharSet.ofCategories x.2

/-- Whether a normalized name is that of a property which a character has or lacks. -/
def isWhiteSpaceName (name : Text) : Bool :=
  ["whitespace", "wspace", "space"].any (·.toList = name)

/-- Whether a normalized name is that of the property whose values are the general categories. -/
def isCategoryName (name : Text) : Bool := ["generalcategory", "gc"].any (·.toList = name)

/-- The characters with a property. -/
def members (p : Property) : Except PatternError CharSet :=
  let name := normalize p.name
  match p.value with
  | none =>
    if isWhiteSpaceName name then .ok isWhite
    else
      match category? name with
      | some s => .ok s
      | none => .error .propertyUnknown
  | some value =>
    if isCategoryName name then
      match category? (normalize value) with
      | some s => .ok s
      | none => .error .valueUnknown
    else .error .propertyUnknown

end Property

end Pattern

end DocBlock
