/-
# File trees

The files and directories that a program finds and leaves.  A place in the tree is the list of names
that lead to it from the root; a path leads to a place by way of the places that its components
name, each of which has to be a directory.  There are no links.
-/
import DocBlock.Path

namespace DocBlock

/-- The reasons for which a file, or a standard stream, cannot be read or written. -/
inductive FileError where
  /-- There is no such file. -/
  | notFound
  /-- A component of the path, which should lead on, is not a directory. -/
  | notDirectory
  /-- The path leads to a directory. -/
  | isDirectory
  /-- The path, or a name in it that was looked for, is too long. -/
  | nameTooLong
  /-- A reason that lies outside the model, in the words of the system. -/
  | system (reason : Text)
  deriving DecidableEq, Repr

/-- The message that shows a reason to the user. -/
def FileError.message : FileError → Text
  | notFound => "No such file or directory (os error 2)".toList
  | notDirectory => "Not a directory (os error 20)".toList
  | isDirectory => "Is a directory (os error 21)".toList
  | nameTooLong => "File name too long (os error 36)".toList
  | system r => r

/-- A place in a tree: the names that lead to it from the root. -/
abbrev Place := List Bytes

/-- What can be found at a place. -/
inductive Entry where
  /-- A directory. -/
  | directory
  /-- A file with the given content. -/
  | file (content : Bytes)
  deriving DecidableEq, Repr

/-- A tree of files, given by what is found at each place. -/
structure FileTree where
  /-- The places where something is found. -/
  entries : List (Place × Entry) := []
  deriving DecidableEq, Repr

namespace FileTree

/-- What is found at a place.  The root is a directory. -/
def find? (t : FileTree) (l : Place) : Option Entry :=
  if l = [] then some .directory else t.entries.lookup l

/-- The tree with another entry at one place. -/
def insert (t : FileTree) (l : Place) (e : Entry) : FileTree :=
  ⟨(l, e) :: t.entries.filter fun x => x.1 ≠ l⟩

/-- The tree with a directory at a place and at every place on the way to it. -/
def insertDirectory (t : FileTree) (l : Place) : FileTree :=
  (List.range (l.length + 1)).foldl (fun t n => t.insert (l.take n) .directory) t

/-- The files of the second tree that the first tree lacks or has with another content. -/
def changes (before after : FileTree) : List (Place × Bytes) :=
  after.entries.filterMap fun x =>
    match x.2 with
    | .directory => none
    | .file content => if before.find? x.1 = some x.2 then none else some (x.1, content)

/-- An entry is found where it was put. -/
@[simp]
theorem find?_insert_self (t : FileTree) {l : Place} (h : l ≠ []) (e : Entry) :
    (t.insert l e).find? l = some e := by
  simp [find?, insert, h]

/-- Entries at other places do not matter for what is found at a place. -/
theorem lookup_filter_ne {k l : Place} (h : k ≠ l) (xs : List (Place × Entry)) :
    (xs.filter fun x => x.1 ≠ l).lookup k = xs.lookup k := by
  induction xs with
  | nil => rfl
  | cons x xs ih =>
    obtain ⟨m, d⟩ := x
    by_cases hm : m = l
    · have hk : (k == m) = false := beq_eq_false_iff_ne.2 (hm ▸ h)
      rw [List.filter_cons_of_neg (by simpa using hm), ih, List.lookup_cons, hk]
    · rw [List.filter_cons_of_pos (by simpa using hm), List.lookup_cons, List.lookup_cons, ih]

/-- Putting an entry at one place leaves every other place alone. -/
theorem find?_insert_of_ne (t : FileTree) {k l : Place} (h : k ≠ l) (e : Entry) :
    (t.insert l e).find? k = t.find? k := by
  unfold find? insert
  split
  · rfl
  · rw [List.lookup_cons, beq_eq_false_iff_ne.2 h]
    exact lookup_filter_ne h t.entries

/-! ## Following a path -/

/-- What is found at a place when its directory is searched for its name. -/
def lookUp (t : FileTree) (l : Place) : Except FileError (Option Entry) :=
  if (l.getLastD []).length ≤ Path.nameLimit then .ok (t.find? l) else .error .nameTooLong

/-- The directory that a component leads to from a directory. -/
def enter (t : FileTree) (l : Place) (c : Bytes) : Except FileError Place :=
  if Path.isName c then do
    match ← t.lookUp (l ++ [c]) with
    | some .directory => .ok (l ++ [c])
    | some (.file _) => .error .notDirectory
    | none => .error .notFound
  else if Path.isIdle c then .ok l
  else .ok l.dropLast

/-- The directory that a sequence of components leads to from a directory. -/
def walk (t : FileTree) (l : Place) (cs : List Bytes) : Except FileError Place :=
  cs.foldlM t.enter l

/-- The place that the last component of a path leads to from a directory.  Nothing needs to be
found there. -/
def last (t : FileTree) (l : Place) (c : Bytes) : Except FileError Place :=
  if Path.isName c then .ok (l ++ [c]) else t.enter l c

/-- The directory that a path starts from: the root for an absolute path, the given directory for
any other. -/
def origin (here : Place) (p : Path) : Place := if p.head? = some Path.slash then [] else here

/-- The place that a path leads to. -/
def locate (t : FileTree) (here : Place) (p : Path) : Except FileError Place := do
  t.last (← t.walk (origin here p) p.components.dropLast) (p.components.getLastD [])

/-- Refuses a path that is too long to be followed at all. -/
def checkLength (p : Path) : Except FileError Unit :=
  if p.length ≤ Path.lengthLimit then .ok () else .error .nameTooLong

/-- The content of the file that a path leads to. -/
def read (t : FileTree) (here : Place) (p : Path) : Except FileError Bytes := do
  checkLength p
  match ← t.lookUp (← t.locate here p) with
  | some (.file content) => .ok content
  | some .directory => .error .isDirectory
  | none => .error .notFound

/-- The tree after a file has been written.  The file is made if there is none, and a path that ends
with a slash cannot be the path of a file. -/
def write (t : FileTree) (here : Place) (p : Path) (content : Bytes) :
    Except FileError FileTree := do
  checkLength p
  let l ← t.locate here p.dropSlashes
  if p.getLast? = some Path.slash then .error .isDirectory
  else
    match ← t.lookUp l with
    | some .directory => .error .isDirectory
    | _ => .ok (t.insert l (.file content))

end FileTree

end DocBlock
