/-
# Writing a file

What it takes for a file to be written, and what is different afterwards.  A path that can be
written to leads to one place, which is no directory.  Whether there is such a place does not depend
on what is written.

Only directories lead on from one place to another.  So a search that has come to its end without
the place of the file still comes to the same end when the file is there, and the path that the file
was written to leads to it afterwards.
-/
import DocBlock.FileTree
import Mathlib.Data.List.DropRight

namespace DocBlock

/-- A computation succeeds if its first step does and what comes after it does. -/
lemma bind_eq_ok_iff {ε α β : Type} {x : Except ε α} {f : α → Except ε β} {b : β} :
    x >>= f = .ok b ↔ ∃ a, x = .ok a ∧ f a = .ok b := by
  cases x with
  | error e => simp [bind, Except.bind]
  | ok a => simp [bind, Except.bind]

/-- A path that does not end with a slash has none to drop. -/
lemma Path.dropSlashes_eq_self {p : Path} (h : p.getLast? ≠ some slash) : p.dropSlashes = p := by
  refine List.rdropWhile_eq_self_iff.2 fun hne hlast => h ?_
  rw [List.getLast?_eq_some_getLast hne, of_decide_eq_true hlast]

namespace FileTree

variable {t : FileTree} {here d d' k l : Place} {p : Path}

/-! ## The place that is written to -/

/-- The place of the file that is written by way of a path.  Nothing needs to be found there. -/
def target (t : FileTree) (here : Place) (p : Path) : Except FileError Place := do
  checkLength p
  let l ← t.locate here p.dropSlashes
  if p.getLast? = some Path.slash then .error .isDirectory
  else
    match ← t.lookUp l with
    | some .directory => .error .isDirectory
    | _ => .ok l

/-- What is written does not decide whether it can be written, or where. -/
lemma write_eq_map_target (t : FileTree) (here : Place) (p : Path) (content : Bytes) :
    t.write here p content = (t.target here p).map (t.insert · (.file content)) := by
  unfold write target
  cases checkLength p with
  | error e => rfl
  | ok _ =>
    cases t.locate here p.dropSlashes with
    | error e => rfl
    | ok l =>
      simp only [bind, Except.bind]
      split_ifs
      · rfl
      · cases t.lookUp l with
        | error e => rfl
        | ok found => rcases found with _ | (_ | _) <;> rfl

/-- What it takes for a file to be written at a place by way of a path. -/
structure IsTarget (t : FileTree) (here : Place) (p : Path) (l : Place) : Prop where
  /-- The path is short enough to be followed. -/
  length_le : p.length ≤ Path.lengthLimit
  /-- The path leads to the place. -/
  locate_eq : t.locate here p = .ok l
  /-- The name of the place is short enough to be looked for. -/
  length_getLastD_le : (l.getLastD []).length ≤ Path.nameLimit
  /-- There is no directory at the place. -/
  find?_ne : t.find? l ≠ some .directory

lemma isTarget_of_target_eq (h : t.target here p = .ok l) : t.IsTarget here p l := by
  obtain ⟨_, hlen, h⟩ := bind_eq_ok_iff.1 h
  obtain ⟨m, hloc, h⟩ := bind_eq_ok_iff.1 h
  split_ifs at h with hslash
  obtain ⟨found, hfound, h⟩ := bind_eq_ok_iff.1 h
  unfold checkLength at hlen
  unfold lookUp at hfound
  split_ifs at hlen hfound with hp hm
  obtain rfl : t.find? m = found := by injection hfound
  split at h
  · contradiction
  · next hdir =>
    obtain rfl : m = l := by injection h
    rw [Path.dropSlashes_eq_self hslash] at hloc
    exact ⟨hp, hloc, hm, hdir⟩

/-- A file is not written at the root. -/
lemma IsTarget.ne_nil (h : t.IsTarget here p l) : l ≠ [] := by
  rintro rfl
  exact h.find?_ne rfl

/-! ## Following a path afterwards -/

section

variable {e : Entry} {c : Bytes}

/-- A component leads on from where it has led before, since it has led there by way of
directories. -/
lemma enter_insert (hl : t.find? l ≠ some .directory) (h : t.enter d c = .ok d') :
    (t.insert l e).enter d c = .ok d' := by
  unfold enter at h ⊢
  split_ifs at h ⊢ with hc hidle
  · obtain ⟨found, hfound, h⟩ := bind_eq_ok_iff.1 h
    unfold lookUp at hfound
    split_ifs at hfound with hlen
    obtain rfl : t.find? (d ++ [c]) = found := by injection hfound
    split at h
    · next hdir =>
      -- the component has led to a directory, so it has not led to the place of the new entry
      have hne : d ++ [c] ≠ l := by
        rintro rfl
        exact hl hdir
      rw [lookUp, if_pos hlen, find?_insert_of_ne t hne, hdir]
      exact h
    · contradiction
    · contradiction
  · exact h
  · exact h

lemma walk_cons (t : FileTree) (d : Place) (c : Bytes) (cs : List Bytes) :
    t.walk d (c :: cs) = t.enter d c >>= fun d' => t.walk d' cs := rfl

lemma walk_insert (hl : t.find? l ≠ some .directory) {cs : List Bytes}
    (h : t.walk d cs = .ok d') : (t.insert l e).walk d cs = .ok d' := by
  induction cs generalizing d with
  | nil => exact h
  | cons c cs ih =>
    rw [walk_cons] at h ⊢
    obtain ⟨m, hm, h⟩ := bind_eq_ok_iff.1 h
    exact bind_eq_ok_iff.2 ⟨m, enter_insert hl hm, ih h⟩

/-- A path that leads to a place still leads there when another entry takes the place of what is no
directory. -/
lemma locate_insert (hl : t.find? l ≠ some .directory) (h : t.locate here p = .ok k) :
    (t.insert l e).locate here p = .ok k := by
  obtain ⟨m, hm, h⟩ := bind_eq_ok_iff.1 h
  refine bind_eq_ok_iff.2 ⟨m, walk_insert hl hm, ?_⟩
  unfold last at h ⊢
  split_ifs at h ⊢
  · exact h
  · exact enter_insert hl h

end

/-- What has been written can be read again by way of the same path. -/
lemma IsTarget.read_insert (h : t.IsTarget here p l) (content : Bytes) :
    (t.insert l (.file content)).read here p = .ok content := by
  have hlook : (t.insert l (.file content)).lookUp l = .ok (some (.file content)) := by
    rw [lookUp, if_pos h.length_getLastD_le, find?_insert_self t h.ne_nil]
  rw [read, checkLength, if_pos h.length_le, locate_insert h.find?_ne h.locate_eq]
  simp only [bind, Except.bind, hlook]

end FileTree

end DocBlock
