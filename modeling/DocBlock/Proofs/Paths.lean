/-
# Where paths lead

A path that can be read ends with a name.  The components before it lead to a directory, and what is
read is the file of that name in it.  A path with another name in the place of this one leads to the
same directory: it starts in the same place, and components that lead nowhere may be lost on the
way, but they make no difference.

This needs a tree in which every entry stands in a directory.  In such a tree a path whose last
component is no name leads to a directory, if it leads anywhere, and nothing is read there.
-/
import DocBlock.Proofs.Files
import DocBlock.Proofs.SourceLines

namespace DocBlock

/-! ## The spelling of a path -/

namespace Path

variable {p : Path} {cs : List Bytes} {f g : Bytes}

lemma components_ne_nil (p : Path) : p.components ≠ [] := List.splitOn_ne_nil slash p

lemma slash_not_mem_of_mem_components {c : Bytes} (h : c ∈ p.components) : slash ∉ c :=
  not_mem_of_mem_splitOn h

/-- Joining components and cutting a path are inverse to each other. -/
lemma components_intercalate (hne : cs ≠ []) (h : ∀ c ∈ cs, slash ∉ c) :
    components ([slash].intercalate cs) = cs :=
  List.splitOn_intercalate slash h hne

lemma intercalate_components (p : Path) : [slash].intercalate p.components = p :=
  List.intercalate_splitOn slash

lemma not_isIdle_of_isName (h : isName f = true) : isIdle f = false := by
  rw [isName, Bool.and_eq_true] at h
  simpa using h.1

lemma ne_nil_of_isName (h : isName f = true) : f ≠ [] := by
  rintro rfl
  cases h

lemma dropIdle_concat (hf : isName f = true) (cs : List Bytes) :
    dropIdle (cs ++ [f]) = cs ++ [f] := by
  cases cs with
  | nil => rfl
  | cons c cs =>
    have hidle : ¬ isIdle f = true := by simp [not_isIdle_of_isName hf]
    exact congrArg (c :: ·) (List.rdropWhile_concat_neg isIdle cs f hidle)

lemma head?_dropIdle (cs : List Bytes) : (dropIdle cs).head? = cs.head? := by
  cases cs <;> rfl

lemma mem_of_mem_dropIdle {c : Bytes} (h : c ∈ dropIdle cs) : c ∈ cs := by
  cases cs with
  | nil => exact h
  | cons d cs =>
    have hpre : cs.rdropWhile isIdle <+: cs := List.rdropWhile_prefix isIdle cs
    rcases List.mem_cons.1 h with rfl | h
    · exact List.mem_cons_self
    · exact List.mem_cons_of_mem d (hpre.mem h)

/-- A path that ends with a name has it as its file name. -/
lemma fileName?_eq (hp : p.components = cs ++ [f]) (hf : isName f = true) :
    p.fileName? = some f := by
  rw [fileName?, hp, dropIdle_concat hf, List.getLast?_concat]
  exact if_pos hf

lemma withFileName_eq (hp : p.components = cs ++ [f]) (hf : isName f = true) (g : Bytes) :
    p.withFileName g = [slash].intercalate (dropIdle cs ++ [g]) := by
  rw [withFileName, fileName?_eq hp hf, hp, dropIdle_concat hf, List.dropLast_concat]

/-- A path is absolute if there is an empty component in front of all others. -/
lemma head?_intercalate (hcs : ∀ c ∈ cs, slash ∉ c) (hslash : slash ∉ g) :
    ([slash].intercalate (cs ++ [g])).head? = some slash ↔ cs.head? = some [] := by
  cases cs with
  | nil =>
    rw [List.nil_append, List.intercalate_singleton]
    refine iff_of_false (fun h => hslash (List.mem_of_mem_head? h)) (by simp)
  | cons c cs =>
    rw [List.cons_append, List.intercalate_cons_of_ne_nil (by simp)]
    cases c with
    | nil => simp
    | cons b c =>
      have hb : slash ≠ b := fun h => hcs _ List.mem_cons_self (h ▸ List.mem_cons_self)
      simpa using hb.symm

end Path

/-! ## Rooted trees -/

namespace FileTree

variable {t : FileTree} {here d d' l : Place} {p : Path} {cs : List Bytes} {c f g : Bytes}
  {content : Bytes}

/-- A tree in which every entry stands in a directory. -/
def IsRooted (t : FileTree) : Prop := ∀ l c, t.find? (l ++ [c]) ≠ none → t.find? l = some .directory

/-- A tree is rooted if each of its entries stands in a directory. -/
lemma isRooted_of_entries (h : ∀ x ∈ t.entries, t.find? x.1.dropLast = some .directory) :
    t.IsRooted := by
  intro l c hc
  rw [find?, if_neg (by simp), ← Option.isSome_iff_ne_none, List.lookup_isSome_iff] at hc
  obtain ⟨x, hx, hkey⟩ := hc
  have hdir := h x hx
  rwa [← eq_of_beq hkey, List.dropLast_concat] at hdir

lemma IsRooted.find?_dropLast (ht : t.IsRooted) (hd : t.find? d = some .directory) :
    t.find? d.dropLast = some .directory := by
  rcases List.eq_nil_or_concat d with rfl | ⟨l, c, rfl⟩
  · exact hd
  · rw [List.concat_eq_append] at hd ⊢
    rw [List.dropLast_concat]
    exact ht l c (by simp [hd])

/-! ## Directories on the way -/

/-- A component leads from a directory to a directory. -/
lemma IsRooted.find?_enter (ht : t.IsRooted) (hd : t.find? d = some .directory)
    (h : t.enter d c = .ok d') : t.find? d' = some .directory := by
  unfold enter at h
  split_ifs at h
  · obtain ⟨found, hfound, h⟩ := bind_eq_ok_iff.1 h
    unfold lookUp at hfound
    split_ifs at hfound
    obtain rfl : t.find? (d ++ [c]) = found := by injection hfound
    split at h
    · next hdir =>
      obtain rfl : d ++ [c] = d' := by injection h
      exact hdir
    · contradiction
    · contradiction
  · obtain rfl : d = d' := by injection h
    exact hd
  · obtain rfl : d.dropLast = d' := by injection h
    exact ht.find?_dropLast hd

lemma IsRooted.find?_walk (ht : t.IsRooted) (hd : t.find? d = some .directory)
    (h : t.walk d cs = .ok d') : t.find? d' = some .directory := by
  induction cs generalizing d with
  | nil =>
    obtain rfl : d = d' := by injection h
    exact hd
  | cons c cs ih =>
    obtain ⟨m, hm, h⟩ := bind_eq_ok_iff.1 h
    exact ih (ht.find?_enter hd hm) h

/-- A path starts from a directory. -/
lemma find?_origin (hhere : t.find? here = some .directory) (p : Path) :
    t.find? (origin here p) = some .directory := by
  unfold origin
  split_ifs
  · rfl
  · exact hhere

/-! ## The place of a path -/

lemma walk_append (t : FileTree) (d : Place) (cs cs' : List Bytes) :
    t.walk d (cs ++ cs') = t.walk d cs >>= fun d' => t.walk d' cs' :=
  List.foldlM_append

lemma walk_of_isIdle (h : ∀ c ∈ cs, Path.isIdle c = true) (t : FileTree) (d : Place) :
    t.walk d cs = .ok d := by
  induction cs with
  | nil => rfl
  | cons c cs ih =>
    have hc : Path.isIdle c = true := h c List.mem_cons_self
    have henter : t.enter d c = .ok d := by
      rw [enter, if_neg (by simp [Path.isName, hc]), if_pos hc]
    rw [walk_cons, henter]
    exact ih fun c hc => h c (List.mem_cons_of_mem _ hc)

/-- Components that lead nowhere can be dropped. -/
lemma walk_dropIdle (t : FileTree) (d : Place) (cs : List Bytes) :
    t.walk d (Path.dropIdle cs) = t.walk d cs := by
  cases cs with
  | nil => rfl
  | cons c cs =>
    have hsplit : cs.rdropWhile Path.isIdle ++ cs.rtakeWhile Path.isIdle = cs :=
      List.rdropWhile_append_rtakeWhile
    have hidle : ∀ c ∈ cs.rtakeWhile Path.isIdle, Path.isIdle c = true :=
      fun c hc => List.mem_rtakeWhile_imp hc
    have hwalk (m : Place) : t.walk m (cs.rdropWhile Path.isIdle) = t.walk m cs := by
      conv_rhs => rw [← hsplit, walk_append]
      cases t.walk m (cs.rdropWhile Path.isIdle) with
      | error e => rfl
      | ok m' => exact (walk_of_isIdle hidle t m').symm
    show t.walk d (c :: cs.rdropWhile Path.isIdle) = t.walk d (c :: cs)
    rw [walk_cons, walk_cons]
    exact congrArg _ (funext hwalk)

/-- Where a path leads that ends with a name. -/
lemma locate_eq (hp : p.components = cs ++ [f]) (hf : Path.isName f = true) (t : FileTree)
    (here : Place) :
    t.locate here p = (t.walk (origin here p) cs).map (· ++ [f]) := by
  rw [locate, hp, List.dropLast_concat, List.getLastD_concat]
  cases t.walk (origin here p) cs with
  | error e => rfl
  | ok d => exact if_pos hf

/-- The path of a file beside another one leads to the directory of that one. -/
lemma locate_withFileName (hp : p.components = cs ++ [f]) (hf : Path.isName f = true)
    (hg : Path.isName g = true) (hslash : Path.slash ∉ g) (t : FileTree) (here : Place) :
    t.locate here (p.withFileName g) = (t.walk (origin here p) cs).map (· ++ [g]) := by
  have hcs : ∀ c ∈ cs, Path.slash ∉ c := fun c hc =>
    Path.slash_not_mem_of_mem_components (p := p) (hp ▸ List.mem_append_left _ hc)
  have hfslash : Path.slash ∉ f :=
    Path.slash_not_mem_of_mem_components (p := p) (by simp [hp])
  have hdrop : ∀ c ∈ Path.dropIdle cs, Path.slash ∉ c := fun c hc =>
    hcs c (Path.mem_of_mem_dropIdle hc)
  have hcomponents : (p.withFileName g).components = Path.dropIdle cs ++ [g] := by
    rw [Path.withFileName_eq hp hf]
    refine Path.components_intercalate (by simp) ?_
    simpa [or_imp, forall_and] using ⟨hdrop, hslash⟩
  -- both paths are absolute, or neither is
  have horigin : origin here (p.withFileName g) = origin here p := by
    have hhead : (p.withFileName g).head? = some Path.slash ↔ p.head? = some Path.slash := by
      rw [Path.withFileName_eq hp hf, Path.head?_intercalate hdrop hslash,
        Path.head?_dropIdle, ← Path.head?_intercalate hcs hfslash, ← hp,
        Path.intercalate_components]
    simp only [origin, hhead]
  rw [locate_eq hcomponents hg, horigin, walk_dropIdle]

/-! ## What is read -/

/-- A path that leads to a file. -/
structure LeadsTo (t : FileTree) (here : Place) (p : Path) (dir : Place) (f content : Bytes) :
    Prop where
  /-- The last component of the path is a name. -/
  components_eq : ∃ cs, p.components = cs ++ [f] ∧ t.walk (origin here p) cs = .ok dir
  /-- It is the name of the file. -/
  isName_eq : Path.isName f = true
  /-- The file stands in a directory. -/
  find?_dir : t.find? dir = some .directory
  /-- The file has the content. -/
  find?_file : t.find? (dir ++ [f]) = some (.file content)

/-- What can be read is a file in a directory, and the path ends with its name. -/
lemma IsRooted.exists_leadsTo (ht : t.IsRooted) (hhere : t.find? here = some .directory)
    (h : t.read here p = .ok content) : ∃ dir f, t.LeadsTo here p dir f content := by
  obtain ⟨_, -, h⟩ := bind_eq_ok_iff.1 h
  obtain ⟨l, hlocate, h⟩ := bind_eq_ok_iff.1 h
  obtain ⟨found, hfound, h⟩ := bind_eq_ok_iff.1 h
  have hl : t.find? l = some (.file content) := by
    unfold lookUp at hfound
    split_ifs at hfound
    obtain rfl : t.find? l = found := by injection hfound
    split at h
    · next hfile =>
      injection h with h
      rw [hfile, h]
    · contradiction
    · contradiction
  obtain ⟨cs, f, hp⟩ : ∃ cs f, p.components = cs ++ [f] := by
    simpa using (List.eq_nil_or_concat p.components).resolve_left p.components_ne_nil
  rw [locate, hp, List.dropLast_concat, List.getLastD_concat] at hlocate
  obtain ⟨dir, hwalk, hlast⟩ := bind_eq_ok_iff.1 hlocate
  have hdir : t.find? dir = some .directory := ht.find?_walk (find?_origin hhere p) hwalk
  unfold last at hlast
  split_ifs at hlast with hf
  · obtain rfl : dir ++ [f] = l := by injection hlast
    exact ⟨dir, f, ⟨cs, hp, hwalk⟩, hf, hdir, hl⟩
  · -- the path would lead to a directory
    rw [ht.find?_enter hdir hlast] at hl
    cases hl

section

variable {dir : Place}

lemma LeadsTo.getLast?_components (h : t.LeadsTo here p dir f content) :
    p.components.getLast? = some f := by
  obtain ⟨cs, hp, -⟩ := h.components_eq
  rw [hp, List.getLast?_concat]

lemma LeadsTo.locate_eq (h : t.LeadsTo here p dir f content) :
    t.locate here p = .ok (dir ++ [f]) := by
  obtain ⟨cs, hp, hwalk⟩ := h.components_eq
  rw [FileTree.locate_eq hp h.isName_eq, hwalk]
  rfl

lemma LeadsTo.locate_withFileName_eq (h : t.LeadsTo here p dir f content)
    (hg : Path.isName g = true) (hslash : Path.slash ∉ g) :
    t.locate here (p.withFileName g) = .ok (dir ++ [g]) := by
  obtain ⟨cs, hp, hwalk⟩ := h.components_eq
  rw [locate_withFileName hp h.isName_eq hg hslash, hwalk]
  rfl

lemma LeadsTo.fileName?_eq (h : t.LeadsTo here p dir f content) : p.fileName? = some f := by
  obtain ⟨cs, hp, -⟩ := h.components_eq
  exact Path.fileName?_eq hp h.isName_eq

end

/-! ## Writing -/

/-- Writing a file keeps a tree rooted. -/
lemma IsRooted.insert (ht : t.IsRooted) (hhere : t.find? here = some .directory)
    (h : t.IsTarget here p l) (content : Bytes) : (t.insert l (.file content)).IsRooted := by
  -- the place of the file is in a directory, since it is none itself
  have hparent : t.find? l.dropLast = some .directory := by
    obtain ⟨dir, hwalk, hlast⟩ := bind_eq_ok_iff.1 h.locate_eq
    have hdir : t.find? dir = some .directory := ht.find?_walk (find?_origin hhere p) hwalk
    unfold last at hlast
    split_ifs at hlast
    · obtain rfl : dir ++ [p.components.getLastD []] = l := by injection hlast
      rwa [List.dropLast_concat]
    · exact absurd (ht.find?_enter hdir hlast) h.find?_ne
  intro k c hk
  have hdir : t.find? k = some .directory := by
    by_cases hkl : k ++ [c] = l
    · rw [← hkl, List.dropLast_concat] at hparent
      exact hparent
    · rw [find?_insert_of_ne t hkl] at hk
      exact ht k c hk
  have hkl : k ≠ l := by
    rintro rfl
    exact h.find?_ne hdir
  rw [find?_insert_of_ne t hkl, hdir]

end FileTree

end DocBlock
