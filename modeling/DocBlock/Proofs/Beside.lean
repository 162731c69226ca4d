/-
# Beside the source

A document goes into a file beside its source, unless the user says otherwise, and the module has
the name of its source.  The path of the file and the name of the module are made from the path of
the source by spelling alone.  Still the path leads to the directory in which the source stands, and
it leads to the source itself if that has the name of the file to be written.
-/
import DocBlock.Proofs.Delivery
import DocBlock.Proofs.Paths

namespace DocBlock

/-! ## The stem of a file name -/

namespace Path

variable {f : Bytes}

/-- What comes before the last dot of a file name, if there is a dot behind its first octet, and all
of it if there is none. -/
structure IsStem (f s : Bytes) : Prop where
  /-- The name goes on with the last dot. -/
  cut : dot ∈ f.tail → ∃ b, f = s ++ dot :: b ∧ dot ∉ b
  /-- The name is its own stem. -/
  whole : dot ∉ f.tail → s = f

/-- A name with a dot is cut at its last dot, unless there is nothing in front of it. -/
lemma stem_append {b : Bytes} (hb : dot ∉ b) (a : Bytes) :
    stem (a ++ dot :: b) = if a = [] then dot :: b else a := by
  have hdrop : (a ++ dot :: b).reverse.dropWhile (· ≠ dot) = dot :: a.reverse := by
    rw [List.reverse_append, List.reverse_cons, List.append_assoc,
      List.dropWhile_append_of_pos fun c hc => ?_]
    · rfl
    · have hne : c ≠ dot := by
        rintro rfl
        exact hb (List.mem_reverse.1 hc)
      simpa using hne
  unfold stem
  rw [hdrop]
  rcases List.eq_nil_or_concat a with rfl | ⟨a, c, rfl⟩
  · rfl
  · simp

lemma stem_eq_self (h : dot ∉ f) : stem f = f := by
  have hdrop : f.reverse.dropWhile (· ≠ dot) = [] := by
    refine List.dropWhile_eq_nil_iff.2 fun c hc => ?_
    have hne : c ≠ dot := by
      rintro rfl
      exact h (List.mem_reverse.1 hc)
    simpa using hne
  unfold stem
  rw [hdrop]

lemma isStem_stem (f : Bytes) : IsStem f (stem f) := by
  by_cases h : dot ∈ f
  · obtain ⟨b, a, hf, hb⟩ := List.eq_append_cons_of_mem (List.mem_reverse.2 h)
    obtain rfl : f = a.reverse ++ dot :: b.reverse := by
      simpa using congrArg List.reverse hf
    have hb' : dot ∉ b.reverse := fun h => hb (List.mem_reverse.1 h)
    rw [stem_append hb']
    split_ifs with ha
    · rw [ha]
      exact ⟨fun hdot => absurd hdot hb', fun _ => rfl⟩
    · refine ⟨fun _ => ⟨_, rfl, hb'⟩, fun hdot => absurd ?_ hdot⟩
      rw [List.tail_append_of_ne_nil ha]
      simp
  · rw [stem_eq_self h]
    exact ⟨fun hdot => absurd (List.mem_of_mem_tail hdot) h, fun _ => rfl⟩

/-- Some of a name is left. -/
lemma IsStem.ne_nil {s : Bytes} (h : IsStem f s) (hf : f ≠ []) : s ≠ [] := by
  by_cases hdot : dot ∈ f.tail
  · obtain ⟨b, hb, hdotb⟩ := h.cut hdot
    rintro rfl
    rw [hb] at hdot
    exact hdotb hdot
  · rwa [h.whole hdot]

end Path

lemma Utf8.decodeLossy_ne_nil {bs : Bytes} (h : bs ≠ []) : decodeLossy bs ≠ [] := by
  cases bs with
  | nil => exact absurd rfl h
  | cons b bs => simp [decodeLossy, scan]

/-! ## Runs -/

namespace World

open CommandLine (Config)

variable {w v : World} {c : Config} {p : Path} {dir : Place} {f content : Bytes}
  {args : List Bytes} {spec : Option Text} {s : ExitStatus} {said : List Message}

/-- The place where a run writes its document, if it writes it to a file. -/
lemma isTarget_of_sink_eq {l : Place} (h : w.sink c = .ok (some l)) :
    ∃ out, c.destination = some out ∧ w.files.IsTarget w.here out l := by
  obtain ⟨out, hdest, htarget⟩ := sink_eq_some_iff.1 h
  exact ⟨out, hdest, FileTree.isTarget_of_target_eq htarget⟩

/-- A run keeps the tree of files rooted. -/
theorem isRooted_run (hfiles : w.files.IsRooted) (hhere : w.files.find? w.here = some .directory)
    (args : List Bytes) (spec : Option Text) : (w.run args spec).2.files.IsRooted := by
  obtain ⟨s, v, said, hcourse⟩ := w.exists_course args spec
  rw [hcourse.run_eq]
  cases hcourse with
  | misused | unread | undelivered => exact hfiles
  | helped => rwa [saying_files, receiving, files_print]
  | @delivered c d k request document sink =>
    cases k with
    | none => rwa [saying_files, receiving, files_print]
    | some l =>
      obtain ⟨out, -, hl⟩ := isTarget_of_sink_eq sink
      exact hfiles.insert hhere hl _

/-- A run that writes its document beside the source changes the source only if that has the name of
the file to be written. -/
lemma Course.find?_beside (h : w.Course args spec .success v said)
    (request : CommandLine.request args = .ok (.document c)) {out : Path} {g : Bytes}
    (hout : c.destination = some out) (hlocate : w.files.locate w.here out = .ok (dir ++ [g])) :
    ∃ d, w.document c = .ok d ∧
      v.files.find? (dir ++ [g]) = some (.file (Utf8.encode d.markdown)) ∧
      ∀ f ≠ g, v.files.find? (dir ++ [f]) = w.files.find? (dir ++ [f]) := by
  cases h with
  | helped request' => simp [request] at request'
  | @delivered c' d k request' document sink =>
    obtain rfl : c' = c := by simpa using request'.symm.trans request
    cases k with
    | none =>
      have hnone := (sink_eq_none_iff.1 sink).1
      simp [hout] at hnone
    | some l =>
      obtain ⟨out', hout', hl⟩ := isTarget_of_sink_eq sink
      obtain rfl : out' = out := by simpa using hout'.symm.trans hout
      obtain rfl : l = dir ++ [g] := by simpa using hl.locate_eq.symm.trans hlocate
      refine ⟨d, document, FileTree.find?_insert_self _ hl.ne_nil _, fun f hf => ?_⟩
      exact FileTree.find?_insert_of_ne _ (by simpa using hf) _

/-- The name of a module is the stem of its source file. -/
lemma moduleName_of_fileName? (hfile : c.file = some p) (hf : p.fileName? = some f)
    (hname : c.name = none) : c.moduleName = Utf8.decodeLossy (Path.stem f) := by
  rw [CommandLine.Config.moduleName, hname, hfile, Option.bind_some, hf]
  rfl

/-- **A document goes beside its source, and the module has the name of its source.**  If a source
file can be read, its path ends with its name, and the file that the document goes to, unless the
user gives another one, is `README.md` in the same directory.  This is the source itself if the
source has that name, and then a run that succeeds puts the document in its place; otherwise it
leaves the source as it is.  The module is called by the stem of the name, which is never empty, and
`API` only if there is no source file. -/
theorem beside_source (hfiles : w.files.IsRooted)
    (hhere : w.files.find? w.here = some .directory) (c : Config) :
    let readme : Bytes := Utf8.encode "README.md".toList
    (c.file = none → c.name = none → c.moduleName = "API".toList) ∧
      ∀ p content, c.file = some p → w.files.read w.here p = .ok content →
        ∃ dir f, p.components.getLast? = some f ∧
          w.files.locate w.here p = .ok (dir ++ [f]) ∧
          w.files.find? dir = some .directory ∧
          w.files.find? (dir ++ [f]) = some (.file content) ∧
          (c.output = none → ∃ out, c.destination = some out ∧
            w.files.locate w.here out = .ok (dir ++ [readme]) ∧
            (w.files.locate w.here out = w.files.locate w.here p ↔ f = readme) ∧
            ∀ args spec, CommandLine.request args = .ok (.document c) →
              (w.run args spec).1 = .success → ∃ d, w.document c = .ok d ∧
                (w.run args spec).2.files.find? (dir ++ [readme]) =
                  some (.file (Utf8.encode d.markdown)) ∧
                (f ≠ readme →
                  (w.run args spec).2.files.find? (dir ++ [f]) = some (.file content))) ∧
          (c.name = none →
            ∃ s, Path.IsStem f s ∧ c.moduleName = Utf8.decodeLossy s ∧ c.moduleName ≠ []) := by
  intro readme
  refine ⟨fun hfile hname => ?_, fun p content hfile hread => ?_⟩
  · rw [CommandLine.Config.moduleName, hname, hfile]
    rfl
  · obtain ⟨dir, f, hp⟩ := hfiles.exists_leadsTo hhere hread
    refine ⟨dir, f, hp.getLast?_components, hp.locate_eq, hp.find?_dir, hp.find?_file,
      fun houtput => ?_, fun hname => ?_⟩
    · have hdest : c.destination = some (p.withFileName readme) :=
        destination_eq_some_iff.2 (.inr ⟨houtput, p, hfile, rfl⟩)
      have hlocate : w.files.locate w.here (p.withFileName readme) = .ok (dir ++ [readme]) :=
        hp.locate_withFileName_eq (by decide) (by decide)
      refine ⟨_, hdest, hlocate, ?_, fun args spec request hsuccess => ?_⟩
      · rw [hlocate, hp.locate_eq]
        simp [eq_comm]
      · obtain ⟨s, v, said, hcourse⟩ := w.exists_course args spec
        rw [hcourse.run_eq] at hsuccess ⊢
        obtain rfl : s = .success := hsuccess
        obtain ⟨d, hdocument, hfind, hothers⟩ := hcourse.find?_beside request hdest hlocate
        exact ⟨d, hdocument, hfind, fun hf => (hothers f hf).trans hp.find?_file⟩
    · have hmodule := moduleName_of_fileName? hfile hp.fileName?_eq hname
      refine ⟨Path.stem f, Path.isStem_stem f, hmodule, ?_⟩
      rw [hmodule]
      exact Utf8.decodeLossy_ne_nil
        ((Path.isStem_stem f).ne_nil (Path.ne_nil_of_isName hp.isName_eq))

/-- The path goes into the directory twice, and there is a file with the name to be written. -/
theorem beside_source_winding :
    let bytes (t : String) : Bytes := Utf8.encode t.toList
    let p : Path := bytes "./sub//../sub/.//.a.lua"
    let source : Place := [bytes "sub", bytes ".a.lua"]
    let readme : Place := [bytes "sub", bytes "README.md"]
    let w : World :=
      { files := ⟨[([bytes "sub"], .directory), (source, .file []), (readme, .file [0])]⟩ }
    let c : Config := { file := some p }
    w.files.IsRooted ∧ w.files.find? w.here = some .directory ∧
      CommandLine.request [p] = .ok (.document c) ∧ (w.run [p] none).1 = .success ∧
      w.files.read w.here p = .ok [] ∧ c.output = none ∧ c.name = none ∧
      c.destination = some (bytes "./sub//../sub/README.md") ∧
      (∃ d, w.document c = .ok d ∧
        (w.run [p] none).2.files.find? readme = some (.file (Utf8.encode d.markdown)) ∧
        (w.run [p] none).2.files.find? source = some (.file [])) ∧
      ∃ s, Path.IsStem (bytes ".a.lua") s ∧ c.moduleName = Utf8.decodeLossy s := by
  intro bytes p source readme w c
  have hfiles : w.files.IsRooted := FileTree.isRooted_of_entries (by decide)
  have hrequest : CommandLine.request [p] = .ok (.document c) := rfl
  have hread : w.files.read w.here p = .ok [] := rfl
  have hsource : w.source c = .ok [] := by
    have hdecode : Utf8.decode? [] = some [] := Utf8.decode?_encode []
    simp [World.source, c, hread, Program.textOf, hdecode]
  have hdocument : w.document c = .ok (c.document [] Template.standard) :=
    document_eq_ok_iff.2 ⟨[], _, hsource, rfl, rfl⟩
  have hsink : w.sink c = .ok (some readme) := by decide +kernel
  have hsuccess : (w.run [p] none).1 = .success := by
    rw [(Course.delivered hrequest hdocument hsink).run_eq]
  obtain ⟨-, hbeside⟩ := beside_source hfiles rfl c
  obtain ⟨dir, f, hlast, hlocate, -, -, houtput, hname⟩ := hbeside p [] rfl hread
  obtain rfl : bytes ".a.lua" = f := by
    have hcomponent : some (bytes ".a.lua") = some f := hlast
    exact Option.some.inj hcomponent
  obtain rfl : [bytes "sub"] = dir := by
    have hplace : Except.ok source = Except.ok (dir ++ [bytes ".a.lua"]) := hlocate
    exact List.append_cancel_right (Except.ok.inj hplace)
  obtain ⟨out, -, -, -, hrun⟩ := houtput rfl
  obtain ⟨d, hd, hnew, hkept⟩ := hrun [p] none hrequest hsuccess
  obtain ⟨s, hs, hmodule, -⟩ := hname rfl
  exact ⟨hfiles, rfl, hrequest, hsuccess, hread, rfl, rfl, rfl, ⟨d, hd, hnew, hkept (by decide)⟩,
    s, hs, hmodule⟩

end World

end DocBlock
