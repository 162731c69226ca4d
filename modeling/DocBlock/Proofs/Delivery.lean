/-
# One sink or none

A run either delivers its document to one sink, or it leaves the files and the output as they were
and reports the first stage that failed.  There is one sink only, because a run that writes a file
prints nothing, and a run that prints writes nothing.

All of this is read off the courses that a run can take.  Each part is a lemma about a course, with
one case for each of them.
-/
import DocBlock.Proofs.Run

namespace DocBlock

namespace World

open CommandLine (Config)

variable {w w' v : World} {c : Config} {args : List Bytes} {spec : Option Text} {s : ExitStatus}
  {said : List Message} {content : Bytes} {d : Document} {e : Failure}

/-! ## Stages that fail -/

/-- The failure of a stage, if it fails. -/
def failures {α : Type} : Except Failure α → List Failure
  | .ok _ => []
  | .error e => [e]

@[simp] lemma failures_ok {α : Type} (a : α) : failures (.ok a) = [] := rfl

@[simp] lemma failures_error {α : Type} (e : Failure) :
    failures (.error e : Except Failure α) = [e] := rfl

/-- The failures of the three stages of a run, in their order, each as it would be if the stages
before it had succeeded. -/
def faults (w : World) (c : Config) : List Failure :=
  failures (w.source c) ++ failures (w.template c) ++ failures (w.sink c)

/-- If the document is not made, the first fault is the reason. -/
lemma head?_faults (h : w.document c = .error e) : (w.faults c).head? = some e := by
  obtain hs | ⟨source, hs, ht⟩ := document_eq_error_iff.1 h
  · simp [faults, hs]
  · simp [faults, hs, ht]

/-- If the document is made, nothing but its delivery can fail. -/
lemma faults_eq_failures_sink (h : w.document c = .ok d) : w.faults c = failures (w.sink c) := by
  obtain ⟨source, template, hs, ht, -⟩ := document_eq_ok_iff.1 h
  simp [faults, hs, ht]

/-! ## One sink -/

/-- The document of a run has come to one sink, and nothing else has changed. -/
inductive Delivered (w w' : World) (c : Config) (content : Bytes) : Prop
  /-- It has been printed, since neither a source file nor an output file was given. -/
  | printed (file : c.file = none) (output : c.output = none) (kept : w'.files = w.files)
    (received : w'.output = w.output ++ content) : Delivered w w' c content
  /-- It is the content of the output file, or of `README.md` beside the source file. -/
  | written {p : Path} {l : Place}
    (path : c.output = some p ∨ c.output = none ∧
      ∃ q, c.file = some q ∧ q.withFileName (Utf8.encode "README.md".toList) = p)
    (place : w.files.locate w.here p = .ok l) (received : w'.files.find? l = some (.file content))
    (read : w'.files.read w.here p = .ok content)
    (kept : w'.output = w.output) (others : ∀ k ≠ l, w'.files.find? k = w.files.find? k) :
    Delivered w w' c content

lemma destination_eq_none_iff : c.destination = none ↔ c.output = none ∧ c.file = none := by
  simp [CommandLine.Config.destination]

lemma destination_eq_some_iff {p : Path} :
    c.destination = some p ↔ c.output = some p ∨ c.output = none ∧
      ∃ q, c.file = some q ∧ q.withFileName (Utf8.encode "README.md".toList) = p := by
  rw [CommandLine.Config.destination, Option.or_eq_some_iff, Option.map_eq_some_iff,
    CommandLine.Config.standardOutput]

/-- What a sink receives is delivered. -/
lemma delivered_receiving {k : Option Place} (h : w.sink c = .ok k) (content : Bytes)
    (said : List Message) : w.Delivered ((w.receiving k content).saying said) c content := by
  cases k with
  | none =>
    obtain ⟨hdest, hfault⟩ := sink_eq_none_iff.1 h
    obtain ⟨houtput, hfile⟩ := destination_eq_none_iff.1 hdest
    exact .printed hfile houtput (w.files_print content) (by simp [receiving, print, hfault])
  | some l =>
    obtain ⟨p, hdest, htarget⟩ := sink_eq_some_iff.1 h
    have hl := FileTree.isTarget_of_target_eq htarget
    exact .written (destination_eq_some_iff.1 hdest) hl.locate_eq
      (FileTree.find?_insert_self _ hl.ne_nil _) (hl.read_insert content) rfl
      fun k hk => FileTree.find?_insert_of_ne _ hk _

/-! ## Messages of a course -/

lemma record_notMem_complaints (l : Log.Level) (x : Text) :
    .record l x ∉ c.complaints spec := by
  simp [CommandLine.Config.complaints]

lemma failure_notMem_complaints (e : Failure) : .failure e ∉ c.complaints spec := by
  simp [CommandLine.Config.complaints]

lemma failure_notMem_warnings (f : Log.Filter) (e : Failure) : .failure e ∉ d.warnings f := by
  simp [Document.warnings, Program.records]

/-- A warning is not the news that a file has been written. -/
lemma not_done_of_mem_warnings {f : Log.Filter} {l : Log.Level} {x : Text}
    (h : .record l x ∈ d.warnings f) : ¬ "Done!".toList <+: x := by
  obtain ⟨y, hy, heq⟩ := List.mem_map.1 h
  obtain ⟨a, -, rfl⟩ := List.mem_map.1 (List.mem_of_mem_filter hy)
  cases heq
  rintro ⟨t, ht⟩
  simp [Diagnostic.message] at ht

namespace Course

lemma messages_eq (h : w.Course args spec s v said) : v.messages = w.messages := by
  cases h with
  | misused | unread | undelivered => rfl
  | helped | delivered => exact w.receiving_messages _ _

/-- A run that does not deliver a document changes no file. -/
lemma files_eq (h : w.Course args spec s v said)
    (hs : s.code ≠ 0 ∨ CommandLine.request args = .ok .help) : v.files = w.files := by
  cases h with
  | misused | unread | undelivered => rfl
  | helped => exact w.files_print _
  | delivered request =>
    rcases hs with hs | hs
    · exact absurd rfl hs
    · rw [request] at hs
      cases hs

/-- A run that fails prints nothing. -/
lemma output_eq (h : w.Course args spec s v said) (hs : s.code ≠ 0) : v.output = w.output := by
  cases h with
  | misused | unread | undelivered => rfl
  | helped | delivered => exact absurd rfl hs

/-- A run that fails does not say that a file has been written. -/
lemma not_done (h : w.Course args spec s v said) (hs : s.code ≠ 0) {l : Log.Level} {x : Text}
    (hx : .record l x ∈ said) : ¬ "Done!".toList <+: x := by
  cases h with
  | misused => simp at hx
  | helped | delivered => exact absurd rfl hs
  | unread => simp [record_notMem_complaints] at hx
  | @undelivered c d =>
    have hwarn : .record l x ∈ d.warnings (c.logFilter spec) := by
      simpa [record_notMem_complaints] using hx
    exact not_done_of_mem_warnings hwarn

/-- A run fails if a stage does, and says which one was the first. -/
lemma code_eq_one_iff (h : w.Course args spec s v said) :
    s.code = 1 ↔ ∃ c e, CommandLine.request args = .ok (.document c) ∧
      (w.faults c).head? = some e ∧ ∀ g, .failure g ∈ said ↔ g = e := by
  cases h with
  | misused request => simp [ExitStatus.code, request]
  | helped request => simp [ExitStatus.code, request]
  | @unread c e request document =>
    refine iff_of_true rfl ⟨c, e, request, head?_faults document, fun g => ?_⟩
    simp [failure_notMem_complaints]
  | @undelivered c d e request document sink =>
    refine iff_of_true rfl ⟨c, e, request, ?_, fun g => ?_⟩
    · rw [faults_eq_failures_sink document, sink]
      rfl
    · simp [failure_notMem_complaints, failure_notMem_warnings]
  | @delivered c d k request document sink =>
    -- each stage has succeeded in the first world, so there is no fault to report
    refine iff_of_false (by decide) ?_
    rintro ⟨c', e, request', hfirst, -⟩
    obtain rfl : c = c' := by simpa using request.symm.trans request'
    rw [faults_eq_failures_sink document, sink] at hfirst
    cases hfirst

/-- A run warns of nothing if the source or the template cannot be read. -/
lemma warn_notMem (h : w.Course args spec s v said)
    (request : CommandLine.request args = .ok (.document c))
    (hread : w.source c = .error e ∨ w.template c = .error e) (x : Text) :
    .record .warn x ∉ said := by
  -- two courses say otherwise, but they need a document
  have hmade (d : Document) (hd : w.document c = .ok d) : False := by
    obtain ⟨source, template, hs, ht, -⟩ := document_eq_ok_iff.1 hd
    simp [hs, ht] at hread
  cases h with
  | misused | helped => simp
  | unread => simp [record_notMem_complaints]
  | @undelivered c' d e' request' document | @delivered c' d k request' document =>
    obtain rfl : c' = c := by simpa using request'.symm.trans request
    exact (hmade d document).elim

/-- A run that succeeds and is not asked for help delivers its document. -/
lemma delivered_of_code_eq_zero (h : w.Course args spec s v said) (hs : s.code = 0)
    (hhelp : CommandLine.request args ≠ .ok .help) :
    ∃ c source template, CommandLine.request args = .ok (.document c) ∧
      w.source c = .ok source ∧ w.template c = .ok template ∧
      w.Delivered (v.saying said) c (Utf8.encode (c.document source template).markdown) := by
  cases h with
  | misused | unread | undelivered => cases hs
  | helped request => exact absurd request hhelp
  | @delivered c d k request document sink =>
    obtain ⟨source, template, hsource, htemplate, rfl⟩ := document_eq_ok_iff.1 document
    exact ⟨c, source, template, request, hsource, htemplate, delivered_receiving sink _ _⟩

end Course

/-! ## Atomic runs -/

/-- **A run delivers its document to one sink, or it leaves everything as it was.**  Files change
only in a run that succeeds with a document, and output is printed only in a run that succeeds.  A
run exits with 1 if one of its stages fails, and reports the first that does, whatever would become
of the later ones; it does not say that a file has been written, and it warns of nothing unless the
source and the template have been read.  The document of a run that succeeds is printed, or it is
the new content of one file, even if the source or the template was read from that file. -/
theorem run_atomic (h : w.run args spec = (s, w')) :
    (s.code ≠ 0 ∨ CommandLine.request args = .ok .help → w'.files = w.files) ∧
    (∃ said, w'.messages = w.messages ++ said ∧
      (s.code ≠ 0 →
        w'.output = w.output ∧ ∀ l x, .record l x ∈ said → ¬ "Done!".toList <+: x) ∧
      (s.code = 1 ↔ ∃ c e, CommandLine.request args = .ok (.document c) ∧
        (w.faults c).head? = some e ∧ ∀ g, .failure g ∈ said ↔ g = e) ∧
      (∀ c e, CommandLine.request args = .ok (.document c) →
        w.source c = .error e ∨ w.template c = .error e → ∀ x, .record .warn x ∉ said)) ∧
    (s.code = 0 → CommandLine.request args ≠ .ok .help →
      ∃ c source template, CommandLine.request args = .ok (.document c) ∧
        w.source c = .ok source ∧ w.template c = .ok template ∧
        w.Delivered w' c (Utf8.encode (c.document source template).markdown)) := by
  obtain ⟨v, said, hcourse, rfl⟩ := exists_course_of_run_eq h
  have hmessages : (v.saying said).messages = w.messages ++ said := by
    rw [saying_messages, hcourse.messages_eq]
  exact ⟨hcourse.files_eq,
    ⟨said, hmessages, fun hs => ⟨hcourse.output_eq hs, fun _ _ => hcourse.not_done hs⟩,
      hcourse.code_eq_one_iff, fun _ _ => hcourse.warn_notMem⟩,
    hcourse.delivered_of_code_eq_zero⟩

/-- The output file is the source file and the file of the template, too. -/
theorem run_atomic_over_source :
    let args := ["lib.lua", "-plib.lua", "-olib.lua", "-q"].map fun a => Utf8.encode a.toList
    let file (t : Text) : FileTree := ⟨[([Utf8.encode "lib.lua".toList], .file (Utf8.encode t))]⟩
    let text : Text := "--[==[\n@desc\n A\n]==]".toList
    let w : World := { files := file text }
    let w' : World := { files := file (text ++ ['A']) }
    w.run args none = (.success, w') ∧ CommandLine.request args ≠ .ok .help ∧
      ∃ c source template, CommandLine.request args = .ok (.document c) ∧
        w.source c = .ok source ∧ w.template c = .ok template ∧
        w.Delivered w' c (Utf8.encode (c.document source template).markdown) := by
  intro args file text w w'
  let p : Path := Utf8.encode "lib.lua".toList
  let c : Config := { file := some p, output := some p, preamble := some p, quiet := true }
  have hrequest : CommandLine.request args = .ok (.document c) := rfl
  have hread : w.files.read w.here p = .ok (Utf8.encode text) := rfl
  have hsource : w.source c = .ok text := by
    simp [source, c, hread, Program.textOf, Utf8.decode?_encode]
  have htemplate : w.template c = .ok text := by
    simp [template, c, hread, Program.textOf, Utf8.decode?_encode]
  have hdocument : w.document c = .ok (c.document text text) :=
    document_eq_ok_iff.2 ⟨text, text, hsource, htemplate, rfl⟩
  have hsink : w.sink c = .ok (some [p]) := rfl
  have hrun : w.run args none = (.success, w') :=
    (Course.delivered hrequest hdocument hsink).run_eq.trans (by decide +kernel)
  have hhelp : CommandLine.request args ≠ .ok .help := by simp [hrequest]
  exact ⟨hrun, hhelp, (run_atomic hrun).2.2 rfl hhelp⟩

end World

end DocBlock
