/-
# The courses of a run

What a run of the program in a world comes to.  Each step of the program takes the world to another
one, which is given by an equation of its own; put together, they leave five courses that a run can
take, and each of them has a closed form.

All that a run depends on is there before it starts: reading changes nothing, and whether the
document can be delivered does not depend on the document.  So the source, the template and the sink
are functions of the first world, and the order of the steps shows only in which of their failures
is reported.
-/
import DocBlock.World
import DocBlock.Proofs.Files

namespace DocBlock

/-! ## Messages -/

namespace Program

/-- The records with the given texts that appear in the log. -/
def records (f : Log.Filter) (l : Log.Level) (texts : List Text) : List Message :=
  (texts.filter (f.admits logTarget l)).map (.record l)

lemma records_cons (f : Log.Filter) (l : Log.Level) (x : Text) (xs : List Text) :
    records f l (x :: xs) = records f l [x] ++ records f l xs := by
  rw [records, records, records, ← List.map_append, ← List.filter_append, List.singleton_append]

end Program

namespace World

/-- The world after more has been said. -/
def saying (w : World) (xs : List Message) : World := { w with messages := w.messages ++ xs }

section

variable (w : World) (xs ys : List Message)

@[simp] lemma saying_files : (w.saying xs).files = w.files := rfl

@[simp] lemma saying_output : (w.saying xs).output = w.output := rfl

@[simp] lemma saying_messages : (w.saying xs).messages = w.messages ++ xs := rfl

@[simp] lemma saying_saying : (w.saying xs).saying ys = w.saying (xs ++ ys) := by
  simp [saying]

@[simp] lemma saying_nil : w.saying [] = w := by simp [saying]

end

/-! ## What the steps get -/

section

variable (w : World) (c : CommandLine.Config)

/-- The source that a run reads. -/
def source : Except Failure Text :=
  match c.file with
  | some p => Program.textOf (.readSource p) (w.files.read w.here p)
  | none => Program.textOf .readInput w.readInput

/-- The template that a run reads, or the one that it has. -/
def template : Except Failure Text :=
  match c.preamble with
  | some p => Program.textOf (.readPreamble p) (w.files.read w.here p)
  | none => .ok Template.standard

/-- The document that a run makes. -/
def document : Except Failure Document := do
  return c.document (← w.source c) (← w.template c)

lemma document_eq_ok_iff {w : World} {c : CommandLine.Config} {d : Document} :
    w.document c = .ok d ↔ ∃ source template, w.source c = .ok source ∧
      w.template c = .ok template ∧ c.document source template = d := by
  simp [document, bind_eq_ok_iff, pure, Except.pure]

lemma document_eq_error_iff {w : World} {c : CommandLine.Config} {e : Failure} :
    w.document c = .error e ↔
      w.source c = .error e ∨ ∃ source, w.source c = .ok source ∧ w.template c = .error e := by
  unfold document
  cases w.source c <;> cases w.template c <;> simp [bind, Except.bind, pure, Except.pure]

/-- The document of a source on standard input, with the preamble that the program has. -/
lemma document_of_input {c : CommandLine.Config} (hfile : c.file = none)
    (hpreamble : c.preamble = none) (source : Text) :
    ({ input := Utf8.encode source } : World).document c =
      .ok (c.document source Template.standard) := by
  refine document_eq_ok_iff.2 ⟨source, _, ?_, ?_, rfl⟩
  · simp [World.source, hfile, readInput, Program.textOf, Utf8.decode?_encode]
  · simp [World.template, hpreamble]

/-- The place of the file that a run delivers its document to.  Where there is none, the document is
printed. -/
def sink : Except Failure (Option Place) :=
  match c.destination with
  | some p =>
    match w.files.target w.here p with
    | .ok l => .ok (some l)
    | .error e => .error ⟨.writeDocument p, .file e⟩
  | none =>
    match w.outputFault with
    | none => .ok none
    | some e => .error ⟨.printDocument, .file e⟩

lemma sink_eq_some_iff {w : World} {c : CommandLine.Config} {l : Place} :
    w.sink c = .ok (some l) ↔ ∃ p, c.destination = some p ∧ w.files.target w.here p = .ok l := by
  unfold sink
  cases c.destination with
  | some p => cases htarget : w.files.target w.here p <;> simp [htarget]
  | none => cases w.outputFault <;> simp

lemma sink_eq_none_iff {w : World} {c : CommandLine.Config} :
    w.sink c = .ok none ↔ c.destination = none ∧ w.outputFault = none := by
  unfold sink
  cases c.destination with
  | some p => cases htarget : w.files.target w.here p <;> simp [htarget]
  | none => cases w.outputFault <;> simp

/-- The world after a sink has received a content, or has refused it. -/
def receiving (k : Option Place) (content : Bytes) : World :=
  match k with
  | some l => { w with files := w.files.insert l (.file content) }
  | none => (w.print content).2

variable (xs : List Message)

@[simp] lemma document_saying : (w.saying xs).document c = w.document c := rfl

@[simp] lemma sink_saying : (w.saying xs).sink c = w.sink c := rfl

@[simp] lemma saying_receiving (k : Option Place) (content : Bytes) :
    (w.saying xs).receiving k content = (w.receiving k content).saying xs := by
  cases k with
  | some l => rfl
  | none => cases hfault : w.outputFault <;> simp [receiving, print, saying, hfault]

@[simp] lemma receiving_messages (k : Option Place) (content : Bytes) :
    (w.receiving k content).messages = w.messages := by
  cases k with
  | some l => rfl
  | none => exact w.messages_print content

end

end World

/-! ## What the steps say -/

namespace CommandLine.Config

/-- What a run says about the text that sets up its log. -/
def complaints (c : Config) (spec : Option Text) : List Message :=
  (c.logComplaints spec).map .complaint

/-- What a run logs when it has written a file. -/
def receipt (c : Config) (f : Log.Filter) : List Message :=
  Program.records f .info
    (c.destination.toList.map fun p => "Done! Wrote ".toList ++ p.display)

end CommandLine.Config

/-- What a run logs about the document that it has made. -/
def Document.warnings (d : Document) (f : Log.Filter) : List Message :=
  Program.records f .warn (d.diagnostics.map Diagnostic.message)

/-! ## The steps -/

namespace World

open CommandLine (Config)

section

variable {α β : Type} {w w' : World} {x : ExceptT Failure (StateM World) α}

/-- A sequence of steps goes on where its first step succeeds. -/
lemma run_bind_of_ok (g : α → ExceptT Failure (StateM World) β) {a : α}
    (h : StateT.run (m := Id) x.run w = pure (.ok a, w')) :
    StateT.run (m := Id) (x >>= g).run w = StateT.run (m := Id) (g a).run w' := by
  rw [ExceptT.run_bind, StateT.run_bind, h, pure_bind]

/-- A sequence of steps ends where its first step fails. -/
lemma run_bind_of_error (g : α → ExceptT Failure (StateM World) β) {e : Failure}
    (h : StateT.run (m := Id) x.run w = pure (.error e, w')) :
    StateT.run (m := Id) (x >>= g).run w = pure (.error e, w') := by
  rw [ExceptT.run_bind, StateT.run_bind, h, pure_bind, StateT.run_pure]

end

variable (w : World) (c : Config) (f : Log.Filter)

lemma run_log (l : Log.Level) (x : Text) :
    StateT.run (m := Id) (Program.log f l x) w = pure ((), w.saying (Program.records f l [x])) := by
  unfold Program.log Program.records
  split_ifs with h
  · simp [h, saying]
  · simp [h]

/-- Records are logged in order. -/
lemma run_forM_log {α : Type} (xs : List α) (g : α → Text) (l : Log.Level) :
    StateT.run (m := Id) (forM xs fun x => Program.log f l (g x)) w =
      pure ((), w.saying (Program.records f l (xs.map g))) := by
  induction xs generalizing w with
  | nil => simp [Program.records]
  | cons x xs ih =>
    rw [List.map_cons, Program.records_cons]
    simp [run_log, ih]

lemma run_readSource :
    StateT.run (m := Id) (Program.readSource c).run w = pure (w.source c, w) := by
  unfold Program.readSource source
  cases c.file <;> simp

lemma run_readTemplate :
    StateT.run (m := Id) (Program.readTemplate c).run w = pure (w.template c, w) := by
  unfold Program.readTemplate template
  cases c.preamble <;> simp

lemma run_deliver (content : Bytes) :
    StateT.run (m := Id) (Program.deliver c f content).run w =
      match w.sink c with
      | .ok k => pure (.ok (), (w.receiving k content).saying (c.receipt f))
      | .error e => pure (.error e, w) := by
  unfold Program.deliver sink CommandLine.Config.receipt
  cases c.destination with
  | none =>
    have hprint : StateT.run (m := Id) (ExceptT.run (.mk
        (Except.mapError (fun e => Failure.mk .printDocument (.file e)) <$>
          Host.print content))) w =
          pure ((w.print content).1.mapError fun e => ⟨.printDocument, .file e⟩,
            (w.print content).2) := by
      simp
    simp only [hprint]
    cases hfault : w.outputFault <;>
      simp [receiving, print, hfault, Program.records, Except.mapError]
  | some p =>
    cases ht : w.files.target w.here p with
    | error e =>
      have hw : w.writeFile p content = (.error e, w) := by
        simp [writeFile, FileTree.write_eq_map_target, ht, Except.map]
      simp only [ht]
      refine run_bind_of_error _ ?_
      simp [hw, Except.mapError]
    | ok l =>
      have hw : w.writeFile p content = (.ok (), w.receiving (some l) content) := by
        simp [writeFile, FileTree.write_eq_map_target, ht, Except.map, receiving]
      have hstep : StateT.run (m := Id) (ExceptT.run (.mk
          (Except.mapError (fun e => Failure.mk (.writeDocument p) (.file e)) <$>
            Host.writeFile p content))) w =
            pure (.ok (), w.receiving (some l) content) := by
        simp [hw, Except.mapError]
      rw [run_bind_of_ok _ hstep]
      simp [ht, run_log]

/-- A run stops before it makes a document if the source or the template cannot be read. -/
lemma run_makeDocument_of_error {e : Failure} (hd : w.document c = .error e) :
    StateT.run (m := Id) (Program.makeDocument c f).run w = pure (.error e, w) := by
  unfold Program.makeDocument
  obtain hs | ⟨source, hs, ht⟩ := document_eq_error_iff.1 hd
  · exact run_bind_of_error _ (by rw [run_readSource, hs])
  · rw [run_bind_of_ok _ (by rw [run_readSource, hs])]
    exact run_bind_of_error _ (by rw [run_readTemplate, ht])

lemma run_makeDocument_of_ok {d : Document} (hd : w.document c = .ok d) :
    StateT.run (m := Id) (Program.makeDocument c f).run w =
      StateT.run (m := Id) (Program.deliver c f (Utf8.encode d.markdown)).run
        (w.saying (d.warnings f)) := by
  obtain ⟨source, template, hs, ht, rfl⟩ := document_eq_ok_iff.1 hd
  unfold Program.makeDocument
  rw [run_bind_of_ok _ (by rw [run_readSource, hs]),
    run_bind_of_ok _ (by rw [run_readTemplate, ht])]
  refine run_bind_of_ok _ (a := ()) ?_
  simp [run_forM_log, Document.warnings]

/-! ## The courses -/

/-- The courses that a run can take, each with what it comes to: how the run ends, the world with
what has been read and written, and the messages that are said on top of that. -/
inductive Course (w : World) (args : List Bytes) (spec : Option Text) :
    ExitStatus → World → List Message → Prop
  /-- The command line is at fault. -/
  | misused {p : CommandLine.Problem} (request : CommandLine.request args = .error p) :
    Course w args spec .misuse w [.problem p]
  /-- The help text is printed. -/
  | helped (request : CommandLine.request args = .ok .help) :
    Course w args spec .success (w.receiving none (Utf8.encode CommandLine.helpText)) []
  /-- The source or the template cannot be read. -/
  | unread {c : Config} {e : Failure} (request : CommandLine.request args = .ok (.document c))
    (document : w.document c = .error e) :
    Course w args spec .failure w (c.complaints spec ++ [.failure e])
  /-- The document is made, but cannot be delivered. -/
  | undelivered {c : Config} {d : Document} {e : Failure}
    (request : CommandLine.request args = .ok (.document c)) (document : w.document c = .ok d)
    (sink : w.sink c = .error e) :
    Course w args spec .failure w
      (c.complaints spec ++ d.warnings (c.logFilter spec) ++ [.failure e])
  /-- The document is made and delivered. -/
  | delivered {c : Config} {d : Document} {k : Option Place}
    (request : CommandLine.request args = .ok (.document c)) (document : w.document c = .ok d)
    (sink : w.sink c = .ok k) :
    Course w args spec .success (w.receiving k (Utf8.encode d.markdown))
      (c.complaints spec ++ d.warnings (c.logFilter spec) ++ c.receipt (c.logFilter spec))

/-- How a run ends in a world where a document has been made, or where that has failed. -/
def conclude (w : World) : Except Failure Unit → ExitStatus × World
  | .ok () => (.success, w)
  | .error e => (.failure, w.saying [.failure e])

section

variable {w w' : World} {c : Config} {args : List Bytes} {spec : Option Text}

lemma run_of_makeDocument {r : Except Failure Unit}
    (request : CommandLine.request args = .ok (.document c))
    (h : StateT.run (m := Id) (Program.makeDocument c (c.logFilter spec)).run
      (w.saying (c.complaints spec)) = pure (r, w')) :
    w.run args spec = w'.conclude r := by
  have hsay : StateT.run (m := Id)
      ((c.logComplaints spec).forM fun x => Host.say (.complaint x)) w =
        pure ((), w.saying (c.complaints spec)) := by
    rw [List.forM_eq_forM]
    exact run_forM_say _ _ w
  unfold run Program.run
  rw [request, StateT.run_bind, hsay, pure_bind, StateT.run_bind, h, pure_bind]
  cases r <;> rfl

/-- A course comes to what it says. -/
lemma Course.run_eq {s : ExitStatus} {v : World} {said : List Message}
    (h : w.Course args spec s v said) : w.run args spec = (s, v.saying said) := by
  cases h with
  | misused request =>
    simp only [run, Program.run, request]
    rfl
  | helped request =>
    simp only [run, Program.run, request, saying_nil]
    rfl
  | @unread c e request document =>
    have hmake := run_makeDocument_of_error (w.saying (c.complaints spec)) c (c.logFilter spec)
      (by rwa [document_saying])
    rw [run_of_makeDocument request hmake, conclude, saying_saying]
  | @undelivered c d e request document sink =>
    have hmake := run_makeDocument_of_ok (w.saying (c.complaints spec)) c (c.logFilter spec)
      (by rwa [document_saying])
    rw [run_deliver, saying_saying, sink_saying, sink] at hmake
    rw [run_of_makeDocument request hmake, conclude, saying_saying]
  | @delivered c d k request document sink =>
    have hmake := run_makeDocument_of_ok (w.saying (c.complaints spec)) c (c.logFilter spec)
      (by rwa [document_saying])
    rw [run_deliver, saying_saying, sink_saying, sink] at hmake
    rw [run_of_makeDocument request hmake, conclude, saying_receiving, saying_saying]

/-- There is a course to take in every world, whatever the arguments. -/
lemma exists_course (w : World) (args : List Bytes) (spec : Option Text) :
    ∃ s v said, w.Course args spec s v said := by
  cases request : CommandLine.request args with
  | error p => exact ⟨_, _, _, .misused request⟩
  | ok r =>
    cases r with
    | help => exact ⟨_, _, _, .helped request⟩
    | document c =>
      cases document : w.document c with
      | error e => exact ⟨_, _, _, .unread request document⟩
      | ok d =>
        cases sink : w.sink c with
        | error e => exact ⟨_, _, _, .undelivered request document sink⟩
        | ok k => exact ⟨_, _, _, .delivered request document sink⟩

/-- **Every run takes one of the courses.** -/
theorem exists_course_of_run_eq {s : ExitStatus} (h : w.run args spec = (s, w')) :
    ∃ v said, w.Course args spec s v said ∧ w' = v.saying said := by
  obtain ⟨s', v, said, hcourse⟩ := w.exists_course args spec
  cases hcourse.run_eq.symm.trans h
  exact ⟨v, said, hcourse, rfl⟩

end

end World

end DocBlock
