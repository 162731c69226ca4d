/-
# What is delivered

What a run delivers is a function of what it was given: of the octets of the source, the language,
the template and the name.  Where these come from and where the document goes makes no difference to
it.

The two texts that a run reads are not treated alike.  The template is taken as it is, but for its
placeholders; the source makes the blocks of the document and is not searched for placeholders.
-/
import DocBlock.Proofs.Append
import DocBlock.Proofs.Delivery

namespace DocBlock

namespace World

open CommandLine (Config)

variable {w w' : World} {c : Config} {args : List Bytes} {spec : Option Text} {s : ExitStatus}
  {content input : Bytes} {lang template name source : Text}

/-! ## What a run is given -/

/-- The octets of the source: the content of a file, or the standard input if no file is given. -/
def octets (w : World) (c : Config) : Except FileError Bytes :=
  match c.file with
  | some p => w.files.read w.here p
  | none => w.readInput

/-- What a run for a document starts from: the octets of the source, the language, the template and
the name of the module. -/
structure Provides (w : World) (c : Config) (input : Bytes) (lang template name : Text) :
    Prop where
  /-- The octets of the source can be read. -/
  octets_eq : w.octets c = .ok input
  /-- The language is the one that is given, or Lua. -/
  lang_eq : c.lang.getD "lua".toList = lang
  /-- The template is the content of a file as it is, or the one that the program has. -/
  template_eq :
    match c.preamble with
    | some p =>
      ∃ content, w.files.read w.here p = .ok content ∧ Utf8.decode? content = some template
    | none => "# $\x7bname\x7d\n\n---\n\n".toList = template
  /-- The name is the one that is given, or the stem of the source file, or else `API`. -/
  name_eq :
    match c.name, c.file.bind Path.fileName? with
    | some n, _ => n = name
    | none, some n => Utf8.decodeLossy (Path.stem n) = name
    | none, none => "API".toList = name

lemma textOf_eq_ok_iff {st : Step} {r : Except FileError Bytes} {t : Text} :
    Program.textOf st r = .ok t ↔ ∃ content, r = .ok content ∧ Utf8.decode? content = some t := by
  cases r with
  | error e => simp [Program.textOf]
  | ok content => cases h : Utf8.decode? content <;> simp [Program.textOf, h]

lemma source_eq_ok_iff :
    w.source c = .ok source ↔
      ∃ input, w.octets c = .ok input ∧ Utf8.decode? input = some source := by
  unfold World.source octets
  cases c.file <;> exact textOf_eq_ok_iff

lemma template_eq_ok_iff :
    w.template c = .ok template ↔
      match c.preamble with
      | some p =>
        ∃ content, w.files.read w.here p = .ok content ∧ Utf8.decode? content = some template
      | none => "# $\x7bname\x7d\n\n---\n\n".toList = template := by
  unfold World.template
  cases c.preamble with
  | some p => exact textOf_eq_ok_iff
  | none => simp [Template.standard, Template.placeholder]

/-- A run that has read its source and its template has had everything to start from. -/
lemma exists_provides (hsource : w.source c = .ok source)
    (htemplate : w.template c = .ok template) :
    ∃ input, w.Provides c input (c.lang.getD defaultLang) template c.moduleName := by
  obtain ⟨input, hinput, -⟩ := source_eq_ok_iff.1 hsource
  refine ⟨input, hinput, rfl, template_eq_ok_iff.1 htemplate, ?_⟩
  unfold CommandLine.Config.moduleName
  cases c.name <;> cases c.file.bind Path.fileName? <;> rfl

namespace Provides

lemma decode?_eq (h : w.Provides c input lang template name) (hsource : w.source c = .ok source) :
    Utf8.decode? input = some source := by
  obtain ⟨content, hcontent, hdecode⟩ := source_eq_ok_iff.1 hsource
  cases h.octets_eq.symm.trans hcontent
  exact hdecode

lemma template_unique (h : w.Provides c input lang template name) {t : Text}
    (ht : w.template c = .ok t) : t = template := by
  cases ht.symm.trans (template_eq_ok_iff.2 h.template_eq)
  rfl

lemma moduleName_eq (h : w.Provides c input lang template name) : c.moduleName = name := by
  have hname := h.name_eq
  unfold CommandLine.Config.moduleName
  revert hname
  cases c.name <;> cases c.file.bind Path.fileName? <;> exact id

/-- The template and the name go into the preamble and nowhere else. -/
lemma markdown_eq (h : w.Provides c input lang template name) (source : Text) :
    (c.document source template).markdown =
      Template.fill name template ++ Document.body lang source := by
  rw [CommandLine.Config.document, ← h.moduleName_eq, ← h.lang_eq]
  rfl

end Provides

/-! ## What a run delivers -/

/-- What has come to the sink of a run: the content of the output file, or what has been printed. -/
def received (w w' : World) (c : Config) : Option Bytes :=
  match c.destination with
  | some p => (w'.files.read w.here p).toOption
  | none => w'.output.dropPrefix? w.output

lemma Delivered.received_eq (h : w.Delivered w' c content) : w.received w' c = some content := by
  unfold received
  cases h with
  | printed file output kept received =>
    rw [destination_eq_none_iff.2 ⟨output, file⟩]
    exact List.dropPrefix?_eq_some_iff.2 ⟨w.output, received, beq_self_eq_true _⟩
  | written path place received read =>
    simp only [destination_eq_some_iff.2 path, read]
    rfl

/-- The document of a run that succeeds, from what the run started from. -/
lemma received_of_run_eq (h : w.run args spec = (.success, w'))
    (request : CommandLine.request args = .ok (.document c))
    (hprovides : w.Provides c input lang template name) :
    ∃ source, Utf8.decode? input = some source ∧
      w.received w' c =
        some (Utf8.encode (Template.fill name template ++ Document.body lang source)) := by
  obtain ⟨v, said, hcourse, rfl⟩ := exists_course_of_run_eq h
  obtain ⟨c', source, t, request', hsource, ht, hdelivered⟩ :=
    hcourse.delivered_of_code_eq_zero rfl (by simp [request])
  obtain rfl : c = c' := by simpa using request.symm.trans request'
  obtain rfl := hprovides.template_unique ht
  refine ⟨source, hprovides.decode?_eq hsource, ?_⟩
  rw [hdelivered.received_eq, hprovides.markdown_eq]

/-- **A run delivers what its source, language, template and name amount to.**  The document of a
run that succeeds is the encoding of the template, with the name in the place of its placeholders,
and the Markdown of the source, which is not searched for placeholders.  Any other run that starts
from the same octets, language, template and name delivers the same, wherever it reads them from and
whatever its sink is. -/
theorem run_refines (h : w.run args spec = (s, w')) (hs : s.code = 0)
    (hhelp : CommandLine.request args ≠ .ok .help) :
    ∃ c input lang template name source,
      CommandLine.request args = .ok (.document c) ∧
      w.Provides c input lang template name ∧ Utf8.decode? input = some source ∧
      w.received w' c =
        some (Utf8.encode (Template.fill name template ++ Document.body lang source)) ∧
      ∀ (v v' : World) (args' : List Bytes) (spec' : Option Text) (c' : Config),
        CommandLine.request args' = .ok (.document c') → v.run args' spec' = (.success, v') →
        v.Provides c' input lang template name → v.received v' c' = w.received w' c := by
  obtain rfl : s = .success := by
    cases s with
    | success => rfl
    | failure | misuse => cases hs
  obtain ⟨u, said, hcourse, rfl⟩ := exists_course_of_run_eq h
  obtain ⟨c, source, template, request, hsource, htemplate, -⟩ :=
    hcourse.delivered_of_code_eq_zero rfl hhelp
  obtain ⟨input, hprovides⟩ := exists_provides hsource htemplate
  obtain ⟨source', hdecode, hreceived⟩ := received_of_run_eq h request hprovides
  refine ⟨c, input, _, template, _, source', request, hprovides, hdecode, hreceived, ?_⟩
  intro v v' args' spec' c' request' h' hprovides'
  obtain ⟨source'', hdecode', hreceived'⟩ := received_of_run_eq h' request' hprovides'
  -- the octets decide about the text, so both documents are made of the same source
  cases hdecode.symm.trans hdecode'
  exact hreceived'.trans hreceived.symm

/-- The source has a placeholder of its own, which stays. -/
theorem run_refines_placeholder_in_source :
    let text : Text := "--[==[\n@desc\n $\x7bname\x7d\n]==]".toList
    let w : World := { input := Utf8.encode text }
    let w' : World :=
      { input := Utf8.encode text
        output := Utf8.encode "# API\n\n---\n\n$\x7bname\x7d".toList }
    w.run [] none = (.success, w') ∧ CommandLine.request [] ≠ .ok .help ∧
      ∃ c input lang template name source,
        CommandLine.request [] = .ok (.document c) ∧
        w.Provides c input lang template name ∧ Utf8.decode? input = some source ∧
        w.received w' c =
          some (Utf8.encode (Template.fill name template ++ Document.body lang source)) := by
  intro text w w'
  have hrequest : CommandLine.request [] = .ok (.document {}) := rfl
  have hdocument : w.document {} = .ok (Config.document {} text Template.standard) :=
    document_of_input rfl rfl text
  have hrun : w.run [] none = (.success, w') :=
    (Course.delivered hrequest hdocument rfl).run_eq.trans (by decide +kernel)
  have hhelp : CommandLine.request [] ≠ .ok .help := by simp [hrequest]
  obtain ⟨c, input, lang, template, name, source, request, hprovides, hdecode, hreceived, -⟩ :=
    run_refines hrun rfl hhelp
  exact ⟨hrun, hhelp, c, input, lang, template, name, source, request, hprovides, hdecode,
    hreceived⟩

end World

end DocBlock
