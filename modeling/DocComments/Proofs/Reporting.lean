import DocComments.CommandLine
import DocComments.Proofs.Lookahead
import Mathlib.Data.List.Forall2

/-!
# What a run reports

A run of the command line goes through its stages and ends at the first thing that goes wrong.
`FirstTrouble` says what that is, from the files, the settings and the request alone: settings that
cannot be had, the first file that cannot be read, else the first input that cannot be scanned,
else a layout that cannot be had, else a file that cannot be written.

`run_ends` says how the run then ends.  Without any trouble it puts out the results of all inputs.
Trouble that the program expects is reported by a message and exit status 1: wrong settings, a path
that cannot be used, an input that cannot be scanned.  Any other trouble escapes, and among it is
what a file that is there can be like: bytes that are no text in the encoding asked for, or an
encoding of that name that there is not (`run_escapes_undecodable`).
-/

namespace DocComments

/-! ### The first failure in a list -/

/-- **The first element that fails**, with the failure; the function answers on all before it. -/
def FirstFails {ε α β : Type} (f : α → Except ε β) (items : List α) (e : ε) : Prop :=
  ∃ before a after, items = before ++ a :: after ∧ (∀ b ∈ before, ∃ answer, f b = .ok answer) ∧
    f a = .error e

section FirstFails

variable {ε α β : Type} {f : α → Except ε β} {items : List α}

/-- Going through a list ends at the first failure, or with all answers. -/
theorem mapM_cases (f : α → Except ε β) (items : List α) :
    (∃ answers, items.mapM f = .ok answers ∧
        List.Forall₂ (fun a answer => f a = .ok answer) items answers) ∨
      ∃ e, items.mapM f = .error e ∧ FirstFails f items e := by
  induction items with
  | nil => exact .inl ⟨[], rfl, .nil⟩
  | cons a items ih =>
      rw [List.mapM_cons]
      cases ha : f a with
      | error e => exact .inr ⟨e, rfl, [], a, items, rfl, by simp, ha⟩
      | ok answer =>
          rcases ih with ⟨answers, hanswers, hall⟩ | ⟨e, he, before, b, after, rfl, hbefore, hb⟩
          · rw [hanswers]
            exact .inl ⟨answer :: answers, rfl, .cons ha hall⟩
          · rw [he]
            exact .inr ⟨e, rfl, a :: before, b, after, rfl,
              List.forall_mem_cons.2 ⟨⟨answer, ha⟩, hbefore⟩, hb⟩

theorem FirstFails.ne_nil {e : ε} (h : FirstFails f items e) : items ≠ [] := by
  obtain ⟨before, a, after, rfl, -, -⟩ := h
  simp

theorem mapM_of_firstFails {e : ε} (h : FirstFails f items e) : items.mapM f = .error e := by
  obtain ⟨before, a, after, rfl, hbefore, ha⟩ := h
  induction before with
  | nil =>
      rw [List.nil_append, List.mapM_cons, ha]
      rfl
  | cons b before ih =>
      obtain ⟨⟨answer, hb⟩, hbefore⟩ := List.forall_mem_cons.1 hbefore
      rw [List.cons_append, List.mapM_cons, hb]
      change Except.bind (Except.ok answer) _ = _
      rw [Except.bind, ih hbefore]
      rfl

theorem mapM_of_forall₂ {answers : List β}
    (h : List.Forall₂ (fun a answer => f a = .ok answer) items answers) :
    items.mapM f = .ok answers := by
  induction h with
  | nil => rfl
  | cons ha _ ih =>
      rw [List.mapM_cons, ha, ih]
      rfl

end FirstFails

namespace CommandLine

variable {files : FileView} {r : Request}

/-! ### What can go wrong -/

/-- **What goes wrong in a run.** -/
inductive Trouble where
  /-- There are no settings. -/
  | settings (e : SettingsError)
  /-- A stage fails. -/
  | fault (f : Fault)

/-- **The trouble is of a kind that the program expects**: wrong settings, unless they are nested
too deep to tell; a path that cannot be used; an input that cannot be scanned. -/
inductive Trouble.Expected : Trouble → Prop where
  | settings {e : SettingsError} (h : ∀ f, e ≠ .exhausted f) : Expected (.settings e)
  | unusable (e : FileError) : Expected (.fault (.file (.unusable e)))
  | input (e : Failure) (standIns : Text.StandIns) : Expected (.fault (.input e standIns))

/-- The settings in force: those asked for, with the flags of the request. -/
def InForce (files : FileView) (r : Request) (settings : Settings) : Prop :=
  ∃ chosen journal, requestedSettings files r = .ok (chosen, journal) ∧
    settings = withFlags r chosen

/-- **The inputs are read**: texts as they are given, files one by one. -/
inductive InputsRead (files : FileView) (settings : Settings) (r : Request) :
    List Input → Prop where
  | literal (h : r.literal = true) : InputsRead files settings r (r.sources.map Input.literal)
  | files {inputs : List Input} (h : r.literal = false)
      (hread : List.Forall₂ (fun path i => readInput files settings path = .ok i)
        (files.expand settings.extensions r.sources) inputs) : InputsRead files settings r inputs

/-- **The results of one input**, or why it cannot be scanned. -/
def resultOf (settings : Settings) (i : Input) : Except Fault Json :=
  match Scanner.scan ⟨settings.recover, Tag.readAll⟩ (.ofString i.text.disguised) with
  | .ok _ s => .ok (resultsJson i.name (s.records.map (·.toJson.mapTexts i.text.standIns.restore)))
  | .error e _ => .error (.input e i.text.standIns)

/-- The inputs are scanned, with these results. -/
def InputsScanned (settings : Settings) (inputs : List Input) (results : List Json) : Prop :=
  List.Forall₂ (fun i result => resultOf settings i = .ok result) inputs results

/-- **The first thing that goes wrong in a run.** -/
inductive FirstTrouble (files : FileView) (r : Request) : Trouble → Prop where
  | settings {e : SettingsError} (h : requestedSettings files r = .error e) :
      FirstTrouble files r (.settings e)
  | reading {settings : Settings} {f : FileFault} (hsettings : InForce files r settings)
      (hfiles : r.literal = false)
      (h : FirstFails (readInput files settings) (files.expand settings.extensions r.sources) f) :
      FirstTrouble files r (.fault (.file f))
  | scanning {settings : Settings} {inputs : List Input} {f : Fault}
      (hsettings : InForce files r settings) (hinputs : InputsRead files settings r inputs)
      (h : FirstFails (resultOf settings) inputs f) : FirstTrouble files r (.fault f)
  | layout {settings : Settings} {inputs : List Input} {results : List Json} {f : Fault}
      (hsettings : InForce files r settings) (hinputs : InputsRead files settings r inputs)
      (hresults : InputsScanned settings inputs results) (h : layoutOf settings.indent = .error f) :
      FirstTrouble files r (.fault f)
  | writing {settings : Settings} {inputs : List Input} {results : List Json}
      {layout : Json.Layout} {path : String} {f : FileFault} (hsettings : InForce files r settings)
      (hinputs : InputsRead files settings r inputs)
      (hresults : InputsScanned settings inputs results)
      (hlayout : layoutOf settings.indent = .ok layout) (hout : r.out = some path)
      (hpath : path ≠ "") (h : files.writeFault? path = some f) :
      FirstTrouble files r (.fault (.file f))

/-! ### How a run can end -/

/-- **Where a text is put out**: on the standard output, or in a file if one is named. -/
def delivered (out : Option String) (text : String) : String × Option (String × String) :=
  match out with
  | none | some "" => (text ++ "\n", none)
  | some path => ("", some (path, text ++ "\n"))

/-- **The run is done**: all inputs are read and scanned, and their results are put out as one
text where the request asks for them. -/
inductive Completes (files : FileView) (r : Request) : Outcome → Prop where
  | mk {settings : Settings} {inputs : List Input} {results : List Json} {layout : Json.Layout}
      {o : Outcome} (hsettings : InForce files r settings)
      (hinputs : InputsRead files settings r inputs)
      (hresults : InputsScanned settings inputs results)
      (hlayout : layoutOf settings.indent = .ok layout) (hending : o.ending = .exit 0)
      (houtput : (o.out, o.written) = delivered r.out (Json.write layout (.array results))) :
      Completes files r o

/-- The wording of trouble. -/
def Trouble.message : Trouble → String
  | settings e => e.message
  | fault f => f.message

/-- The wordings of what the trouble consists of. -/
def Trouble.details : Trouble → List Text.LooseString
  | settings e => e.details
  | fault _ => []

/-- **The trouble is reported**: exit status 1, nothing put out, and behind what is shown of the
journal a message that starts with the name of the program, with a line for each thing that the
trouble consists of. -/
def Reported (r : Request) (t : Trouble) (o : Outcome) : Prop :=
  o.ending = .exit 1 ∧ o.out = "" ∧ o.written = none ∧
    ∃ journal : List Event,
      o.err = Text.LooseString.ofString
          (journalText r.verbose journal ++ ("docfront: " ++ t.message ++ "\n")) ++
        .join (t.details.map fun problem => "  - " ++ problem ++ "\n")

/-- **A fault escapes**, and nothing is put out. -/
def Escapes (o : Outcome) : Prop :=
  ∃ f, o.ending = .escaped f ∧ o.out = "" ∧ o.written = none

/-! ### The stages -/

/-- Scanning ends as the results tell, whatever the journal says. -/
theorem scanInput_view (settings : Settings) (i : Input) (journal : List Event) :
    ∃ journal', scanInput settings i journal =
      match resultOf settings i with
      | .ok result => .ok result journal'
      | .error f => .error f journal' := by
  have hnote : note (.scanning i.name) journal = .ok () (journal ++ [.scanning i.name]) := rfl
  rw [scanInput, resultOf, bind_ok hnote]
  cases Scanner.scan ⟨settings.recover, Tag.readAll⟩ (.ofString i.text.disguised) with
  | ok a s => exact ⟨_, rfl⟩
  | error e s => exact ⟨_, rfl⟩

/-- Scanning all inputs ends as the results of all tell. -/
theorem mapM_scanInput_view (settings : Settings) (inputs : List Input) (journal : List Event) :
    ∃ journal', inputs.mapM (scanInput settings) journal =
      match inputs.mapM (resultOf settings) with
      | .ok results => .ok results journal'
      | .error f => .error f journal' := by
  induction inputs generalizing journal with
  | nil => exact ⟨journal, rfl⟩
  | cons i inputs ih =>
      obtain ⟨journal', hi⟩ := scanInput_view settings i journal
      rw [List.mapM_cons, List.mapM_cons]
      cases hresult : resultOf settings i with
      | error f =>
          rw [hresult] at hi
          exact ⟨journal', bind_error hi⟩
      | ok result =>
          rw [hresult] at hi
          obtain ⟨journal'', hmore⟩ := ih journal'
          refine ⟨journal'', ?_⟩
          rw [bind_ok hi]
          cases hresults : inputs.mapM (resultOf settings) with
          | error f =>
              rw [hresults] at hmore
              exact bind_error hmore
          | ok results =>
              rw [hresults] at hmore
              exact bind_ok hmore

section Pipeline

variable {settings : Settings} {inputs : List Input} {results : List Json} {layout : Json.Layout}

theorem pipeline_of_unread {f : FileFault} (h : readInputs files settings r = .error f)
    (journal : List Event) :
    ∃ journal', pipeline files settings r journal = .error (.file f) journal' := by
  rw [pipeline, h]
  exact ⟨journal, rfl⟩

theorem pipeline_of_unscanned {f : Fault} (hinputs : readInputs files settings r = .ok inputs)
    (h : inputs.mapM (resultOf settings) = .error f) (journal : List Event) :
    ∃ journal', pipeline files settings r journal = .error f journal' := by
  obtain ⟨journal', hscan⟩ := mapM_scanInput_view settings inputs journal
  rw [h] at hscan
  rw [pipeline, hinputs]
  simp only [pure_bind]
  exact ⟨journal', bind_error hscan⟩

/-- Once everything is scanned, the results are laid out and delivered. -/
theorem pipeline_of_scanned (hinputs : readInputs files settings r = .ok inputs)
    (h : inputs.mapM (resultOf settings) = .ok results) (journal : List Event) :
    ∃ journal', pipeline files settings r journal =
      match layoutOf settings.indent with
      | .ok layout =>
          deliver files r.out (Json.write layout (.array results)) results.length journal'
      | .error f => .error f journal' := by
  obtain ⟨journal', hscan⟩ := mapM_scanInput_view settings inputs journal
  rw [h] at hscan
  rw [pipeline, hinputs]
  simp only [pure_bind]
  refine ⟨journal', ?_⟩
  rw [bind_ok hscan]
  cases layoutOf settings.indent with
  | ok layout => rfl
  | error f => rfl

end Pipeline

theorem deliver_of_refused {path text : String} {count : Nat} {f : FileFault} (hpath : path ≠ "")
    (h : files.writeFault? path = some f) (journal : List Event) :
    deliver files (some path) text count journal = .error (.file f) journal := by
  rw [deliver.eq_3 _ _ _ _ hpath, h]
  rfl

/-- What can be delivered, is. -/
theorem deliver_of_free {out : Option String}
    (h : ∀ path f, out = some path → path ≠ "" → files.writeFault? path ≠ some f) (text : String)
    (count : Nat) (journal : List Event) :
    ∃ output journal', deliver files out text count journal = .ok output journal' ∧
      (output.out, output.written) = delivered out text := by
  cases out with
  | none => exact ⟨_, journal, rfl, rfl⟩
  | some path =>
      by_cases hpath : path = ""
      · subst hpath
        exact ⟨_, journal, rfl, rfl⟩
      have hfree : files.writeFault? path = none := by
        cases hfault : files.writeFault? path with
        | none => rfl
        | some f => exact absurd hfault (h path f rfl hpath)
      rw [deliver.eq_3 _ _ _ _ hpath, hfree, delivered.eq_3 _ _ hpath]
      exact ⟨_, _, rfl, rfl⟩

section Stages

variable {settings : Settings} {inputs : List Input} {results : List Json} {layout : Json.Layout}

theorem readInputs_of_read (h : InputsRead files settings r inputs) :
    readInputs files settings r = .ok inputs := by
  cases h with
  | literal h => rw [readInputs, if_pos h]
  | files h hread => rw [readInputs, h, if_neg Bool.false_ne_true, mapM_of_forall₂ hread]

theorem readInputs_of_firstFails {f : FileFault} (hfiles : r.literal = false)
    (h : FirstFails (readInput files settings) (files.expand settings.extensions r.sources) f) :
    readInputs files settings r = .error f := by
  rw [readInputs, hfiles, if_neg Bool.false_ne_true, mapM_of_firstFails h]

/-- The inputs are read, or there is a first file that cannot be. -/
theorem inputsRead_cases (files : FileView) (settings : Settings) (r : Request) :
    (∃ inputs, InputsRead files settings r inputs) ∨ ∃ f, r.literal = false ∧
      FirstFails (readInput files settings) (files.expand settings.extensions r.sources) f := by
  cases hliteral : r.literal with
  | true => exact .inl ⟨_, .literal hliteral⟩
  | false =>
      rcases mapM_cases (readInput files settings) (files.expand settings.extensions r.sources) with
        ⟨inputs, -, hinputs⟩ | ⟨f, -, hf⟩
      · exact .inl ⟨inputs, .files hliteral hinputs⟩
      · exact .inr ⟨f, rfl, hf⟩

/-- Results that cannot be laid out end the stages. -/
theorem pipeline_of_no_layout {f : Fault} (hinputs : InputsRead files settings r inputs)
    (hresults : InputsScanned settings inputs results) (h : layoutOf settings.indent = .error f)
    (journal : List Event) : ∃ journal', pipeline files settings r journal = .error f journal' := by
  obtain ⟨journal', hview⟩ :=
    pipeline_of_scanned (readInputs_of_read hinputs) (mapM_of_forall₂ hresults) journal
  rw [h] at hview
  exact ⟨journal', hview⟩

/-- Results that are laid out are put out, where that can be done. -/
theorem pipeline_of_free (hinputs : InputsRead files settings r inputs)
    (hresults : InputsScanned settings inputs results)
    (hlayout : layoutOf settings.indent = .ok layout)
    (hfree : ∀ path f, r.out = some path → path ≠ "" → files.writeFault? path ≠ some f)
    (journal : List Event) :
    ∃ output journal', pipeline files settings r journal = .ok output journal' ∧
      (output.out, output.written) = delivered r.out (Json.write layout (.array results)) := by
  obtain ⟨journal', hview⟩ :=
    pipeline_of_scanned (readInputs_of_read hinputs) (mapM_of_forall₂ hresults) journal
  obtain ⟨output, journal'', hdeliver, houtput⟩ :=
    deliver_of_free hfree (Json.write layout (.array results)) results.length journal'
  rw [hlayout] at hview
  exact ⟨output, journal'', hview.trans hdeliver, houtput⟩

end Stages

/-! ### Whole runs -/

theorem expected_fault_iff {f : Fault} : (Trouble.fault f).Expected ↔ f.isReported = true := by
  constructor
  · rintro (_ | _ | _) <;> rfl
  · intro h
    cases f with
    | file f =>
        cases f with
        | unusable e => exact .unusable e
        | _ => exact absurd h Bool.false_ne_true
    | input e standIns => exact .input e standIns
    | _ => exact absurd h Bool.false_ne_true

/-- A fault in the stages ends the run. -/
theorem runRequest_of_fault {settings : Settings} {f : Fault} (hsettings : InForce files r settings)
    (h : ∀ journal, ∃ journal', pipeline files settings r journal = .error f journal') :
    ((Trouble.fault f).Expected → Reported r (.fault f) (runRequest files r)) ∧
      (¬ (Trouble.fault f).Expected → Escapes (runRequest files r)) := by
  obtain ⟨chosen, journal, hchosen, rfl⟩ := hsettings
  obtain ⟨journal', hfails⟩ := h journal
  simp only [runRequest, hchosen, hfails, expected_fault_iff]
  cases hreported : f.isReported with
  | true =>
      refine ⟨fun _ => ⟨rfl, rfl, rfl, journal', ?_⟩, fun hnot => absurd rfl hnot⟩
      rw [Text.LooseString.ofString_append]
      exact (Text.LooseString.append_empty _).symm
  | false => exact ⟨fun hyes => absurd hyes (by simp), fun _ => ⟨f, rfl, rfl, rfl⟩⟩

/-- Settings that cannot be had end the run. -/
theorem runRequest_of_settingsError {e : SettingsError} (h : requestedSettings files r = .error e) :
    ((Trouble.settings e).Expected → Reported r (.settings e) (runRequest files r)) ∧
      (¬ (Trouble.settings e).Expected → Escapes (runRequest files r)) := by
  simp only [runRequest, h]
  cases e with
  | exhausted f =>
      refine ⟨?_, fun _ => ⟨_, rfl, rfl, rfl⟩⟩
      rintro (h | _ | _)
      exact absurd rfl (h f)
  | _ =>
      refine ⟨fun _ => ⟨rfl, rfl, rfl, [], ?_⟩, fun hnot => absurd (.settings nofun) hnot⟩
      rw [Text.LooseString.ofString_append]
      rfl

/-- **Trouble that is expected is reported, and other trouble escapes.** -/
theorem runRequest_of_firstTrouble {t : Trouble} (h : FirstTrouble files r t) :
    (t.Expected → Reported r t (runRequest files r)) ∧
      (¬ t.Expected → Escapes (runRequest files r)) := by
  cases h with
  | settings h => exact runRequest_of_settingsError h
  | reading hsettings hfiles h =>
      exact runRequest_of_fault hsettings
        (pipeline_of_unread (readInputs_of_firstFails hfiles h))
  | scanning hsettings hinputs h =>
      exact runRequest_of_fault hsettings
        (pipeline_of_unscanned (readInputs_of_read hinputs) (mapM_of_firstFails h))
  | layout hsettings hinputs hresults h =>
      exact runRequest_of_fault hsettings (pipeline_of_no_layout hinputs hresults h)
  | writing hsettings hinputs hresults hlayout hout hpath h =>
      refine runRequest_of_fault hsettings fun journal => ?_
      obtain ⟨journal', hview⟩ := pipeline_of_scanned (readInputs_of_read hinputs)
        (mapM_of_forall₂ hresults) journal
      rw [hlayout, hout] at hview
      exact ⟨journal', hview.trans (deliver_of_refused hpath h journal')⟩

/-- **Without any trouble the run is done.** -/
theorem completes_of_untroubled (h : ∀ t, ¬ FirstTrouble files r t) :
    Completes files r (runRequest files r) := by
  -- Each stage answers, since what it would fail with is the first trouble.
  cases hchosen : requestedSettings files r with
  | error e => exact absurd (.settings hchosen) (h _)
  | ok given =>
      obtain ⟨chosen, journal⟩ := given
      have hsettings : InForce files r (withFlags r chosen) := ⟨chosen, journal, hchosen, rfl⟩
      rcases inputsRead_cases files (withFlags r chosen) r with
        ⟨inputs, hinputs⟩ | ⟨f, hfiles, hf⟩
      case inr => exact absurd (.reading hsettings hfiles hf) (h _)
      rcases mapM_cases (resultOf (withFlags r chosen)) inputs with
        ⟨results, -, hresults⟩ | ⟨f, -, hf⟩
      case inr => exact absurd (.scanning hsettings hinputs hf) (h _)
      cases hlayout : layoutOf (withFlags r chosen).indent with
      | error f => exact absurd (.layout hsettings hinputs hresults hlayout) (h _)
      | ok layout =>
          obtain ⟨output, journal', hdone, houtput⟩ := pipeline_of_free hinputs hresults hlayout
            (fun path f hout hpath hf =>
              h _ (.writing hsettings hinputs hresults hlayout hout hpath hf)) journal
          rw [runRequest, hchosen]
          simp only [hdone]
          exact .mk hsettings hinputs hresults hlayout rfl houtput

/-- **A run reports what it expects to go wrong**, if that is what goes wrong first: by exit
status 1 and a message.  Any other trouble escapes, and nothing is put out then either.  A run that
nothing goes wrong in puts out the results of all its inputs. -/
theorem run_ends {arguments : List String} (h : Request.ofArguments arguments = .ok r) :
    (∀ t, FirstTrouble files r t →
      (t.Expected → Reported r t (run files arguments)) ∧
        (¬ t.Expected → Escapes (run files arguments))) ∧
      ((∀ t, ¬ FirstTrouble files r t) → Completes files r (run files arguments)) := by
  rw [run, h]
  exact ⟨fun t ht => runRequest_of_firstTrouble ht, completes_of_untroubled⟩

/-- The run of a command line that names a file which is not there. -/
theorem run_ends_missing :
    Request.ofArguments ["a.js"] = .ok { sources := ["a.js"] } ∧
      Reported { sources := ["a.js"] } (.fault (.file (.unusable ⟨.missing, "a.js"⟩)))
        (run (Place.top (.directory [])).view ["a.js"]) := by
  have hrequest : Request.ofArguments ["a.js"] = .ok { sources := ["a.js"] } := by
    decide
  have hexpand : (Place.top (.directory [])).view.expand [".js"] ["a.js"] = ["a.js"] := by
    decide
  have hfails : readInput (Place.top (.directory [])).view {} "a.js" =
      .error (.unusable ⟨.missing, "a.js"⟩) := by
    decide
  refine ⟨hrequest, ((run_ends hrequest).1 _ (.reading ⟨{}, [], rfl, rfl⟩ rfl ?_)).1 (.unusable _)⟩
  exact ⟨[], "a.js", [], hexpand, by simp, hfails⟩

/-- Not every run that ends early reports why: a file that is there may hold a byte that is no
text. -/
theorem run_escapes_undecodable :
    ¬ ∀ (files : FileView) (arguments : List String) (r : Request),
      Request.ofArguments arguments = .ok r →
        Completes files r (run files arguments) ∨ ∃ t, Reported r t (run files arguments) := by
  intro h
  have hescapes :
      (run (Place.top (.directory [("a.js", .file [0xff])])).view ["a.js"]).ending =
        .escaped (.file (.undecodable (.undecodable "utf-8" 0xff 0 1 "invalid start byte"))) := by
    decide +kernel
  rcases h (Place.top (.directory [("a.js", .file [0xff])])).view ["a.js"] { sources := ["a.js"] }
      (by decide) with hdone | ⟨t, hreported⟩
  · cases hdone with
    | mk _ _ _ _ hending _ => exact absurd (hending.symm.trans hescapes) (by simp)
  · exact absurd (hreported.1.symm.trans hescapes) (by simp)

end CommandLine

end DocComments
