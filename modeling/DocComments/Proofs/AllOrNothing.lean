import DocComments.Proofs.Places
import DocComments.Proofs.Reporting

/-!
# All or nothing

The stages of a run end in one of three ways (`pipeline_all_or_nothing`).  An input cannot be used:
the first file that cannot be read, or if all can, the first input that cannot be scanned.  All
inputs are scanned, but their results cannot be laid out with the indentation asked for.  Or one
text is put out, which has one entry for each input, in order, and each entry is told by its input
alone.

In the first two ways nothing is printed and every file is as it was, even one that is to be
written.  In the last the path asked for leads to the text afterwards, even if it was the path of an
input.  The journal agrees: it tells of a written file where there is one, and of no other
(`tellsWritten_pipeline`).
-/

namespace DocComments.CommandLine

variable {files : FileView} {settings : Settings} {r : Request}

/-! ### What is left behind -/

/-- **What the stages have put out** when they end: nothing, if they fail. -/
def outputOf : EStateM.Result Fault (List Event) Output → Output
  | .ok output _ => output
  | .error _ _ => ⟨"", none⟩

/-- **Where one is after a text has been put out**: the file is in the tree, if one was written. -/
def placeAfter (here : Place) (output : Output) : Place :=
  match output.written with
  | none => here
  | some (path, text) => (here.write path text.toUTF8.toList).toOption.getD here

/-- **The stages fail**, with nothing printed and all files as they were. -/
structure Fails (f : Fault) (result : EStateM.Result Fault (List Event) Output) : Prop where
  ends : ∃ journal, result = .error f journal
  printed : (outputOf result).out = ""
  files : ∀ here, placeAfter here (outputOf result) = here

theorem Fails.of_error {f : Fault} {result : EStateM.Result Fault (List Event) Output}
    (h : ∃ journal, result = .error f journal) : Fails f result := by
  obtain ⟨journal, rfl⟩ := h
  exact ⟨⟨journal, rfl⟩, rfl, fun here => rfl⟩

/-- **The stages are done**: all inputs are read and scanned, and one text with the result of each,
in order, is put out where it is asked for.  In a tree of files the path asked for leads to the text
then. -/
inductive Done (files : FileView) (settings : Settings) (r : Request) :
    EStateM.Result Fault (List Event) Output → Prop where
  | mk {inputs : List Input} {results : List Json} {layout : Json.Layout} {output : Output}
      {journal : List Event} (hinputs : InputsRead files settings r inputs)
      (hresults : InputsScanned settings inputs results)
      (hlayout : layoutOf settings.indent = .ok layout)
      (houtput :
        (output.out, output.written) = delivered r.out (Json.write layout (.array results)))
      (hfile : ∀ here path, here.Joined → here.view = files → r.out = some path → path ≠ "" →
        (placeAfter here output).look path =
          .ok (.file (Json.write layout (.array results) ++ "\n").toUTF8.toList)) :
      Done files settings r (.ok output journal)

theorem Done.inputs_layout {result : EStateM.Result Fault (List Event) Output}
    (h : Done files settings r result) : ∃ inputs layout,
      InputsRead files settings r inputs ∧ layoutOf settings.indent = .ok layout := by
  cases h with
  | mk hinputs _ hlayout _ _ => exact ⟨_, _, hinputs, hlayout⟩

/-! ### What the journal tells -/

/-- The journal that a stage leaves. -/
def journalOf {α : Type} : EStateM.Result Fault (List Event) α → List Event
  | .ok _ journal => journal
  | .error _ journal => journal

/-- The event is not that a file was written. -/
def Event.WritesNothing (e : Event) : Prop :=
  ∀ count path, e ≠ .wrote count path

/-- **The stage notes no written file**: it adds to the journal, and only other events. -/
def WritesNothing {α : Type} (x : Stage α) : Prop :=
  ∀ journal, ∃ noted : List Event, (∀ e ∈ noted, e.WritesNothing) ∧
    journalOf (x journal) = journal ++ noted

section WritesNothing

variable {α β : Type} {x : Stage α} {f : α → Stage β}

theorem writesNothing_pure (a : α) : WritesNothing (pure a) :=
  fun journal => ⟨[], by simp, (List.append_nil journal).symm⟩

theorem writesNothing_throw (e : Fault) : WritesNothing (throw e : Stage α) :=
  fun journal => ⟨[], by simp, (List.append_nil journal).symm⟩

theorem writesNothing_modify {noted : List Event} (h : ∀ e ∈ noted, e.WritesNothing) :
    WritesNothing (modify (· ++ noted) : Stage Unit) :=
  fun _ => ⟨noted, h, rfl⟩

theorem WritesNothing.bind (hx : WritesNothing x) (hf : ∀ a, WritesNothing (f a)) :
    WritesNothing (x >>= f) := by
  intro journal
  obtain ⟨noted, hnoted, hjournal⟩ := hx journal
  cases hresult : x journal with
  | error e after =>
      rw [hresult] at hjournal
      rw [bind_error hresult]
      exact ⟨noted, hnoted, hjournal⟩
  | ok a after =>
      rw [hresult] at hjournal
      obtain ⟨more, hmore, hafter⟩ := hf a after
      refine ⟨noted ++ more, List.forall_mem_append.2 ⟨hnoted, hmore⟩, ?_⟩
      rw [bind_ok hresult, hafter, ← List.append_assoc, ← hjournal]
      rfl

theorem writesNothing_mapM (hf : ∀ a, WritesNothing (f a)) (items : List α) :
    WritesNothing (items.mapM f) := by
  induction items with
  | nil => exact writesNothing_pure []
  | cons a items ih =>
      rw [List.mapM_cons]
      exact (hf a).bind fun _ => ih.bind fun _ => writesNothing_pure _

end WritesNothing

theorem writesNothing_scanInput (settings : Settings) (i : Input) :
    WritesNothing (scanInput settings i) := by
  have hscans : ∀ (events : List ScanEvent) (standIns : Text.StandIns),
      ∀ e ∈ events.map (Event.scan · standIns), e.WritesNothing := by
    intro events standIns e he count path
    obtain ⟨_, -, rfl⟩ := List.mem_map.1 he
    exact nofun
  have hnote : WritesNothing (note (.scanning i.name)) :=
    writesNothing_modify fun e he count path => by
      obtain rfl := List.mem_singleton.1 he
      exact nofun
  refine hnote.bind fun _ => ?_
  split
  · exact (writesNothing_modify (hscans _ _)).bind fun _ => writesNothing_pure _
  · exact (writesNothing_modify (hscans _ _)).bind fun _ => writesNothing_throw _

/-- The event of a written file, if there is one. -/
def writtenEvents (count : Nat) : Option (String × String) → List Event
  | none => []
  | some (path, _) => [.wrote count path]

/-- The journal tells of a written file where there is one, behind the events noted until then. -/
def TellsWritten (count : Nat) (before : List Event) :
    EStateM.Result Fault (List Event) Output → Prop
  | .ok output after => after = before ++ writtenEvents count output.written
  | .error _ after => after = before

theorem tellsWritten_deliver (files : FileView) (out : Option String) (text : String) (count : Nat)
    (journal : List Event) : TellsWritten count journal (deliver files out text count journal) := by
  unfold deliver
  split
  · exact (List.append_nil journal).symm
  · exact (List.append_nil journal).symm
  · next path _ =>
      cases files.writeFault? path with
      | some f => exact rfl
      | none => exact rfl

/-- Every input has a result. -/
theorem length_of_scanned {inputs : List Input} {results : List Json} {journal after : List Event}
    (h : inputs.mapM (scanInput settings) journal = .ok results after) :
    results.length = inputs.length := by
  obtain ⟨journal', hview⟩ := mapM_scanInput_view settings inputs journal
  rw [h] at hview
  rcases mapM_cases (resultOf settings) inputs with ⟨answers, hanswers, hall⟩ | ⟨f, hf, -⟩
  · rw [hanswers] at hview
    obtain ⟨rfl, -⟩ := EStateM.Result.ok.inj hview
    exact hall.length_eq.symm
  · rw [hf] at hview
    cases hview

/-- **The journal tells what was written.**  Stages that fail have noted no written file; stages
that are done have noted the file that is written, with the number of inputs, behind everything
else, and no other. -/
theorem tellsWritten_pipeline (files : FileView) (settings : Settings) (r : Request)
    (journal : List Event) :
    ∃ noted count, (∀ e ∈ noted, e.WritesNothing) ∧
      (∀ inputs, InputsRead files settings r inputs → count = inputs.length) ∧
      TellsWritten count (journal ++ noted) (pipeline files settings r journal) := by
  cases hinputs : readInputs files settings r with
  | error f =>
      refine ⟨[], 0, by simp, fun inputs hread => ?_, ?_⟩
      · rw [readInputs_of_read hread] at hinputs
        cases hinputs
      · rw [pipeline, hinputs]
        exact (List.append_nil journal).symm
  | ok inputs =>
      obtain ⟨noted, hnoted, hjournal⟩ :=
        writesNothing_mapM (writesNothing_scanInput settings) inputs journal
      refine ⟨noted, inputs.length, hnoted, fun inputs' hread => ?_, ?_⟩
      · rw [readInputs_of_read hread] at hinputs
        exact congrArg List.length (Except.ok.inj hinputs).symm
      rw [← hjournal, pipeline, hinputs]
      simp only [pure_bind]
      cases hscan : inputs.mapM (scanInput settings) journal with
      | error f after =>
          rw [bind_error hscan]
          rfl
      | ok results after =>
          rw [bind_ok hscan, ← length_of_scanned hscan]
          cases layoutOf settings.indent with
          | error f => exact rfl
          | ok layout => exact tellsWritten_deliver ..

/-! ### How the stages end -/

/-- **An input cannot be used**, and this is the first failure: of reading, else of scanning. -/
inductive InputFails (files : FileView) (settings : Settings) (r : Request) : Fault → Prop where
  | reading {f : FileFault} (hfiles : r.literal = false)
      (h : FirstFails (readInput files settings) (files.expand settings.extensions r.sources) f) :
      InputFails files settings r (.file f)
  | scanning {inputs : List Input} {f : Fault} (hinputs : InputsRead files settings r inputs)
      (h : FirstFails (resultOf settings) inputs f) : InputFails files settings r f

/-- **All inputs are scanned, and the results cannot be laid out.** -/
inductive LayoutFails (files : FileView) (settings : Settings) (r : Request) : Fault → Prop where
  | mk {inputs : List Input} {results : List Json} {f : Fault}
      (hinputs : InputsRead files settings r inputs)
      (hresults : InputsScanned settings inputs results) (h : layoutOf settings.indent = .error f) :
      LayoutFails files settings r f

/-- The path of a text that was put out leads to it. -/
theorem look_placeAfter {here : Place} {output : Output} {path text : String}
    (hhere : here.Joined) (hpath : path ≠ "") (hfree : here.view.writeFault? path = none)
    (houtput : (output.out, output.written) = delivered (some path) text) :
    (placeAfter here output).look path = .ok (.file (text ++ "\n").toUTF8.toList) := by
  rw [delivered.eq_3 _ _ hpath] at houtput
  have hwritten : output.written = some (path, text ++ "\n") := (Prod.mk.inj houtput).2
  -- the empty file can be put there, so any can
  have hempty : ∃ here', here.write path [] = .ok here' := by
    rw [FileView.writeFault?] at hfree
    split at hfree
    · cases hfree
    · rw [Place.view] at hfree
      cases hwrite : here.write path [] with
      | ok here' => exact ⟨here', rfl⟩
      | error problem => simp [hwrite] at hfree
  obtain ⟨_, hempty⟩ := hempty
  obtain ⟨_, _, _, htarget⟩ := Place.exists_isTarget hempty
  obtain ⟨here', hwrite, -, -⟩ := htarget.exists_write hhere (text ++ "\n").toUTF8.toList
  rw [placeAfter, hwritten]
  simp only [hwrite]
  exact hhere.look_write hwrite

/-- **The stages do all or nothing.** -/
theorem pipeline_all_or_nothing
    (hout : ∀ path f, r.out = some path → path ≠ "" → files.writeFault? path ≠ some f)
    (journal : List Event) :
    (∃ f, InputFails files settings r f ∧ Fails f (pipeline files settings r journal)) ∨
      (∃ f, LayoutFails files settings r f ∧ Fails f (pipeline files settings r journal)) ∨
      Done files settings r (pipeline files settings r journal) := by
  rcases inputsRead_cases files settings r with ⟨inputs, hinputs⟩ | ⟨f, hfiles, hfirst⟩
  case inr =>
    exact .inl ⟨_, .reading hfiles hfirst,
      .of_error (pipeline_of_unread (readInputs_of_firstFails hfiles hfirst) journal)⟩
  rcases mapM_cases (resultOf settings) inputs with ⟨results, -, hresults⟩ | ⟨f, hf, hfirst⟩
  case inr =>
    exact .inl ⟨f, .scanning hinputs hfirst,
      .of_error (pipeline_of_unscanned (readInputs_of_read hinputs) hf journal)⟩
  cases hlayout : layoutOf settings.indent with
  | error f =>
      exact .inr (.inl ⟨f, .mk hinputs hresults hlayout,
        .of_error (pipeline_of_no_layout hinputs hresults hlayout journal)⟩)
  | ok layout =>
      obtain ⟨output, journal', hdone, houtput⟩ :=
        pipeline_of_free hinputs hresults hlayout hout journal
      rw [hdone]
      refine .inr (.inr (.mk hinputs hresults hlayout houtput ?_))
      intro here path hhere hfiles hpath hne
      subst hfiles
      rw [hpath] at houtput
      have hfree := Option.eq_none_iff_forall_ne_some.2 fun f => hout path f hpath hne
      exact look_placeAfter hhere hne hfree houtput

/-- The last of several files is missing: the file that was to be written, which is read too, is as
it was. -/
theorem pipeline_all_or_nothing_missing :
    let here := Place.top (.directory [("a.js", .file [0x78])])
    let r : Request := { sources := ["a.js", "b.js"], out := some "a.js" }
    (∀ path f, r.out = some path → path ≠ "" → here.view.writeFault? path ≠ some f) ∧
      ∃ f, Fails f (pipeline here.view {} r []) ∧
        (placeAfter here (outputOf (pipeline here.view {} r []))).look "a.js" =
          .ok (.file [0x78]) := by
  intro here r
  have hfree : ∀ path f, r.out = some path → path ≠ "" → here.view.writeFault? path ≠ some f := by
    rintro path f hpath -
    obtain rfl := Option.some.inj hpath
    have hnone : here.view.writeFault? "a.js" = none := by decide
    rw [hnone]
    exact nofun
  have hexpand : here.view.expand ({} : Settings).extensions r.sources = ["a.js", "b.js"] := by
    decide
  have hmissing : readInput here.view {} "b.js" = .error (.unusable ⟨.missing, "b.js"⟩) := by
    decide
  have hunread : ∀ inputs, ¬ InputsRead here.view {} r inputs := by
    rintro inputs (hliteral | ⟨-, hread⟩)
    · cases hliteral
    · rw [hexpand] at hread
      cases hread with
      | cons _ hread =>
          cases hread with
          | cons hb _ => exact absurd (hb.symm.trans hmissing) nofun
  refine ⟨hfree, ?_⟩
  have hfails : ∃ f, Fails f (pipeline here.view {} r []) := by
    rcases pipeline_all_or_nothing hfree [] with ⟨f, -, hf⟩ | ⟨f, -, hf⟩ | hdone
    · exact ⟨f, hf⟩
    · exact ⟨f, hf⟩
    · obtain ⟨inputs, -, hinputs, -⟩ := hdone.inputs_layout
      exact absurd hinputs (hunread inputs)
  obtain ⟨f, hf⟩ := hfails
  refine ⟨f, hf, ?_⟩
  rw [hf.files]
  rfl

/-- Not every failure is one of an input: an indentation can be too large for any text. -/
theorem pipeline_refuses_indentation :
    ¬ ∀ (files : FileView) (settings : Settings) (r : Request) (journal : List Event),
      (∀ path f, r.out = some path → path ≠ "" → files.writeFault? path ≠ some f) →
        (∃ f, InputFails files settings r f ∧ Fails f (pipeline files settings r journal)) ∨
          Done files settings r (pipeline files settings r journal) := by
  intro h
  have hlayout : layoutOf (some 9223372036854775808) = .error .indentation := by decide
  rcases h (Place.top (.directory [])).view { indent := some 9223372036854775808 } {} []
      (fun _ _ hpath => by cases hpath) with ⟨f, hfails, -⟩ | hdone
  · -- there is no input
    cases hfails with
    | reading _ hfirst => exact absurd hfirst.ne_nil (by simp [FileView.expand])
    | scanning hinputs hfirst =>
        cases hinputs with
        | literal hliteral => cases hliteral
        | files _ hread =>
            cases hread
            exact absurd rfl hfirst.ne_nil
  · obtain ⟨-, layout, -, hok⟩ := hdone.inputs_layout
    exact absurd (hlayout.symm.trans hok) nofun

end DocComments.CommandLine
