import DocComments.ClassDefinition
import DocComments.Proofs.ClassConfiguration
import Mathlib.Data.List.Infix

/-!
# A class builder is used once

Any calls are made on one builder, one after the other, also behind those that are refused
(`ClassBuilder.run`).  What comes of them is told by the first call that builds
(`ClassBuilder.Lifetime`): up to there fields are collected, that call answers the summary of the
fold of the fields (`foldedFields`), and all calls behind it are refused and leave the builder as it
is (`ClassBuilder.run_of_built`).
-/

namespace DocComments

namespace ClassBuilder

/-- **A call on a builder.** -/
inductive Call where
  /-- A field gets a value. -/
  | set (key : String) (value : Value)
  /-- The summary is asked for. -/
  | build (name : String)

/-- What a call answers: the summary if it was asked for, or that it comes too late. -/
abbrev Answer := Except AlreadyBuilt (Option Summary)

/-- **Makes a call**, which answers and leaves a builder.  A call that is refused leaves the builder
as it was. -/
def call (b : ClassBuilder) : Call → Answer × ClassBuilder
  | .set key value =>
      match b.set key value with
      | .ok b' => (.ok none, b')
      | .error e => (.error e, b)
  | .build name =>
      match b.build name with
      | .ok (summary, b') => (.ok (some summary), b')
      | .error e => (.error e, b)

/-- **Makes several calls**: what each answers, and which builder it leaves. -/
def run (b : ClassBuilder) : List Call → List (Answer × ClassBuilder)
  | [] => []
  | c :: more => b.call c :: (b.call c).2.run more

/-- The calls that give some fields their values. -/
def sets (entries : List (String × Value)) : List Call :=
  entries.map fun e => .set e.1 e.2

/-- What comes of these calls: after each, the map of the entries so far. -/
def collecting (entries : List (String × Value)) : List (Answer × ClassBuilder) :=
  entries.inits.tail.map fun sofar => (.ok none, ⟨.ofEntries sofar, false⟩)

/-- **What comes of the calls on a new builder**, up to the first that builds, with it, and behind
it. -/
inductive Lifetime : List Call → List (Answer × ClassBuilder) → Prop
  | collects (entries : List (String × Value)) : Lifetime (sets entries) (collecting entries)
  | builds (entries : List (String × Value)) (name : String) (later : List Call) :
      Lifetime (sets entries ++ .build name :: later)
        (collecting entries ++
          (.ok (some ⟨.classDefinition, ("name", .text name) :: foldedFields entries⟩),
            ⟨.ofEntries entries, true⟩) ::
          later.map fun _ => (.error ⟨⟩, ⟨.ofEntries entries, true⟩))

section Calls

variable (fields : OrderedMap String Value)

theorem call_set (key : String) (value : Value) :
    call ⟨fields, false⟩ (.set key value) =
      (.ok none, ⟨OrderedMap.insert key value fields, false⟩) := rfl

theorem call_build (name : String) :
    call ⟨fields, false⟩ (.build name) =
      (.ok (some (.classDefinition name fields)), ⟨fields, true⟩) := rfl

/-- **A builder that has built refuses every call** and stays as it is. -/
theorem call_of_built (c : Call) : call ⟨fields, true⟩ c = (.error ⟨⟩, ⟨fields, true⟩) := by
  cases c <;> rfl

theorem run_of_built (later : List Call) :
    run ⟨fields, true⟩ later = later.map fun _ => (.error ⟨⟩, ⟨fields, true⟩) := by
  induction later with
  | nil => rfl
  | cons c later ih => rw [run, call_of_built, ih, List.map_cons]

end Calls

/-- **Fields are put in one after the other**, behind those that are there. -/
theorem run_sets (before entries : List (String × Value)) (rest : List Call) :
    run ⟨.ofEntries before, false⟩ (sets entries ++ rest) =
      (entries.inits.tail.map fun sofar => (.ok none, ⟨.ofEntries (before ++ sofar), false⟩)) ++
        run ⟨.ofEntries (before ++ entries), false⟩ rest := by
  induction entries generalizing before with
  | nil => simp [sets]
  | cons e entries ih =>
      have hinits : entries.inits = [] :: entries.inits.tail := by cases entries <;> rfl
      have hstep : OrderedMap.insert e.1 e.2 (.ofEntries before) =
          OrderedMap.ofEntries (before ++ [e]) := (OrderedMap.ofEntries_concat before e).symm
      rw [sets, List.map_cons, List.cons_append, run, call_set, hstep, ← sets, ih, List.inits_cons,
        List.tail_cons, hinits, List.map_cons, List.map_cons, List.map_map, List.cons_append]
      simp [List.append_assoc, Function.comp_def]

/-- Any calls begin with fields, up to the first that builds. -/
theorem exists_sets (calls : List Call) :
    (∃ entries, calls = sets entries) ∨
      ∃ entries name later, calls = sets entries ++ .build name :: later := by
  induction calls with
  | nil => exact .inl ⟨[], rfl⟩
  | cons c calls ih =>
      cases c with
      | build name => exact .inr ⟨[], name, calls, rfl⟩
      | set key value =>
          rcases ih with ⟨entries, rfl⟩ | ⟨entries, name, later, rfl⟩
          · exact .inl ⟨(key, value) :: entries, rfl⟩
          · exact .inr ⟨(key, value) :: entries, name, later, rfl⟩

/-- **A builder is used once.**  Whatever calls are made on a new builder, those before the first
that builds are all granted; that one answers the definition of the class that it names, with the
fold of the fields behind the name; and all others are refused, and change nothing. -/
theorem lifetime_run (calls : List Call) : Lifetime calls (empty.run calls) := by
  have hsets : ∀ entries rest, empty.run (sets entries ++ rest) =
      collecting entries ++ run ⟨.ofEntries entries, false⟩ rest := fun entries rest =>
    run_sets [] entries rest
  rcases exists_sets calls with ⟨entries, rfl⟩ | ⟨entries, name, later, rfl⟩
  · have hrun := hsets entries []
    rw [List.append_nil, run, List.append_nil] at hrun
    rw [hrun]
    exact .collects entries
  · rw [hsets, run, call_build, classDefinition_summary, run_of_built]
    exact .builds entries name later

/-- A field that is set twice, a reserved one, and calls that come too late. -/
example (v w : Value) :
    (empty.run [.set "x" v, .set "type" v, .set "y" v, .set "x" w, .build "A", .build "B",
      .set "z" v]).map (·.1) =
        [.ok none, .ok none, .ok none, .ok none,
          .ok (some ⟨.classDefinition, [("name", .text "A"), ("x", w), ("y", v)]⟩), .error ⟨⟩,
          .error ⟨⟩] := rfl

/-! ### The builder and the grammar -/

/-- **A class definition is what a builder answers** that has got the fields of the configuration,
in the order in which they were read, and is then asked for the class of that name. -/
theorem answer_of_classDefinition {s s' : TokenSource} {summary : Summary}
    (h : Rule.classDefinition s = .ok summary s') :
    ∃ name fields u, Rule.definitionHead s = .ok name u ∧
      Rule.definitionConfig u = .ok fields s' ∧
      (empty.run (sets fields ++ [.build name.text])).getLast?.map Prod.fst =
        some (.ok (some summary)) := by
  rw [Rule.classDefinition_eq] at h
  obtain ⟨name, u, hname, h⟩ := exists_of_bind_ok h
  obtain ⟨fields, v, hfields, h⟩ := exists_of_bind_ok h
  obtain ⟨rfl, rfl⟩ := EStateM.Result.ok.inj h
  refine ⟨name, fields, u, hname, hfields, ?_⟩
  rw [show empty = ⟨.ofEntries [], false⟩ from rfl, run_sets, List.nil_append, run, call_build, run,
    List.getLast?_concat]
  rfl

end ClassBuilder

end DocComments
