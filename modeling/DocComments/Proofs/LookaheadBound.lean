import DocComments.Proofs.ReadingNear
import DocComments.Proofs.StrictScanning

/-!
# How far a rule looks ahead

The longest pattern of the grammars has seven tokens, and no rule ever has more of them read ahead
(`TokenSource.lookahead_within_seven`).  That is so at every moment of every call on a source, the
rules of the three grammars and whole scans, whatever was called before and whatever failed: what
one call has read ahead and not taken is left to the next.

`TokenSource.ReadsNear` says it of one call, for its beginning, for its end and for each step of the
lexer that it makes in between.
-/

namespace DocComments

open TokenSource

/-! ### Calls -/

/-- **The rules of the three grammars**, their answers left aside. -/
def Rule.grammarRules : List (Rule Unit) :=
  [discard literal, discard array, discard object,
    discard classDefinition, discard classConfig, discard configField, discard extendField,
    discard mixinsField, discard (namesField "alternateClassName" "alternateClassNames"),
    discard (namesField "alias" "alias"), discard otherField,
    discard codeBlock, discard function, discard parameters, discard variableDeclaration,
    discard assignment, discard chain, discard property, discard continuedProperty,
    discard stringDeclaration, discard expression, discard extension, discard literalExpression]

/-- **A call on a token source.** -/
inductive TokenSource.Call where
  /-- A rule of the grammars. -/
  | grammar (rule : Rule Unit) (isRule : rule ∈ Rule.grammarRules)
  /-- A scan, which goes on behind some records and events. -/
  | scan (mode : ScanMode) (records : List Record) (events : List ScanEvent)

namespace Rule

/-! ### Literals -/

section Literals

variable {inner : Rule (Option Literal)}

theorem looksNear_arrayWith (h : LooksNear inner) : LooksNear (arrayWith inner) := by
  refine (looksNear_expect (by decide)).bind fun opening => ?_
  refine (looksNear_separated ?_).bind fun items => ?_
  · exact h.bind_option (looksWithin_pure _) fun item => looksWithin_pure _
  · refine (looksNear_accept (by decide)).bind fun closing => ?_
    split <;> exact looksWithin_pure _

theorem looksNear_memberWith (h : LooksNear inner) : LooksNear (memberWith inner) := by
  refine (looksNear_lookAny (by decide)).bind fun starts => ?_
  split
  · refine looksNear_next.bind fun key => ?_
    refine (looksNear_expect (by decide)).bind fun _ => ?_
    exact h.bind_option (looksWithin_pure _) fun value => looksWithin_pure _
  · exact looksWithin_pure _

theorem looksNear_objectWith (h : LooksNear inner) : LooksNear (objectWith inner) := by
  refine (looksNear_expect (by decide)).bind fun opening => ?_
  have hmembers := looksNear_separated (looksNear_memberWith h)
  refine hmembers.bind_option (looksWithin_pure none) fun members => ?_
  exact (looksNear_accept (by decide)).bind_option (looksWithin_pure none)
    fun _ => looksWithin_pure _

theorem looksNear_literalWith (h : LooksNear inner) : LooksNear (literalWith inner) := by
  refine (looksNear_peek (by decide)).bind fun first => ?_
  split
  · exact (looksNear_next.bind fun t => looksWithin_pure _).map some
  · split
    · exact looksNear_arrayWith h
    · split
      · exact looksNear_objectWith h
      · exact looksWithin_pure none

theorem looksNear_literalWithin (depth : Nat) : LooksNear (literalWithin depth) := by
  induction depth with
  | zero => exact looksWithin_pure none
  | succ depth ih => exact looksNear_literalWith ih

theorem looksNear_literal : LooksNear literal :=
  looksNear_size_bind fun n => looksNear_literalWithin (n + 1)

end Literals

/-! ### Class definitions -/

theorem looksNear_extendField : LooksNear extendField :=
  (looksNear_expect (by decide)).bind fun _ => looksWithin_pure _

theorem looksNear_mixinsField : LooksNear mixinsField :=
  (looksNear_expect (by decide)).bind fun _ =>
    looksNear_literal.bind_option (looksWithin_pure none) fun _ => looksWithin_pure _

theorem looksNear_namesField (word key : String) : LooksNear (namesField word key) := by
  have htwo : [TokenTest.text word, ":"].length ≤ 7 := by simp
  exact (looksNear_expect htwo).bind fun _ => looksNear_literal.bind fun _ => looksWithin_pure _

theorem looksNear_otherField : LooksNear otherField :=
  (looksNear_expect (by decide)).bind fun _ => (looksNear_expect (by decide)).bind fun _ =>
    looksNear_literal.bind_option (looksWithin_pure none) fun _ => looksWithin_pure _

theorem looksNear_configField : LooksNear configField := by
  refine looksNear_ite_look (by decide) (looksNear_extendField.map some) ?_
  refine looksNear_ite_look (by decide) looksNear_mixinsField ?_
  refine looksNear_ite_look (by decide) ((looksNear_namesField _ _).map some) ?_
  refine looksNear_ite_look (by decide) ((looksNear_namesField _ _).map some) ?_
  exact looksNear_ite_look (by decide) looksNear_otherField (looksWithin_pure none)

theorem looksNear_classConfig : LooksNear classConfig := by
  refine (looksNear_expect (by decide)).bind fun _ => looksNear_many ?_
  exact looksNear_configField.bind_option (looksWithin_pure none) fun field =>
    (looksNear_accept (by decide)).bind fun _ => looksWithin_pure _

theorem looksNear_classDefinition : LooksNear classDefinition := by
  -- what follows the head of the call, whichever of the two it is
  have hcall : LooksNear (do
      let name ← expect ["(", TokenKind.string]
      let fields ←
        if ← look [",", "\x7b"] then do
          let _ ← expectOne ","
          classConfig
        else if ← look [","] then pure []
        else do
          let _ ← expectOne ")"
          pure []
      pure (Summary.classDefinition name.text (OrderedMap.ofEntries fields))) := by
    refine (looksNear_expect (by decide)).bind fun name => ?_
    refine (looksNear_look (by decide)).bind fun configured => ?_
    refine (looksNear_look (by decide)).bind fun continued => ?_
    split
    · exact (looksNear_expect (by decide)).bind fun _ =>
        looksNear_classConfig.bind fun _ => looksWithin_pure _
    · split
      · exact looksWithin_pure _
      · exact (looksNear_expect (by decide)).bind fun _ => looksWithin_pure _
  refine (looksNear_expect (by decide)).bind fun _ => ?_
  exact looksNear_ite_look (by decide) ((looksNear_expect (by decide)).bind fun _ => hcall)
    ((looksNear_expect (by decide)).bind fun _ => hcall)

/-! ### Code blocks -/

theorem looksNear_parameters : LooksNear parameters := by
  have hclose : ∀ names : List String, LooksNear (do let _ ← expectOne ")"; pure names) :=
    fun names => (looksNear_expect (by decide)).bind fun _ => looksWithin_pure names
  refine (looksNear_expect (by decide)).bind fun _ => ?_
  refine (looksNear_accept (by decide)).bind_option (hclose []) fun first => ?_
  exact (looksNear_many (looksNear_accept (by decide))).bind fun more => hclose _

theorem looksNear_function : LooksNear function :=
  (looksNear_expect (by decide)).bind fun _ => (looksNear_accept (by decide)).bind fun _ =>
    looksNear_parameters.bind fun _ => (looksNear_expect (by decide)).bind fun _ =>
      looksWithin_pure _

theorem looksNear_chain : LooksNear chain := by
  have hnames : ∀ test : TokenTest, LooksNear (do
      let first ← expectOne test
      let more ← many (accept [".", TokenKind.ident])
      pure (first.text :: more.map (·.text))) := by
    intro test
    have hone : [test].length ≤ 7 := by simp
    refine (looksNear_expect hone).bind fun first => ?_
    exact (looksNear_many (looksNear_accept (by decide))).bind fun more => looksWithin_pure _
  exact looksNear_ite_look (by decide) (hnames _) (hnames _)

theorem looksNear_extension : LooksNear extension :=
  (looksNear_expect (by decide)).bind fun _ => looksNear_chain.map _

theorem looksNear_literalExpression : LooksNear literalExpression :=
  looksNear_literal.bind fun _ => looksWithin_pure _

theorem looksNear_expression : LooksNear expression :=
  looksNear_ite_look (by decide) (looksNear_function.map some)
    (looksNear_ite_look (by decide) (looksNear_extension.map some) looksNear_literalExpression)

theorem looksNear_assignment : LooksNear assignment :=
  looksNear_chain.bind fun _ => (looksNear_accept (by decide)).bind_option
    (looksWithin_pure _) fun _ => looksNear_expression.map _

theorem looksNear_variableDeclaration : LooksNear variableDeclaration :=
  (looksNear_expect (by decide)).bind fun _ => looksNear_assignment

theorem looksNear_property : LooksNear property :=
  looksNear_next.bind fun _ => (looksNear_expect (by decide)).bind fun _ =>
    looksNear_expression.map _

theorem looksNear_continuedProperty : LooksNear continuedProperty :=
  (looksNear_expect (by decide)).bind fun _ => looksNear_property

theorem looksNear_stringDeclaration : LooksNear stringDeclaration :=
  (looksNear_expect (by decide)).bind fun _ => looksWithin_pure _

theorem looksNear_of_mem_alternatives :
    ∀ alternative ∈ alternatives, (∀ pattern ∈ alternative.1, pattern.length ≤ 7) ∧
      LooksNear alternative.2 := by
  simp only [alternatives, List.forall_mem_cons]
  exact ⟨⟨by decide, looksNear_function⟩, ⟨by decide, looksNear_variableDeclaration⟩,
    ⟨by decide, looksNear_classDefinition⟩, ⟨by decide, looksNear_property⟩,
    ⟨by decide, looksNear_continuedProperty⟩, ⟨by decide, looksNear_assignment⟩,
    ⟨by decide, looksNear_stringDeclaration⟩, by simp⟩

theorem looksNear_firstAlternative {rules : List (List (List TokenTest) × Rule Summary)}
    (h : ∀ alternative ∈ rules, (∀ pattern ∈ alternative.1, pattern.length ≤ 7) ∧
      LooksNear alternative.2) : LooksNear (firstAlternative rules) := by
  induction rules with
  | nil => exact looksWithin_pure _
  | cons alternative rules ih =>
      obtain ⟨⟨hpatterns, hrule⟩, hothers⟩ := List.forall_mem_cons.1 h
      refine (looksNear_lookAny hpatterns).bind fun starts => ?_
      split
      · exact hrule
      · exact ih hothers

theorem looksNear_codeBlock : LooksNear codeBlock :=
  looksNear_firstAlternative looksNear_of_mem_alternatives

end Rule

/-! ### Scans -/

namespace Scanner

variable {α : Type}

/-- **The step of a scan never has more than seven tokens read ahead**, if it starts with no
more. -/
abbrev LooksNear (step : Step α) : Prop :=
  LooksWithin 7 Scanner.source step

theorem looksNear_lift {rule : Rule α} (h : rule.LooksNear) : LooksNear (lift rule) := by
  intro s hs
  obtain ⟨hends, hsame⟩ := h s.source hs
  constructor
  · cases hrun : rule s.source with
    | ok a u =>
        rw [hrun] at hends
        rw [lift_ok hrun]
        cases hends with
        | answer hahead hpending htaken => exact .answer hahead hpending htaken
    | error f u =>
        rw [hrun] at hends
        rw [lift_error hrun]
        cases hends with
        | mismatch hahead hpending htaken => exact .mismatch hahead hpending htaken
        | unterminated hahead hpending htaken => exact .unterminated hahead hpending htaken
  · intro step later e s' hbreaks
    have hruns := hsame step later e s'.source hbreaks
    unfold lift
    generalize rule s.source = result at hruns
    generalize rule s'.source = result' at hruns
    cases hruns with
    | answer h => exact .answer h
    | failure h => exact .failure h
    | stopped hahead hpending hbehind =>
        refine .stopped hahead hpending ?_
        cases result with
        | ok a u => exact hbehind
        | error f u => exact hbehind

theorem looksNear_report (event : ScanEvent) : LooksNear (report event) :=
  looksWithin_modify fun _ => rfl

theorem looksNear_summarise (mode : ScanMode) : LooksNear (summarise mode) := by
  refine (looksNear_lift Rule.looksNear_codeBlock).tryCatch (fun m => ?_) fun e => ?_
  · split
    · exact (looksNear_report _).bind fun _ => looksWithin_pure _
    · exact looksWithin_throw m
  · rfl

theorem looksNear_round (mode : ScanMode) : LooksNear (round mode) := by
  have hlook : Rule.LooksNear (Rule.look [TokenKind.docComment]) :=
    Rule.looksNear_look (by decide)
  have hrecord : ∀ record : Record, LooksNear
      (modify fun s : Scanner => { s with records := s.records ++ [record] }) :=
    fun _ => looksWithin_modify fun _ => rfl
  refine (looksNear_lift Rule.looksNear_atEnd).bind fun ended => ?_
  split
  · exact looksWithin_pure false
  · refine (looksNear_lift hlook).bind fun commented => ?_
    split
    · refine (looksNear_lift Rule.looksNear_next).bind fun comment => ?_
      refine (looksNear_report _).bind fun _ => (looksNear_summarise mode).bind fun code => ?_
      exact (hrecord _).bind fun _ => looksWithin_pure true
    · exact (looksNear_lift Rule.looksNear_next).bind fun _ => looksWithin_pure true

theorem looksNear_scanUpTo (mode : ScanMode) (rounds : Nat) : LooksNear (scanUpTo mode rounds) := by
  induction rounds with
  | zero => exact looksWithin_pure ()
  | succ rounds ih =>
      refine (looksNear_round mode).bind fun more => ?_
      split
      · exact ih
      · exact looksWithin_pure ()

/-- A broken step counts for the bound on the rounds. -/
theorem looksNear_scan (mode : ScanMode) : LooksNear (scan mode) := by
  intro s hs
  obtain ⟨hends, hsame⟩ := looksNear_scanUpTo mode (s.source.size + 1) s hs
  refine ⟨hends, fun step later e s' hbreaks => ?_⟩
  change SameUntil 7 _ step later e (scanUpTo mode (s.source.size + 1) s)
    (scanUpTo mode (s'.source.size + 1) s')
  rw [hbreaks.size_eq]
  exact hsame step later e s' hbreaks

/-- **A scan as a rule**, which goes on behind some records and events. -/
def scanning (mode : ScanMode) (records : List Record) (events : List ScanEvent) : Rule Unit :=
  fun u =>
    match scan mode ⟨u, records, events⟩ with
    | .ok _ s => .ok () s.source
    | .error f s => .error f s.source

theorem looksNear_scanning (mode : ScanMode) (records : List Record) (events : List ScanEvent) :
    Rule.LooksNear (scanning mode records events) := by
  intro u hu
  obtain ⟨hends, hsame⟩ := looksNear_scan mode ⟨u, records, events⟩ hu
  unfold scanning
  constructor
  · generalize scan mode ⟨u, records, events⟩ = result at hends
    cases hends with
    | answer hahead hpending htaken => exact .answer hahead hpending htaken
    | mismatch hahead hpending htaken => exact .mismatch hahead hpending htaken
    | unterminated hahead hpending htaken => exact .unterminated hahead hpending htaken
  · intro step later e u' hbreaks
    have hruns := hsame step later e ⟨u', records, events⟩ hbreaks
    generalize scan mode ⟨u, records, events⟩ = result at hruns
    generalize scan mode ⟨u', records, events⟩ = result' at hruns
    cases hruns with
    | answer h => exact .answer h
    | failure h => exact .failure h
    | stopped hahead hpending hbehind =>
        refine .stopped hahead hpending ?_
        cases result with
        | ok a s => exact hbehind
        | error f s => exact hbehind

end Scanner

/-! ### Calls one after another -/

theorem Rule.looksNear_of_mem_grammarRules : ∀ rule ∈ grammarRules, LooksNear rule := by
  have hdiscard : ∀ {α : Type} {r : Rule α}, LooksNear r → LooksNear (discard r) :=
    fun h => h.map fun _ => ()
  have harray : LooksNear array := looksNear_arrayWith looksNear_literal
  have hobject : LooksNear object := looksNear_objectWith looksNear_literal
  simp only [grammarRules, List.forall_mem_cons]
  exact ⟨hdiscard looksNear_literal, hdiscard harray, hdiscard hobject,
    hdiscard looksNear_classDefinition, hdiscard looksNear_classConfig,
    hdiscard looksNear_configField, hdiscard looksNear_extendField,
    hdiscard looksNear_mixinsField, hdiscard (looksNear_namesField _ _),
    hdiscard (looksNear_namesField _ _), hdiscard looksNear_otherField,
    hdiscard looksNear_codeBlock, hdiscard looksNear_function, hdiscard looksNear_parameters,
    hdiscard looksNear_variableDeclaration, hdiscard looksNear_assignment,
    hdiscard looksNear_chain, hdiscard looksNear_property, hdiscard looksNear_continuedProperty,
    hdiscard looksNear_stringDeclaration, hdiscard looksNear_expression,
    hdiscard looksNear_extension, hdiscard looksNear_literalExpression, by simp⟩

namespace TokenSource

/-- A call as a rule. -/
def Call.perform : Call → Rule Unit
  | grammar rule _ => rule
  | scan mode records events => Scanner.scanning mode records events

theorem Call.looksNear (call : Call) : Rule.LooksNear call.perform := by
  cases call with
  | grammar rule isRule => exact Rule.looksNear_of_mem_grammarRules rule isRule
  | scan mode records events => exact Scanner.looksNear_scanning mode records events

/-- **The source after a sequence of calls.**  Where one fails, the sequence goes on. -/
def afterCalls : List Call → TokenSource → TokenSource
  | [], s => s
  | call :: more, s => afterCalls more (after call.perform s)

/-- **A rule has no more than seven tokens read ahead at any moment** of its run from `s`. -/
structure ReadsNear (r : Rule Unit) (s : TokenSource) : Prop where
  /-- No more are read ahead when it begins. -/
  before : s.ahead.length ≤ 7
  /-- No more are read ahead when it ends. -/
  behind : (after r s).ahead.length ≤ 7
  /-- Each step of the lexer that it makes is made with less than seven tokens read ahead, those
  before the step that have not been taken: with these it stops if the step is broken. -/
  steps : ∀ sooner step later, s.pending = sooner ++ step :: later →
    (after r s).pending.length ≤ later.length → ∀ e, ∃ (s' : TokenSource) (taken : List Token),
      r { s with pending := sooner ++ { step with result := .error e } :: later } =
          .error (.unterminated e) s' ∧
        s'.pending = later ∧
        s.ahead.map .ok ++ sooner.map (·.result) = (taken ++ s'.ahead).map .ok ∧
        s'.ahead.length < 7
  /-- A construct left open is reported with less than seven tokens between those taken and the
  place where it opens. -/
  reports : ∀ e s', r s = .error (.unterminated e) s' → s'.ahead.length < 7 ∧
    ∃ taken : List Token,
      s.upcoming = (taken ++ s'.ahead).map .ok ++ .error e :: s'.pending.map (·.result)

theorem readsNear_of_looksNear {r : Rule Unit} (h : r.LooksNear) {s : TokenSource}
    (hs : s.ahead.length ≤ 7) : ReadsNear r s where
  before := hs
  behind := ((h s hs).1).ahead
  steps := by
    intro sooner step later hpending hmade e
    let broken : TokenSource :=
      { s with pending := sooner ++ { step with result := .error e } :: later }
    have hbreaks : Breaks step later e s broken := ⟨sooner, hpending, rfl⟩
    have hruns := (h s hs).2 step later e broken hbreaks
    have hends := (h broken hs).1
    unfold after at hmade
    change ∃ s' taken, r broken = .error (.unterminated e) s' ∧ _
    generalize r s = result at hmade hruns
    generalize r broken = result' at hends hruns
    cases hruns with
    | answer hleft => exact absurd hleft.length_lt (Nat.not_lt.2 hmade)
    | failure hleft => exact absurd hleft.length_lt (Nat.not_lt.2 hmade)
    | @stopped _ s' hahead hlater =>
        cases hends with
        | unterminated _ _ htaken =>
            obtain ⟨taken, htaken⟩ := htaken
            refine ⟨s', taken, rfl, hlater, ?_, hahead⟩
            -- the same is behind the broken step on both sides
            rw [hlater] at htaken
            have hsplit : (s.ahead.map .ok ++ sooner.map (·.result)) ++
                .error e :: later.map (·.result) = broken.upcoming := by
              simp [broken, upcoming]
            exact List.append_cancel_right (hsplit.trans htaken)
  reports := by
    intro e s' hrun
    have hends := (h s hs).1
    rw [hrun] at hends
    cases hends with
    | unterminated hahead _ htaken => exact ⟨hahead, htaken⟩

theorem length_ahead_afterCalls (calls : List Call) {s : TokenSource} (hs : s.ahead.length ≤ 7) :
    (afterCalls calls s).ahead.length ≤ 7 := by
  induction calls generalizing s with
  | nil => exact hs
  | cons call more ih => exact ih (readsNear_of_looksNear call.looksNear hs).behind

/-- **Lookahead stays within seven tokens**: at no moment of any call are more read ahead, whatever
was called before on the source and whatever failed. -/
theorem lookahead_within_seven (source : String) (calls : List Call) (call : Call) :
    ReadsNear call.perform (afterCalls calls (ofString source)) := by
  have hempty : (ofString source).ahead.length ≤ 7 := Nat.zero_le 7
  exact readsNear_of_looksNear call.looksNear (length_ahead_afterCalls calls hempty)

/-- Seven are read ahead where the longest pattern fits. -/
example :
    let pattern : List TokenTest :=
      ["Ext", ".", "ClassManager", ".", "create", "(", TokenKind.string]
    (after (Rule.look pattern) (ofString "Ext.ClassManager.create('A')")).ahead.length = 7 := by
  decide +kernel

end TokenSource

end DocComments
