import DocComments.CodeBlock.Grammar
import DocComments.Proofs.LiteralAgreement

/-!
# Code blocks on a source that is cut off

The grammars of class definitions and of code blocks, rule by rule, in the calculus of
`Rule.Agree`.  The outcome is `Rule.local_codeBlock`: the code behind a doc-comment is summed
up as if the source ended at the next doc-comment, whatever follows, and no part of the rule
takes that comment.

Most rules insist on tokens or look for them, and are local because their parts are.  Two are
not, on their own: a property takes its key without looking at it, and so is local only where a
token is left, which the pattern that leads to it promises (`Rule.agree_property`); and the
fields of a configuration are repeated, so each has to be shown to take a token
(`Rule.agree_configField`).
-/

namespace DocComments.Rule

open TokenSource

variable {α : Type} {tail : Upcoming} {tokens : List Token}

/-! ### Class definitions -/

/-- A rule that first insists on a pattern takes a token. -/
theorem agree_expect_bind {pattern : List TokenTest} {nonempty : pattern ≠ []}
    {f : Token → Rule α} (hstops : Upcoming.Stops tail) (hinner : IsInnerPattern pattern)
    (hf : ∀ t, Local tail (f t)) :
    Agree tail tokens (expect pattern nonempty >>= f) (expect pattern nonempty >>= f)
      (fun _ rest => rest.length < tokens.length) fun _ _ => True := by
  refine Agree.bind (P := fun _ rest => rest.length < tokens.length)
    (agree_expect hstops hinner (fun hfit => ?_) fun _ => trivial) fun t rest _ hlt => ?_
  · have hlen := TokenTest.length_le_of_fitAll hfit
    have hpos := List.length_pos_iff.2 nonempty
    rw [List.length_drop]
    omega
  · exact (hf t rest).weaken (fun _ _ hsuffix _ => Nat.lt_of_le_of_lt hsuffix.length_le hlt)
      fun _ _ _ _ => trivial

theorem advances_expect_bind {pattern : List TokenTest} {nonempty : pattern ≠ []}
    {f : Token → Rule (Option α)} (hstops : Upcoming.Stops tail)
    (hinner : IsInnerPattern pattern) (hf : ∀ t, Local tail (f t)) :
    Advances tail (expect pattern nonempty >>= f) :=
  fun _ => (agree_expect_bind hstops hinner hf).weaken (fun _ _ _ hlt _ => hlt)
    fun _ _ _ _ => trivial

/-- A field that is always there, of a rule that first insists on a pattern. -/
theorem advances_some_expect_bind {pattern : List TokenTest} {nonempty : pattern ≠ []}
    {f : Token → Rule α} (hstops : Upcoming.Stops tail) (hinner : IsInnerPattern pattern)
    (hf : ∀ t, Local tail (f t)) : Advances tail (some <$> (expect pattern nonempty >>= f)) :=
  fun _ => Agree.map ((agree_expect_bind hstops hinner hf).weaken (fun _ _ _ hlt _ => hlt)
    fun _ _ _ _ => trivial)

theorem advances_ite_look {pattern : List TokenTest} {r r' : Rule (Option α)}
    (hstops : Upcoming.Stops tail) (hinner : IsInnerPattern pattern) (hr : Advances tail r)
    (hr' : Advances tail r') : Advances tail (do if ← look pattern then r else r') := by
  intro tokens
  refine Agree.bind (P := fun _ rest => rest = tokens) (agree_look hstops hinner rfl) ?_
  rintro b rest - rfl
  cases b with
  | false => exact hr' rest
  | true => exact hr rest

theorem local_ite_look {pattern : List TokenTest} {r r' : Rule α} (hstops : Upcoming.Stops tail)
    (hinner : IsInnerPattern pattern) (hr : Local tail r) (hr' : Local tail r') :
    Local tail (do if ← look pattern then r else r') := by
  refine (local_look hstops hinner).bind fun b => ?_
  cases b with
  | false => exact hr'
  | true => exact hr

theorem advances_mixinsField (hstops : Upcoming.Stops tail) : Advances tail mixinsField := by
  refine advances_expect_bind hstops (by decide) fun _ => ?_
  refine (local_literal hstops).bind fun found => ?_
  cases found with
  | none => exact local_pure _
  | some l => exact local_pure _

theorem advances_otherField (hstops : Upcoming.Stops tail) : Advances tail otherField := by
  refine advances_expect_bind hstops (by decide) fun _ => ?_
  refine (local_expect hstops (by decide)).bind fun _ => ?_
  refine (local_literal hstops).bind fun found => ?_
  cases found with
  | none => exact local_pure _
  | some l => exact local_pure _

theorem advances_namesField (hstops : Upcoming.Stops tail) (word key : String) :
    Advances tail (some <$> namesField word key) := by
  refine advances_some_expect_bind hstops ?_ fun _ => (local_literal hstops).bind fun _ =>
    local_pure _
  intro test htest
  rcases List.mem_pair.1 htest with rfl | rfl
  · exact ⟨by simp, by simp⟩
  · decide

/-- **Every field that is found has taken a token.** -/
theorem advances_configField (hstops : Upcoming.Stops tail) : Advances tail configField := by
  refine advances_ite_look hstops (by decide) ?_ ?_
  · exact advances_some_expect_bind hstops (by decide) fun _ => local_pure _
  refine advances_ite_look hstops (by decide) (advances_mixinsField hstops) ?_
  refine advances_ite_look hstops (by decide) (advances_namesField hstops _ _) ?_
  refine advances_ite_look hstops (by decide) (advances_namesField hstops _ _) ?_
  refine advances_ite_look hstops (by decide) (advances_otherField hstops) ?_
  exact fun tokens => agree_pure fun h => absurd h (by simp)

/-- Something that was found has taken a token, whatever is taken behind it. -/
theorem Advances.bind {β : Type} {r : Rule (Option α)} {f : Option α → Rule (Option β)}
    (hr : Advances tail r) (hnone : f none = pure none) (hsome : ∀ a, Local tail (f (some a))) :
    Advances tail (r >>= f) := by
  refine fun tokens => (hr tokens).bind fun found rest _ hlt => ?_
  cases found with
  | none =>
      rw [hnone]
      exact agree_pure fun h => absurd h (by simp)
  | some a =>
      exact (hsome a rest).weaken_answer fun _ _ hsuffix _ _ =>
        Nat.lt_of_le_of_lt hsuffix.length_le (hlt rfl)

theorem local_classConfig (hstops : Upcoming.Stops tail) : Local tail classConfig := by
  refine (local_expect hstops (by decide)).bind fun _ => Advances.local_many ?_
  refine (advances_configField hstops).bind rfl fun field => ?_
  exact (local_accept hstops (by decide)).bind fun _ => local_pure _

theorem local_classDefinition (hstops : Upcoming.Stops tail) : Local tail classDefinition := by
  -- what follows the head of the call, whichever of the two it is
  have hcall : Local tail (do
      let name ← expect ["(", TokenKind.string]
      let fields ←
        if ← look [",", "\x7b"] then do
          let _ ← expectOne ","
          classConfig
        else if ← look [","] then pure []
        else do
          let _ ← expectOne ")"
          pure []
      pure (Summary.classDefinition name.text (OrderedMap.ofEntries fields))) := by
    refine (local_expect hstops (by decide)).bind fun name => ?_
    refine (local_look hstops (by decide)).bind fun isConfig => ?_
    refine (local_look hstops (by decide)).bind fun isComma => ?_
    cases isConfig with
    | true =>
        exact (local_expect hstops (by decide)).bind fun _ =>
          (local_classConfig hstops).bind fun _ => local_pure _
    | false =>
        cases isComma with
        | true => exact local_pure _
        | false => exact (local_expect hstops (by decide)).bind fun _ => local_pure _
  refine (local_expect hstops (by decide)).bind fun _ => ?_
  refine local_ite_look hstops (by decide) ?_ ?_
  · exact (local_expect hstops (by decide)).bind fun _ => hcall
  · exact (local_expect hstops (by decide)).bind fun _ => hcall

/-! ### Functions, chains and expressions -/

theorem local_parameters (hstops : Upcoming.Stops tail) : Local tail parameters := by
  refine (local_expect hstops (by decide)).bind fun _ => ?_
  refine (local_accept hstops (by decide)).bind fun first => ?_
  have hclose : ∀ names : List String,
      Local tail (do let _ ← expectOne ")"; pure names) :=
    fun names => (local_expect hstops (by decide)).bind fun _ => local_pure names
  cases first with
  | none => exact hclose []
  | some first =>
      exact (local_many_accept hstops (by decide)).bind fun more => hclose _

theorem local_function (hstops : Upcoming.Stops tail) : Local tail function := by
  refine (local_expect hstops (by decide)).bind fun _ => ?_
  refine (local_accept hstops (by decide)).bind fun name => ?_
  refine (local_parameters hstops).bind fun names => ?_
  exact (local_expect hstops (by decide)).bind fun _ => local_pure _

theorem local_chain (hstops : Upcoming.Stops tail) : Local tail chain := by
  have hmore : ∀ first : Token, Local tail (do
      let more ← many (accept [".", TokenKind.ident])
      pure (first.text :: more.map (·.text))) :=
    fun first => (local_many_accept hstops (by decide)).bind fun _ => local_pure _
  refine local_ite_look hstops (by decide) ?_ ?_
  · exact (local_expect hstops (by decide)).bind hmore
  · exact (local_expect hstops (by decide)).bind hmore

theorem local_extension (hstops : Upcoming.Stops tail) : Local tail extension :=
  (local_expect hstops (by decide)).bind fun _ => (local_chain hstops).map _

theorem local_expression (hstops : Upcoming.Stops tail) : Local tail expression := by
  refine local_ite_look hstops (by decide) ((local_function hstops).map _) ?_
  refine local_ite_look hstops (by decide) ((local_extension hstops).map _) ?_
  exact (local_literal hstops).bind fun _ => local_pure _

/-! ### The alternatives -/

theorem local_assignment (hstops : Upcoming.Stops tail) : Local tail assignment := by
  refine (local_chain hstops).bind fun left => ?_
  refine (local_accept hstops (by decide)).bind fun equals => ?_
  cases equals with
  | none => exact local_pure _
  | some _ => exact (local_expression hstops).map _

/-- A property is read alike wherever there is a token for its key. -/
theorem agree_property (hstops : Upcoming.Stops tail) (htokens : tokens ≠ []) :
    Agree tail tokens property property (fun _ _ => True) fun _ _ => True := by
  obtain ⟨key, more, rfl⟩ := List.exists_cons_of_ne_nil htokens
  refine Agree.bind (P := fun _ _ => True) (agree_next hstops trivial) fun t rest _ _ => ?_
  have hvalue : Local tail (do
      let _ ← expectOne ":"
      Summary.assignment [t.text] <$> expression) :=
    (local_expect hstops (by decide)).bind fun _ => (local_expression hstops).map _
  exact hvalue rest

theorem agree_continuedProperty (hstops : Upcoming.Stops tail) (htokens : 1 < tokens.length) :
    Agree tail tokens continuedProperty continuedProperty (fun _ _ => True) fun _ _ => True := by
  refine Agree.bind (P := fun _ rest => rest ≠ [])
    (agree_expect hstops (by decide) (fun _ => ?_) fun _ => trivial) fun _ rest _ hrest => ?_
  · rw [← List.length_pos_iff, List.length_drop]
    exact Nat.sub_pos_of_lt htokens
  · exact agree_property hstops hrest

/-- **Every alternative is local behind the patterns that open it.** -/
theorem agree_of_mem_alternatives (hstops : Upcoming.Stops tail)
    {patterns : List (List TokenTest)} {rule : Rule Summary}
    (hmem : (patterns, rule) ∈ alternatives)
    (hfit : patterns.any (TokenTest.fitAll · tokens) = true) :
    Agree tail tokens rule rule (fun _ _ => True) fun _ _ => True := by
  obtain ⟨pattern, hpattern, hfit⟩ := List.any_eq_true.1 hfit
  have hlen := TokenTest.length_le_of_fitAll hfit
  simp only [alternatives, List.mem_cons, List.not_mem_nil, or_false, Prod.mk.injEq] at hmem
  obtain ⟨-, rfl⟩ | ⟨-, rfl⟩ | ⟨-, rfl⟩ | ⟨rfl, rfl⟩ | ⟨rfl, rfl⟩ | ⟨-, rfl⟩ | ⟨-, rfl⟩ := hmem
  · exact local_function hstops tokens
  · exact (local_expect hstops (by decide)).bind (fun _ => local_assignment hstops) tokens
  · exact local_classDefinition hstops tokens
  · -- a property may start at any token at all, so its patterns must show that there is one
    refine agree_property hstops (List.length_pos_iff.1 (Nat.lt_of_lt_of_le ?_ hlen))
    rcases List.mem_pair.1 hpattern with rfl | rfl <;> simp
  · refine agree_continuedProperty hstops (Nat.lt_of_lt_of_le ?_ hlen)
    rcases List.mem_pair.1 hpattern with rfl | rfl <;> simp
  · exact local_assignment hstops tokens
  · exact (local_expect hstops (by decide)).bind (fun _ => local_pure _) tokens

/-- The patterns of the alternatives ask for nothing at which rules stop. -/
theorem isInnerPattern_of_mem_alternatives :
    ∀ choice ∈ alternatives, ∀ pattern ∈ choice.1, IsInnerPattern pattern := by
  intro choice hmem
  simp only [alternatives, List.mem_cons, List.not_mem_nil, or_false] at hmem
  rcases hmem with rfl | rfl | rfl | rfl | rfl | rfl | rfl <;> decide

/-- The first alternative that fits the tokens. -/
def chosen? (tokens : List Token) (choices : List (List (List TokenTest) × Rule Summary)) :
    Option (List (List TokenTest) × Rule Summary) :=
  choices.find? fun choice => choice.1.any (TokenTest.fitAll · tokens)

theorem chosen?_spec {tokens : List Token} {choices : List (List (List TokenTest) × Rule Summary)}
    {choice : List (List TokenTest) × Rule Summary} (h : chosen? tokens choices = some choice) :
    choice ∈ choices ∧ choice.1.any (TokenTest.fitAll · tokens) = true := by
  refine ⟨List.mem_of_find?_eq_some h, ?_⟩
  have hfit := List.find?_some h
  exact hfit

/-- **The alternative that is chosen is the one that is taken.** -/
theorem agree_firstAlternative {Q : Summary → List Token → Prop}
    {E : List TokenTest → List Token → Prop} (hstops : Upcoming.Stops tail)
    (choices : List (List (List TokenTest) × Rule Summary))
    (hinner : ∀ choice ∈ choices, ∀ pattern ∈ choice.1, IsInnerPattern pattern)
    (hrules : ∀ patterns rule, chosen? tokens choices = some (patterns, rule) →
      Agree tail tokens rule rule Q E)
    (hnone : chosen? tokens choices = none → Q .unrecognised tokens) :
    Agree tail tokens (firstAlternative choices) (firstAlternative choices) Q E := by
  unfold chosen? at hrules hnone
  induction choices with
  | nil => exact agree_pure (hnone rfl)
  | cons choice choices ih =>
      obtain ⟨patterns, rule⟩ := choice
      refine Agree.bind
        (P := fun b rest => b = patterns.any (TokenTest.fitAll · tokens) ∧ rest = tokens)
        (agree_lookAny patterns hstops (hinner _ List.mem_cons_self) ⟨rfl, rfl⟩) ?_
      rintro b rest - ⟨hb, rfl⟩
      rw [List.find?_cons] at hrules hnone
      cases b with
      | true =>
          rw [← hb] at hrules
          exact hrules patterns rule rfl
      | false =>
          rw [← hb] at hrules hnone
          exact ih (fun choice hmem => hinner choice (List.mem_cons_of_mem _ hmem)) hrules hnone

/-- **A code block ends at the next doc-comment**: what it is summed up as, or that it is
malformed, does not depend on anything from there on. -/
theorem local_codeBlock (hstops : Upcoming.Stops tail) : Local tail codeBlock := fun _ =>
  agree_firstAlternative hstops alternatives isInnerPattern_of_mem_alternatives
    (fun _ _ hchosen => agree_of_mem_alternatives hstops (chosen?_spec hchosen).1
      (chosen?_spec hchosen).2) fun _ => trivial

end DocComments.Rule
