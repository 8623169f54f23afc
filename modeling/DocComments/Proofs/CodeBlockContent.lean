import DocComments.CodeBlock.Grammar
import DocComments.Proofs.SameContent
import DocComments.Proofs.Unplaced

/-!
# Code blocks on tokens with the same contents

The grammars of literals, of class definitions and of code blocks, rule by rule, in the calculus
of `Alike`.  Places enter in two ways only: a literal keeps the line on which it starts, and a
mismatch keeps the token at which it arose.  The first is forgotten by `Literal.bare` and by
`Summary.bare`, the second by `Mismatch.content`, and `Rule.alike_codeBlock` says that nothing
else of a code block depends on them.
-/

namespace DocComments.Rule

open TokenSource

/-! ### Literals -/

/-- A literal that may be absent, without its lines. -/
abbrev bareLiteral : Option Literal → Option Literal :=
  Option.map Literal.bare

section Inside

variable {inner : Rule (Option Literal)}

theorem alike_scalar (kind : ScalarKind) : IgnoresPlaces Literal.bare (scalar kind) := by
  apply alike_next.bind
  intro t t' ht
  apply alike_pure
  rw [Literal.bare, Literal.bare, Token.text_eq_of_content ht]

theorem alike_arrayWith (h : IgnoresPlaces bareLiteral inner) :
    IgnoresPlaces bareLiteral (arrayWith inner) := by
  apply (alike_expect _).bind
  intro opening opening' _
  refine Alike.bind (alike_separated (e := Literal.bare) ?_) fun items items' hitems => ?_
  · exact h.bind_option (alike_pure rfl) fun item item' hitem =>
      alike_pure (congrArg Part.found hitem)
  refine (alike_accept _).bind fun closing closing' hclosing => ?_
  -- an array is found where there are items and a closing bracket, which both sides agree on
  match items, items', hitems, closing, closing', hclosing with
  | none, none, _, _, _, _ => exact alike_pure rfl
  | some _, some _, _, none, none, _ => exact alike_pure rfl
  | some items, some items', hitems, some _, some _, _ =>
      have hitems : items.map Literal.bare = items'.map Literal.bare := Option.some.inj hitems
      apply alike_pure
      simp only [Option.map_some, Literal.bare, Literal.bareItems_eq, hitems]

theorem alike_memberWith (h : IgnoresPlaces bareLiteral inner) :
    IgnoresPlaces (Part.map (Prod.map Literal.bare Literal.bare)) (memberWith inner) := by
  refine (alike_lookAny _).bind_id fun starts => ?_
  cases starts with
  | false => exact alike_pure rfl
  | true =>
      apply alike_next.bind
      intro key key' hkey
      refine (alike_expect _).bind fun _ _ _ => ?_
      refine h.bind_option (alike_pure rfl) fun value value' hvalue => alike_pure ?_
      have hkind := Token.kind_eq_of_content hkey
      have htext := Token.text_eq_of_content hkey
      simp only [Part.map, Prod.map, Literal.bare, hkind, htext, hvalue]

theorem alike_objectWith (h : IgnoresPlaces bareLiteral inner) :
    IgnoresPlaces bareLiteral (objectWith inner) := by
  apply (alike_expect _).bind
  intro opening opening' _
  apply (alike_separated (alike_memberWith h)).bind_option
  · exact alike_pure rfl
  · intro members members' hmembers
    refine (alike_accept _).bind_option (alike_pure rfl) fun _ _ _ => alike_pure ?_
    simp only [Option.map_some, Literal.bare, Literal.bareMembers_eq, hmembers]

theorem alike_literalWith (h : IgnoresPlaces bareLiteral inner) :
    IgnoresPlaces bareLiteral (literalWith inner) := by
  apply (alike_peek 0).bind
  intro first first' hfirst
  have hkind : first'.kind.scalarKind? = first.kind.scalarKind? := by
    rw [Token.kind_eq_of_content hfirst]
  rw [hkind, ← TokenTest.fits_eq_of_content "[" hfirst,
    ← TokenTest.fits_eq_of_content "\x7b" hfirst]
  cases first.kind.scalarKind? with
  | some kind => exact (alike_scalar kind).map fun _ _ h => congrArg some h
  | none =>
      simp only
      split
      · exact alike_arrayWith h
      split
      · exact alike_objectWith h
      · exact alike_pure rfl

end Inside

theorem alike_literalWithin (depth : Nat) : IgnoresPlaces bareLiteral (literalWithin depth) := by
  induction depth with
  | zero => exact alike_pure rfl
  | succ depth ih => exact alike_literalWith ih

/-- **Literals differ in their lines only.** -/
theorem alike_literal : IgnoresPlaces bareLiteral literal :=
  alike_size_bind fun n => alike_literalWithin (n + 1)

/-! ### Class definitions -/

/-- A field of a configuration without the lines of its literals. -/
abbrev bareField : String × Value → String × Value :=
  Prod.map id Value.bare

theorem alike_extendField : IgnoresPlaces bareField extendField := by
  apply (alike_expect _).bind
  intro name name' hname
  apply alike_pure
  rw [Token.text_eq_of_content hname]

theorem alike_mixinsField : IgnoresPlaces (Option.map bareField) mixinsField := by
  refine (alike_expect _).bind fun _ _ _ => ?_
  apply alike_literal.bind_option
  · exact alike_pure rfl
  · intro l l' hl
    apply alike_pure
    simp only [Option.map_some, Prod.map, Value.bare, Value.bareItems_eq, map_bare_memberContents,
      hl]

theorem alike_namesField (word key : String) : IgnoresPlaces bareField (namesField word key) := by
  refine (alike_expect _).bind fun _ _ _ => ?_
  apply alike_literal.bind
  intro l l' hl
  apply alike_pure
  simp only [Prod.map, Value.bare, Value.bareItems_eq, map_bare_namesOfLiteral]
  rw [show l.map Literal.bare = l'.map Literal.bare from hl]

theorem alike_otherField : IgnoresPlaces (Option.map bareField) otherField := by
  apply (alike_expect _).bind
  intro key key' hkey
  refine (alike_expect _).bind fun _ _ _ => ?_
  apply alike_literal.bind_option
  · exact alike_pure rfl
  · intro l l' hl
    apply alike_pure
    simp only [Option.map_some, Prod.map, Value.bare, hl, Token.text_eq_of_content hkey]

theorem alike_configField : IgnoresPlaces (Option.map bareField) configField := by
  have hsome : ∀ {r : Rule (String × Value)}, IgnoresPlaces bareField r →
      IgnoresPlaces (Option.map bareField) (some <$> r) :=
    fun h => h.map fun _ _ hfield => congrArg some hfield
  apply alike_ite_look (hsome alike_extendField)
  apply alike_ite_look alike_mixinsField
  apply alike_ite_look (hsome (alike_namesField _ _))
  apply alike_ite_look (hsome (alike_namesField _ _))
  apply alike_ite_look alike_otherField
  exact alike_pure rfl

theorem alike_classConfig : IgnoresPlaces (List.map bareField) classConfig := by
  refine (alike_expect _).bind fun _ _ _ => ?_
  apply alike_many
  apply alike_configField.bind_option
  · exact alike_pure rfl
  · intro field field' hfield
    refine (alike_accept _).bind fun _ _ _ => alike_pure ?_
    rw [Option.map_some, Option.map_some, hfield]

theorem alike_classDefinition : IgnoresPlaces Summary.bare classDefinition := by
  -- what follows the head of the call, whichever of the two it is
  have hcall : IgnoresPlaces Summary.bare (do
      let name ← expect ["(", TokenKind.string]
      let fields ←
        if ← look [",", "\x7b"] then do
          let _ ← expectOne ","
          classConfig
        else if ← look [","] then pure []
        else do
          let _ ← expectOne ")"
          pure []
      pure (Summary.classDefinition name.text (OrderedMap.ofEntries fields))) := by
    apply (alike_expect _).bind
    intro name name' hname
    rw [Token.text_eq_of_content hname]
    refine (alike_look _).bind_id fun isConfig => ?_
    refine (alike_look _).bind_id fun isComma => ?_
    cases isConfig with
    | true =>
        refine (alike_expect _).bind fun _ _ _ => ?_
        apply alike_classConfig.bind
        intro fields fields' hfields
        apply alike_pure
        rw [Summary.bare_classDefinition, Summary.bare_classDefinition, hfields]
    | false =>
        cases isComma with
        | true => exact alike_pure rfl
        | false => exact (alike_expect _).bind fun _ _ _ => alike_pure rfl
  refine (alike_expect _).bind fun _ _ _ => ?_
  apply alike_ite_look
  · exact (alike_expect _).bind fun _ _ _ => hcall
  · exact (alike_expect _).bind fun _ _ _ => hcall

/-! ### Functions, chains and expressions -/

/-- The texts of tokens are part of their contents. -/
theorem texts_eq_of_contents {tokens tokens' : List Token}
    (h : tokens.map Token.content = tokens'.map Token.content) :
    tokens.map (·.text) = tokens'.map (·.text) := by
  have htexts := congrArg (List.map fun c : TokenKind × List Char => String.ofList c.2) h
  simpa [Function.comp_def, Token.content] using htexts

theorem alike_parameters : IgnoresPlaces id parameters := by
  refine (alike_expect _).bind fun _ _ _ => ?_
  have hclose : ∀ names : List String, IgnoresPlaces id (do let _ ← expectOne ")"; pure names) :=
    fun names => (alike_expect _).bind fun _ _ _ => alike_pure rfl
  apply (alike_accept _).bind_option
  · exact hclose []
  · intro first first' hfirst
    apply (alike_many (alike_accept _)).bind
    intro more more' hmore
    rw [Token.text_eq_of_content hfirst, texts_eq_of_contents hmore]
    exact hclose _

theorem alike_function : IgnoresPlaces Summary.bare function := by
  have hopen : ∀ name : Option String, IgnoresPlaces Summary.bare
      (do let names ← parameters; let _ ← expectOne "\x7b"; pure (.function name names)) :=
    fun name => alike_parameters.bind_id fun names =>
      (alike_expect _).bind fun _ _ _ => alike_pure rfl
  refine (alike_expect _).bind fun _ _ _ => ?_
  apply (alike_accept _).bind_option
  · exact hopen none
  · intro name name' hname
    rw [Option.map_some, Option.map_some, Token.text_eq_of_content hname]
    exact hopen (some name'.text)

theorem alike_chain : IgnoresPlaces id chain := by
  have hnames : ∀ test : TokenTest, IgnoresPlaces id (do
      let first ← expectOne test
      let more ← many (accept [".", TokenKind.ident])
      pure (first.text :: more.map (·.text))) := by
    intro test
    apply (alike_expect _).bind
    intro first first' hfirst
    apply (alike_many (alike_accept _)).bind
    intro more more' hmore
    rw [Token.text_eq_of_content hfirst, texts_eq_of_contents hmore]
    exact alike_pure rfl
  exact alike_ite_look (hnames _) (hnames _)

theorem alike_extension : IgnoresPlaces Summary.bare extension := by
  refine (alike_expect _).bind fun _ _ _ => ?_
  apply alike_chain.map
  rintro base _ rfl
  rfl

theorem alike_literalExpression : IgnoresPlaces (Option.map Summary.bare) literalExpression := by
  apply alike_literal.bind
  intro l l' hl
  apply alike_pure
  have hsummary : ∀ found : Option Literal,
      (found.map Summary.literal).map Summary.bare = (bareLiteral found).map Summary.literal := by
    intro found
    cases found with
    | none => rfl
    | some l => exact congrArg some (Summary.bare_literal l)
  rw [hsummary, hsummary, hl]

theorem alike_expression : IgnoresPlaces (Option.map Summary.bare) expression := by
  apply alike_ite_look
  · exact alike_function.map fun _ _ h => congrArg some h
  apply alike_ite_look
  · exact alike_extension.map fun _ _ h => congrArg some h
  · exact alike_literalExpression

/-! ### The alternatives -/

/-- A target with the value that comes next. -/
theorem alike_assignment_expression (left : List String) :
    IgnoresPlaces Summary.bare (Summary.assignment left <$> expression) := by
  apply alike_expression.map
  intro value value' hvalue
  rw [Summary.bare_assignment, Summary.bare_assignment, hvalue]

theorem alike_assignment : IgnoresPlaces Summary.bare assignment := by
  refine alike_chain.bind_id fun left => ?_
  apply (alike_accept _).bind_option
  · exact alike_pure rfl
  · intro _ _ _
    exact alike_assignment_expression left

theorem alike_property : IgnoresPlaces Summary.bare property := by
  apply alike_next.bind
  intro key key' hkey
  refine (alike_expect _).bind fun _ _ _ => ?_
  rw [Token.text_eq_of_content hkey]
  exact alike_assignment_expression [key'.text]

/-- **Every alternative differs in places only.** -/
theorem alike_of_mem_alternatives {patterns : List (List TokenTest)} {rule : Rule Summary}
    (hmem : (patterns, rule) ∈ alternatives) : IgnoresPlaces Summary.bare rule := by
  simp only [alternatives, List.mem_cons, List.not_mem_nil, or_false, Prod.mk.injEq] at hmem
  obtain ⟨-, rfl⟩ | ⟨-, rfl⟩ | ⟨-, rfl⟩ | ⟨-, rfl⟩ | ⟨-, rfl⟩ | ⟨-, rfl⟩ | ⟨-, rfl⟩ := hmem
  · exact alike_function
  · exact (alike_expect _).bind fun _ _ _ => alike_assignment
  · exact alike_classDefinition
  · exact alike_property
  · exact (alike_expect _).bind fun _ _ _ => alike_property
  · exact alike_assignment
  · apply (alike_expect _).bind
    intro t t' ht
    rw [Token.text_eq_of_content ht]
    exact alike_pure rfl

theorem alike_firstAlternative (choices : List (List (List TokenTest) × Rule Summary))
    (h : ∀ choice ∈ choices, IgnoresPlaces Summary.bare choice.2) :
    IgnoresPlaces Summary.bare (firstAlternative choices) := by
  induction choices with
  | nil => exact alike_pure rfl
  | cons choice choices ih =>
      refine (alike_lookAny choice.1).bind_id fun fits => ?_
      cases fits with
      | true => exact h choice List.mem_cons_self
      | false => exact ih fun choice hmem => h choice (List.mem_cons_of_mem _ hmem)

/-- **Code blocks differ in places only**: in the lines of literals where they are found, and in
the token of the mismatch where they are malformed. -/
theorem alike_codeBlock : IgnoresPlaces Summary.bare codeBlock :=
  alike_firstAlternative alternatives fun _ hmem => alike_of_mem_alternatives hmem

end DocComments.Rule
