import DocComments.Proofs.ClassConfiguration
import DocComments.Proofs.CodeBlockSentence

/-!
# Where a code block breaks off

The beginnings of a code block that nothing can complete.  `Block.BreaksOff fitted missing rest`
says that the tokens `fitted` are the beginning, that one token is insisted on behind them, and
that `rest` does not start with it.  There are seven places of this sort: behind the head of a
function, in front of its parameters, of the parenthesis that closes them and of its body; in front
of a chain that has to be there, behind `var` and behind a call that extends a class; and behind
the name of a class that is defined.

In front of such tokens the rule for code blocks takes `fitted` and breaks off there
(`Rule.breaksOff_codeBlock`).  What was taken up to there is known from the rules for the parts, so
each place takes one step more: the token that is missing.
-/

namespace DocComments

/-! ### Beginnings without an end -/

/-- The patterns with which a chain starts. -/
def chainStarts : List (List TokenTest) :=
  [[TokenKind.ident], ["this"]]

/-- The pattern that goes on with a list of names. -/
def commaLink : List TokenTest :=
  [",", TokenKind.ident]

/-- The pattern that goes on with the parameters of a function. -/
def parameterLink : List String → List TokenTest
  | [] => [TokenKind.ident]
  | _ :: _ => commaLink

/-- **The head of a function breaks off**: in front of its parameters, at their end or in front of
the body. -/
inductive FunctionHead.BreaksOff : List Token → TokenTest → List Token → Prop where
  | opening {name : Option String} {word : Token} {given rest : List Token}
      (hword : word.IsWord "function") (hname : NameGiven name given)
      (hends : name = none → TokenTest.fitAll [TokenKind.ident] rest = false)
      (hmiss : TokenTest.fitAll ["("] rest = false) :
      BreaksOff (word :: given) "(" rest
  | closing {name : Option String} {params : List String} {word opening : Token}
      {given listed rest : List Token} (hword : word.IsWord "function")
      (hname : NameGiven name given) (hopen : opening.IsPunct "(")
      (hparams : NamesListed params listed)
      (hends : TokenTest.fitAll (parameterLink params) rest = false)
      (hmiss : TokenTest.fitAll [")"] rest = false) :
      BreaksOff (word :: (given ++ opening :: listed)) ")" rest
  | brace {name : Option String} {params : List String} {word opening closing : Token}
      {given listed rest : List Token} (hword : word.IsWord "function")
      (hname : NameGiven name given) (hopen : opening.IsPunct "(")
      (hparams : NamesListed params listed) (hclose : closing.IsPunct ")")
      (hmiss : TokenTest.fitAll ["\x7b"] rest = false) :
      BreaksOff (word :: (given ++ opening :: (listed ++ [closing]))) "\x7b" rest

/-- **An expression breaks off**: at a function, or in front of the class that is extended. -/
inductive Expression.BreaksOff : List Token → TokenTest → List Token → Prop where
  | function {fitted rest : List Token} {missing : TokenTest}
      (h : FunctionHead.BreaksOff fitted missing rest) : BreaksOff fitted missing rest
  | extension {ext point extend opening : Token} {rest : List Token} (hext : ext.IsName "Ext")
      (hpoint : point.IsPunct ".") (hextend : extend.IsName "extend") (hopen : opening.IsPunct "(")
      (hmiss : NoneFits chainStarts rest) :
      BreaksOff [ext, point, extend, opening] TokenKind.ident rest

/-- **An assignment breaks off** at the value behind its equals sign. -/
inductive Block.AssignmentBreaksOff : List Token → TokenTest → List Token → Prop where
  | value {target : Chain} {equals : Token} {left fitted rest : List Token} {missing : TokenTest}
      (htarget : target.Spelled left) (hequals : equals.IsPunct "=")
      (hvalue : Expression.BreaksOff fitted missing rest) :
      AssignmentBreaksOff (left ++ equals :: fitted) missing rest

/-- **A property breaks off** at the value behind its colon. -/
inductive Block.PropertyBreaksOff : List Token → TokenTest → List Token → Prop where
  | value {key : String} {keyToken colon : Token} {fitted rest : List Token} {missing : TokenTest}
      (hkey : keyToken.IsKey key) (hcolon : colon.IsPunct ":")
      (hvalue : Expression.BreaksOff fitted missing rest) :
      PropertyBreaksOff (keyToken :: colon :: fitted) missing rest

/-- **A code block breaks off** behind `fitted`, where a token that passes `missing` is insisted on
and `rest` starts with none. -/
inductive Block.BreaksOff : List Token → TokenTest → List Token → Prop where
  | function {fitted rest : List Token} {missing : TokenTest}
      (h : FunctionHead.BreaksOff fitted missing rest) : BreaksOff fitted missing rest
  | declaration {word : Token} {rest : List Token} (hword : word.IsWord "var")
      (hmiss : NoneFits chainStarts rest) : BreaksOff [word] TokenKind.ident rest
  | declared {word : Token} {fitted rest : List Token} {missing : TokenTest}
      (hword : word.IsWord "var") (h : AssignmentBreaksOff fitted missing rest) :
      BreaksOff (word :: fitted) missing rest
  | assignment {fitted rest : List Token} {missing : TokenTest}
      (h : AssignmentBreaksOff fitted missing rest) : BreaksOff fitted missing rest
  | property {fitted rest : List Token} {missing : TokenTest}
      (h : PropertyBreaksOff fitted missing rest) : BreaksOff fitted missing rest
  | continued {comma : Token} {fitted rest : List Token} {missing : TokenTest}
      (hcomma : comma.IsPunct ",") (h : PropertyBreaksOff fitted missing rest) :
      BreaksOff (comma :: fitted) missing rest
  | definition {name : Token} {head rest : List Token} (hhead : DefinitionHead name head)
      (hmiss : NoneFits [[","], [")"]] rest) : BreaksOff head ")" rest

/-- What breaks off of a function has its first word. -/
theorem FunctionHead.BreaksOff.exists_word {fitted rest : List Token} {missing : TokenTest}
    (h : FunctionHead.BreaksOff fitted missing rest) :
    ∃ word more, fitted = word :: more ∧ word.IsWord "function" := by
  cases h with
  | opening hword => exact ⟨_, _, rfl, hword⟩
  | closing hword => exact ⟨_, _, rfl, hword⟩
  | brace hword => exact ⟨_, _, rfl, hword⟩

namespace Rule

open TokenSource

variable {tokens fitted rest : List Token} {missing : TokenTest} {w : Upcoming}

/-! ### Functions, chains and expressions -/

theorem breaksOff_missing (hinner : missing.IsInner)
    (hmiss : TokenTest.fitAll [missing] rest = false) :
    BreaksOff (rest.map .ok) (expectOne missing) missing (rest.map .ok) :=
  breaksOff_expectOne hinner (Upcoming.misses_map_ok.2 hmiss)

theorem breaksOff_parameters_opening (hmiss : TokenTest.fitAll ["("] rest = false) :
    BreaksOff (rest.map .ok) parameters "(" (rest.map .ok) :=
  (breaksOff_missing (by decide) hmiss).bind

theorem breaksOff_parameters_closing {params : List String} {opening : Token} {listed : List Token}
    (hopen : opening.IsPunct "(") (hparams : NamesListed params listed)
    (hends : TokenTest.fitAll (parameterLink params) rest = false)
    (hmiss : TokenTest.fitAll [")"] rest = false) :
    BreaksOff ((opening :: (listed ++ rest)).map .ok) parameters ")" (rest.map .ok) := by
  have hclose : ∀ names : List String,
      BreaksOff (rest.map .ok) (do let _ ← expectOne ")"; pure names) ")" (rest.map .ok) :=
    fun names => (breaksOff_missing (by decide) hmiss).bind
  refine (takes_expectOne_punct hopen _).breaksOff ?_
  cases hparams with
  | nil =>
      have hnone : Upcoming.Misses [TokenKind.ident] (rest.map .ok) :=
        Upcoming.misses_map_ok.2 hends
      exact (takes_accept_none (by decide) hnone).breaksOff (hclose [])
  | @cons name names t listed hname hmore =>
      have hident : TokenTest.fits TokenKind.ident t = true := by simp [hname.fits_kind]
      refine (takes_acceptOne hident _).breaksOff ?_
      refine (agree_many_names Upcoming.stops_nil hmore hends).breaksOff ?_
      rintro found after ⟨-, rfl⟩
      exact hclose _

/-- **The head of a function breaks off** where a token of it is missing. -/
theorem breaksOff_function (h : FunctionHead.BreaksOff fitted missing rest) :
    BreaksOff ((fitted ++ rest).map .ok) function missing (rest.map .ok) := by
  -- the word, and the name if there is one
  have hnamed : ∀ {word : Token} {name : Option String} {given behind : List Token},
      word.IsWord "function" → NameGiven name given →
      (name = none → TokenTest.fitAll [TokenKind.ident] behind = false) →
      (∀ name : Option Token, BreaksOff (behind.map .ok)
        (do
          let names ← parameters
          let _ ← expectOne "\x7b"
          pure (Summary.function (name.map (·.text)) names)) missing (rest.map .ok)) →
      BreaksOff ((word :: (given ++ behind)).map .ok) function missing (rest.map .ok) := by
    intro word name given behind hword hname hends hbehind
    have hfunction : TokenTest.fits "function" word = true := by simp [hword.fits_text]
    refine (takes_expectOne hfunction _).breaksOff ?_
    refine (agree_acceptOne_name Upcoming.stops_nil hname hends).breaksOff ?_
    rintro found after ⟨-, rfl⟩
    exact hbehind found
  cases h with
  | opening hword hname hends hmiss =>
      exact hnamed hword hname hends fun _ => (breaksOff_parameters_opening hmiss).bind
  | @closing name params word opening given listed _ hword hname hopen hparams hends hmiss =>
      have hassoc : word :: (given ++ opening :: listed) ++ rest =
          word :: (given ++ opening :: (listed ++ rest)) := by simp
      rw [hassoc]
      exact hnamed hword hname (fun _ => by simp [hopen.fits_kind]) fun _ =>
        (breaksOff_parameters_closing hopen hparams hends hmiss).bind
  | @brace name params word opening closing given listed _ hword hname hopen hparams hclose hmiss =>
      have hassoc : word :: (given ++ opening :: (listed ++ [closing])) ++ rest =
          word :: (given ++ opening :: (listed ++ closing :: rest)) := by simp
      rw [hassoc]
      exact hnamed hword hname (fun _ => by simp [hopen.fits_kind]) fun _ =>
        (agree_parameters Upcoming.stops_nil hopen hparams hclose).takes.breaksOff
          (breaksOff_missing (by decide) hmiss).bind

/-- **A chain breaks off** at once where none starts. -/
theorem breaksOff_chain (h : NoneFits chainStarts rest) :
    BreaksOff (rest.map .ok) chain TokenKind.ident (rest.map .ok) := by
  have hident := h [TokenKind.ident] (by decide)
  have hthis := h ["this"] (by decide)
  exact breaksOff_ite_look_false (by decide) (Upcoming.misses_map_ok.2 hthis)
    (breaksOff_missing (by decide) hident).bind

/-- **An expression breaks off** where its function or its extended class does. -/
theorem breaksOff_expression (h : Expression.BreaksOff fitted missing rest) :
    BreaksOff ((fitted ++ rest).map .ok) expression missing (rest.map .ok) := by
  cases h with
  | function h =>
      have hfunction : TokenTest.fitAll ["function"] (fitted ++ rest) = true := by
        obtain ⟨word, more, rfl, hword⟩ := h.exists_word
        simp [hword.fits_text]
      exact breaksOff_ite_look_true hfunction ((breaksOff_function h).map some)
  | @extension ext point extend opening _ hext hpoint hextend hopen hmiss =>
      have hcall : TokenTest.fitAll ["Ext", ".", "extend", "("] [ext, point, extend, opening] =
          true := by
        simp [hext.fits_text, hpoint.fits_text, hextend.fits_text, hopen.fits_text]
      have hfunction : TokenTest.fits "function" ext = false := by simp [hext.fits_text]
      refine breaksOff_ite_look_false (by decide) (Upcoming.misses_cons hfunction) ?_
      refine breaksOff_ite_look_true (TokenTest.fitAll_append hcall rest) (BreaksOff.map ?_ some)
      refine (takes_expect [ext, point, extend] opening rfl hcall _).breaksOff ?_
      exact (breaksOff_chain hmiss).map _

/-! ### The alternatives -/

theorem breaksOff_assignment (h : Block.AssignmentBreaksOff fitted missing rest) :
    BreaksOff ((fitted ++ rest).map .ok) assignment missing (rest.map .ok) := by
  obtain @⟨target, equals, left, fitted, _, _, htarget, hequals, hvalue⟩ := h
  rw [List.append_assoc, List.cons_append]
  have hlink : TokenTest.fitAll chainLink (equals :: (fitted ++ rest)) = false := by
    simp [chainLink, hequals.fits_text]
  refine (agree_chain Upcoming.stops_nil htarget hlink).takes.breaksOff ?_
  refine (takes_acceptOne_punct hequals _).breaksOff ?_
  exact (breaksOff_expression hvalue).map _

theorem breaksOff_property (h : Block.PropertyBreaksOff fitted missing rest) :
    BreaksOff ((fitted ++ rest).map .ok) property missing (rest.map .ok) := by
  obtain @⟨key, keyToken, colon, fitted, _, _, hkey, hcolon, hvalue⟩ := h
  refine (takes_next keyToken _).breaksOff ?_
  refine (takes_expectOne_punct hcolon _).breaksOff ?_
  exact (breaksOff_expression hvalue).map _

theorem breaksOff_classDefinition {name : Token} {head : List Token}
    (hhead : DefinitionHead name head) (hmiss : NoneFits [[","], [")"]] rest) :
    BreaksOff ((head ++ rest).map .ok) classDefinition ")" (rest.map .ok) := by
  have hcomma := hmiss [","] (by decide)
  have hclose := hmiss [")"] (by decide)
  have hconfig : TokenTest.fitAll [",", "\x7b"] rest = false := by
    cases rest with
    | nil => rfl
    | cons t rest =>
        rw [TokenTest.fitAll_cons_cons, TokenTest.fitAll_nil, Bool.and_true] at hcomma
        rw [TokenTest.fitAll_cons_cons, hcomma, Bool.false_and]
  rw [classDefinition_eq, List.map_append]
  refine (takes_definitionHead hhead _).breaksOff (BreaksOff.bind ?_)
  refine (takes_look_false (by decide) (Upcoming.misses_map_ok.2 hconfig)).breaksOff ?_
  refine (takes_look_false (by decide) (Upcoming.misses_map_ok.2 hcomma)).breaksOff ?_
  exact (breaksOff_missing (by decide) hclose).bind

/-- The head of a call that defines a class is told from everything else. -/
theorem chosen?_definition {name : Token} {head : List Token} (h : DefinitionHead name head)
    (more : List Token) :
    ∃ patterns, chosen? (head ++ more) alternatives = some (patterns, classDefinition) := by
  cases h with
  | define hext hpoint hword hopen hname =>
      simp [chosen?, alternatives, hext.fits_text, hpoint.fits_text, hword.fits_text,
        hopen.fits_text, TokenTest.fits_kind, hname]
  | create hext hpoint hmanager hlink hword hopen hname =>
      simp [chosen?, alternatives, hext.fits_text, hpoint.fits_text, hmanager.fits_text,
        hlink.fits_text, hword.fits_text, hopen.fits_text, TokenTest.fits_kind, hname]

/-- **What the chosen alternative does is what the first alternative does.** -/
theorem breaksOff_firstAlternative {patterns : List (List TokenTest)} {rule : Rule Summary}
    (h : BreaksOff (tokens.map .ok) rule missing w)
    (choices : List (List (List TokenTest) × Rule Summary))
    (hinner : ∀ choice ∈ choices, ∀ pattern ∈ choice.1, IsInnerPattern pattern)
    (hchosen : chosen? tokens choices = some (patterns, rule)) :
    BreaksOff (tokens.map .ok) (firstAlternative choices) missing w := by
  unfold chosen? at hchosen
  induction choices with
  | nil => exact absurd hchosen (by simp)
  | cons choice choices ih =>
      obtain ⟨patterns', rule'⟩ := choice
      obtain ⟨hpatterns, hothers⟩ := List.forall_mem_cons.1 hinner
      have hlook : Agree [] tokens (lookAny patterns') (lookAny patterns')
          (Answers (patterns'.any (TokenTest.fitAll · tokens)) tokens) fun _ _ => False :=
        agree_lookAny patterns' Upcoming.stops_nil hpatterns ⟨rfl, rfl⟩
      refine hlook.takes.breaksOff ?_
      rw [List.find?_cons] at hchosen
      cases hany : patterns'.any (TokenTest.fitAll · tokens) with
      | true =>
          rw [hany] at hchosen
          obtain ⟨-, rfl⟩ := Prod.mk.inj (Option.some.inj hchosen)
          exact h
      | false =>
          rw [hany] at hchosen
          exact ih hothers hchosen

/-- **A code block breaks off** where one of its tokens is missing. -/
theorem breaksOff_codeBlock (h : Block.BreaksOff fitted missing rest)
    (hwell : ∀ t ∈ fitted ++ rest, t.WellKinded) :
    BreaksOff ((fitted ++ rest).map .ok) codeBlock missing (rest.map .ok) := by
  -- it is enough that an alternative breaks off, and that it is the one that is taken
  have hblock : ∀ rule : Rule Summary,
      BreaksOff ((fitted ++ rest).map .ok) rule missing (rest.map .ok) →
      (∃ patterns, chosen? (fitted ++ rest) alternatives = some (patterns, rule)) →
      BreaksOff ((fitted ++ rest).map .ok) codeBlock missing (rest.map .ok) := by
    rintro rule hrule ⟨patterns, hchosen⟩
    exact breaksOff_firstAlternative hrule alternatives isInnerPattern_of_mem_alternatives hchosen
  cases h with
  | function h =>
      refine hblock function (breaksOff_function h) ?_
      obtain ⟨word, more, rfl, hword⟩ := h.exists_word
      exact ⟨_, chosen?_function hword _⟩
  | @declaration word _ hword hmiss =>
      have hvar : TokenTest.fits "var" word = true := by simp [hword.fits_text]
      refine hblock variableDeclaration ?_ ⟨_, chosen?_declared hword _⟩
      exact (takes_expectOne hvar _).breaksOff (breaksOff_chain hmiss).bind
  | @declared word _ _ _ hword h =>
      have hvar : TokenTest.fits "var" word = true := by simp [hword.fits_text]
      refine hblock variableDeclaration ?_ ⟨_, chosen?_declared hword _⟩
      exact (takes_expectOne hvar _).breaksOff (breaksOff_assignment h)
  | assignment h =>
      refine hblock assignment (breaksOff_assignment h) ?_
      obtain @⟨target, equals, left, fitted, _, _, htarget, hequals, hvalue⟩ := h
      rw [List.append_assoc, List.cons_append] at hwell ⊢
      have hlink : TokenTest.fitAll chainLink (equals :: (fitted ++ rest)) = false := by
        simp [chainLink, hequals.fits_text]
      exact ⟨_, chosen?_target htarget hwell hlink (noneFits_rivals hequals target _)⟩
  | property h =>
      refine hblock property (breaksOff_property h) ?_
      obtain @⟨key, keyToken, colon, fitted, _, _, hkey, hcolon, hvalue⟩ := h
      exact ⟨_, chosen?_property hkey.1 (hwell keyToken List.mem_cons_self) hcolon _⟩
  | continued hcomma h =>
      refine hblock continuedProperty ?_ ?_
      · exact (takes_expectOne_punct hcomma _).breaksOff (breaksOff_property h)
      · obtain @⟨key, keyToken, colon, fitted, _, _, hkey, hcolon, hvalue⟩ := h
        exact ⟨_, chosen?_continued hcomma hkey.1 hcolon _⟩
  | definition hhead hmiss =>
      exact hblock classDefinition (breaksOff_classDefinition hhead hmiss)
        (chosen?_definition hhead rest)

end Rule

end DocComments
