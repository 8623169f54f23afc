import DocComments.Proofs.CodeBlockBreaks
import DocComments.Proofs.StrictScanning

/-!
# When a code block fails

The rule for code blocks meets a mismatch exactly where the block breaks off
(`Rule.codeBlock_mismatch_iff_breaksOff`).  Of the two directions one is in
`DocComments.Proofs.CodeBlockBreaks`; here every mismatch is traced back to a beginning that
breaks off.

The calculus is that of `Rule.Agree`, with what was fitted so far in the condition for mismatches
(`Rule.BrokenBy`).  Most of what a rule insists on was looked for before, and cannot be missing:
that is so of every pattern of more than one token, of all fields of a configuration, and of
literals as a whole.  What is left is a single token each time.
-/

namespace DocComments

/-! ### Words and operators that are asked for -/

/-- The texts that the grammar of code blocks asks for, with the kinds of token they are. -/
def codeTexts : List (String × TokenKind) :=
  [("function", .keyword), ("var", .keyword), ("this", .keyword), ("Ext", .ident),
    ("define", .ident), ("ClassManager", .ident), ("create", .ident), ("extend", .ident),
    ("(", .punct), (")", .punct), ("\x7b", .punct), (".", .punct), (",", .punct), (":", .punct),
    ("=", .punct)]

theorem kindOfText_codeTexts : ∀ entry ∈ codeTexts,
    startsNumber entry.1.toList = false ∧ kindOfText entry.1.toList = entry.2 := by
  decide

/-- What fits a text of the grammar is that word or operator. -/
theorem Token.Kinded.told_code {t : Token} (h : t.Kinded) {text : String} {kind : TokenKind}
    (htext : (text, kind) ∈ codeTexts) (hfits : TokenTest.fits (.text text) t = true) :
    t.kind = kind ∧ t.text = text :=
  h.told (kindOfText_codeTexts _ htext) hfits

theorem Token.isName_of_fits {t : Token} (h : TokenTest.fits TokenKind.ident t = true) :
    t.IsName t.text :=
  ⟨by simpa [TokenTest.fits_kind] using h, rfl⟩

namespace Rule

open TokenSource

variable {α : Type} {tail : Upcoming} {tokens : List Token}

/-! ### What is insisted on -/

/-- **The mismatch is where something breaks off**: one token was expected, behind tokens that
`B` says were the beginning. -/
def BrokenBy (B : List Token → TokenTest → List Token → Prop) (tokens : List Token)
    (pattern : List TokenTest) (left : List Token) : Prop :=
  ∃ fitted missing, tokens = fitted ++ left ∧ pattern = [missing] ∧ B fitted missing left

theorem BrokenBy.mono {B B' : List Token → TokenTest → List Token → Prop}
    (hB : ∀ fitted missing left, B fitted missing left → B' fitted missing left)
    {pattern : List TokenTest} {left : List Token} (h : BrokenBy B tokens pattern left) :
    BrokenBy B' tokens pattern left := by
  obtain ⟨fitted, missing, rfl, rfl, h⟩ := h
  exact ⟨fitted, missing, rfl, rfl, hB _ _ _ h⟩

/-- What breaks off behind some tokens breaks off together with them. -/
theorem BrokenBy.behind {B B' : List Token → TokenTest → List Token → Prop} (front : List Token)
    (hB : ∀ fitted missing left, B fitted missing left → B' (front ++ fitted) missing left)
    {pattern : List TokenTest} {left : List Token} (h : BrokenBy B tokens pattern left) :
    BrokenBy B' (front ++ tokens) pattern left := by
  obtain ⟨fitted, missing, rfl, rfl, h⟩ := h
  exact ⟨front ++ fitted, missing, (List.append_assoc ..).symm, rfl, hB _ _ _ h⟩

section Blocks

variable {pattern : List TokenTest} {Q : α → List Token → Prop}
variable {E : List TokenTest → List Token → Prop}

theorem agree_ite_look {r q : Rule α} (hstops : Upcoming.Stops tail)
    (hinner : IsInnerPattern pattern)
    (htrue : TokenTest.fitAll pattern tokens = true → Agree tail tokens r r Q E)
    (hfalse : TokenTest.fitAll pattern tokens = false → Agree tail tokens q q Q E) :
    Agree tail tokens (do if ← look pattern then r else q) (do if ← look pattern then r else q)
      Q E := by
  cases hfit : TokenTest.fitAll pattern tokens with
  | true => exact agree_ite_look_true hstops hinner hfit (htrue hfit)
  | false => exact agree_ite_look_false hstops hinner hfit (hfalse hfit)

/-- A pattern that was looked for is taken. -/
theorem agree_expect_fit {nonempty : pattern ≠ []} (hstops : Upcoming.Stops tail)
    (hinner : IsInnerPattern pattern) (hfit : TokenTest.fitAll pattern tokens = true) :
    Agree tail tokens (expect pattern nonempty) (expect pattern nonempty)
      (fun _ rest => rest = tokens.drop pattern.length) E := by
  refine agree_expect hstops hinner (fun _ => rfl) fun hmiss => ?_
  rw [hfit] at hmiss
  exact absurd hmiss (by decide)

/-- A single token is taken, or it is missing. -/
theorem agree_expectOne_outcome {test : TokenTest} (hstops : Upcoming.Stops tail)
    (hinner : test.IsInner) :
    Agree tail tokens (expectOne test) (expectOne test)
      (fun t rest => tokens = t :: rest ∧ test.fits t = true)
      (fun pattern left => left = tokens ∧ pattern = [test] ∧
        TokenTest.fitAll [test] left = false) := by
  refine agree_expect hstops (by simpa [IsInnerPattern] using hinner) (fun hfit => ?_)
    fun hmiss => ⟨rfl, rfl, hmiss⟩
  obtain ⟨t, more, rfl, ht, -⟩ := TokenTest.exists_of_fitAll_cons hfit
  exact ⟨rfl, ht⟩

/-- **A single token that may stand there** was taken, or does not stand there. -/
def OneTaken (test : TokenTest) (tokens : List Token) : Option Token → List Token → Prop
  | none, rest => rest = tokens ∧ TokenTest.fitAll [test] rest = false
  | some t, rest => tokens = t :: rest ∧ test.fits t = true

theorem agree_acceptOne_outcome {test : TokenTest} (hstops : Upcoming.Stops tail)
    (hinner : test.IsInner) :
    Agree tail tokens (acceptOne test) (acceptOne test) (OneTaken test tokens) E := by
  refine agree_accept hstops (by simpa [IsInnerPattern] using hinner) (fun hfit => ?_)
    fun hmiss => ⟨rfl, hmiss⟩
  obtain ⟨t, more, rfl, ht, -⟩ := TokenTest.exists_of_fitAll_cons hfit
  exact ⟨rfl, ht⟩

end Blocks

/-! ### Names and chains -/

section Names

variable {E : List TokenTest → List Token → Prop}

/-- Names behind separators were taken, up to where none goes on. -/
def LinksTaken (separator : String) (tokens rest : List Token) : Prop :=
  ∃ names front, tokens = front ++ rest ∧ NamesBehind separator names front ∧
    TokenTest.fitAll [.text separator, .kind .ident] rest = false

/-- One more name was taken. -/
theorem LinksTaken.cons {separator : String} {sep t : Token} {rest : List Token}
    (hsep : sep.IsPunct separator) (hname : t.IsName t.text)
    (h : LinksTaken separator tokens rest) : LinksTaken separator (sep :: t :: tokens) rest := by
  obtain ⟨names, front, rfl, hnames, hends⟩ := h
  exact ⟨t.text :: names, sep :: t :: front, rfl, .cons hsep hname hnames, hends⟩

theorem agree_many_links {separator : String} (hstops : Upcoming.Stops tail)
    (hpunct : (separator, TokenKind.punct) ∈ codeTexts)
    {nonempty} (hkinded : ∀ t ∈ tokens, t.Kinded) :
    Agree tail tokens (many (accept [.text separator, .kind .ident] nonempty))
      (many (accept [.text separator, .kind .ident] nonempty))
      (fun _ rest => LinksTaken separator tokens rest) E := by
  -- what is known of the tokens has to be kept for the rounds to come
  have hrounds : Agree tail tokens (many (accept [.text separator, .kind .ident] nonempty))
      (many (accept [.text separator, .kind .ident] nonempty))
      (fun _ rest => (∀ t ∈ tokens, t.Kinded) → LinksTaken separator tokens rest) E := by
    refine agree_many (R := fun tokens _ rest => (∀ t ∈ tokens, t.Kinded) →
      LinksTaken separator tokens rest) fun tokens =>
      agree_accept hstops (isInnerPattern_link separator) (fun hfit => ?_) fun hmiss _ => ?_
    · obtain ⟨sep, behind, rfl, hsep, hfit⟩ := TokenTest.exists_of_fitAll_cons hfit
      obtain ⟨t, more, rfl, ht, -⟩ := TokenTest.exists_of_fitAll_cons hfit
      refine ⟨Nat.lt_succ_of_lt (Nat.lt_succ_self _), fun _ final h hkinded => ?_⟩
      obtain ⟨hsepKinded, hothers⟩ := List.forall_mem_cons.1 hkinded
      exact (h (List.forall_mem_cons.1 hothers).2).cons (hsepKinded.told_code hpunct hsep)
        (Token.isName_of_fits ht)
    · exact ⟨[], [], rfl, .nil, hmiss⟩
  exact hrounds.weaken_answer fun _ _ _ h => h hkinded

end Names

/-- **A chain is taken**, or its first name is missing. -/
theorem agree_chain_outcome (hstops : Upcoming.Stops tail) (hkinded : ∀ t ∈ tokens, t.Kinded) :
    Agree tail tokens chain chain
      (fun _ rest => ∃ target front, tokens = front ++ rest ∧ Chain.Spelled target front)
      (fun pattern left => left = tokens ∧ pattern = [TokenKind.ident] ∧
        NoneFits chainStarts left) := by
  have hnames : ∀ {t : Token} {more : List Token} (E : List TokenTest → List Token → Prop),
      (∀ t ∈ more, t.Kinded) → (t.IsWord "this" ∨ t.IsName t.text) →
      Agree tail more
        (do
          let more ← many (accept [".", TokenKind.ident])
          pure (t.text :: more.map (·.text)))
        (do
          let more ← many (accept [".", TokenKind.ident])
          pure (t.text :: more.map (·.text)))
        (fun _ rest => ∃ target front, t :: more = front ++ rest ∧ Chain.Spelled target front)
        E := by
    intro t more E hkinded hfirst
    refine (agree_many_links hstops (by decide) hkinded).bind ?_
    rintro found rest - ⟨names, front, rfl, hbehind, -⟩
    rcases hfirst with hthis | hname
    · exact agree_pure ⟨_, t :: front, rfl, .this hthis hbehind⟩
    · exact agree_pure ⟨_, t :: front, rfl, .name hname hbehind⟩
  refine agree_ite_look hstops (by decide) (fun hthis => ?_) fun hthis => ?_
  · obtain ⟨t, more, rfl, ht, -⟩ := TokenTest.exists_of_fitAll_cons hthis
    obtain ⟨htKinded, hmore⟩ := List.forall_mem_cons.1 hkinded
    refine (agree_expectOne_fits hstops (by decide) ht).bind_answers ?_
    exact hnames _ hmore (.inl (htKinded.told_code (by decide) ht))
  · refine ((agree_expectOne_outcome hstops (by decide)).weaken_mismatch ?_).bind ?_
    · rintro pattern left - ⟨rfl, rfl, hident⟩
      refine ⟨rfl, rfl, fun pattern hpattern => ?_⟩
      rcases List.mem_pair.1 hpattern with rfl | rfl
      · exact hident
      · exact hthis
    · rintro t more - ⟨rfl, ht⟩
      exact hnames _ (List.forall_mem_cons.1 hkinded).2 (.inr (Token.isName_of_fits ht))

/-! ### Functions -/

/-- The names of the parameters, without their parentheses. -/
def parameterNames : Rule (List String) := do
  match ← acceptOne TokenKind.ident with
  | none => pure []
  | some first =>
      let more ← many (accept commaLink (by decide))
      pure (first.text :: more.map (·.text))

theorem parameters_eq : parameters = (do
    let _ ← expectOne "("
    let names ← parameterNames
    let _ ← expectOne ")"
    pure names) := by
  unfold parameters parameterNames commaLink
  simp only [bind_assoc]
  refine bind_congr fun _ => bind_congr fun first => ?_
  cases first <;> simp

theorem agree_parameterNames {E : List TokenTest → List Token → Prop}
    (hstops : Upcoming.Stops tail) (hkinded : ∀ t ∈ tokens, t.Kinded) :
    Agree tail tokens parameterNames parameterNames
      (fun _ rest => ∃ params listed, tokens = listed ++ rest ∧ NamesListed params listed ∧
        TokenTest.fitAll (parameterLink params) rest = false) E := by
  refine (agree_acceptOne_outcome hstops (by decide)).bind fun first rest _ h => ?_
  cases first with
  | none =>
      obtain ⟨rfl, hmiss⟩ := h
      exact agree_pure ⟨[], [], rfl, .nil, hmiss⟩
  | some t =>
      obtain ⟨rfl, ht⟩ := h
      have hrest := (List.forall_mem_cons.1 hkinded).2
      refine (agree_many_links hstops (by decide) hrest).bind ?_
      rintro found after - ⟨names, front, rfl, hnames, hends⟩
      exact agree_pure ⟨t.text :: names, t :: front, rfl, .cons (Token.isName_of_fits ht) hnames,
        hends⟩

/-- **The parameters are taken**, or one of their parentheses is missing. -/
theorem agree_parameters_outcome (hstops : Upcoming.Stops tail)
    (hkinded : ∀ t ∈ tokens, t.Kinded) :
    Agree tail tokens parameters parameters
      (fun _ rest => ∃ params opening listed closing,
        tokens = opening :: (listed ++ closing :: rest) ∧ opening.IsPunct "(" ∧
          NamesListed params listed ∧ closing.IsPunct ")")
      (fun pattern left => (left = tokens ∧ pattern = ["("] ∧
          TokenTest.fitAll ["("] left = false) ∨
        ∃ params opening listed, tokens = opening :: (listed ++ left) ∧ pattern = [")"] ∧
          opening.IsPunct "(" ∧ NamesListed params listed ∧
          TokenTest.fitAll (parameterLink params) left = false ∧
          TokenTest.fitAll [")"] left = false) := by
  rw [parameters_eq]
  refine ((agree_expectOne_outcome hstops (by decide)).weaken_mismatch
    fun _ _ _ h => .inl h).bind ?_
  rintro opening inside - ⟨rfl, hfits⟩
  obtain ⟨hopening, hinside⟩ := List.forall_mem_cons.1 hkinded
  have hopen : opening.IsPunct "(" := hopening.told_code (by decide) hfits
  refine (agree_parameterNames hstops hinside).bind ?_
  rintro names rest - ⟨params, listed, rfl, hparams, hends⟩
  refine ((agree_expectOne_outcome hstops (by decide)).weaken_mismatch ?_).bind ?_
  · rintro pattern left - ⟨rfl, rfl, hmiss⟩
    exact .inr ⟨params, opening, listed, rfl, rfl, hopen, hparams, hends, hmiss⟩
  · rintro closing after - ⟨rfl, hclose⟩
    have hclosing : closing.Kinded := hinside closing (by simp)
    exact agree_pure ⟨params, opening, listed, closing, rfl, hopen, hparams,
      hclosing.told_code (by decide) hclose⟩

/-- A name that may stand there was taken, or there is none. -/
theorem agree_acceptOne_ident {E : List TokenTest → List Token → Prop}
    (hstops : Upcoming.Stops tail) :
    Agree tail tokens (acceptOne TokenKind.ident) (acceptOne TokenKind.ident)
      (fun _ rest => ∃ name given, tokens = given ++ rest ∧ NameGiven name given ∧
        (name = none → TokenTest.fitAll [TokenKind.ident] rest = false)) E := by
  refine (agree_acceptOne_outcome hstops (by decide)).weaken_answer fun found rest _ h => ?_
  cases found with
  | none =>
      obtain ⟨rfl, hmiss⟩ := h
      exact ⟨none, [], rfl, .none, fun _ => hmiss⟩
  | some t =>
      obtain ⟨rfl, ht⟩ := h
      exact ⟨some t.text, [t], rfl, .some (Token.isName_of_fits ht), fun h => absurd h (by simp)⟩

/-- **The head of a function is taken**, or it breaks off. -/
theorem agree_function_outcome (hstops : Upcoming.Stops tail) (hkinded : ∀ t ∈ tokens, t.Kinded)
    (hfit : TokenTest.fitAll ["function"] tokens = true) :
    Agree tail tokens function function (fun _ _ => True)
      (BrokenBy FunctionHead.BreaksOff tokens) := by
  obtain ⟨word, behind, rfl, hfits, -⟩ := TokenTest.exists_of_fitAll_cons hfit
  obtain ⟨hwordKinded, hbehind⟩ := List.forall_mem_cons.1 hkinded
  have hword : word.IsWord "function" := hwordKinded.told_code (by decide) hfits
  refine (agree_expectOne_fits hstops (by decide) hfits).bind_answers ?_
  refine (agree_acceptOne_ident hstops).bind ?_
  rintro found rest - ⟨name, given, rfl, hname, hends⟩
  have hrest : ∀ t ∈ rest, t.Kinded := fun t ht => hbehind t (List.mem_append_right _ ht)
  refine ((agree_parameters_outcome hstops hrest).weaken_mismatch ?_).bind ?_
  · rintro pattern left - (⟨rfl, rfl, hmiss⟩ | ⟨params, opening, listed, rfl, rfl, hopen, hparams,
      hends, hmiss⟩)
    · exact ⟨word :: given, "(", rfl, rfl, .opening hword hname hends hmiss⟩
    · refine ⟨word :: (given ++ opening :: listed), ")", ?_, rfl,
        .closing hword hname hopen hparams hends hmiss⟩
      simp
  · rintro names body - ⟨params, opening, listed, closing, rfl, hopen, hparams, hclose⟩
    refine ((agree_expectOne_outcome hstops (by decide)).weaken_mismatch ?_).bind ?_
    · rintro pattern left - ⟨rfl, rfl, hmiss⟩
      refine ⟨word :: (given ++ opening :: (listed ++ [closing])), "\x7b", ?_, rfl,
        .brace hword hname hopen hparams hclose hmiss⟩
      simp
    · exact fun _ _ _ _ => agree_pure trivial

/-! ### Expressions -/

/-- Literals meet no mismatch. -/
theorem agree_literal_safe {E : List TokenTest → List Token → Prop} (hstops : Upcoming.Stops tail) :
    Agree tail tokens literal literal (fun _ _ => True) E :=
  (agree_literal hstops (fun _ _ => True) tokens).weaken (fun _ _ _ _ => trivial)
    fun _ _ _ h => h.elim

theorem agree_extension_outcome (hstops : Upcoming.Stops tail) (hkinded : ∀ t ∈ tokens, t.Kinded)
    (hfit : TokenTest.fitAll ["Ext", ".", "extend", "("] tokens = true) :
    Agree tail tokens extension extension (fun _ _ => True)
      (BrokenBy Expression.BreaksOff tokens) := by
  have hcall : Agree tail tokens (expect ["Ext", ".", "extend", "("])
      (expect ["Ext", ".", "extend", "("]) (fun _ rest => rest = tokens.drop 4)
      (BrokenBy Expression.BreaksOff tokens) := agree_expect_fit hstops (by decide) hfit
  obtain ⟨ext, more, rfl, hext, hfit⟩ := TokenTest.exists_of_fitAll_cons hfit
  obtain ⟨point, more, rfl, hpoint, hfit⟩ := TokenTest.exists_of_fitAll_cons hfit
  obtain ⟨extend, more, rfl, hextend, hfit⟩ := TokenTest.exists_of_fitAll_cons hfit
  obtain ⟨opening, base, rfl, hopen, -⟩ := TokenTest.exists_of_fitAll_cons hfit
  simp only [List.forall_mem_cons] at hkinded
  obtain ⟨hext', hpoint', hextend', hopen', hbase⟩ := hkinded
  refine hcall.bind ?_
  rintro _ rest - rfl
  refine Agree.map ((agree_chain_outcome hstops hbase).weaken (fun _ _ _ _ => trivial) ?_)
  rintro pattern left - ⟨rfl, rfl, hmiss⟩
  exact ⟨[ext, point, extend, opening], _, rfl, rfl, .extension
    (hext'.told_code (by decide) hext) (hpoint'.told_code (by decide) hpoint)
    (hextend'.told_code (by decide) hextend) (hopen'.told_code (by decide) hopen) hmiss⟩

/-- **An expression is taken**, or it breaks off. -/
theorem agree_expression_outcome (hstops : Upcoming.Stops tail)
    (hkinded : ∀ t ∈ tokens, t.Kinded) :
    Agree tail tokens expression expression (fun _ _ => True)
      (BrokenBy Expression.BreaksOff tokens) := by
  refine agree_ite_look hstops (by decide) (fun hfit => ?_) fun _ => ?_
  · refine Agree.map ((agree_function_outcome hstops hkinded hfit).weaken_mismatch
      fun pattern left _ h => ?_)
    exact h.mono fun _ _ _ h => .function h
  refine agree_ite_look hstops (by decide) (fun hfit => ?_) fun _ => ?_
  · exact Agree.map (agree_extension_outcome hstops hkinded hfit)
  · exact (agree_literal_safe hstops).bind fun _ _ _ _ => agree_pure trivial

/-! ### Assignments and properties -/

/-- **An assignment is taken**, or its target is missing, or its value breaks off. -/
theorem agree_assignment_outcome (hstops : Upcoming.Stops tail)
    (hkinded : ∀ t ∈ tokens, t.Kinded) :
    Agree tail tokens assignment assignment (fun _ _ => True)
      (fun pattern left => (left = tokens ∧ pattern = [TokenKind.ident] ∧
          NoneFits chainStarts left) ∨
        BrokenBy Block.AssignmentBreaksOff tokens pattern left) := by
  refine ((agree_chain_outcome hstops hkinded).weaken_mismatch
    fun _ _ _ h => .inl h).bind ?_
  rintro names rest - ⟨target, front, rfl, htarget⟩
  have hrest : ∀ t ∈ rest, t.Kinded := fun t ht => hkinded t (List.mem_append_right _ ht)
  refine (agree_acceptOne_outcome hstops (by decide)).bind fun found after _ h => ?_
  cases found with
  | none => exact agree_pure trivial
  | some equals =>
      obtain ⟨rfl, hfits⟩ := h
      obtain ⟨hequalsKinded, hafter⟩ := List.forall_mem_cons.1 hrest
      have hequals : equals.IsPunct "=" := hequalsKinded.told_code (by decide) hfits
      refine Agree.map ((agree_expression_outcome hstops hafter).weaken_mismatch ?_)
      rintro pattern left - ⟨fitted, missing, rfl, rfl, hvalue⟩
      refine .inr ⟨front ++ equals :: fitted, missing, ?_, rfl, .value htarget hequals hvalue⟩
      simp

theorem agree_variableDeclaration_outcome (hstops : Upcoming.Stops tail)
    (hkinded : ∀ t ∈ tokens, t.Kinded) (hfit : TokenTest.fitAll ["var"] tokens = true) :
    Agree tail tokens variableDeclaration variableDeclaration (fun _ _ => True)
      (BrokenBy Block.BreaksOff tokens) := by
  obtain ⟨word, more, rfl, hfits, -⟩ := TokenTest.exists_of_fitAll_cons hfit
  obtain ⟨hwordKinded, hmore⟩ := List.forall_mem_cons.1 hkinded
  have hword : word.IsWord "var" := hwordKinded.told_code (by decide) hfits
  refine (agree_expectOne_fits hstops (by decide) hfits).bind_answers ?_
  refine (agree_assignment_outcome hstops hmore).weaken_mismatch ?_
  rintro pattern left - (⟨rfl, rfl, hmiss⟩ | h)
  · exact ⟨[word], TokenKind.ident, rfl, rfl, .declaration hword hmiss⟩
  · exact h.behind [word] fun _ _ _ h => .declared hword h

/-- **A property is taken**, or its value breaks off. -/
theorem agree_property_outcome (hstops : Upcoming.Stops tail) (hkinded : ∀ t ∈ tokens, t.Kinded)
    (hfit : memberPatterns.any (TokenTest.fitAll · tokens) = true) :
    Agree tail tokens property property (fun _ _ => True)
      (BrokenBy Block.PropertyBreaksOff tokens) := by
  obtain ⟨key, colon, more, rfl, hkey, hfits⟩ := exists_key_of_any hfit
  simp only [List.forall_mem_cons] at hkinded
  obtain ⟨-, hcolonKinded, hmore⟩ := hkinded
  have hcolon : colon.IsPunct ":" := hcolonKinded.told_code (by decide) hfits
  refine Agree.bind_answers (agree_next hstops ⟨rfl, rfl⟩) ?_
  refine (agree_expectOne_punct hstops hcolon).bind_answers (Agree.map ?_)
  refine (agree_expression_outcome hstops hmore).weaken_mismatch fun pattern left _ h => ?_
  exact h.behind [key, colon] fun _ _ _ h => .value ⟨hkey, rfl⟩ hcolon h

theorem agree_continuedProperty_outcome (hstops : Upcoming.Stops tail)
    (hkinded : ∀ t ∈ tokens, t.Kinded)
    (hfit : TokenTest.fitAll [",", TokenKind.ident, ":"] tokens = true ∨
      TokenTest.fitAll [",", TokenKind.string, ":"] tokens = true) :
    Agree tail tokens continuedProperty continuedProperty (fun _ _ => True)
      (BrokenBy Block.BreaksOff tokens) := by
  obtain ⟨comma, more, rfl, hfits, hmember⟩ : ∃ comma more, tokens = comma :: more ∧
      TokenTest.fits "," comma = true ∧ memberPatterns.any (TokenTest.fitAll · more) = true := by
    rcases hfit with hfit | hfit
    all_goals
      obtain ⟨comma, more, rfl, hfits, hmember⟩ := TokenTest.exists_of_fitAll_cons hfit
      exact ⟨comma, more, rfl, hfits, by simp [memberPatterns, hmember]⟩
  obtain ⟨hcommaKinded, hmore⟩ := List.forall_mem_cons.1 hkinded
  have hcomma : comma.IsPunct "," := hcommaKinded.told_code (by decide) hfits
  refine (agree_expectOne_fits hstops (by decide) hfits).bind_answers ?_
  refine (agree_property_outcome hstops hmore hmember).weaken_mismatch fun pattern left _ h => ?_
  exact h.behind [comma] fun _ _ _ h => .continued hcomma h

/-! ### Class definitions -/

theorem agree_extendField_safe (hstops : Upcoming.Stops tail)
    (hfit : TokenTest.fitAll ["extend", ":", TokenKind.string] tokens = true) :
    Agree tail tokens extendField extendField (fun _ _ => True) fun _ _ => False :=
  (agree_expect_fit hstops (by decide) hfit).bind fun _ _ _ _ => agree_pure trivial

theorem agree_mixinsField_safe (hstops : Upcoming.Stops tail)
    (hfit : TokenTest.fitAll ["mixins", ":"] tokens = true) :
    Agree tail tokens mixinsField mixinsField (fun _ _ => True) fun _ _ => False := by
  refine (agree_expect_fit hstops (by decide) hfit).bind fun _ _ _ _ => ?_
  refine (agree_literal_safe hstops).bind fun found _ _ _ => ?_
  cases found with
  | none => exact agree_pure trivial
  | some l => exact agree_pure trivial

theorem agree_namesField_safe {word key : String} (hstops : Upcoming.Stops tail)
    (hinner : IsInnerPattern [.text word, ":"])
    (hfit : TokenTest.fitAll [.text word, ":"] tokens = true) :
    Agree tail tokens (namesField word key) (namesField word key) (fun _ _ => True)
      fun _ _ => False := by
  refine (agree_expect_fit hstops hinner hfit).bind fun _ _ _ _ => ?_
  exact (agree_literal_safe hstops).bind fun _ _ _ _ => agree_pure trivial

theorem agree_otherField_safe (hstops : Upcoming.Stops tail)
    (hfit : TokenTest.fitAll [TokenKind.ident, ":"] tokens = true) :
    Agree tail tokens otherField otherField (fun _ _ => True) fun _ _ => False := by
  obtain ⟨key, more, rfl, hkey, hfit⟩ := TokenTest.exists_of_fitAll_cons hfit
  obtain ⟨colon, more, rfl, hcolon, -⟩ := TokenTest.exists_of_fitAll_cons hfit
  refine (agree_expectOne_fits hstops (by decide) hkey).bind_answers ?_
  refine (agree_expectOne_fits hstops (by decide) hcolon).bind_answers ?_
  refine (agree_literal_safe hstops).bind fun found _ _ _ => ?_
  cases found with
  | none => exact agree_pure trivial
  | some l => exact agree_pure trivial

/-- **A field meets no mismatch**: whatever it insists on was looked for. -/
theorem agree_configField_safe (hstops : Upcoming.Stops tail) :
    Agree tail tokens configField configField (fun _ _ => True) fun _ _ => False := by
  refine agree_ite_look hstops (by decide)
    (fun hfit => Agree.map (agree_extendField_safe hstops hfit)) fun _ => ?_
  refine agree_ite_look hstops (by decide) (fun hfit => ?_) fun _ => ?_
  · -- the brace that was looked for is left to the literal
    obtain ⟨word, more, rfl, hword, hfit⟩ := TokenTest.exists_of_fitAll_cons hfit
    obtain ⟨colon, more, rfl, hcolon, -⟩ := TokenTest.exists_of_fitAll_cons hfit
    exact agree_mixinsField_safe hstops (by simp [hword, hcolon])
  refine agree_ite_look hstops (by decide)
    (fun hfit => Agree.map (agree_namesField_safe hstops (by decide) hfit)) fun _ => ?_
  refine agree_ite_look hstops (by decide)
    (fun hfit => Agree.map (agree_namesField_safe hstops (by decide) hfit)) fun _ => ?_
  exact agree_ite_look hstops (by decide) (fun hfit => agree_otherField_safe hstops hfit)
    fun _ => agree_pure trivial

/-- **A configuration meets no mismatch** behind its brace. -/
theorem agree_classConfig_safe (hstops : Upcoming.Stops tail)
    (hfit : TokenTest.fitAll ["\x7b"] tokens = true) :
    Agree tail tokens classConfig classConfig (fun _ _ => True) fun _ _ => False := by
  refine (agree_expect_fit hstops (by decide) hfit).bind fun _ inside _ _ => ?_
  refine agree_many (R := fun _ _ _ => True) fun tokens => ?_
  -- that a field takes a token is known, and that it meets no mismatch
  have hfield := (agree_configField_safe hstops).and (advances_configField hstops tokens)
  refine (hfield.weaken (fun _ _ _ h => h.2) fun _ _ _ h => h.1).bind fun field rest _ hlt => ?_
  cases field with
  | none => exact agree_pure trivial
  | some field =>
      refine Agree.bind (P := fun _ _ => True)
        (agree_accept hstops (by decide) (fun _ => trivial) fun _ => trivial) ?_
      intro comma after hsuffix _
      exact agree_pure ⟨Nat.lt_of_le_of_lt hsuffix.length_le (hlt rfl), fun _ _ _ => trivial⟩

/-- What follows the class name is taken, or neither a comma nor a parenthesis is there. -/
theorem agree_definitionConfig_outcome (hstops : Upcoming.Stops tail) :
    Agree tail tokens definitionConfig definitionConfig (fun _ _ => True)
      (fun pattern left => left = tokens ∧ pattern = [.text ")"] ∧
        NoneFits [[","], [")"]] left) := by
  refine agree_look_bind hstops (by decide) (agree_look_bind hstops (by decide) ?_)
  cases hconfigured : TokenTest.fitAll [",", "\x7b"] tokens with
  | true =>
      obtain ⟨comma, more, rfl, hcomma, hbrace⟩ := TokenTest.exists_of_fitAll_cons hconfigured
      refine (agree_expectOne_fits hstops (by decide) hcomma).bind_answers ?_
      exact (agree_classConfig_safe hstops hbrace).weaken_mismatch fun _ _ _ h => h.elim
  | false =>
      cases hcontinued : TokenTest.fitAll [","] tokens with
      | true => exact agree_pure trivial
      | false =>
          refine ((agree_expectOne_outcome hstops (by decide)).weaken_mismatch ?_).bind
            fun _ _ _ _ => agree_pure trivial
          rintro pattern left - ⟨rfl, rfl, hclose⟩
          refine ⟨rfl, rfl, fun pattern hpattern => ?_⟩
          rcases List.mem_pair.1 hpattern with rfl | rfl
          · exact hcontinued
          · exact hclose

/-- The patterns that open a class definition ask for the head of one. -/
theorem exists_definitionHead (hkinded : ∀ t ∈ tokens, t.Kinded)
    (hfit : TokenTest.fitAll ["Ext", ".", "define", "(", TokenKind.string] tokens = true ∨
      TokenTest.fitAll ["Ext", ".", "ClassManager", ".", "create", "(", TokenKind.string] tokens =
        true) :
    ∃ name head rest, tokens = head ++ rest ∧ DefinitionHead name head := by
  rcases hfit with hfit | hfit
  · obtain ⟨ext, more, rfl, hext, hfit⟩ := TokenTest.exists_of_fitAll_cons hfit
    obtain ⟨point, more, rfl, hpoint, hfit⟩ := TokenTest.exists_of_fitAll_cons hfit
    obtain ⟨word, more, rfl, hword, hfit⟩ := TokenTest.exists_of_fitAll_cons hfit
    obtain ⟨opening, more, rfl, hopen, hfit⟩ := TokenTest.exists_of_fitAll_cons hfit
    obtain ⟨name, rest, rfl, hname, -⟩ := TokenTest.exists_of_fitAll_cons hfit
    simp only [List.forall_mem_cons] at hkinded
    obtain ⟨hext', hpoint', hword', hopen', -⟩ := hkinded
    exact ⟨name, [ext, point, word, opening, name], rest, rfl,
      .define (hext'.told_code (by decide) hext) (hpoint'.told_code (by decide) hpoint)
        (hword'.told_code (by decide) hword) (hopen'.told_code (by decide) hopen)
        (by simpa [TokenTest.fits_kind] using hname)⟩
  · obtain ⟨ext, more, rfl, hext, hfit⟩ := TokenTest.exists_of_fitAll_cons hfit
    obtain ⟨point, more, rfl, hpoint, hfit⟩ := TokenTest.exists_of_fitAll_cons hfit
    obtain ⟨manager, more, rfl, hmanager, hfit⟩ := TokenTest.exists_of_fitAll_cons hfit
    obtain ⟨link, more, rfl, hlink, hfit⟩ := TokenTest.exists_of_fitAll_cons hfit
    obtain ⟨word, more, rfl, hword, hfit⟩ := TokenTest.exists_of_fitAll_cons hfit
    obtain ⟨opening, more, rfl, hopen, hfit⟩ := TokenTest.exists_of_fitAll_cons hfit
    obtain ⟨name, rest, rfl, hname, -⟩ := TokenTest.exists_of_fitAll_cons hfit
    simp only [List.forall_mem_cons] at hkinded
    obtain ⟨hext', hpoint', hmanager', hlink', hword', hopen', -⟩ := hkinded
    exact ⟨name, [ext, point, manager, link, word, opening, name], rest, rfl,
      .create (hext'.told_code (by decide) hext) (hpoint'.told_code (by decide) hpoint)
        (hmanager'.told_code (by decide) hmanager) (hlink'.told_code (by decide) hlink)
        (hword'.told_code (by decide) hword) (hopen'.told_code (by decide) hopen)
        (by simpa [TokenTest.fits_kind] using hname)⟩

/-- **A class definition is taken**, or it breaks off behind the name. -/
theorem agree_classDefinition_outcome {name : Token} {head rest : List Token}
    (hstops : Upcoming.Stops tail) (hhead : DefinitionHead name head) :
    Agree tail (head ++ rest) classDefinition classDefinition (fun _ _ => True)
      (BrokenBy Block.BreaksOff (head ++ rest)) := by
  have hname : Agree tail (head ++ rest) definitionHead definitionHead (Answers name rest)
      (BrokenBy Block.BreaksOff (head ++ rest)) := by
    refine Takes.agree (List.suffix_append head rest) fun v => ?_
    rw [List.map_append, List.append_assoc]
    exact takes_definitionHead hhead _
  rw [classDefinition_eq]
  refine hname.bind_answers ?_
  refine ((agree_definitionConfig_outcome hstops).weaken_mismatch ?_).bind
    fun _ _ _ _ => agree_pure trivial
  rintro pattern left - ⟨rfl, rfl, hmiss⟩
  exact ⟨head, ")", rfl, rfl, .definition hhead hmiss⟩

/-! ### Code blocks -/

/-- **A code block is taken**, or it breaks off. -/
theorem agree_codeBlock_outcome (hstops : Upcoming.Stops tail) (hkinded : ∀ t ∈ tokens, t.Kinded) :
    Agree tail tokens codeBlock codeBlock (fun _ _ => True)
      (BrokenBy Block.BreaksOff tokens) := by
  refine agree_firstAlternative hstops alternatives isInnerPattern_of_mem_alternatives ?_
    fun _ => trivial
  intro patterns rule hchosen
  obtain ⟨hmem, hfit⟩ := chosen?_spec hchosen
  simp only [alternatives, List.mem_cons, List.not_mem_nil, or_false, Prod.mk.injEq] at hmem
  obtain ⟨rfl, rfl⟩ | ⟨rfl, rfl⟩ | ⟨rfl, rfl⟩ | ⟨rfl, rfl⟩ | ⟨rfl, rfl⟩ | ⟨rfl, rfl⟩ |
    ⟨rfl, rfl⟩ := hmem
  · refine (agree_function_outcome hstops hkinded (by simpa using hfit)).weaken_mismatch
      fun pattern left _ h => ?_
    exact h.mono fun _ _ _ h => .function h
  · exact agree_variableDeclaration_outcome hstops hkinded (by simpa using hfit)
  · obtain ⟨name, head, rest, rfl, hhead⟩ := exists_definitionHead hkinded (by simpa using hfit)
    exact agree_classDefinition_outcome hstops hhead
  · refine (agree_property_outcome hstops hkinded hfit).weaken_mismatch fun pattern left _ h => ?_
    exact h.mono fun _ _ _ h => .property h
  · exact agree_continuedProperty_outcome hstops hkinded (by simpa using hfit)
  · refine (agree_assignment_outcome hstops hkinded).weaken_mismatch ?_
    rintro pattern left - (⟨rfl, -, hmiss⟩ | h)
    · -- a target was looked for
      obtain ⟨start, hstart, hfit⟩ := List.any_eq_true.1 hfit
      rw [hmiss start hstart] at hfit
      exact absurd hfit (by decide)
    · exact h.mono fun _ _ _ h => .assignment h
  · exact (agree_expect_fit hstops (by decide) (by simpa using hfit)).bind
      fun _ _ _ _ => agree_pure trivial

/-! ### Where a code block fails -/

/-- Where an agreement allows no mismatch, no source meets one. -/
theorem Agree.ne_mismatch {r : Rule α} {s : TokenSource}
    (h : Agree tail tokens r r (fun _ _ => True) fun _ _ => False)
    (hcut : s.upcoming = tokens.map .ok ++ tail) (m : Mismatch) (s' : TokenSource) :
    r s ≠ .error (.mismatch m) s' := by
  intro hrun
  have houtcome := h ⟨hcut, upcoming_ofTokens tokens⟩
  rw [hrun] at houtcome
  generalize r (ofTokens tokens) = outcome at houtcome
  cases houtcome with
  | mismatch _ _ _ h => exact h

theorem literal_ne_mismatch (s : TokenSource) (m : Mismatch) (s' : TokenSource) :
    literal s ≠ .error (.mismatch m) s' := by
  obtain ⟨tokens, tail, hcut, hstops⟩ := Upcoming.exists_cut s.upcoming
  exact (agree_literal_safe hstops).ne_mismatch hcut m s'

theorem classConfig_ne_mismatch {s : TokenSource} {brace : Token} {more : Upcoming}
    (hs : s.upcoming = .ok brace :: more) (hbrace : brace.IsPunct "\x7b") (m : Mismatch)
    (s' : TokenSource) : classConfig s ≠ .error (.mismatch m) s' := by
  obtain ⟨tokens, tail, rfl, hstops⟩ := Upcoming.exists_cut more
  have hfit : TokenTest.fitAll ["\x7b"] (brace :: tokens) = true := by simp [hbrace.fits_text]
  exact (agree_classConfig_safe hstops hfit).ne_mismatch hs m s'

/-- **A recovering scan goes on at the token that did not fit.** -/
theorem round_of_breaksOff {missing : TokenTest} {rest : List Token}
    (h : BreaksOff (tokens.map .ok) codeBlock missing (rest.map .ok)) {scanner : Scanner}
    {comment : Token} (hdoc : comment.kind = .docComment)
    (hs : scanner.source.upcoming = .ok comment :: tokens.map .ok)
    (readTags : String → List Tag) :
    ∃ actual source', Scanner.round ⟨true, readTags⟩ scanner = .ok true
        ⟨source', scanner.records ++ [⟨readTags comment.text, comment.line, .unrecognised⟩],
          scanner.events ++ [.found comment.line] ++ [.skipped ⟨[missing], actual⟩]⟩ ∧
      source'.upcoming = rest.map .ok ∧ source'.tokenAt 0 = .ok actual := by
  have hinner : comment.kind ≠ .endOfInput := by
    rw [hdoc]
    decide
  obtain ⟨behind, hbehind, hround⟩ := Scanner.round_cons hs hinner
  obtain ⟨actual, source', hmismatch, hleft, hactual⟩ := h hbehind
  refine ⟨actual, source', ?_, hleft, hactual⟩
  rw [hround, if_pos hdoc]
  exact Scanner.recordComment_recovering hmismatch

/-- **A code block fails exactly where it breaks off**, and stops there.  The token that is missing
is the only one that was expected, and the tokens that were fitted are the ones that were taken; so
a recovering scan goes on at the token that did not fit.  Literals meet no mismatch, nor does the
configuration of a class behind its brace.

That the tokens are kinded is no restriction: those of a source are (`kinded_of_mem_upcoming`). -/
theorem codeBlock_mismatch_iff_breaksOff {s : TokenSource} (hs : s.upcoming = tokens.map .ok)
    (hkinded : ∀ t ∈ tokens, t.Kinded) :
    ((∃ m s', codeBlock s = .error (.mismatch m) s') ↔
      ∃ fitted missing rest, tokens = fitted ++ rest ∧ Block.BreaksOff fitted missing rest) ∧
    (∀ fitted missing rest, tokens = fitted ++ rest → Block.BreaksOff fitted missing rest →
      (∃ actual s', codeBlock s = .error (.mismatch ⟨[missing], actual⟩) s' ∧
        s'.upcoming = rest.map .ok ∧ s'.tokenAt 0 = .ok actual) ∧
      ∀ (readTags : String → List Tag) (scanner : Scanner) (comment : Token),
        comment.kind = .docComment → scanner.source.upcoming = .ok comment :: tokens.map .ok →
        ∃ actual source', Scanner.round ⟨true, readTags⟩ scanner = .ok true
            ⟨source', scanner.records ++ [⟨readTags comment.text, comment.line, .unrecognised⟩],
              scanner.events ++ [.found comment.line] ++ [.skipped ⟨[missing], actual⟩]⟩ ∧
          source'.upcoming = rest.map .ok ∧ source'.tokenAt 0 = .ok actual) ∧
    (∀ source m source', literal source ≠ .error (.mismatch m) source') ∧
    ∀ source brace more m source', source.upcoming = .ok brace :: more → brace.IsPunct "\x7b" →
      classConfig source ≠ .error (.mismatch m) source' := by
  have hbreaks : ∀ fitted missing rest, tokens = fitted ++ rest →
      Block.BreaksOff fitted missing rest →
      BreaksOff (tokens.map .ok) codeBlock missing (rest.map .ok) := by
    rintro fitted missing rest rfl h
    exact breaksOff_codeBlock h fun t ht => (hkinded t ht).wellKinded
  refine ⟨⟨?_, ?_⟩, ?_, literal_ne_mismatch, ?_⟩
  · rintro ⟨m, s', hrun⟩
    have houtcome := agree_codeBlock_outcome Upcoming.stops_nil hkinded
      ⟨hs.trans (List.append_nil _).symm, hs⟩
    rw [hrun] at houtcome
    cases houtcome with
    | mismatch _ _ _ hbroken =>
        obtain ⟨fitted, missing, htokens, -, h⟩ := hbroken
        exact ⟨fitted, missing, _, htokens, h⟩
  · rintro ⟨fitted, missing, rest, htokens, h⟩
    obtain ⟨actual, s', hrun, -⟩ := hbreaks fitted missing rest htokens h hs
    exact ⟨_, s', hrun⟩
  · intro fitted missing rest htokens h
    have hbroken := hbreaks fitted missing rest htokens h
    exact ⟨hbroken hs, fun readTags _ _ hdoc hsource =>
      round_of_breaksOff hbroken hdoc hsource readTags⟩
  · exact fun source brace more m source' hsource hbrace =>
      classConfig_ne_mismatch hsource hbrace m source'

/-- The parameters of a method are not closed. -/
theorem codeBlock_mismatch_iff_breaksOff_parameters :
    let fitted : List Token :=
      [⟨.ident, "A", 1, 1⟩, ⟨.punct, ".", 1, 2⟩, ⟨.ident, "f", 1, 3⟩, ⟨.punct, "=", 1, 5⟩,
        ⟨.keyword, "function", 1, 7⟩, ⟨.punct, "(", 1, 15⟩, ⟨.ident, "x", 1, 16⟩,
        ⟨.punct, ",", 1, 17⟩, ⟨.ident, "y", 1, 19⟩]
    let rest : List Token := [⟨.punct, ",", 1, 20⟩, ⟨.punct, ")", 1, 21⟩]
    let source := ofString "A.f = function(x, y,)"
    source.upcoming = (fitted ++ rest).map .ok ∧ (∀ t ∈ fitted ++ rest, t.Kinded) ∧
      Block.BreaksOff fitted ")" rest ∧
      ∃ s', codeBlock source = .error (.mismatch ⟨[")"], ⟨.punct, ",", 1, 20⟩⟩) s' ∧
        s'.upcoming = rest.map .ok := by
  intro fitted rest source
  have hs : source.upcoming = (fitted ++ rest).map .ok := by decide +kernel
  have hkinded : ∀ t ∈ fitted ++ rest, t.Kinded := fun t ht =>
    kinded_of_mem_upcoming (hs ▸ List.mem_map_of_mem ht)
  have htarget : Chain.Spelled ⟨"A", ["f"]⟩ (fitted.take 3) :=
    .name ⟨rfl, rfl⟩ (.cons ⟨rfl, rfl⟩ ⟨rfl, rfl⟩ .nil)
  have hparams : NamesListed ["x", "y"] (fitted.drop 6) :=
    .cons ⟨rfl, rfl⟩ (.cons ⟨rfl, rfl⟩ ⟨rfl, rfl⟩ .nil)
  have hfunction : FunctionHead.BreaksOff (fitted.drop 4) ")" rest :=
    .closing ⟨rfl, rfl⟩ .none ⟨rfl, rfl⟩ hparams (by decide) (by decide)
  have hbreaks : Block.BreaksOff fitted ")" rest :=
    .assignment (.value htarget ⟨rfl, rfl⟩ (.function hfunction))
  obtain ⟨⟨actual, s', hrun, hleft, hactual⟩, -⟩ :=
    (codeBlock_mismatch_iff_breaksOff hs hkinded).2.1 fitted ")" rest rfl hbreaks
  rw [tokenAt, hleft] at hactual
  obtain rfl := Except.ok.inj hactual
  exact ⟨hs, hkinded, hbreaks, s', hrun, hleft⟩

end Rule

end DocComments
