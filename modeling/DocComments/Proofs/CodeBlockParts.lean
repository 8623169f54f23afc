import DocComments.Proofs.CodeBlockAgreement
import DocComments.Proofs.CodeBlockTree

/-!
# The parts of a code block are recognised completely

Names, parameter lists, functions, chains, expressions, assignments and properties: in front of the
tokens of a tree, and of tokens that would not go on with it, each rule answers with the tree and
leaves exactly what follows.

The rules are taken one by one in the calculus of `Rule.Agree`, where the answer and what is left
are known (`Rule.Answers`).  A look whose answer is known picks its branch once, in
`Rule.agree_ite_look_true` and `Rule.agree_ite_look_false`, and the repetition of names is settled
once for parameters and chains, in `Rule.agree_many_names`.
-/

namespace DocComments

/-! ### Tests on words and operators -/

namespace Token

variable {t : Token} {text : String}

theorem IsPunct.fits_kind (h : t.IsPunct text) (kind : TokenKind) :
    TokenTest.fits (.kind kind) t = decide (.punct = kind) := by
  rw [TokenTest.fits_kind, h.1]

theorem IsName.fits_kind (h : t.IsName text) (kind : TokenKind) :
    TokenTest.fits (.kind kind) t = decide (.ident = kind) := by
  rw [TokenTest.fits_kind, h.1]

theorem IsWord.fits_kind (h : t.IsWord text) (kind : TokenKind) :
    TokenTest.fits (.kind kind) t = decide (.keyword = kind) := by
  rw [TokenTest.fits_kind, h.1]

/-- A token of another kind does not have the text. -/
theorem WellKinded.fits_eq_false (h : t.WellKinded) (htext : text ∈ tellingTexts)
    (hkind : t.kind ≠ kindOfText text.toList) : TokenTest.fits (.text text) t = false := by
  cases hfits : TokenTest.fits (.text text) t with
  | false => rfl
  | true => exact absurd (h text htext hfits) hkind

end Token

namespace Rule

open TokenSource

variable {α : Type} {tail : Upcoming} {tokens rest : List Token} {pattern : List TokenTest}
variable {Q : α → List Token → Prop} {E : List TokenTest → List Token → Prop}

/-! ### Looks and repetitions whose answer is known -/

theorem agree_ite_look_true {r q : Rule α} (hstops : Upcoming.Stops tail)
    (hinner : IsInnerPattern pattern) (hfit : TokenTest.fitAll pattern tokens = true)
    (h : Agree tail tokens r r Q E) :
    Agree tail tokens (do if ← look pattern then r else q) (do if ← look pattern then r else q)
      Q E :=
  (agree_look (Q := Answers true tokens) hstops hinner ⟨hfit, rfl⟩).bind_answers h

theorem agree_ite_look_false {r q : Rule α} (hstops : Upcoming.Stops tail)
    (hinner : IsInnerPattern pattern) (hfit : TokenTest.fitAll pattern tokens = false)
    (h : Agree tail tokens q q Q E) :
    Agree tail tokens (do if ← look pattern then r else q) (do if ← look pattern then r else q)
      Q E :=
  (agree_look (Q := Answers false tokens) hstops hinner ⟨hfit, rfl⟩).bind_answers h

/-- A token that is insisted on is taken where it passes the test. -/
theorem agree_expectOne_fits {t : Token} {test : TokenTest} (hstops : Upcoming.Stops tail)
    (hinner : test.IsInner) (hfit : test.fits t = true) :
    Agree tail (t :: rest) (expectOne test) (expectOne test) (Answers t rest) E := by
  refine agree_expect hstops (by simpa [IsInnerPattern] using hinner) (fun _ => ⟨rfl, rfl⟩) ?_
  intro hmiss
  simp [hfit] at hmiss

/-- An operator that is insisted on is taken where it stands. -/
theorem agree_expectOne_punct (hstops : Upcoming.Stops tail) {t : Token} {text : String}
    (ht : t.IsPunct text) :
    Agree tail (t :: rest) (expectOne text) (expectOne text) (Answers t rest) E := by
  refine agree_expect hstops (isInnerPattern_text text) (fun _ => ⟨rfl, rfl⟩) fun hmiss => ?_
  simp [ht.fits_text] at hmiss

/-- An operator that may stand there is taken where it does. -/
theorem agree_acceptOne_punct (hstops : Upcoming.Stops tail) {t : Token} {text : String}
    (ht : t.IsPunct text) :
    Agree tail (t :: rest) (acceptOne text) (acceptOne text) (Answers (some t) rest) E := by
  refine agree_accept hstops (isInnerPattern_text text) (fun _ => ⟨rfl, rfl⟩) fun hmiss => ?_
  simp [ht.fits_text] at hmiss

theorem agree_accept_absent {nonempty : pattern ≠ []} (hstops : Upcoming.Stops tail)
    (hinner : IsInnerPattern pattern) (hmiss : TokenTest.fitAll pattern rest = false) :
    Agree tail rest (accept pattern nonempty) (accept pattern nonempty) (Answers none rest) E := by
  refine agree_accept hstops hinner (fun hfit => ?_) fun _ => ⟨rfl, rfl⟩
  rw [hmiss] at hfit
  exact absurd hfit (by decide)

theorem isInnerPattern_link (separator : String) :
    IsInnerPattern [.text separator, .kind .ident] := by
  intro test htest
  rcases List.mem_pair.1 htest with rfl | rfl
  · exact ⟨nofun, nofun⟩
  · decide

/-- The repetition finds tokens with these texts, and leaves `rest`. -/
def FindsNames (names : List String) (rest : List Token) (found after : List Token) : Prop :=
  found.map (·.text) = names ∧ after = rest

section Names

variable {separator : String} {names : List String}

theorem agree_manyUpTo_names (hstops : Upcoming.Stops tail) {nonempty}
    (hends : TokenTest.fitAll [.text separator, .kind .ident] rest = false)
    (h : NamesBehind separator names tokens) :
    ∀ rounds rounds' : Nat, tokens.length < rounds → tokens.length < rounds' →
      Agree tail (tokens ++ rest)
        (manyUpTo (accept [.text separator, .kind .ident] nonempty) rounds)
        (manyUpTo (accept [.text separator, .kind .ident] nonempty) rounds')
        (FindsNames names rest) E := by
  -- each name takes one round, so the bounds fall with the names
  induction h with
  | nil =>
      intro rounds rounds' hrounds hrounds'
      obtain ⟨rounds, rfl⟩ : ∃ k, rounds = k + 1 := ⟨rounds - 1, by omega⟩
      obtain ⟨rounds', rfl⟩ : ∃ k, rounds' = k + 1 := ⟨rounds' - 1, by omega⟩
      have habsent : Agree tail rest (accept [.text separator, .kind .ident] nonempty)
          (accept [.text separator, .kind .ident] nonempty) (Answers none rest) E :=
        agree_accept_absent hstops (isInnerPattern_link separator) hends
      exact habsent.bind_answers (agree_pure ⟨rfl, rfl⟩)
  | @cons name names sep t tokens hsep hname hmore ih =>
      intro rounds rounds' hrounds hrounds'
      obtain ⟨rounds, rfl⟩ : ∃ k, rounds = k + 1 := ⟨rounds - 1, by omega⟩
      obtain ⟨rounds', rfl⟩ : ∃ k, rounds' = k + 1 := ⟨rounds' - 1, by omega⟩
      rw [List.length_cons, List.length_cons] at hrounds hrounds'
      have hfound : Agree tail (sep :: t :: (tokens ++ rest))
          (accept [.text separator, .kind .ident] nonempty)
          (accept [.text separator, .kind .ident] nonempty) (Answers (some t) (tokens ++ rest))
          E := by
        refine agree_accept hstops (isInnerPattern_link separator) (fun _ => ⟨rfl, rfl⟩) ?_
        intro hmiss
        simp [hsep.fits_text, hname.fits_kind] at hmiss
      refine hfound.bind_answers (Agree.map ?_)
      refine (ih rounds rounds' (by omega) (by omega)).weaken_answer ?_
      rintro found after - ⟨hfound, hafter⟩
      refine ⟨?_, hafter⟩
      rw [List.map_cons, hfound, hname.2]

/-- **Names behind separators are found**, up to where none goes on. -/
theorem agree_many_names (hstops : Upcoming.Stops tail) {nonempty}
    (h : NamesBehind separator names tokens)
    (hends : TokenTest.fitAll [.text separator, .kind .ident] rest = false) :
    Agree tail (tokens ++ rest) (many (accept [.text separator, .kind .ident] nonempty))
      (many (accept [.text separator, .kind .ident] nonempty)) (FindsNames names rest) E := by
  have hlen : ∀ n, (tokens ++ rest).length ≤ n → tokens.length < n + 1 := fun n hn =>
    Nat.lt_succ_of_le (Nat.le_trans (List.sublist_append_left tokens rest).length_le hn)
  exact agree_size_bind fun n n' hn hn' =>
    agree_manyUpTo_names hstops hends h (n + 1) (n' + 1) (hlen n hn) (hlen n' hn')

end Names

/-! ### Functions and chains -/

theorem agree_parameters {names : List String} {opening closing : Token}
    (hstops : Upcoming.Stops tail) (hopen : opening.IsPunct "(") (h : NamesListed names tokens)
    (hclose : closing.IsPunct ")") :
    Agree tail (opening :: (tokens ++ closing :: rest)) parameters parameters
      (Answers names rest) E := by
  have hend : ∀ names : List String, Agree tail (closing :: rest)
      (do let _ ← expectOne ")"; pure names) (do let _ ← expectOne ")"; pure names)
      (Answers names rest) E :=
    fun names => (agree_expectOne_punct hstops hclose).bind_answers (agree_answer _ _)
  refine (agree_expectOne_punct hstops hopen).bind_answers ?_
  cases h with
  | nil =>
      have habsent : TokenTest.fitAll [.kind .ident] (closing :: rest) = false := by
        simp [hclose.fits_kind]
      exact (agree_accept_absent hstops (by decide) habsent).bind_answers (hend [])
  | @cons name names t tokens hname hmore =>
      have hfound : Agree tail (t :: (tokens ++ closing :: rest))
          (acceptOne TokenKind.ident) (acceptOne TokenKind.ident)
          (Answers (some t) (tokens ++ closing :: rest)) E := by
        refine agree_accept hstops (by decide) (fun _ => ⟨rfl, rfl⟩) fun hmiss => ?_
        simp [hname.fits_kind] at hmiss
      refine hfound.bind_answers ?_
      refine (agree_many_names hstops hmore ?_).bind ?_
      · simp [hclose.fits_text]
      · rintro found after - ⟨hfound, rfl⟩
        rw [hname.2, hfound]
        exact hend _

/-- A name that may stand there is taken where it does. -/
theorem agree_acceptOne_name {name : Option String} (hstops : Upcoming.Stops tail)
    (h : NameGiven name tokens)
    (hends : name = none → TokenTest.fitAll [.kind .ident] rest = false) :
    Agree tail (tokens ++ rest) (acceptOne TokenKind.ident) (acceptOne TokenKind.ident)
      (fun found after => found.map (·.text) = name ∧ after = rest) E := by
  cases h with
  | none =>
      refine (agree_accept_absent hstops (by decide) (hends rfl)).weaken_answer ?_
      rintro _ _ - ⟨rfl, rfl⟩
      exact ⟨rfl, rfl⟩
  | @some name t hname =>
      refine agree_accept hstops (by decide) (fun _ => ⟨congrArg some hname.2, rfl⟩) fun hmiss => ?_
      simp [hname.fits_kind] at hmiss

/-- **The head of a function is read**, and its body is left. -/
theorem agree_function {head : FunctionHead} (hstops : Upcoming.Stops tail)
    (h : head.Spelled tokens) :
    Agree tail (tokens ++ rest) function function (Answers head.summary rest) E := by
  obtain @⟨name, params, word, opening, closing, brace, given, listed, hword, hname, hopen,
    hparams, hclose, hbrace⟩ := h
  have hassoc : word :: (given ++ opening :: (listed ++ [closing, brace])) ++ rest =
      word :: (given ++ opening :: (listed ++ closing :: brace :: rest)) := by
    simp
  rw [hassoc]
  have hfunction : TokenTest.fits "function" word = true := by simp [hword.fits_text]
  refine (agree_expectOne_fits hstops (by decide) hfunction).bind_answers ?_
  refine (agree_acceptOne_name hstops hname fun _ => by simp [hopen.fits_kind]).bind ?_
  rintro found after - ⟨rfl, rfl⟩
  refine (agree_parameters hstops hopen hparams hclose).bind_answers ?_
  exact (agree_expectOne_punct hstops hbrace).bind_answers (agree_answer _ _)

/-- **A chain is read** up to where it does not go on. -/
theorem agree_chain {c : Chain} (hstops : Upcoming.Stops tail) (h : c.Spelled tokens)
    (hends : TokenTest.fitAll chainLink rest = false) :
    Agree tail (tokens ++ rest) chain chain (Answers c.names rest) E := by
  obtain ⟨first, more⟩ := c
  -- a chain starts with one token, which `test` passes
  have hnames : ∀ {t : Token} {behind : List Token} (test : TokenTest), test.IsInner →
      test.fits t = true → t.text = first → NamesBehind "." more behind →
      Agree tail (t :: (behind ++ rest))
        (do
          let first ← expectOne test
          let more ← many (accept [".", TokenKind.ident])
          pure (first.text :: more.map (·.text)))
        (do
          let first ← expectOne test
          let more ← many (accept [".", TokenKind.ident])
          pure (first.text :: more.map (·.text)))
        (Answers (first :: more) rest) E := by
    intro t behind test hinner hfit htext hmore
    refine (agree_expectOne_fits hstops hinner hfit).bind_answers ?_
    refine (agree_many_names hstops hmore hends).bind ?_
    rintro found after - ⟨rfl, rfl⟩
    rw [htext]
    exact agree_answer _ _
  cases h with
  | @this _ t behind hfirst hmore =>
      have hthis : TokenTest.fits "this" t = true := by simp [hfirst.fits_text]
      exact agree_ite_look_true hstops (by decide) (by simp [hthis])
        (hnames _ (by decide) hthis hfirst.2 hmore)
  | @name _ _ t behind hfirst hmore =>
      cases hthis : TokenTest.fits "this" t with
      | true =>
          exact agree_ite_look_true hstops (by decide) (by simp [hthis])
            (hnames _ (by decide) hthis hfirst.2 hmore)
      | false =>
          have hname : TokenTest.fits TokenKind.ident t = true := by simp [hfirst.fits_kind]
          exact agree_ite_look_false hstops (by decide) (by simp [hthis])
            (hnames _ (by decide) hname hfirst.2 hmore)

theorem agree_extension {ext point extend opening : Token} {base : Chain}
    (hstops : Upcoming.Stops tail) (hext : ext.IsName "Ext") (hpoint : point.IsPunct ".")
    (hextend : extend.IsName "extend") (hopen : opening.IsPunct "(") (hbase : base.Spelled tokens)
    (hends : TokenTest.fitAll chainLink rest = false) :
    Agree tail (ext :: point :: extend :: opening :: (tokens ++ rest)) extension extension
      (Answers (.extension base.names) rest) E := by
  have hcall : Agree tail (ext :: point :: extend :: opening :: (tokens ++ rest))
      (expect ["Ext", ".", "extend", "("]) (expect ["Ext", ".", "extend", "("])
      (Answers opening (tokens ++ rest)) E := by
    refine agree_expect hstops (by decide) (fun _ => ⟨rfl, rfl⟩) fun hmiss => ?_
    simp [hext.fits_text, hpoint.fits_text, hextend.fits_text, hopen.fits_text] at hmiss
  exact hcall.bind_answers ((agree_chain hstops hbase hends).map_answers _)

/-! ### Expressions -/

/-- No literal is found where none starts. -/
theorem agree_literal_absent (hstops : Upcoming.Stops tail) (h : NoneFits literalStarts rest) :
    Agree tail rest literal literal (Answers none rest) E := by
  have hread : ∀ inner inner' : Rule (Option Literal),
      Agree tail rest (literalWith inner) (literalWith inner') (Answers none rest) E := by
    intro inner inner'
    refine agree_peek_bind hstops (Nat.zero_le _) (fun t ht => ?_) fun _ t t' ht ht' => ?_
    · obtain ⟨hlt, rfl⟩ := List.getElem?_eq_some_iff.1 ht
      obtain ⟨t, more, rfl⟩ := List.exists_cons_of_length_pos hlt
      simp only [NoneFits, literalStarts, List.forall_mem_cons, TokenTest.fitAll_cons_cons,
        TokenTest.fitAll_nil, Bool.and_true, TokenTest.fits_kind, decide_eq_false_iff_not] at h
      obtain ⟨hstring, hnumber, hregex, hident, harray, hobject, -⟩ := h
      have hkind : t.kind.scalarKind? = none := by
        unfold TokenKind.scalarKind?
        split <;> simp_all
      rw [List.getElem_cons_zero]
      simp only [hkind, harray, hobject, Bool.false_eq_true, if_false]
      exact agree_answer _ _
    · have hopen : ∀ {t : Token}, t.IsStop →
          TokenTest.fits "[" t = false ∧ TokenTest.fits "\x7b" t = false := fun ht =>
        ⟨TokenTest.IsInner.fits_eq_false (by decide) ht,
          TokenTest.IsInner.fits_eq_false (by decide) ht⟩
      simp only [scalarKind?_of_isStop ht, scalarKind?_of_isStop ht', hopen ht, hopen ht',
        Bool.false_eq_true, if_false]
      exact agree_answer _ _
  exact agree_size_bind fun n n' _ _ => hread (literalWithin n) (literalWithin n')

/-- A sentence starts with a scalar, which then is all of it, or with a bracket. -/
theorem exists_head_of_sentence {l : Literal} (h : l.Sentence tokens) :
    ∃ t more, tokens = t :: more ∧ t.kind ≠ .keyword ∧
      (t.kind = .ident → more = [] ∧ l = .scalar .ident t.text t.line) := by
  cases h with
  | @scalar t kind hkind =>
      refine ⟨t, [], rfl, fun hkeyword => ?_, fun hident => ⟨rfl, ?_⟩⟩
      · rw [hkeyword] at hkind
        exact absurd hkind (by simp [TokenKind.scalarKind?])
      · rw [hident] at hkind
        rw [← Option.some.inj hkind]
  | array hopen =>
      refine ⟨_, _, rfl, ?_, ?_⟩ <;> simp [hopen.1]
  | object hopen =>
      refine ⟨_, _, rfl, ?_, ?_⟩ <;> simp [hopen.1]

theorem agree_literalExpression {found : Option Literal}
    (h : Agree tail tokens literal literal (Answers found rest) E) :
    Agree tail tokens literalExpression literalExpression
      (Answers (found.map Summary.literal) rest) E :=
  h.bind_answers (agree_answer _ _)

/-- Neither a function nor an extended class is in front of a literal. -/
theorem agree_expression_of_literal {found : Option Literal} (hstops : Upcoming.Stops tail)
    (hfunction : TokenTest.fitAll ["function"] tokens = false)
    (hextend : TokenTest.fitAll ["Ext", ".", "extend", "("] tokens = false)
    (h : Agree tail tokens literal literal (Answers found rest) E) :
    Agree tail tokens expression expression (Answers (found.map Summary.literal) rest) E :=
  agree_ite_look_false hstops (by decide) hfunction
    (agree_ite_look_false hstops (by decide) hextend (agree_literalExpression h))

/-- **An expression is read** up to where it does not go on. -/
theorem agree_expression {e : Expression} (hstops : Upcoming.Stops tail) (h : e.Spelled tokens)
    (hwell : ∀ t ∈ tokens ++ rest, t.WellKinded) (hends : NoneFits e.extensions rest) :
    Agree tail (tokens ++ rest) expression expression (Answers e.summary? rest) E := by
  cases h with
  | @function head tokens h =>
      have hfunction : TokenTest.fitAll ["function"] (tokens ++ rest) = true := by
        cases h with
        | mk hword => simp [hword.fits_text]
      exact agree_ite_look_true hstops (by decide) hfunction
        ((agree_function hstops h).map_answers some)
  | @extension ext point extend opening base tokens hext hpoint hextend hopen hbase =>
      have hend := hends chainLink List.mem_cons_self
      refine agree_ite_look_false hstops (by decide) (by simp [hext.fits_text]) ?_
      refine agree_ite_look_true hstops (by decide) (by
        simp [hext.fits_text, hpoint.fits_text, hextend.fits_text, hopen.fits_text]) ?_
      exact (agree_extension hstops hext hpoint hextend hopen hbase hend).map_answers some
  | @literal l tokens h =>
      obtain ⟨t, more, rfl, hkeyword, hident⟩ := exists_head_of_sentence h
      have ht : t.WellKinded := hwell t (by simp)
      have hfunction : TokenTest.fits "function" t = false :=
        ht.fits_eq_false (by decide) hkeyword
      refine agree_expression_of_literal hstops (by simp [hfunction]) ?_
        (agree_sentence h rest)
      cases hext : TokenTest.fits "Ext" t with
      | false => simp [hext]
      | true =>
          -- the name itself, behind which nothing extends a class
          obtain ⟨rfl, rfl⟩ := hident (ht "Ext" (by decide) hext)
          have htext : t.text = "Ext" := by
            simpa [TokenTest.fits_text] using (Bool.and_eq_true_iff.1 hext).2
          have hend := hends [".", "extend", "("] (by simp [Expression.extensions, htext])
          rw [List.singleton_append, TokenTest.fitAll_cons_cons, hend, Bool.and_false]
  | absent =>
      have hfunction := hends ["function"] List.mem_cons_self
      have hstarts : NoneFits literalStarts rest := fun pattern hpattern =>
        hends pattern (List.mem_cons_of_mem _ hpattern)
      have hextend : TokenTest.fitAll ["Ext", ".", "extend", "("] rest = false := by
        cases rest with
        | nil => rfl
        | cons t more =>
            have ht : t.WellKinded := hwell t (by simp)
            have hname := hstarts [TokenKind.ident] (by decide)
            rw [TokenTest.fitAll_cons_cons, TokenTest.fitAll_nil, Bool.and_true,
              TokenTest.fits_kind, decide_eq_false_iff_not] at hname
            have hext : TokenTest.fits "Ext" t = false := ht.fits_eq_false (by decide) hname
            rw [TokenTest.fitAll_cons_cons, hext, Bool.false_and]
      exact agree_expression_of_literal hstops hfunction hextend
        (agree_literal_absent hstops hstarts)

/-! ### Assignments and properties -/

/-- **A target is read with what stands behind its equals sign**, if there is one. -/
theorem agree_assignment {target : Chain} {value : Option Expression} (hstops : Upcoming.Stops tail)
    (h : (Block.assignment false target value).Spelled tokens)
    (hwell : ∀ t ∈ tokens ++ rest, t.WellKinded)
    (hends : NoneFits (Block.assignment true target value).extensions rest) :
    Agree tail (tokens ++ rest) assignment assignment
      (Answers (Block.assignment true target value).summary rest) E := by
  cases h with
  | target htarget =>
      have hchain := hends chainLink List.mem_cons_self
      have hequals := hends ["="] (List.mem_cons_of_mem _ List.mem_cons_self)
      refine (agree_chain hstops htarget hchain).bind_answers ?_
      exact (agree_accept_absent hstops (by decide) hequals).bind_answers (agree_answer _ _)
  | @assignment target value equals left right htarget hequals hvalue =>
      rw [List.append_assoc, List.cons_append] at hwell ⊢
      refine (agree_chain hstops htarget (by simp [chainLink, hequals.fits_text])).bind_answers ?_
      refine (agree_acceptOne_punct hstops hequals).bind_answers ?_
      have hright : ∀ t ∈ right ++ rest, t.WellKinded := fun t ht =>
        hwell t (List.mem_append_right _ (List.mem_cons_of_mem _ ht))
      exact (agree_expression hstops hvalue hright hends).map_answers _

/-- **A property is read** with what stands behind its colon. -/
theorem agree_property_spelled {key : String} {value : Expression} (hstops : Upcoming.Stops tail)
    (h : (Block.property false key value).Spelled tokens)
    (hwell : ∀ t ∈ tokens ++ rest, t.WellKinded) (hends : NoneFits value.extensions rest) :
    Agree tail (tokens ++ rest) property property
      (Answers (Block.property false key value).summary rest) E := by
  cases h with
  | @property keyToken colon _ _ tokens hkey hcolon hvalue =>
      have hright : ∀ t ∈ tokens ++ rest, t.WellKinded := fun t ht =>
        hwell t (List.mem_cons_of_mem _ (List.mem_cons_of_mem _ ht))
      refine (agree_next (Q := Answers keyToken (colon :: (tokens ++ rest))) hstops
        ⟨rfl, rfl⟩).bind_answers ?_
      refine (agree_expectOne_punct hstops hcolon).bind_answers ?_
      rw [hkey.2]
      exact (agree_expression hstops hvalue hright hends).map_answers _

end Rule

end DocComments
