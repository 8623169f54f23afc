import DocComments.Proofs.CodeBlockParts

/-!
# Code blocks are recognised completely

In front of the tokens of a tree, and of tokens that would not go on with it, the rule for code
blocks answers with the summary of the tree and leaves exactly what follows
(`Rule.codeBlock_of_spelled`).

Two things are not in the rules for the parts.  Which alternative is taken is told by the patterns
alone, so it is a fact about lists of tokens (`Rule.chosen?`).  And a chain may start like the call
that defines a class; that it is none is what `fitAll_callEnd` says.
-/

namespace DocComments

/-! ### Targets and the calls that define a class -/

/-- The end of the pattern for a call: the names behind points, and what opens the call. -/
def callEnd : List String → List TokenTest
  | [] => ["(", TokenKind.string]
  | name :: names => "." :: name :: callEnd names

/-- **A chain is called** only where it has the names of the call and the call opens behind it. -/
theorem fitAll_callEnd {names called : List String} {tokens rest : List Token}
    (h : NamesBehind "." names tokens) (hwell : ∀ t ∈ rest, t.WellKinded)
    (hends : TokenTest.fitAll chainLink rest = false)
    (hcalled : ∀ name ∈ called, name ∈ tellingTexts ∧ kindOfText name.toList = .ident)
    (hfit : TokenTest.fitAll (callEnd called) (tokens ++ rest) = true) :
    names = called ∧ TokenTest.fitAll ["(", TokenKind.string] rest = true := by
  induction called generalizing names tokens with
  | nil =>
      cases h with
      | nil => exact ⟨rfl, hfit⟩
      | cons hsep => simp [callEnd, hsep.fits_text] at hfit
  | cons name called ih =>
      rw [callEnd] at hfit
      obtain ⟨hname, hothers⟩ := List.forall_mem_cons.1 hcalled
      cases h with
      | nil =>
          -- the next two tokens are a point and a name, which would go on with the chain
          match rest, hfit with
          | [], hfit => simp at hfit
          | [_], hfit => simp at hfit
          | point :: t :: rest, hfit =>
              simp only [List.nil_append, TokenTest.fitAll_cons_cons, Bool.and_eq_true] at hfit
              obtain ⟨hpoint, ht, -⟩ := hfit
              have hkind : t.kind = .ident := by
                rw [hwell t (by simp) name hname.1 ht, hname.2]
              simp [chainLink, hpoint, TokenTest.fits_kind, hkind] at hends
      | @cons first names sep t tokens hsep hfirst hmore =>
          simp only [List.cons_append, TokenTest.fitAll_cons_cons, Bool.and_eq_true,
            hfirst.fits_text, decide_eq_true_eq] at hfit
          obtain ⟨-, rfl, hfit⟩ := hfit
          obtain ⟨rfl, hopen⟩ := ih hmore hothers hfit
          exact ⟨rfl, hopen⟩

/-- **What is no call that defines a class is none for the patterns either.** -/
theorem fitAll_definition {target : Chain} {tokens rest : List Token} {called : List String}
    (h : target.Spelled tokens) (hwell : ∀ t ∈ rest, t.WellKinded)
    (hends : TokenTest.fitAll chainLink rest = false) (hrivals : NoneFits target.rivals rest)
    (hcalled : called = ["define"] ∨ called = ["ClassManager", "create"]) :
    TokenTest.fitAll ("Ext" :: callEnd called) (tokens ++ rest) = false := by
  have hdefining : "Ext" :: called ∈ definingCalls := by
    rcases hcalled with rfl | rfl <;> decide
  have hnames : ∀ name ∈ called, name ∈ tellingTexts ∧ kindOfText name.toList = .ident := by
    rcases hcalled with rfl | rfl <;> decide
  cases h with
  | this hfirst => simp [hfirst.fits_text]
  | @name first more t tokens hfirst hmore =>
      rw [List.cons_append, TokenTest.fitAll_cons_cons, hfirst.fits_text, Bool.and_eq_false_iff,
        decide_eq_false_iff_not]
      by_cases hext : first = "Ext"
      · refine .inr (Bool.eq_false_iff.2 fun hfit => ?_)
        obtain ⟨rfl, hopen⟩ := fitAll_callEnd hmore hwell hends hnames hfit
        have hrival : TokenTest.fitAll ["(", TokenKind.string] rest = false := by
          apply hrivals
          rw [Chain.rivals, Chain.names, hext, if_pos hdefining]
          exact List.mem_singleton_self _
        rw [hrival] at hopen
        exact absurd hopen Bool.false_ne_true
      · exact .inl hext

/-- Nothing rivals a target with an equals sign. -/
theorem noneFits_rivals {equals : Token} (h : equals.IsPunct "=") (target : Chain)
    (more : List Token) : NoneFits target.rivals (equals :: more) := by
  intro pattern hpattern
  unfold Chain.rivals at hpattern
  split at hpattern
  · rw [List.mem_singleton.1 hpattern]
    simp [h.fits_text]
  split at hpattern
  · rw [List.mem_singleton.1 hpattern]
    simp [h.fits_text]
  · exact absurd hpattern List.not_mem_nil

namespace Rule

open TokenSource

variable {tail : Upcoming} {tokens rest : List Token} {E : List TokenTest → List Token → Prop}

/-- **A target that is not declared is an assignment**, unless a rival goes on with it. -/
theorem chosen?_target {target : Chain} (h : target.Spelled tokens)
    (hwell : ∀ t ∈ tokens ++ rest, t.WellKinded)
    (hends : TokenTest.fitAll chainLink rest = false) (hrivals : NoneFits target.rivals rest) :
    chosen? (tokens ++ rest) alternatives =
      some ([[.kind .ident], [.text "this"]], assignment) := by
  have hrest : ∀ t ∈ rest, t.WellKinded := fun t ht => hwell t (List.mem_append_right _ ht)
  have hdefine := fitAll_definition h hrest hends hrivals (.inl rfl)
  have hcreate := fitAll_definition h hrest hends hrivals (.inr rfl)
  simp only [callEnd] at hdefine hcreate
  cases h with
  | this hfirst =>
      simp [chosen?, alternatives, hfirst.fits_text, hfirst.fits_kind]
  | @name first more t tokens hfirst hmore =>
      have ht : t.WellKinded := hwell t (by simp)
      have hkind : ∀ text ∈ tellingTexts, kindOfText text.toList ≠ .ident →
          TokenTest.fits (.text text) t = false := by
        intro text htext hkind
        exact ht.fits_eq_false htext (by rw [hfirst.1]; exact hkind.symm)
      have hfunction := hkind "function" (by decide) (by decide)
      have hvar := hkind "var" (by decide) (by decide)
      have hcomma := hkind "," (by decide) (by decide)
      have hthis := hkind "this" (by decide) (by decide)
      have hcolon : TokenTest.fitAll [":"] (tokens ++ rest) = false := by
        cases hmore with
        | nil =>
            apply hrivals
            have hfirstThis : first ≠ "this" := by
              simpa [hfirst.fits_text] using hthis
            have hcall : Chain.names ⟨first, []⟩ ∉ definingCalls := by
              simp [Chain.names, definingCalls]
            rw [Chain.rivals, if_neg hcall, if_pos ⟨rfl, hfirstThis⟩]
            exact List.mem_singleton_self _
        | cons hsep => simp [hsep.fits_text]
      rw [List.cons_append, TokenTest.fitAll_cons_cons] at hdefine hcreate
      simp [chosen?, alternatives, hdefine, hcreate, hfunction, hvar, hcomma,
        hfirst.fits_kind, hcolon]

theorem chosen?_function {word : Token} (hword : word.IsWord "function") (more : List Token) :
    chosen? (word :: more) alternatives = some ([[.text "function"]], function) := by
  simp [chosen?, alternatives, hword.fits_text]

theorem chosen?_declared {word : Token} (hword : word.IsWord "var") (more : List Token) :
    chosen? (word :: more) alternatives = some ([[.text "var"]], variableDeclaration) := by
  simp [chosen?, alternatives, hword.fits_text]

theorem chosen?_property {key colon : Token} (hkey : key.kind = .ident ∨ key.kind = .string)
    (hwell : key.WellKinded) (hcolon : colon.IsPunct ":") (more : List Token) :
    chosen? (key :: colon :: more) alternatives =
      some ([[.kind .ident, .text ":"], [.kind .string, .text ":"]], property) := by
  have hword : ∀ text ∈ tellingTexts, kindOfText text.toList = .keyword →
      TokenTest.fits (.text text) key = false := by
    intro text htext hkeyword
    apply hwell.fits_eq_false htext
    rcases hkey with hkey | hkey <;> simp [hkey, hkeyword]
  have hfunction := hword "function" (by decide) (by decide)
  have hvar := hword "var" (by decide) (by decide)
  rcases hkey with hkey | hkey <;>
    simp [chosen?, alternatives, hfunction, hvar, hcolon.fits_text, TokenTest.fits_kind, hkey]

theorem chosen?_continued {comma key colon : Token} (hcomma : comma.IsPunct ",")
    (hkey : key.kind = .ident ∨ key.kind = .string) (hcolon : colon.IsPunct ":")
    (more : List Token) :
    chosen? (comma :: key :: colon :: more) alternatives =
      some ([[.text ",", .kind .ident, .text ":"], [.text ",", .kind .string, .text ":"]],
        continuedProperty) := by
  rcases hkey with hkey | hkey <;>
    simp [chosen?, alternatives, hcomma.fits_text, hcomma.fits_kind, hcolon.fits_text,
      TokenTest.fits_kind, hkey]

/-- The alternative that is chosen tells the code block. -/
theorem agree_codeBlock_of_chosen {patterns : List (List TokenTest)} {rule : Rule Summary}
    {Q : Summary → List Token → Prop} (hstops : Upcoming.Stops tail)
    (hchosen : chosen? tokens alternatives = some (patterns, rule))
    (h : Agree tail tokens rule rule Q E) : Agree tail tokens codeBlock codeBlock Q E := by
  apply agree_firstAlternative hstops alternatives isInnerPattern_of_mem_alternatives
  · intro patterns' rule' hchosen'
    obtain ⟨-, rfl⟩ := Prod.mk.inj (Option.some.inj (hchosen.symm.trans hchosen'))
    exact h
  · intro hnone
    rw [hchosen] at hnone
    exact absurd hnone (by simp)

/-! ### Code blocks -/

/-- **A code block is read** up to where it does not go on. -/
theorem agree_codeBlock_spelled {block : Block} (hstops : Upcoming.Stops tail)
    (h : block.Spelled tokens) (hwell : ∀ t ∈ tokens ++ rest, t.WellKinded)
    (hends : NoneFits block.extensions rest) :
    Agree tail (tokens ++ rest) codeBlock codeBlock (Answers block.summary rest) E := by
  have hwhole := h
  cases h with
  | @function head tokens h =>
      have hchosen : chosen? (tokens ++ rest) alternatives =
          some ([[.text "function"]], function) := by
        cases h with
        | mk hword => exact chosen?_function hword _
      exact agree_codeBlock_of_chosen hstops hchosen (agree_function hstops h)
  | @target target tokens htarget =>
      have hlink := hends chainLink List.mem_cons_self
      have hrivals : NoneFits target.rivals rest := fun pattern hpattern =>
        hends pattern (List.mem_cons_of_mem _ (List.mem_cons_of_mem _ hpattern))
      have hdeclared : NoneFits [chainLink, ["="]] rest := by
        intro pattern hpattern
        apply hends pattern
        rcases List.mem_pair.1 hpattern with rfl | rfl
        · exact List.mem_cons_self
        · exact List.mem_cons_of_mem _ List.mem_cons_self
      exact agree_codeBlock_of_chosen hstops (chosen?_target htarget hwell hlink hrivals)
        (agree_assignment hstops hwhole hwell hdeclared)
  | @assignment target value equals left right htarget hequals hvalue =>
      have hassoc : left ++ equals :: right ++ rest = left ++ equals :: (right ++ rest) := by simp
      have hlink : TokenTest.fitAll chainLink (equals :: (right ++ rest)) = false := by
        simp [chainLink, hequals.fits_text]
      have hrivals := noneFits_rivals hequals target (right ++ rest)
      have hchosen := chosen?_target htarget (hassoc ▸ hwell) hlink hrivals
      rw [← hassoc] at hchosen
      exact agree_codeBlock_of_chosen hstops hchosen (agree_assignment hstops hwhole hwell hends)
  | @declared word target value tokens hword h =>
      have hvar : TokenTest.fits "var" word = true := by simp [hword.fits_text]
      refine agree_codeBlock_of_chosen hstops (chosen?_declared hword _) ?_
      refine (agree_expectOne_fits hstops (by decide) hvar).bind_answers ?_
      exact agree_assignment hstops h (fun t ht => hwell t (List.mem_cons_of_mem _ ht)) hends
  | @property keyToken colon key value tokens hkey hcolon hvalue =>
      have hchosen := chosen?_property hkey.1 (hwell keyToken List.mem_cons_self) hcolon
        (tokens ++ rest)
      exact agree_codeBlock_of_chosen hstops hchosen
        (agree_property_spelled hstops hwhole hwell hends)
  | @continued comma key value tokens hcomma h =>
      have hchosen : chosen? (comma :: (tokens ++ rest)) alternatives =
          some ([[.text ",", .kind .ident, .text ":"], [.text ",", .kind .string, .text ":"]],
            continuedProperty) := by
        cases h with
        | property hkey hcolon => exact chosen?_continued hcomma hkey.1 hcolon _
      refine agree_codeBlock_of_chosen hstops hchosen ?_
      refine (agree_expectOne_punct hstops hcomma).bind_answers ?_
      exact agree_property_spelled hstops h (fun t ht => hwell t (List.mem_cons_of_mem _ ht)) hends
  | @string t text hkind htext =>
      have hplain : ∀ s : String, TokenTest.fits (.text s) t = false := fun s => by
        rw [TokenTest.fits_text, hkind]
        rfl
      have hcolon := hends [":"] List.mem_cons_self
      have hchosen : chosen? (t :: rest) alternatives =
          some ([[.kind .string]], stringDeclaration) := by
        simp [chosen?, alternatives, hplain, TokenTest.fits_kind, hkind, hcolon]
      have hstring : TokenTest.fits TokenKind.string t = true := by
        simp [TokenTest.fits_kind, hkind]
      refine agree_codeBlock_of_chosen hstops hchosen ?_
      refine (agree_expectOne_fits hstops (by decide) hstring).bind_answers ?_
      rw [htext]
      exact agree_answer _ _

/-- **Code blocks are recognised completely and taken exactly.**  In front of the tokens of a tree,
and of tokens that would not go on with it, the rule answers with the summary of the tree and
leaves what follows. -/
theorem codeBlock_of_spelled {s : TokenSource} {block : Block} {tokens rest : List Token}
    (hs : s.upcoming = (tokens ++ rest).map .ok) (hwell : ∀ t ∈ tokens ++ rest, t.WellKinded)
    (h : block.Spelled tokens) (hends : NoneFits block.extensions rest) :
    ∃ s', codeBlock s = .ok block.summary s' ∧ s'.upcoming = rest.map .ok := by
  -- rules stop at the first doc-comment of what follows, so what follows is cut there
  obtain ⟨near, tail, hcut, hstops⟩ := Upcoming.exists_cut (rest.map .ok)
  obtain ⟨front, behind, rfl, hfront, rfl⟩ := List.map_eq_append_iff.1 hcut
  obtain rfl : front = near := (List.map_inj_right fun _ _ => Except.ok.inj).1 hfront
  have hnear : NoneFits block.extensions front := by
    intro pattern hpattern
    cases hfit : TokenTest.fitAll pattern front with
    | false => rfl
    | true =>
        have hmiss := hends pattern hpattern
        rw [TokenTest.fitAll_append hfit behind] at hmiss
        exact absurd hmiss (by decide)
  have hwell' : ∀ t ∈ tokens ++ front, t.WellKinded := by
    intro t ht
    apply hwell t
    rw [← List.append_assoc]
    exact List.mem_append_left behind ht
  have hsource : CutBefore (behind.map .ok) (tokens ++ front) s (ofTokens (tokens ++ front)) := by
    refine ⟨?_, upcoming_ofTokens _⟩
    rw [hs, ← List.append_assoc, List.map_append]
  have houtcome := agree_codeBlock_spelled (E := fun _ _ => False) hstops h hwell' hnear hsource
  generalize codeBlock s = result at houtcome ⊢
  generalize codeBlock (ofTokens (tokens ++ front)) = result' at houtcome
  cases houtcome with
  | answer hleft _ hanswer =>
      obtain ⟨rfl, rfl⟩ := hanswer
      exact ⟨_, rfl, by rw [hleft.whole, List.map_append]⟩
  | mismatch _ _ _ hmismatch => exact hmismatch.elim
  | unterminated htail =>
      obtain ⟨t, _, ht⟩ := List.map_eq_cons_iff.1 htail
      exact absurd ht.2.1 (by simp)

/-- A chain with an extended class, in front of what is left of the call. -/
theorem codeBlock_of_spelled_extension :
    let tokens : List Token :=
      [⟨.ident, "A", 1, 1⟩, ⟨.punct, ".", 1, 2⟩, ⟨.ident, "B", 1, 3⟩, ⟨.punct, "=", 1, 5⟩,
        ⟨.ident, "Ext", 1, 7⟩, ⟨.punct, ".", 1, 10⟩, ⟨.ident, "extend", 1, 11⟩,
        ⟨.punct, "(", 1, 17⟩, ⟨.ident, "C", 1, 18⟩]
    let rest : List Token := [⟨.punct, ",", 1, 19⟩, ⟨.punct, "\x7b", 1, 21⟩]
    let source := TokenSource.ofString "A.B = Ext.extend(C, \x7b"
    let block : Block := .assignment false ⟨"A", ["B"]⟩ (some (.extension ⟨"C", []⟩))
    source.upcoming = (tokens ++ rest).map .ok ∧ (∀ t ∈ tokens ++ rest, t.WellKinded) ∧
      block.Spelled tokens ∧ NoneFits block.extensions rest ∧
      ∃ s', codeBlock source = .ok (.assignment ["A", "B"] (some (.extension ["C"]))) s' ∧
        s'.upcoming = rest.map .ok := by
  intro tokens rest source block
  have htokens : tokenize "A.B = Ext.extend(C, \x7b" = .ok (tokens ++ rest) := by decide +kernel
  have hs : source.upcoming = (tokens ++ rest).map .ok := by
    have hview := tokenize_view "A.B = Ext.extend(C, \x7b"
    rw [htokens] at hview
    exact hview
  have hwell : ∀ t ∈ tokens ++ rest, t.WellKinded := fun t ht =>
    wellKinded_of_mem_upcoming (hs ▸ List.mem_map_of_mem ht)
  have htarget : Chain.Spelled ⟨"A", ["B"]⟩ (tokens.take 3) :=
    .name ⟨rfl, rfl⟩ (.cons ⟨rfl, rfl⟩ ⟨rfl, rfl⟩ .nil)
  have hbase : Chain.Spelled ⟨"C", []⟩ (tokens.drop 8) := .name ⟨rfl, rfl⟩ .nil
  have hspelled : block.Spelled tokens :=
    .assignment htarget ⟨rfl, rfl⟩ (.extension ⟨rfl, rfl⟩ ⟨rfl, rfl⟩ ⟨rfl, rfl⟩ ⟨rfl, rfl⟩ hbase)
  have hends : NoneFits block.extensions rest := by
    intro pattern hpattern
    rw [List.mem_singleton.1 hpattern]
    decide
  exact ⟨hs, hwell, hspelled, hends, codeBlock_of_spelled hs hwell hspelled hends⟩

end Rule

end DocComments
