import DocComments.Proofs.Lookahead

/-!
# Rules on a source that is cut off

A doc-comment, the end of a source and a construct left open look alike to a rule: it stops in
front of them.  This file makes that precise and gives the calculus in which it is proved of
each grammar.

`TokenSource.CutBefore tail tokens s s'` says that `s` has `tokens` to come and `tail` behind
them, while `s'` has `tokens` and nothing else.  `Rule.Agree` relates a rule on `s` to a rule
on `s'`: both answer the same, or both meet a mismatch with the same pattern, and what is left
of `tokens` is the same on both sides.  Only where a construct left open opens `tail` may the
first one fail on its own.  The two sides may be different rules, which is what the bounds on
repetition and depth need: they are taken from what is to come, and so differ.

The judgement carries a postcondition for answers and one for mismatches, both about the tokens
left.  On a source without a tail it is the usual triple of a program logic, so what a rule
answers is proved in the same calculus.

What is load-bearing is the hypothesis `TokenTest.IsInner` on patterns: a pattern that asks for
a doc-comment or for the end would tell the two sources apart.
-/

namespace DocComments

variable {α β : Type}

/-! ### Patterns on a list of tokens -/

namespace TokenTest

/-- The tokens start with ones that fit the pattern. -/
def fitAll : List TokenTest → List Token → Bool
  | [], _ => true
  | _ :: _, [] => false
  | test :: pattern, t :: tokens => test.fits t && fitAll pattern tokens

@[simp] theorem fitAll_nil (tokens : List Token) : fitAll [] tokens = true := rfl

@[simp] theorem fitAll_cons_nil (test : TokenTest) (pattern : List TokenTest) :
    fitAll (test :: pattern) [] = false := rfl

@[simp] theorem fitAll_cons_cons (test : TokenTest) (pattern : List TokenTest) (t : Token)
    (tokens : List Token) :
    fitAll (test :: pattern) (t :: tokens) = (test.fits t && fitAll pattern tokens) := rfl

theorem exists_of_fitAll_cons {test : TokenTest} {pattern : List TokenTest} {tokens : List Token}
    (h : fitAll (test :: pattern) tokens = true) :
    ∃ t more, tokens = t :: more ∧ test.fits t = true ∧ fitAll pattern more = true := by
  cases tokens with
  | nil => exact absurd h (by simp)
  | cons t more =>
      rw [fitAll_cons_cons, Bool.and_eq_true] at h
      exact ⟨t, more, rfl, h⟩

theorem length_le_of_fitAll {pattern : List TokenTest} {tokens : List Token}
    (h : fitAll pattern tokens = true) : pattern.length ≤ tokens.length := by
  induction pattern generalizing tokens with
  | nil => simp
  | cons test pattern ih =>
      cases tokens with
      | nil => simp at h
      | cons t tokens =>
          rw [fitAll_cons_cons, Bool.and_eq_true] at h
          exact Nat.succ_le_succ (ih h.2)

/-- What fits a part fits the whole. -/
theorem fitAll_append {pattern : List TokenTest} {front : List Token}
    (h : fitAll pattern front = true) (behind : List Token) :
    fitAll pattern (front ++ behind) = true := by
  induction pattern generalizing front with
  | nil => rfl
  | cons test pattern ih =>
      cases front with
      | nil => exact absurd h (by simp)
      | cons t front =>
          rw [fitAll_cons_cons, Bool.and_eq_true] at h
          rw [List.cons_append, fitAll_cons_cons, h.1, ih h.2, Bool.true_and]

theorem pred_length_lt_of_fitAll {pattern : List TokenTest} {tokens : List Token}
    (nonempty : pattern ≠ []) (h : fitAll pattern tokens = true) :
    pattern.length - 1 < tokens.length := by
  have hlen := length_le_of_fitAll h
  have hpos := List.length_pos_iff.2 nonempty
  omega

/-- The last of the tokens that fit a pattern. -/
def lastFit {pattern : List TokenTest} {tokens : List Token}
    (nonempty : pattern ≠ []) (h : fitAll pattern tokens = true) : Token :=
  tokens.get ⟨pattern.length - 1, pred_length_lt_of_fitAll nonempty h⟩

/-- The test asks neither for a doc-comment nor for the end of the source. -/
def IsInner (test : TokenTest) : Prop :=
  test ≠ kind .docComment ∧ test ≠ kind .endOfInput

instance (test : TokenTest) : Decidable test.IsInner :=
  inferInstanceAs (Decidable (_ ∧ _))

end TokenTest

/-- Every test of the pattern is inner. -/
def IsInnerPattern (pattern : List TokenTest) : Prop :=
  ∀ test ∈ pattern, test.IsInner

instance (pattern : List TokenTest) : Decidable (IsInnerPattern pattern) :=
  inferInstanceAs (Decidable (∀ test ∈ pattern, test.IsInner))

theorem isInnerPattern_text (text : String) : IsInnerPattern [.text text] := by
  intro test htest
  rw [List.mem_singleton.1 htest]
  exact ⟨nofun, nofun⟩

/-- A rule never goes beyond this token: a doc-comment, or the end of the source. -/
def Token.IsStop (t : Token) : Prop :=
  t.kind = .docComment ∨ t.kind = .endOfInput

theorem TokenTest.IsInner.fits_eq_false {test : TokenTest} (h : test.IsInner) {t : Token}
    (ht : t.IsStop) : test.fits t = false := by
  obtain ⟨hdoc, hend⟩ := h
  cases test with
  | kind k => rcases ht with ht | ht <;> simp_all [TokenTest.fits, eq_comm]
  | text s => rcases ht with ht | ht <;> simp [TokenTest.fits, ht, TokenKind.hasPlainText]

/-! ### Cutting a source off -/

/-- What is to come starts with a doc-comment or with a construct left open, or is nothing. -/
def Upcoming.Stops (tail : Upcoming) : Prop :=
  ∀ t more, tail = .ok t :: more → t.kind = .docComment

theorem Upcoming.stops_nil : Upcoming.Stops [] :=
  nofun

/-- What is to come can be cut at the first place where rules stop. -/
theorem Upcoming.exists_cut (u : Upcoming) :
    ∃ (tokens : List Token) (tail : Upcoming), u = tokens.map .ok ++ tail ∧ tail.Stops := by
  induction u with
  | nil => exact ⟨[], [], rfl, stops_nil⟩
  | cons first more ih =>
      cases first with
      | error e => exact ⟨[], .error e :: more, rfl, fun _ _ h => absurd h (by simp)⟩
      | ok t =>
          by_cases hdoc : t.kind = .docComment
          · refine ⟨[], .ok t :: more, rfl, fun t' more' h => ?_⟩
            obtain rfl := Except.ok.inj (List.cons.inj h).1
            exact hdoc
          · obtain ⟨tokens, tail, rfl, hstops⟩ := ih
            exact ⟨t :: tokens, tail, rfl, hstops⟩

namespace TokenSource

/-- **The second source is the first one cut off** before `tail`. -/
structure CutBefore (tail : Upcoming) (tokens : List Token) (s s' : TokenSource) : Prop where
  /-- The first source goes on with `tail`. -/
  whole : s.upcoming = tokens.map .ok ++ tail
  /-- The second one ends. -/
  cut : s'.upcoming = tokens.map .ok

variable {tail : Upcoming} {tokens : List Token} {s s' : TokenSource}

/-- **What two looks at the same place see**: the same token, two tokens at which rules stop,
or a construct left open in the whole source. -/
inductive Looks (tail : Upcoming) (tokens : List Token) (n : Nat) (s s' : TokenSource) : Prop where
  | within (t : Token) (u u' : TokenSource) (ht : tokens[n]? = some t)
      (hs : peek n s = .ok t u) (hs' : peek n s' = .ok t u') (hcut : CutBefore tail tokens u u')
      (hahead : n < u.ahead.length) (hahead' : n < u'.ahead.length)
  | stopped (t t' : Token) (u u' : TokenSource) (hn : n = tokens.length) (ht : t.IsStop)
      (ht' : t'.IsStop) (hs : peek n s = .ok t u) (hs' : peek n s' = .ok t' u')
      (hcut : CutBefore tail tokens u u')
  | broken (e : Unterminated) (more : Upcoming) (u : TokenSource) (htail : tail = .error e :: more)
      (hs : peek n s = .error (.unterminated e) u)

/-- No look goes beyond the end of the tokens that both sources have. -/
theorem CutBefore.looks (hcut : CutBefore tail tokens s s') (hstops : Upcoming.Stops tail)
    {n : Nat} (hn : n ≤ tokens.length) : Looks tail tokens n s s' := by
  have hview := s.peek_view n
  have hview' := s'.peek_view n
  rw [hcut.whole] at hview
  rw [hcut.cut] at hview'
  rcases Nat.lt_or_eq_of_le hn with hlt | rfl
  · -- a token that both sources have
    rw [lookAt_of_lt hlt] at hview
    rw [← List.append_nil (tokens.map Except.ok), lookAt_of_lt hlt] at hview'
    obtain ⟨u, hs, hu, hreach⟩ := hview
    obtain ⟨u', hs', hu', hreach'⟩ := hview'
    refine .within tokens[n] u u' (List.getElem?_eq_getElem hlt) hs hs'
      ⟨hu, by simpa using hu'⟩ ?_ ?_
    · rw [Reached, size_eq_length_upcoming, hu, List.length_append, List.length_map] at hreach
      omega
    · rw [Reached, size_eq_length_upcoming, hu', List.length_append, List.length_map] at hreach'
      omega
  · -- the first place behind them: the second source ends there, the first one has `tail`
    have hend := lookAt_map_ok_append s'.endToken tokens [] 0
    rw [List.append_nil, Nat.add_zero, lookAt_nil] at hend
    rw [← Nat.add_zero tokens.length, lookAt_map_ok_append] at hview
    rw [hend] at hview'
    obtain ⟨u', hs', hu', -⟩ := hview'
    cases tail with
    | nil =>
        obtain ⟨u, hs, hu, -⟩ := hview
        exact .stopped s.endToken s'.endToken u u' rfl (.inr rfl) (.inr rfl) hs hs' ⟨hu, hu'⟩
    | cons first more =>
        cases first with
        | error e =>
            obtain ⟨u, hs⟩ := hview
            exact .broken e more u rfl hs
        | ok d =>
            obtain ⟨u, hs, hu, -⟩ := hview
            exact .stopped d s'.endToken u u' rfl (.inl (hstops d more rfl)) (.inr rfl) hs hs'
              ⟨hu, hu'⟩

/-- Both sources take tokens that both have read ahead. -/
theorem CutBefore.drop (hcut : CutBefore tail tokens s s') {n : Nat} (hn : n ≤ tokens.length)
    (hs : n ≤ s.ahead.length) (hs' : n ≤ s'.ahead.length) :
    CutBefore tail (tokens.drop n) (s.drop n) (s'.drop n) := by
  constructor
  · rw [upcoming_drop hs, hcut.whole, List.drop_append_of_le_length (by simpa using hn),
      List.map_drop]
  · rw [upcoming_drop hs', hcut.cut, List.map_drop]

/-- The source that has some tokens to come and nothing behind them. -/
def ofTokens (tokens : List Token) : TokenSource :=
  ⟨tokens, [], .start [], .start []⟩

@[simp] theorem upcoming_ofTokens (tokens : List Token) :
    (ofTokens tokens).upcoming = tokens.map .ok := by
  simp [ofTokens, upcoming]

end TokenSource

open TokenSource

/-! ### The judgement -/

namespace Rule

/-- **Two outcomes that agree.**  `Q` holds of the answer and the tokens left, or `E` of the
pattern that was expected and the tokens left. -/
inductive SameOutcome (tail : Upcoming) (tokens : List Token) (Q : α → List Token → Prop)
    (E : List TokenTest → List Token → Prop) :
    EStateM.Result Failure TokenSource α → EStateM.Result Failure TokenSource α → Prop where
  | answer {a : α} {u u' : TokenSource} {rest : List Token} (hcut : CutBefore tail rest u u')
      (hsuffix : rest <:+ tokens) (h : Q a rest) :
      SameOutcome tail tokens Q E (.ok a u) (.ok a u')
  | mismatch {m m' : Mismatch} {u u' : TokenSource} {rest : List Token}
      (hcut : CutBefore tail rest u u') (hsuffix : rest <:+ tokens)
      (hexpected : m'.expected = m.expected) (h : E m.expected rest) :
      SameOutcome tail tokens Q E (.error (.mismatch m) u) (.error (.mismatch m') u')
  | unterminated {e : Unterminated} {more : Upcoming} {u : TokenSource}
      {result : EStateM.Result Failure TokenSource α} (htail : tail = .error e :: more) :
      SameOutcome tail tokens Q E (.error (.unterminated e) u) result

/-- **The rules agree** on `tokens`: the first one on any source that has them before `tail`,
the second one on any source that has nothing else. -/
def Agree (tail : Upcoming) (tokens : List Token) (r r' : Rule α) (Q : α → List Token → Prop)
    (E : List TokenTest → List Token → Prop) : Prop :=
  ∀ ⦃s s' : TokenSource⦄, CutBefore tail tokens s s' → SameOutcome tail tokens Q E (r s) (r' s')

/-- A rule that agrees with itself on all tokens, whatever it answers. -/
def Local (tail : Upcoming) (r : Rule α) : Prop :=
  ∀ tokens : List Token, Agree tail tokens r r (fun _ _ => True) fun _ _ => True

variable {tail : Upcoming} {tokens : List Token} {r r' : Rule α} {f f' : α → Rule β}
variable {P : α → List Token → Prop} {Q : β → List Token → Prop}
variable {E : List TokenTest → List Token → Prop}

theorem SameOutcome.weaken {before : List Token} {Q' : α → List Token → Prop}
    {E' : List TokenTest → List Token → Prop} {x x' : EStateM.Result Failure TokenSource α}
    (h : SameOutcome tail tokens P E x x') (hbefore : tokens <:+ before)
    (hQ : ∀ a rest, rest <:+ tokens → P a rest → Q' a rest)
    (hE : ∀ pattern rest, rest <:+ tokens → E pattern rest → E' pattern rest) :
    SameOutcome tail before Q' E' x x' := by
  cases h with
  | answer hcut hsuffix h => exact .answer hcut (hsuffix.trans hbefore) (hQ _ _ hsuffix h)
  | mismatch hcut hsuffix hexpected h =>
      exact .mismatch hcut (hsuffix.trans hbefore) hexpected (hE _ _ hsuffix h)
  | unterminated htail => exact .unterminated htail

/-- A weaker conclusion; what is known of the tokens left may be used for it. -/
theorem Agree.weaken {Q' : α → List Token → Prop} {E' : List TokenTest → List Token → Prop}
    (h : Agree tail tokens r r' P E) (hQ : ∀ a rest, rest <:+ tokens → P a rest → Q' a rest)
    (hE : ∀ pattern rest, rest <:+ tokens → E pattern rest → E' pattern rest) :
    Agree tail tokens r r' Q' E' :=
  fun _ _ hcut => (h hcut).weaken (List.suffix_refl _) hQ hE

theorem Agree.weaken_answer {Q' : α → List Token → Prop} (h : Agree tail tokens r r' P E)
    (hQ : ∀ a rest, rest <:+ tokens → P a rest → Q' a rest) : Agree tail tokens r r' Q' E :=
  h.weaken hQ fun _ _ _ h => h

theorem Agree.weaken_mismatch {E' : List TokenTest → List Token → Prop}
    (h : Agree tail tokens r r' P E)
    (hE : ∀ pattern rest, rest <:+ tokens → E pattern rest → E' pattern rest) :
    Agree tail tokens r r' P E' :=
  h.weaken (fun _ _ _ h => h) hE

/-- **Two conclusions hold together**: both speak of the same tokens left. -/
theorem Agree.and {P' : α → List Token → Prop} {E' : List TokenTest → List Token → Prop}
    (h : Agree tail tokens r r' P E) (h' : Agree tail tokens r r' P' E') :
    Agree tail tokens r r' (fun a rest => P a rest ∧ P' a rest)
      fun pattern rest => E pattern rest ∧ E' pattern rest := by
  intro s s' hcut
  have hsame : ∀ {left left' : List Token} {u u' : TokenSource}, CutBefore tail left u u' →
      CutBefore tail left' u u' → left = left' := fun hleft hleft' =>
    (List.map_inj_right fun _ _ => Except.ok.inj).1 (hleft.cut.symm.trans hleft'.cut)
  have hr := h hcut
  have hr' := h' hcut
  generalize r s = x at hr hr' ⊢
  generalize r' s' = x' at hr hr' ⊢
  cases hr with
  | answer hcut hsuffix hP =>
      cases hr' with
      | answer hcut' _ hP' =>
          obtain rfl := hsame hcut hcut'
          exact .answer hcut hsuffix ⟨hP, hP'⟩
  | mismatch hcut hsuffix hexpected hE =>
      cases hr' with
      | mismatch hcut' _ _ hE' =>
          obtain rfl := hsame hcut hcut'
          exact .mismatch hcut hsuffix hexpected ⟨hE, hE'⟩
  | unterminated htail => exact .unterminated htail

theorem agree_pure {a : α} (h : P a tokens) : Agree tail tokens (pure a) (pure a) P E :=
  fun _ _ hcut => .answer hcut (List.suffix_refl _) h

/-- **One rule after another.**  The second one starts with the tokens that the first one has
left. -/
theorem Agree.bind (h : Agree tail tokens r r' P E)
    (hf : ∀ a rest, rest <:+ tokens → P a rest → Agree tail rest (f a) (f' a) Q E) :
    Agree tail tokens (r >>= f) (r' >>= f') Q E := by
  intro s s' hcut
  have hr := h hcut
  change SameOutcome tail tokens Q E (EStateM.bind r f s) (EStateM.bind r' f' s')
  simp only [EStateM.bind]
  generalize r s = x at hr ⊢
  generalize r' s' = x' at hr ⊢
  cases hr with
  | answer hcut hsuffix h =>
      exact (hf _ _ hsuffix h hcut).weaken hsuffix (fun _ _ _ h => h) fun _ _ _ h => h
  | mismatch hcut hsuffix hexpected h => exact .mismatch hcut hsuffix hexpected h
  | unterminated htail => exact .unterminated htail

theorem Agree.map {g : α → β} (h : Agree tail tokens r r' (fun a rest => Q (g a) rest) E) :
    Agree tail tokens (g <$> r) (g <$> r') Q E := by
  rw [map_eq_pure_bind, map_eq_pure_bind]
  exact h.bind fun _ _ _ hQ => agree_pure hQ

/-- The answer is `a`, and exactly `rest` is left. -/
def Answers (a : α) (rest : List Token) (found : α) (after : List Token) : Prop :=
  found = a ∧ after = rest

theorem agree_answer (a : α) (tokens : List Token) :
    Agree tail tokens (pure a) (pure a) (Answers a tokens) E :=
  agree_pure ⟨rfl, rfl⟩

/-- Where the answer of the first rule is known, so is what the second one starts from. -/
theorem Agree.bind_answers {a : α} {rest : List Token}
    (h : Agree tail tokens r r' (Answers a rest) E) (hf : Agree tail rest (f a) (f' a) Q E) :
    Agree tail tokens (r >>= f) (r' >>= f') Q E := by
  refine h.bind ?_
  rintro _ _ - ⟨rfl, rfl⟩
  exact hf

theorem Agree.map_answers {a : α} {rest : List Token}
    (h : Agree tail tokens r r' (Answers a rest) E) (g : α → β) :
    Agree tail tokens (g <$> r) (g <$> r') (Answers (g a) rest) E := by
  rw [map_eq_pure_bind, map_eq_pure_bind]
  exact h.bind_answers (agree_answer _ _)

/-- **A run that answers** does so on the tokens before the first place where rules stop. -/
theorem exists_of_agree {P : List Token → α → List Token → Prop}
    (h : ∀ (tail : Upcoming) (tokens : List Token), tail.Stops →
      Agree tail tokens r r (P tokens) fun _ _ => True)
    {s s' : TokenSource} {a : α} (hrun : r s = .ok a s') :
    ∃ (tokens rest : List Token) (tail : Upcoming), s.upcoming = tokens.map .ok ++ tail ∧
      s'.upcoming = rest.map .ok ++ tail ∧ tail.Stops ∧ P tokens a rest := by
  obtain ⟨tokens, tail, hcut, hstops⟩ := Upcoming.exists_cut s.upcoming
  have houtcome := h tail tokens hstops
    (⟨hcut, upcoming_ofTokens tokens⟩ : CutBefore tail tokens s (ofTokens tokens))
  rw [hrun] at houtcome
  generalize r (ofTokens tokens) = outcome at houtcome
  cases houtcome with
  | answer hleft _ hP => exact ⟨tokens, _, tail, hcut, hleft.whole, hstops, hP⟩

theorem local_pure (a : α) : Local tail (pure a : Rule α) := fun _ => agree_pure trivial

theorem Local.bind (hr : Local tail r) (hf : ∀ a, Local tail (f a)) : Local tail (r >>= f) :=
  fun tokens => (hr tokens).bind fun a rest _ _ => hf a rest

theorem Local.map (g : α → β) (hr : Local tail r) : Local tail (g <$> r) :=
  fun tokens => Agree.map (hr tokens)

/-! ### Looking and taking -/

section Blocks

variable {Q : α → List Token → Prop} {pattern : List TokenTest}

/-- **A decision on the token `n` places ahead.**  Both sources see the same token, or two at
which rules stop. -/
theorem agree_peek_bind {n : Nat} {f f' : Token → Rule α} (hstops : Upcoming.Stops tail)
    (hn : n ≤ tokens.length)
    (hwithin : ∀ t, tokens[n]? = some t → Agree tail tokens (f t) (f' t) Q E)
    (hstopped : n = tokens.length → ∀ t t' : Token, t.IsStop → t'.IsStop →
      Agree tail tokens (f t) (f' t') Q E) :
    Agree tail tokens (peek n >>= f) (peek n >>= f') Q E := by
  intro s s' hcut
  change SameOutcome tail tokens Q E (EStateM.bind (peek n) f s) (EStateM.bind (peek n) f' s')
  simp only [EStateM.bind]
  cases hcut.looks hstops hn with
  | within t u u' ht hs hs' hcut =>
      rw [hs, hs']
      exact hwithin t ht hcut
  | stopped t t' u u' hlen ht ht' hs hs' hcut =>
      rw [hs, hs']
      exact hstopped hlen t t' ht ht' hcut
  | broken e more u htail hs =>
      rw [hs]
      exact .unterminated htail

theorem agree_throw_mismatch {t t' : Token} (h : E pattern tokens) :
    Agree tail tokens (throw (.mismatch ⟨pattern, t⟩)) (throw (.mismatch ⟨pattern, t'⟩)) Q E :=
  fun _ _ hcut => .mismatch hcut (List.suffix_refl _) rfl h

theorem agree_lookFrom {Q : Bool → List Token → Prop} (hstops : Upcoming.Stops tail)
    (hinner : IsInnerPattern pattern) :
    ∀ offset : Nat, offset ≤ tokens.length →
      Q (TokenTest.fitAll pattern (tokens.drop offset)) tokens →
      Agree tail tokens (lookFrom offset pattern) (lookFrom offset pattern) Q E := by
  induction pattern with
  | nil => exact fun offset _ h => agree_pure (by simpa using h)
  | cons test pattern ih =>
      intro offset hoffset h
      have htest := hinner test List.mem_cons_self
      refine agree_peek_bind hstops hoffset (fun t ht => ?_) fun hend t t' ht ht' => ?_
      · obtain ⟨hlt, rfl⟩ := List.getElem?_eq_some_iff.1 ht
        rw [List.drop_eq_getElem_cons hlt, TokenTest.fitAll_cons_cons] at h
        cases hfits : test.fits tokens[offset] with
        | false =>
            rw [hfits, Bool.false_and] at h
            exact agree_pure h
        | true =>
            rw [hfits, Bool.true_and] at h
            exact ih (fun test' hmem => hinner test' (List.mem_cons_of_mem _ hmem)) (offset + 1)
              hlt h
      · -- an inner test fails on both sides where rules stop
        rw [hend, List.drop_length, TokenTest.fitAll_cons_nil] at h
        rw [htest.fits_eq_false ht, htest.fits_eq_false ht']
        exact agree_pure h

/-- **A look** answers whether the tokens start with ones that fit. -/
theorem agree_look {Q : Bool → List Token → Prop} (hstops : Upcoming.Stops tail)
    (hinner : IsInnerPattern pattern) (h : Q (TokenTest.fitAll pattern tokens) tokens) :
    Agree tail tokens (look pattern) (look pattern) Q E :=
  agree_lookFrom hstops hinner 0 (Nat.zero_le _) h

/-- What follows a look goes on with its answer. -/
theorem agree_look_bind {f f' : Bool → Rule α} {Q : α → List Token → Prop}
    (hstops : Upcoming.Stops tail) (hinner : IsInnerPattern pattern)
    (h : Agree tail tokens (f (TokenTest.fitAll pattern tokens))
      (f' (TokenTest.fitAll pattern tokens)) Q E) :
    Agree tail tokens (look pattern >>= f) (look pattern >>= f') Q E :=
  (agree_look (Q := Answers (TokenTest.fitAll pattern tokens) tokens) hstops hinner
    ⟨rfl, rfl⟩).bind_answers h

theorem agree_lookAny {Q : Bool → List Token → Prop} (patterns : List (List TokenTest))
    (hstops : Upcoming.Stops tail) (hinner : ∀ pattern ∈ patterns, IsInnerPattern pattern)
    (h : Q (patterns.any (TokenTest.fitAll · tokens)) tokens) :
    Agree tail tokens (lookAny patterns) (lookAny patterns) Q E := by
  induction patterns with
  | nil => exact agree_pure h
  | cons pattern patterns ih =>
      rw [List.any_cons] at h
      refine agree_look_bind hstops (hinner pattern List.mem_cons_self) ?_
      cases hfit : TokenTest.fitAll pattern tokens with
      | true =>
          rw [hfit, Bool.true_or] at h
          exact agree_pure h
      | false =>
          rw [hfit, Bool.false_or] at h
          exact ih (fun pattern' hmem => hinner pattern' (List.mem_cons_of_mem _ hmem)) h

theorem agree_requireFrom {Q : Unit → List Token → Prop} {whole : List TokenTest}
    (hstops : Upcoming.Stops tail) (hinner : IsInnerPattern pattern) :
    ∀ offset : Nat, offset ≤ tokens.length →
      (TokenTest.fitAll pattern (tokens.drop offset) = true → Q () tokens) →
      (TokenTest.fitAll pattern (tokens.drop offset) = false → E whole tokens) →
      Agree tail tokens (requireFrom whole offset pattern) (requireFrom whole offset pattern)
        Q E := by
  induction pattern with
  | nil => exact fun offset _ h _ => agree_pure (h rfl)
  | cons test pattern ih =>
      intro offset hoffset h hmiss
      have htest := hinner test List.mem_cons_self
      refine agree_peek_bind hstops hoffset (fun t ht => ?_) fun hend t t' ht ht' => ?_
      · obtain ⟨hlt, rfl⟩ := List.getElem?_eq_some_iff.1 ht
        rw [List.drop_eq_getElem_cons hlt, TokenTest.fitAll_cons_cons] at h hmiss
        cases hfits : test.fits tokens[offset] with
        | false =>
            rw [hfits, Bool.false_and] at hmiss
            exact agree_throw_mismatch (hmiss rfl)
        | true =>
            rw [hfits, Bool.true_and] at h hmiss
            exact ih (fun test' hmem => hinner test' (List.mem_cons_of_mem _ hmem)) (offset + 1)
              hlt h hmiss
      · rw [hend, List.drop_length, TokenTest.fitAll_cons_nil] at hmiss
        rw [htest.fits_eq_false ht, htest.fits_eq_false ht']
        exact agree_throw_mismatch (hmiss rfl)

/-- Where `n` tokens are left, a look at the last of them and then taking them. -/
theorem agree_take {n : Nat} {Q : Token → List Token → Prop} (hstops : Upcoming.Stops tail)
    (hn : n < tokens.length) (h : Q tokens[n] (tokens.drop (n + 1))) :
    Agree tail tokens
      (do let t ← peek n; modify (TokenSource.drop (n + 1)); pure t)
      (do let t ← peek n; modify (TokenSource.drop (n + 1)); pure t) Q E := by
  intro s s' hcut
  change SameOutcome tail tokens Q E (EStateM.bind (peek n) _ s) (EStateM.bind (peek n) _ s')
  simp only [EStateM.bind]
  cases hcut.looks hstops (Nat.le_of_lt hn) with
  | within t u u' ht hs hs' hcut hahead hahead' =>
      obtain ⟨hlt, rfl⟩ := List.getElem?_eq_some_iff.1 ht
      rw [hs, hs']
      exact .answer (hcut.drop hn hahead hahead') (List.drop_suffix _ _) h
  | stopped t t' u u' hlen => omega
  | broken e more u htail hs =>
      rw [hs]
      exact .unterminated htail

/-- **Taking a pattern** takes the tokens that fit it; where they do not, nothing is taken and
the pattern is what was expected. -/
theorem agree_expect {Q : Token → List Token → Prop} (hstops : Upcoming.Stops tail)
    (hinner : IsInnerPattern pattern) {nonempty : pattern ≠ []}
    (h : ∀ hfit : TokenTest.fitAll pattern tokens = true,
      Q (TokenTest.lastFit nonempty hfit) (tokens.drop pattern.length))
    (hmiss : TokenTest.fitAll pattern tokens = false → E pattern tokens) :
    Agree tail tokens (expect pattern nonempty) (expect pattern nonempty) Q E := by
  have hpos := List.length_pos_iff.2 nonempty
  refine Agree.bind (P := fun _ rest => rest = tokens ∧ TokenTest.fitAll pattern tokens = true)
    (agree_requireFrom hstops hinner 0 (Nat.zero_le _) (fun hfit => ⟨rfl, hfit⟩) hmiss) ?_
  rintro - rest - ⟨rfl, hfit⟩
  have htake := agree_take (E := E) (Q := Q) hstops
    (TokenTest.pred_length_lt_of_fitAll nonempty hfit)
    (by rw [Nat.sub_add_cancel hpos]; exact h hfit)
  rw [Nat.sub_add_cancel hpos] at htake
  exact htake

theorem agree_accept {Q : Option Token → List Token → Prop} (hstops : Upcoming.Stops tail)
    (hinner : IsInnerPattern pattern) {nonempty : pattern ≠ []}
    (h : ∀ hfit : TokenTest.fitAll pattern tokens = true,
      Q (some (TokenTest.lastFit nonempty hfit)) (tokens.drop pattern.length))
    (hmiss : TokenTest.fitAll pattern tokens = false → Q none tokens) :
    Agree tail tokens (accept pattern nonempty) (accept pattern nonempty) Q E := by
  refine agree_look_bind hstops hinner ?_
  cases hfit : TokenTest.fitAll pattern tokens with
  | true =>
      refine Agree.map (agree_expect hstops hinner (fun hfit => h hfit) fun hmiss => ?_)
      rw [hfit] at hmiss
      exact absurd hmiss (by decide)
  | false => exact agree_pure (hmiss hfit)

/-- **Taking the next token**, where there is one. -/
theorem agree_next {t : Token} {more : List Token} {Q : Token → List Token → Prop}
    (hstops : Upcoming.Stops tail) (h : Q t more) : Agree tail (t :: more) next next Q E :=
  agree_take (n := 0) hstops (Nat.zero_lt_succ _) h

theorem local_look (hstops : Upcoming.Stops tail) (hinner : IsInnerPattern pattern) :
    Local tail (look pattern) :=
  fun _ => agree_look hstops hinner trivial

theorem local_expect (hstops : Upcoming.Stops tail) (hinner : IsInnerPattern pattern)
    {nonempty : pattern ≠ []} : Local tail (expect pattern nonempty) :=
  fun _ => agree_expect hstops hinner (fun _ => trivial) fun _ => trivial

theorem local_accept (hstops : Upcoming.Stops tail) (hinner : IsInnerPattern pattern)
    {nonempty : pattern ≠ []} : Local tail (accept pattern nonempty) :=
  fun _ => agree_accept hstops hinner (fun _ => trivial) fun _ => trivial

end Blocks

/-! ### Repetition

The number of rounds is bounded by what is to come, and so differs between the two sources.
It makes no difference as long as every round takes a token. -/

section Repetition

/-- A rule that is bounded by the number of tokens and failures to come. -/
theorem agree_size_bind {f f' : Nat → Rule α} {Q : α → List Token → Prop}
    (h : ∀ n n', tokens.length ≤ n → tokens.length ≤ n' → Agree tail tokens (f n) (f' n') Q E) :
    Agree tail tokens (do f (← get).size) (do f' (← get).size) Q E := by
  intro s s' hcut
  refine h s.size s'.size ?_ ?_ hcut
  · rw [size_eq_length_upcoming, hcut.whole, List.length_append, List.length_map]
    exact Nat.le_add_right _ _
  · have hsize : s'.size = tokens.length := by
      rw [size_eq_length_upcoming, hcut.cut, List.length_map]
    exact Nat.le_of_eq hsize.symm

/-- **What one round must establish** for `R tokens found rest` to hold of a repetition that
finds `found` in `tokens` and leaves `rest`. -/
def RoundFits (R : List Token → List α → List Token → Prop) (tokens : List Token) :
    Option α → List Token → Prop
  | none, rest => R tokens [] rest
  | some a, rest => rest.length < tokens.length ∧
      ∀ found final, R rest found final → R tokens (a :: found) final

/-- **What one part must establish** for `S tokens found rest` to hold of a list with commas. -/
def PartFits (S : List Token → Option (List α) → List Token → Prop) (tokens : List Token) :
    Part α → List Token → Prop
  | .absent, rest => S tokens (some []) rest
  | .broken, rest => S tokens none rest
  | .found a, rest => rest.length < tokens.length ∧
      (TokenTest.fitAll [","] rest = false → S tokens (some [a]) rest) ∧
      (TokenTest.fitAll [","] rest = true → ∀ found final, S (rest.drop 1) found final →
        S tokens (found.map (a :: ·)) final)

variable {step : Rule (Option α)} {R : List Token → List α → List Token → Prop}

theorem agree_manyUpTo
    (hstep : ∀ tokens, Agree tail tokens step step (RoundFits R tokens) E) :
    ∀ (rounds rounds' : Nat) (tokens : List Token), tokens.length < rounds →
      tokens.length < rounds' →
      Agree tail tokens (manyUpTo step rounds) (manyUpTo step rounds') (R tokens) E := by
  -- on one of the two bounds; the other one only has to be large enough
  intro rounds
  induction rounds with
  | zero => exact fun _ _ h => absurd h (Nat.not_lt_zero _)
  | succ rounds ih =>
      intro rounds' tokens hrounds hrounds'
      obtain ⟨rounds', rfl⟩ : ∃ k, rounds' = k + 1 := ⟨rounds' - 1, by omega⟩
      refine Agree.bind (hstep tokens) fun a rest _ h => ?_
      cases a with
      | none => exact agree_pure h
      | some a =>
          obtain ⟨hlt, hcons⟩ := h
          refine Agree.map ((ih rounds' rest (by omega) (by omega)).weaken_answer ?_)
          exact fun found final _ h => hcons found final h

theorem agree_many
    (hstep : ∀ tokens, Agree tail tokens step step (RoundFits R tokens) E) :
    Agree tail tokens (many step) (many step) (R tokens) E :=
  agree_size_bind fun n n' hn hn' => agree_manyUpTo hstep (n + 1) (n' + 1) tokens
    (Nat.lt_succ_of_le hn) (Nat.lt_succ_of_le hn')

/-- **The rule takes a token whenever it finds something.** -/
def Advances (tail : Upcoming) (r : Rule (Option α)) : Prop :=
  ∀ tokens : List Token, Agree tail tokens r r
    (fun a rest => a.isSome = true → rest.length < tokens.length) fun _ _ => True

/-- A repetition is local if each round that finds something takes a token. -/
theorem Advances.local_many (hstep : Advances tail step) : Local tail (many step) := by
  intro tokens
  refine agree_many (R := fun _ _ _ => True) fun tokens => (hstep tokens).weaken ?_ ?_
  · intro a rest _ h
    cases a with
    | none => trivial
    | some a => exact ⟨h rfl, fun _ _ _ => trivial⟩
  · exact fun _ _ _ h => h

/-- A pattern that is taken if it fits takes a token. -/
theorem advances_accept {pattern : List TokenTest} (hstops : Upcoming.Stops tail)
    (hinner : IsInnerPattern pattern) {nonempty : pattern ≠ []} :
    Advances tail (accept pattern nonempty) := by
  refine fun tokens => agree_accept hstops hinner (fun hfit _ => ?_) fun _ h => ?_
  · have hlen := TokenTest.length_le_of_fitAll hfit
    have hpos := List.length_pos_iff.2 nonempty
    rw [List.length_drop]
    omega
  · exact absurd h (by simp)

theorem local_many_accept {pattern : List TokenTest} (hstops : Upcoming.Stops tail)
    (hinner : IsInnerPattern pattern) {nonempty : pattern ≠ []} :
    Local tail (many (accept pattern nonempty)) :=
  Advances.local_many (advances_accept hstops hinner)

variable {part part' : Rule (Part α)} {S : List Token → Option (List α) → List Token → Prop}

/-- The parts may be read by two rules, which need to agree on no more than `bound` tokens. -/
theorem agree_separatedUpTo {bound : Nat} (hstops : Upcoming.Stops tail)
    (hpart : ∀ tokens : List Token, tokens.length ≤ bound →
      Agree tail tokens part part' (PartFits S tokens) E) :
    ∀ (rounds rounds' : Nat) (tokens : List Token), tokens.length ≤ bound →
      tokens.length < rounds → tokens.length < rounds' →
      Agree tail tokens (separatedUpTo part rounds) (separatedUpTo part' rounds')
        (S tokens) E := by
  intro rounds
  induction rounds with
  | zero => exact fun _ _ _ h => absurd h (Nat.not_lt_zero _)
  | succ rounds ih =>
      intro rounds' tokens hbound hrounds hrounds'
      obtain ⟨rounds', rfl⟩ : ∃ k, rounds' = k + 1 := ⟨rounds' - 1, by omega⟩
      refine Agree.bind (hpart tokens hbound) fun p rest _ h => ?_
      cases p with
      | absent => exact agree_pure h
      | broken => exact agree_pure h
      | found a =>
          obtain ⟨hlt, hlast, hcons⟩ := h
          refine Agree.bind (P := fun comma after =>
              if comma.isSome then TokenTest.fitAll [","] rest = true ∧ after = rest.drop 1
              else TokenTest.fitAll [","] rest = false ∧ after = rest)
            (agree_accept hstops (by decide) (fun hfit => ⟨hfit, rfl⟩) fun hmiss => ⟨hmiss, rfl⟩)
            fun comma after _ h => ?_
          cases comma with
          | none =>
              obtain ⟨hmiss, rfl⟩ := h
              exact agree_pure (hlast hmiss)
          | some comma =>
              obtain ⟨hfit, rfl⟩ := h
              have hdrop : (rest.drop 1).length ≤ rest.length := by simp
              refine Agree.bind (ih rounds' (rest.drop 1) (by omega) (by omega) (by omega)) ?_
              exact fun found final _ h => agree_pure (hcons hfit found final h)

theorem agree_separated (hstops : Upcoming.Stops tail)
    (hpart : ∀ left : List Token, left.length ≤ tokens.length →
      Agree tail left part part' (PartFits S left) E) :
    Agree tail tokens (separated part) (separated part') (S tokens) E :=
  agree_size_bind fun n n' hn hn' => agree_separatedUpTo hstops hpart (n + 1) (n' + 1) tokens
    (Nat.le_refl _) (Nat.lt_succ_of_le hn) (Nat.lt_succ_of_le hn')

end Repetition

end Rule

end DocComments
