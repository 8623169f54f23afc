import DocComments.Proofs.ReadingAhead

/-!
# The place where a comparison stops

A pattern is compared with what is to come from left to right, and no further than the first
token that does not fit.  So one place decides, `TokenSource.StopsAt`, and the whole comparison is
a single look at it (`Rule.exists_compareFrom`).  `Rule.look` and `Rule.expect` are that look with
an ending of their own (`Rule.exists_look`, `Rule.exists_expect`); their loops are opened in this
file only.

The statements about places are about any function `seen` from places to what a look there
answers, so that the induction on the pattern can move on by one place.
-/

namespace DocComments

namespace TokenSource

/-! ### Comparing with a pattern -/

/-- Each test of the pattern fits the token at its place. -/
def Fits (seen : Nat → Except Unterminated Token) (pattern : List TokenTest) : Prop :=
  ∀ i test, pattern[i]? = some test → ∃ t, seen i = .ok t ∧ test.fits t = true

/-- **Where a comparison from left to right stops**: all places before `k` fit, and `k` is the
last place or does not fit. -/
structure StopsAt (seen : Nat → Except Unterminated Token) (pattern : List TokenTest) (k : Nat)
    (test : TokenTest) : Prop where
  /-- The test at that place. -/
  there : pattern[k]? = some test
  /-- What was compared before. -/
  before : Fits seen (pattern.take k)
  /-- Nothing is left to be compared, or the token is not the one that is asked for. -/
  stops : k + 1 = pattern.length ∨ ∀ t, seen k = .ok t → test.fits t = false

/-- **The first place that does not fit**, and the token there. -/
structure MissesAt (seen : Nat → Except Unterminated Token) (pattern : List TokenTest) (k : Nat)
    (t : Token) : Prop where
  /-- What was compared before. -/
  before : Fits seen (pattern.take k)
  /-- The token there. -/
  there : seen k = .ok t
  /-- It is not the one that is asked for. -/
  misfit : ∃ test, pattern[k]? = some test ∧ test.fits t = false

section Places

variable {seen : Nat → Except Unterminated Token} {pattern : List TokenTest} {test : TokenTest}
  {k : Nat} {t : Token}

@[simp] theorem fits_nil : Fits seen [] :=
  fun _ _ h => absurd h (by simp)

theorem fits_cons :
    Fits seen (test :: pattern) ↔
      (∃ t, seen 0 = .ok t ∧ test.fits t = true) ∧ Fits (fun i => seen (i + 1)) pattern := by
  constructor
  · exact fun h => ⟨h 0 test rfl, fun i test' hi => h (i + 1) test' hi⟩
  · rintro ⟨hfirst, hmore⟩ (_ | i) test' hi
    · obtain rfl := Option.some.inj hi
      exact hfirst
    · exact hmore i test' hi

/-- Where the token fits, it is at the last place. -/
theorem StopsAt.last (h : StopsAt seen pattern k test) (ht : seen k = .ok t)
    (hfit : test.fits t = true) : k + 1 = pattern.length := by
  refine h.stops.resolve_right fun hno => ?_
  rw [hno t ht] at hfit
  exact absurd hfit (by simp)

/-- The comparison succeeds exactly if the last token that it sees fits. -/
theorem StopsAt.fits_iff (h : StopsAt seen pattern k test) (ht : seen k = .ok t) :
    Fits seen pattern ↔ test.fits t = true := by
  constructor
  · intro hfits
    obtain ⟨t', ht', hfit⟩ := hfits k test h.there
    rw [ht] at ht'
    rwa [Except.ok.inj ht']
  · intro hfit
    have hlast := h.last ht hfit
    intro i test' hi
    have hlt := (List.getElem?_eq_some_iff.1 hi).1
    by_cases hik : i < k
    · exact h.before i test' (by rw [List.getElem?_take_of_lt hik, hi])
    · obtain rfl : i = k := by omega
      rw [h.there] at hi
      exact ⟨t, ht, by rwa [← Option.some.inj hi]⟩

theorem Fits.not_missesAt (h : Fits seen pattern) : ¬ MissesAt seen pattern k t := by
  rintro ⟨-, hthere, test, htest, hno⟩
  obtain ⟨t', ht', hfit⟩ := h k test htest
  rw [Except.ok.inj (hthere.symm.trans ht'), hfit] at hno
  exact absurd hno (by simp)

/-- A comparison stops where it finds a misfit. -/
theorem StopsAt.eq_of_missesAt {k' : Nat} (h : StopsAt seen pattern k test)
    (hmiss : MissesAt seen pattern k' t) : k' = k := by
  obtain ⟨test', htest', hno⟩ := hmiss.misfit
  have hlt := (List.getElem?_eq_some_iff.1 htest').1
  -- everything before `k` fits, and nothing behind it has been compared
  rcases Nat.lt_trichotomy k' k with hbefore | heq | hbehind
  · refine absurd ⟨?_, hmiss.there, test', ?_, hno⟩ (h.before.not_missesAt (k := k') (t := t))
    · rw [List.take_take, Nat.min_eq_left (Nat.le_of_lt hbefore)]
      exact hmiss.before
    · rw [List.getElem?_take_of_lt hbefore, htest']
  · exact heq
  · have hthere : (pattern.take k')[k]? = some test := by
      rw [List.getElem?_take_of_lt hbehind, h.there]
    obtain ⟨t', ht', hfit⟩ := hmiss.before k test hthere
    have hno' := h.stops.resolve_left (by omega) t' ht'
    rw [hfit] at hno'
    exact absurd hno' (by simp)

theorem StopsAt.misfit (h : StopsAt seen pattern k test) (hmiss : MissesAt seen pattern k t) :
    test.fits t = false := by
  obtain ⟨test', htest', hno⟩ := hmiss.misfit
  rwa [Option.some.inj (h.there.symm.trans htest')]

theorem StopsAt.missesAt (h : StopsAt seen pattern k test) (ht : seen k = .ok t)
    (hno : test.fits t = false) : MissesAt seen pattern k t :=
  ⟨h.before, ht, test, h.there, hno⟩

theorem StopsAt.of_last {one : TokenTest} : StopsAt seen [one] 0 one :=
  ⟨rfl, fits_nil, .inl rfl⟩

theorem StopsAt.of_misfit (hno : ∀ t, seen 0 = .ok t → test.fits t = false) :
    StopsAt seen (test :: pattern) 0 test :=
  ⟨rfl, fits_nil, .inr hno⟩

theorem StopsAt.cons {one : TokenTest} (ht : seen 0 = .ok t) (hfit : one.fits t = true)
    (h : StopsAt (fun i => seen (i + 1)) pattern k test) :
    StopsAt seen (one :: pattern) (k + 1) test where
  there := h.there
  before := fits_cons.2 ⟨⟨t, ht, hfit⟩, h.before⟩
  stops := h.stops.imp (by simp) id

end Places

end TokenSource

namespace Rule

open TokenSource

variable {α : Type}

/-- Compares the tokens from place `offset` on with a pattern: one rule follows if they fit,
another one, which is told the token, if they do not. -/
def compareFrom (fit : Rule α) (misfit : Token → Rule α) (offset : Nat) : List TokenTest → Rule α
  | [] => fit
  | test :: more => do
      let t ← peek offset
      if test.fits t then compareFrom fit misfit (offset + 1) more else misfit t

theorem lookFrom_eq (offset : Nat) (pattern : List TokenTest) :
    lookFrom offset pattern = compareFrom (pure true) (fun _ => pure false) offset pattern := by
  induction pattern generalizing offset with
  | nil => rfl
  | cons test more ih => simp only [lookFrom, compareFrom, ih]

theorem requireFrom_eq (whole : List TokenTest) (offset : Nat) (pattern : List TokenTest) :
    requireFrom whole offset pattern =
      compareFrom (pure ()) (fun t => throw (.mismatch ⟨whole, t⟩)) offset pattern := by
  induction pattern generalizing offset with
  | nil => rfl
  | cons test more ih => simp only [requireFrom, compareFrom, ih]

/-- **A comparison is one look**, at the place where it stops. -/
theorem exists_compareFrom (fit : Rule α) (misfit : Token → Rule α) {pattern : List TokenTest}
    (nonempty : pattern ≠ []) (offset : Nat) (s : TokenSource) :
    ∃ k test, StopsAt (fun i => s.tokenAt (offset + i)) pattern k test ∧
      compareFrom fit misfit offset pattern s =
        (peek (offset + k) >>= fun t => if test.fits t then fit else misfit t) s := by
  induction pattern generalizing offset s with
  | nil => exact absurd rfl nonempty
  | cons one more ih =>
      rcases Decidable.em (more = []) with rfl | hmore
      · exact ⟨0, one, .of_last, rfl⟩
      · cases hpeek : peek offset s with
        | error f u =>
            obtain ⟨e, -, hat, -⟩ := peek_reports hpeek
            refine ⟨0, one, .of_misfit fun t ht => absurd (hat.symm.trans ht) (by simp), ?_⟩
            rw [compareFrom, bind_error hpeek, Nat.add_zero, bind_error hpeek]
        | ok t u =>
            have hat := tokenAt_of_peek hpeek
            rw [compareFrom, bind_ok hpeek]
            cases hfit : one.fits t with
            | false =>
                refine ⟨0, one, .of_misfit fun t' ht' => ?_, ?_⟩
                · rwa [← Except.ok.inj (hat.symm.trans ht')]
                · simp only [Nat.add_zero, bind_ok hpeek, hfit]
                  rfl
            | true =>
                -- the later looks may as well start before this one
                obtain ⟨k, test, hstops, hrun⟩ := ih hmore (offset + 1) u
                have hplace : ∀ i, offset + 1 + i = offset + (i + 1) := by omega
                simp only [tokenAt_after_peek hpeek, hplace] at hstops
                refine ⟨k + 1, test, .cons hat hfit hstops, ?_⟩
                have hagain := peek_peek (Nat.le_add_right offset (k + 1)) hpeek
                rw [if_pos rfl, hrun, hplace]
                cases hthere : peek (offset + (k + 1)) s with
                | ok t' u' => rw [bind_ok hthere, bind_ok (hagain.trans hthere)]
                | error f u' => rw [bind_error hthere, bind_error (hagain.trans hthere)]

variable {pattern : List TokenTest} {s s' : TokenSource}

/-- **A look at a pattern** is one look at the token where the comparison stops. -/
theorem exists_look (nonempty : pattern ≠ []) (s : TokenSource) :
    ∃ k test, StopsAt s.tokenAt pattern k test ∧
      look pattern s = (peek k >>= fun t => pure (test.fits t)) s := by
  obtain ⟨k, test, hstops, hrun⟩ :=
    exists_compareFrom (pure true) (fun _ => pure false) nonempty 0 s
  simp only [Nat.zero_add] at hstops hrun
  refine ⟨k, test, hstops, ?_⟩
  rw [look, lookFrom_eq, hrun]
  have hanswer : ∀ t, (if test.fits t then pure true else pure false : Rule Bool) =
      pure (test.fits t) := by
    intro t
    cases test.fits t <;> rfl
  simp only [hanswer]

/-- **A pattern is taken** after one look at the token where the comparison stops. -/
theorem exists_expect (nonempty : pattern ≠ []) (s : TokenSource) :
    ∃ k test, StopsAt s.tokenAt pattern k test ∧
      expect pattern nonempty s =
        (peek k >>= fun t => if test.fits t then do modify (drop pattern.length); pure t
          else throw (.mismatch ⟨pattern, t⟩)) s := by
  obtain ⟨k, test, hstops, hrun⟩ :=
    exists_compareFrom (pure ()) (fun t => throw (.mismatch ⟨pattern, t⟩)) nonempty 0 s
  simp only [Nat.zero_add] at hstops hrun
  refine ⟨k, test, hstops, ?_⟩
  rw [expect, requireFrom_eq]
  cases hpeek : peek k s with
  | error f u =>
      rw [bind_error hpeek] at hrun
      rw [bind_error hrun, bind_error hpeek]
  | ok t u =>
      rw [bind_ok hpeek] at hrun ⊢
      cases hfit : test.fits t with
      | false =>
          rw [hfit] at hrun
          exact bind_error hrun
      | true =>
          rw [hfit] at hrun
          -- so the comparison has stopped at the last place, which the rule looks at once more
          have hend := hstops.last (tokenAt_of_peek hpeek) hfit
          have hlast : pattern.length - 1 = k := by omega
          rw [bind_ok hrun, hlast, bind_ok ((peek_peek (Nat.le_refl k) hpeek).trans hpeek)]
          rfl

end Rule

end DocComments
