import DocComments.Proofs.Agreement
import DocComments.Proofs.TokenCursor

/-!
# What a rule takes

The triple of a rule on one source.  `Rule.Takes u r a v` says that wherever `u` is to come, `r`
answers `a` and leaves `v`; `Rule.BreaksOff u r missing v` says that there it meets a mismatch, in
front of `v`, where a single token was expected that passes `missing`.

In contrast to `Rule.Agree` nothing is supposed of `v`: constructs left open may follow, however
near, as long as no look goes that far.  A look is answered by the tokens it needs.  It says yes
where they stand (`Rule.takes_look_true`), and no where the first misfit comes before anything that
was left open (`Upcoming.Misses`, `Rule.takes_look_false`).

What was taken on every source is taken on a source that is cut off as well, so triples give
agreements (`Rule.Takes.agree`); and an agreement on a source without a tail is a triple again
(`Rule.Agree.takes`).
-/

namespace DocComments

open TokenSource

/-! ### Patterns that do not fit -/

/-- **What is to come does not fit the pattern**: the first misfit comes before anything that was
left open.  Nothing fits the end of the source. -/
def Upcoming.Misses : List TokenTest → Upcoming → Prop
  | [], _ => False
  | _ :: _, [] => True
  | _ :: _, .error _ :: _ => False
  | test :: pattern, .ok t :: more => test.fits t = false ∨ Misses pattern more

section Looks

variable {seen : Nat → Except Unterminated Token} {pattern : List TokenTest}
variable {tokens : List Token} {final : Token} {u : Upcoming}

theorem Upcoming.misses_cons {test : TokenTest} {t : Token} (h : test.fits t = false) :
    Misses (test :: pattern) (.ok t :: u) :=
  .inl h

theorem Upcoming.misses_map_ok :
    Misses pattern (tokens.map .ok) ↔ TokenTest.fitAll pattern tokens = false := by
  induction pattern generalizing tokens with
  | nil => simp [Misses]
  | cons test pattern ih =>
      cases tokens with
      | nil => simp [Misses]
      | cons t tokens =>
          rw [TokenTest.fitAll_cons_cons, Bool.and_eq_false_iff, ← ih]
          rfl

/-- Tokens that are enough to compare with are enough to tell a misfit. -/
theorem Upcoming.misses_append (hlen : pattern.length ≤ tokens.length)
    (h : TokenTest.fitAll pattern tokens = false) (v : Upcoming) :
    Misses pattern (tokens.map .ok ++ v) := by
  induction pattern generalizing tokens with
  | nil => exact absurd h (by simp)
  | cons test pattern ih =>
      cases tokens with
      | nil => exact absurd hlen (by simp)
      | cons t tokens =>
          rw [TokenTest.fitAll_cons_cons, Bool.and_eq_false_iff] at h
          exact h.imp id (ih (Nat.le_of_succ_le_succ hlen))

namespace TokenSource

theorem fits_of_fitAll (hseen : ∀ (i : Nat) (hi : i < tokens.length), seen i = .ok tokens[i])
    (hfit : TokenTest.fitAll pattern tokens = true) : Fits seen pattern := by
  induction pattern generalizing tokens seen with
  | nil => exact fits_nil
  | cons test pattern ih =>
      cases tokens with
      | nil => exact absurd hfit (by simp)
      | cons t tokens =>
          rw [TokenTest.fitAll_cons_cons, Bool.and_eq_true] at hfit
          exact fits_cons.2 ⟨⟨t, hseen 0 (by simp), hfit.1⟩,
            ih (fun i hi => hseen (i + 1) (Nat.succ_lt_succ hi)) hfit.2⟩

theorem exists_missesAt (hfinal : final.IsStop) (hinner : IsInnerPattern pattern)
    (h : Upcoming.Misses pattern u) :
    ∃ k t, MissesAt (fun n => lookAt final n u) pattern k t := by
  induction pattern generalizing u with
  | nil => exact h.elim
  | cons test pattern ih =>
      obtain ⟨htest, hmore⟩ := List.forall_mem_cons.1 hinner
      match u, h with
      | [], _ =>
          exact ⟨0, final, fits_nil, lookAt_nil final 0, test, rfl, htest.fits_eq_false hfinal⟩
      | .ok t :: more, h =>
          cases hfits : test.fits t with
          | false => exact ⟨0, t, fits_nil, rfl, test, rfl, hfits⟩
          | true =>
              have hbehind := h.resolve_left (by simp [hfits])
              obtain ⟨k, t', hbefore, hthere, hmisfit⟩ := ih hmore hbehind
              exact ⟨k + 1, t', fits_cons.2 ⟨⟨t, rfl, hfits⟩, hbefore⟩, hthere, hmisfit⟩

end TokenSource

end Looks

namespace Rule

variable {α β : Type} {u v w : Upcoming} {r : Rule α} {f : α → Rule β} {a : α} {b : β}
variable {missing : TokenTest}

/-! ### The judgements -/

/-- **The rule answers `a` and leaves `v`**, wherever `u` is to come. -/
def Takes (u : Upcoming) (r : Rule α) (a : α) (v : Upcoming) : Prop :=
  ∀ ⦃s : TokenSource⦄, s.upcoming = u → ∃ s', r s = .ok a s' ∧ s'.upcoming = v

/-- **The rule breaks off in front of `v`**, wherever `u` is to come: a token that passes `missing`
was expected, and the token met there is the next one. -/
def BreaksOff (u : Upcoming) (r : Rule α) (missing : TokenTest) (v : Upcoming) : Prop :=
  ∀ ⦃s : TokenSource⦄, s.upcoming = u → ∃ actual s',
    r s = .error (.mismatch ⟨[missing], actual⟩) s' ∧ s'.upcoming = v ∧ s'.tokenAt 0 = .ok actual

theorem takes_pure (a : α) (u : Upcoming) : Takes u (pure a) a u :=
  fun s hs => ⟨s, rfl, hs⟩

theorem Takes.bind (h : Takes u r a v) (hf : Takes v (f a) b w) : Takes u (r >>= f) b w := by
  intro s hs
  obtain ⟨s', hr, hs'⟩ := h hs
  obtain ⟨s'', hfa, hs''⟩ := hf hs'
  exact ⟨s'', (bind_ok hr).trans hfa, hs''⟩

theorem Takes.map (h : Takes u r a v) (g : α → β) : Takes u (g <$> r) (g a) v := by
  rw [map_eq_pure_bind]
  exact h.bind (takes_pure _ _)

theorem Takes.breaksOff (h : Takes u r a v) (hf : BreaksOff v (f a) missing w) :
    BreaksOff u (r >>= f) missing w := by
  intro s hs
  obtain ⟨s', hr, hs'⟩ := h hs
  obtain ⟨actual, s'', hfa, hs''⟩ := hf hs'
  exact ⟨actual, s'', (bind_ok hr).trans hfa, hs''⟩

theorem BreaksOff.bind (h : BreaksOff u r missing v) : BreaksOff u (r >>= f) missing v := by
  intro s hs
  obtain ⟨actual, s', hr, hs'⟩ := h hs
  exact ⟨actual, s', bind_error hr, hs'⟩

theorem BreaksOff.map (h : BreaksOff u r missing v) (g : α → β) :
    BreaksOff u (g <$> r) missing v := by
  rw [map_eq_pure_bind]
  exact h.bind

/-! ### Looking and taking -/

section Blocks

variable {pattern : List TokenTest} {tokens : List Token} {test : TokenTest} {t : Token}

/-- A look that is answered leaves what is to come. -/
theorem upcoming_look {s s' : TokenSource} {found : Bool} (h : look pattern s = .ok found s') :
    s'.upcoming = s.upcoming := by
  rcases Decidable.em (pattern = []) with rfl | nonempty
  · obtain ⟨-, rfl⟩ := EStateM.Result.ok.inj h
    rfl
  · obtain ⟨k, test, -, hrun⟩ := exists_look nonempty s
    obtain ⟨t, s'', hpeek, hanswer⟩ := exists_of_bind_ok (hrun.symm.trans h)
    obtain ⟨-, rfl⟩ := EStateM.Result.ok.inj hanswer
    exact (upcoming_peek hpeek).1

theorem takes_look_true (hfit : TokenTest.fitAll pattern tokens = true) (v : Upcoming) :
    Takes (tokens.map .ok ++ v) (look pattern) true (tokens.map .ok ++ v) := by
  intro s hs
  have hfits : Fits s.tokenAt pattern := fits_of_fitAll (fun i hi => by
    rw [tokenAt, hs, lookAt_of_lt hi]) hfit
  obtain ⟨s', hlook⟩ := exists_look_true_iff.2 hfits
  exact ⟨s', hlook, (upcoming_look hlook).trans hs⟩

/-- The first misfit ends a look, and comes before anything that was left open. -/
theorem takes_look_false (hinner : IsInnerPattern pattern) (h : u.Misses pattern) :
    Takes u (look pattern) false u := by
  intro s hs
  have hend : s.endToken.IsStop := .inr rfl
  obtain ⟨k, t, hmiss⟩ := exists_missesAt hend hinner h
  obtain ⟨s', hlook⟩ := exists_look_false_iff.2 ⟨k, t, by rw [← hs] at hmiss; exact hmiss⟩
  exact ⟨s', hlook, (upcoming_look hlook).trans hs⟩

/-- **A look is answered by the tokens in front**, if they are enough to tell a misfit. -/
theorem takes_look (hinner : IsInnerPattern pattern)
    (h : TokenTest.fitAll pattern tokens = false → Upcoming.Misses pattern (tokens.map .ok ++ v)) :
    Takes (tokens.map .ok ++ v) (look pattern) (TokenTest.fitAll pattern tokens)
      (tokens.map .ok ++ v) := by
  cases hfit : TokenTest.fitAll pattern tokens with
  | true => exact takes_look_true hfit v
  | false => exact takes_look_false hinner (h hfit)

theorem takes_lookAny (tokens : List Token) (patterns : List (List TokenTest))
    (hinner : ∀ pattern ∈ patterns, IsInnerPattern pattern)
    (h : ∀ pattern ∈ patterns, TokenTest.fitAll pattern tokens = false →
      Upcoming.Misses pattern (tokens.map .ok ++ v)) :
    Takes (tokens.map .ok ++ v) (lookAny patterns) (patterns.any (TokenTest.fitAll · tokens))
      (tokens.map .ok ++ v) := by
  induction patterns with
  | nil => exact takes_pure _ _
  | cons pattern patterns ih =>
      obtain ⟨hpattern, hothers⟩ := List.forall_mem_cons.1 hinner
      obtain ⟨hdecided, hlater⟩ := List.forall_mem_cons.1 h
      refine (takes_look hpattern hdecided).bind ?_
      rw [List.any_cons]
      cases TokenTest.fitAll pattern tokens with
      | true => exact takes_pure _ _
      | false => exact ih hothers hlater

/-- A token that is there is seen. -/
theorem takes_peek (t : Token) (v : Upcoming) :
    Takes (.ok t :: v) (peek 0) t (.ok t :: v) := by
  intro s hs
  obtain ⟨s', hpeek, hs', -⟩ := peek_cons hs
  exact ⟨s', hpeek, hs'⟩

/-- **Taking the tokens of a pattern** answers with the last of them. -/
theorem takes_expect (front : List Token) (last : Token) {nonempty : pattern ≠ []}
    (hlen : pattern.length = front.length + 1)
    (hfit : TokenTest.fitAll pattern (front ++ [last]) = true) (v : Upcoming) :
    Takes ((front ++ [last]).map .ok ++ v) (expect pattern nonempty) last v := by
  intro s hs
  have hseen : ∀ (i : Nat) (hi : i < (front ++ [last]).length),
      s.tokenAt i = .ok (front ++ [last])[i] := fun i hi => by rw [tokenAt, hs, lookAt_of_lt hi]
  obtain ⟨k, test, hstops, hrun⟩ := exists_expect nonempty s
  obtain ⟨t, ht, hfits⟩ := fits_of_fitAll hseen hfit k test hstops.there
  -- everything fits, so the comparison stops at the last place
  have hk : k = front.length := by
    have hlast := hstops.last ht hfits
    omega
  obtain rfl : t = last := by
    rw [hseen k (by simp [hk])] at ht
    simpa [hk] using (Except.ok.inj ht).symm
  obtain ⟨s', hpeek, hreached⟩ := exists_peek ht
  refine ⟨s'.drop pattern.length, by rw [hrun, bind_ok hpeek, if_pos hfits]; rfl, ?_⟩
  have hdrop : pattern.length = k + 1 := by omega
  rw [hdrop, upcoming_drop_of_reached hreached, (upcoming_peek hpeek).1, hs, hk]
  exact List.drop_left' (by simp)

theorem takes_expectOne (hfit : test.fits t = true) (v : Upcoming) :
    Takes (.ok t :: v) (expectOne test) t v :=
  takes_expect [] t rfl (by simpa using hfit) v

/-- **A token that is missing** breaks the rule off in front of what stands there. -/
theorem breaksOff_expectOne (hinner : test.IsInner) (h : u.Misses [test]) :
    BreaksOff u (expectOne test) test u := by
  intro s hs
  have hone : IsInnerPattern [test] := fun test' htest' => by
    rwa [List.mem_singleton.1 htest']
  have hend : s.endToken.IsStop := .inr rfl
  obtain ⟨k, t, hmiss⟩ := exists_missesAt hend hone h
  rw [← hs] at hmiss
  obtain ⟨k', test', hstops, hrun⟩ := exists_expect (List.cons_ne_nil test []) s
  obtain rfl := hstops.eq_of_missesAt hmiss
  obtain ⟨s', hpeek, -⟩ := exists_peek hmiss.there
  refine ⟨t, s', ?_, (upcoming_peek hpeek).1.trans hs, ?_⟩
  · rw [expectOne, hrun, bind_ok hpeek, hstops.misfit hmiss]
    rfl
  · obtain rfl : k = 0 := by
      have hlt := (List.getElem?_eq_some_iff.1 hstops.there).1
      simpa using hlt
    rw [tokenAt_after_peek hpeek]
    exact hmiss.there

theorem takes_accept (front : List Token) (last : Token) {nonempty : pattern ≠ []}
    (hlen : pattern.length = front.length + 1)
    (hfit : TokenTest.fitAll pattern (front ++ [last]) = true) (v : Upcoming) :
    Takes ((front ++ [last]).map .ok ++ v) (accept pattern nonempty) (some last) v :=
  (takes_look_true hfit v).bind ((takes_expect front last hlen hfit v).map some)

theorem takes_acceptOne (hfit : test.fits t = true) (v : Upcoming) :
    Takes (.ok t :: v) (acceptOne test) (some t) v :=
  takes_accept [] t rfl (by simpa using hfit) v

theorem takes_accept_none {nonempty : pattern ≠ []} (hinner : IsInnerPattern pattern)
    (h : u.Misses pattern) : Takes u (accept pattern nonempty) none u :=
  (takes_look_false hinner h).bind (takes_pure none u)

theorem takes_next (t : Token) (v : Upcoming) : Takes (.ok t :: v) next t v := by
  intro s hs
  obtain ⟨s', hpeek, hs', hahead⟩ := peek_cons hs
  refine ⟨s'.drop 1, bind_ok hpeek, ?_⟩
  rw [upcoming_drop hahead, hs']
  rfl

end Blocks

/-! ### Looks that pick a branch -/

section Branches

variable {pattern : List TokenTest} {q : Rule α}

/-- A look that the tokens in front are enough for picks its branch. -/
theorem takes_ite_look (tokens : List Token) (hinner : IsInnerPattern pattern)
    (hlen : pattern.length ≤ tokens.length)
    (h : Takes (tokens.map .ok ++ u) (if TokenTest.fitAll pattern tokens then r else q) a v) :
    Takes (tokens.map .ok ++ u) (do if ← look pattern then r else q) a v :=
  (takes_look hinner fun hmiss => Upcoming.misses_append hlen hmiss u).bind h

theorem takes_ite_look_false (hinner : IsInnerPattern pattern) (hmiss : u.Misses pattern)
    (h : Takes u q a v) : Takes u (do if ← look pattern then r else q) a v :=
  (takes_look_false hinner hmiss).bind h

theorem breaksOff_ite_look_true {tokens : List Token}
    (hfit : TokenTest.fitAll pattern tokens = true) (h : BreaksOff (tokens.map .ok) r missing v) :
    BreaksOff (tokens.map .ok) (do if ← look pattern then r else q) missing v := by
  have hlook := takes_look_true hfit []
  rw [List.append_nil] at hlook
  exact hlook.breaksOff h

theorem breaksOff_ite_look_false (hinner : IsInnerPattern pattern) (hmiss : u.Misses pattern)
    (h : BreaksOff u q missing v) :
    BreaksOff u (do if ← look pattern then r else q) missing v :=
  (takes_look_false hinner hmiss).breaksOff h

end Branches

/-! ### Repetition -/

/-- A rule that is bounded by the number of tokens and failures to come. -/
theorem takes_size_bind {f : Nat → Rule α} (h : Takes u (f u.length) a v) :
    Takes u (do f (← get).size) a v := by
  intro s hs
  have hsize : s.size = u.length := by rw [size_eq_length_upcoming, hs]
  change ∃ s', f s.size s = .ok a s' ∧ s'.upcoming = v
  rw [hsize]
  exact h hs

/-- **What a repetition finds**, round by round: each round takes something, and the last one finds
nothing. -/
inductive Finds (step : Rule (Option α)) : Upcoming → List α → Upcoming → Prop where
  | done {u v : Upcoming} (h : Takes u step none v) : Finds step u [] v
  | round {u v w : Upcoming} {a : α} {found : List α} (h : Takes u step (some a) v)
      (hlt : v.length < u.length) (hmore : Finds step v found w) : Finds step u (a :: found) w

variable {step : Rule (Option α)} {found : List α}

theorem Finds.takes_manyUpTo (h : Finds step u found v) :
    ∀ rounds : Nat, u.length < rounds → Takes u (manyUpTo step rounds) found v := by
  induction h with
  | done h =>
      intro rounds hrounds
      obtain ⟨rounds, rfl⟩ : ∃ k, rounds = k + 1 := ⟨rounds - 1, by omega⟩
      exact h.bind (takes_pure _ _)
  | round h hlt _ ih =>
      intro rounds hrounds
      obtain ⟨rounds, rfl⟩ : ∃ k, rounds = k + 1 := ⟨rounds - 1, by omega⟩
      exact h.bind ((ih rounds (by omega)).map _)

theorem Finds.takes_many (h : Finds step u found v) : Takes u (many step) found v :=
  takes_size_bind (f := fun n => manyUpTo step (n + 1))
    (h.takes_manyUpTo (u.length + 1) (Nat.lt_succ_self _))

/-! ### Triples and agreements -/

section Agreements

variable {tokens rest : List Token} {E : List TokenTest → List Token → Prop}

/-- **What is taken on every source is taken where the source is cut off as well.** -/
theorem Takes.agree {tail : Upcoming} (hsuffix : rest <:+ tokens)
    (h : ∀ v, Takes (tokens.map .ok ++ v) r a (rest.map .ok ++ v)) :
    Agree tail tokens r r (Answers a rest) E := by
  intro s s' hcut
  obtain ⟨u, hr, hu⟩ := h tail hcut.whole
  obtain ⟨u', hr', hu'⟩ := h [] (hcut.cut.trans (List.append_nil _).symm)
  rw [List.append_nil] at hu'
  rw [hr, hr']
  exact .answer ⟨hu, hu'⟩ hsuffix ⟨rfl, rfl⟩

/-- **An agreement on a source without a tail** is a triple. -/
theorem Agree.takes
    (h : Agree [] tokens r r (Answers a rest) fun _ _ => False) :
    Takes (tokens.map .ok) r a (rest.map .ok) := by
  intro s hs
  have houtcome := h ⟨hs.trans (List.append_nil _).symm, hs⟩
  generalize r s = result at houtcome ⊢
  cases houtcome with
  | answer hcut _ hanswer =>
      obtain ⟨rfl, rfl⟩ := hanswer
      exact ⟨_, rfl, hcut.cut⟩
  | mismatch _ _ _ h => exact h.elim
  | unterminated htail => exact absurd htail (by simp)

/-- What comes of an agreement need not be known for the rule behind it to break off. -/
theorem Agree.breaksOff {P : α → List Token → Prop}
    (h : Agree [] tokens r r P fun _ _ => False)
    (hf : ∀ a rest, P a rest → BreaksOff (rest.map .ok) (f a) missing w) :
    BreaksOff (tokens.map .ok) (r >>= f) missing w := by
  intro s hs
  have houtcome := h ⟨hs.trans (List.append_nil _).symm, hs⟩
  generalize hr : r s = result at houtcome
  cases houtcome with
  | answer hcut _ hP =>
      obtain ⟨actual, s', hfa, hleft⟩ := hf _ _ hP hcut.cut
      exact ⟨actual, s', (bind_ok hr).trans hfa, hleft⟩
  | mismatch _ _ _ h => exact h.elim
  | unterminated htail => exact absurd htail (by simp)

end Agreements

end Rule

end DocComments
