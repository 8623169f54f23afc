import DocComments.Proofs.Comparison

/-!
# A token source as a plain cursor

For whoever uses a token source nothing shows of how it reads ahead: it behaves as a cursor that
moves over the tokens of the source, and moves only when tokens are taken.

Every operation is one look and then an ending (`TokenSource.Operation.exists_ends`).  What follows
for all of them alike is drawn from that: they move on, and where they fail, they take nothing.
What each of them answers and takes is told by the tokens in front and by `TokenSource.tokenAt`;
`TokenSource.IsPlainCursor` collects it.  A source stays a plain cursor through every sequence of
operations, those that fail included (`TokenSource.operations_move_plain_cursor`).
-/

namespace DocComments

namespace TokenSource

/-! ### The first places -/

/-- The first places as tokens: those to come, and behind the last of them the end over and
over. -/
theorem exists_places (s : TokenSource) {n : Nat} (h : ∀ i < n, ∃ t, s.tokenAt i = .ok t) :
    ∃ (tokens : List Token) (ends : Nat),
      s.upcoming = tokens.map .ok ++ s.upcoming.drop n ∧ tokens.length + ends = n ∧
        ∀ (i : Nat) (hi : i < (tokens ++ List.replicate ends s.endToken).length),
          s.tokenAt i = .ok (tokens ++ List.replicate ends s.endToken)[i] := by
  unfold tokenAt at *
  generalize s.upcoming = u at *
  induction n generalizing u with
  | zero => exact ⟨[], 0, rfl, rfl, fun i hi => absurd hi (by simp)⟩
  | succ n ih =>
      cases u with
      | nil => exact ⟨[], n + 1, rfl, by simp, fun i hi => by simp⟩
      | cons first more =>
          cases first with
          | error e =>
              obtain ⟨t, ht⟩ := h 0 (Nat.succ_pos n)
              exact absurd ht (by simp)
          | ok t =>
              obtain ⟨tokens, ends, hmore, hlen, hat⟩ :=
                ih more fun i hi => h (i + 1) (Nat.succ_lt_succ hi)
              refine ⟨t :: tokens, ends, congrArg (.ok t :: ·) hmore,
                by rw [List.length_cons]; omega, fun i hi => ?_⟩
              cases i with
              | zero => rfl
              | succ i => exact hat i (Nat.lt_of_succ_lt_succ hi)

/-- Without the end of the source only the tokens to come are left of the places. -/
theorem filter_places (s : TokenSource) {tokens : List Token}
    (hkinds : ∀ t ∈ tokens, t.kind ≠ .endOfInput) (ends : Nat) :
    (tokens ++ List.replicate ends s.endToken).filter (fun t => t.kind ≠ .endOfInput) =
      tokens := by
  have hends : (List.replicate ends s.endToken).filter (fun t => t.kind ≠ .endOfInput) = [] := by
    rw [List.filter_eq_nil_iff]
    intro t ht
    rw [List.eq_of_mem_replicate ht]
    simp [endToken]
  have htokens : tokens.filter (fun t => t.kind ≠ .endOfInput) = tokens :=
    List.filter_eq_self.2 fun t ht => by simpa using hkinds t ht
  rw [List.filter_append, htokens, hends, List.append_nil]

/-! ### Operations -/

/-- **The operations on a token source.** -/
inductive Operation where
  /-- Asks whether the next tokens fit a pattern. -/
  | look (pattern : List TokenTest)
  /-- Takes the tokens of a pattern. -/
  | expect (pattern : List TokenTest) (nonempty : pattern ≠ [])
  /-- Takes one token. -/
  | next
  /-- Asks whether no token is left. -/
  | atEnd
  /-- Asks for the token at a place. -/
  | peek (offset : Nat)

namespace Operation

/-- An operation, its answer left aside. -/
def perform : Operation → Rule Unit
  | look pattern => discard (Rule.look pattern)
  | expect pattern nonempty => discard (Rule.expect pattern nonempty)
  | next => discard Rule.next
  | atEnd => discard Rule.atEnd
  | peek offset => discard (TokenSource.peek offset)

end Operation

section Discard

variable {α : Type} {r : Rule α} {s s' : TokenSource}

theorem discard_ok {a : α} (h : r s = .ok a s') : discard r s = .ok () s' := by
  change EStateM.map _ r s = _
  simp only [EStateM.map, h]

theorem discard_error {f : Failure} (h : r s = .error f s') : discard r s = .error f s' := by
  change EStateM.map _ r s = _
  simp only [EStateM.map, h]

end Discard

/-- What an operation does once it has looked at the place `k`. -/
inductive Operation.Ends (op : Operation) (s : TokenSource) (k : Nat) : Prop where
  /-- The look fails, and so does the operation. -/
  | fails (f : Failure) (u : TokenSource) (hpeek : TokenSource.peek k s = .error f u)
      (hperform : op.perform s = .error f u)
  /-- The token does not fit. -/
  | misfits (t : Token) (m : Mismatch) (u : TokenSource) (hpeek : TokenSource.peek k s = .ok t u)
      (hperform : op.perform s = .error (.mismatch m) u)
  /-- The operation is done, and takes what it takes. -/
  | takes (t : Token) (n : Nat) (u : TokenSource) (hpeek : TokenSource.peek k s = .ok t u)
      (hperform : op.perform s = .ok () (u.drop n))

/-- An operation that looks at one place and then answers. -/
theorem Operation.ends_of_answer {α : Type} {op : Operation} {r : Rule α} {k : Nat}
    {answer : Token → α} {s : TokenSource} (hop : op.perform = discard r)
    (hr : r s = (TokenSource.peek k >>= fun t => pure (answer t)) s) : op.Ends s k := by
  cases hpeek : TokenSource.peek k s with
  | error f u =>
      refine .fails f u hpeek ?_
      rw [hop, discard_error (hr.trans (bind_error hpeek))]
  | ok t u =>
      refine .takes t 0 u hpeek ?_
      rw [hop, discard_ok (hr.trans (bind_ok hpeek))]
      rfl

/-- **Every operation is one look**, and then it ends. -/
theorem Operation.exists_ends (op : Operation) (s : TokenSource) :
    op.perform s = .ok () s ∨ ∃ k, op.Ends s k := by
  cases op with
  | look pattern =>
      rcases Decidable.em (pattern = []) with rfl | nonempty
      · exact .inl rfl
      · obtain ⟨k, test, -, hrun⟩ := Rule.exists_look nonempty s
        exact .inr ⟨k, ends_of_answer rfl hrun⟩
  | expect pattern nonempty =>
      obtain ⟨k, test, -, hrun⟩ := Rule.exists_expect nonempty s
      refine .inr ⟨k, ?_⟩
      cases hpeek : TokenSource.peek k s with
      | error f u => exact .fails f u hpeek (discard_error (hrun.trans (bind_error hpeek)))
      | ok t u =>
          rw [bind_ok hpeek] at hrun
          cases hfit : test.fits t with
          | false =>
              rw [hfit] at hrun
              exact .misfits t ⟨pattern, t⟩ u hpeek (discard_error hrun)
          | true =>
              rw [hfit] at hrun
              exact .takes t pattern.length u hpeek (discard_ok hrun)
  | next =>
      refine .inr ⟨0, ?_⟩
      cases hpeek : TokenSource.peek 0 s with
      | error f u => exact .fails f u hpeek (discard_error (bind_error hpeek))
      | ok t u => exact .takes t 1 u hpeek (discard_ok (bind_ok hpeek))
  | atEnd => exact .inr ⟨0, ends_of_answer rfl rfl⟩
  | peek offset => exact .inr ⟨offset, ends_of_answer rfl (congrFun (bind_pure _).symm s)⟩

theorem movesOn_perform (op : Operation) (s : TokenSource) : MovesOn s (after op.perform s) := by
  rcases op.exists_ends s with hnone | ⟨k, hends⟩
  · rw [after_ok hnone]
    exact .refl s
  · have hreads := readsTo_peek s k
    cases hends with
    | fails f u hpeek hperform =>
        rw [after_error hperform]
        rw [after_error hpeek] at hreads
        exact hreads.toMovesOn
    | misfits t m u hpeek hperform =>
        rw [after_error hperform]
        rw [after_ok hpeek] at hreads
        exact hreads.toMovesOn
    | takes t n u hpeek hperform =>
        rw [after_ok hperform]
        rw [after_ok hpeek] at hreads
        exact hreads.toMovesOn.trans (movesOn_drop u n)

section Fails

variable {op : Operation} {s s' : TokenSource}

/-- **An operation that fails takes nothing.** -/
theorem tokens_of_fails {f : Failure} (h : op.perform s = .error f s') :
    s'.tokens = s.tokens := by
  rcases op.exists_ends s with hnone | ⟨k, hends⟩
  · exact absurd (hnone.symm.trans h) (by simp)
  · have hreads := readsTo_peek s k
    cases hends with
    | fails f' u hpeek hperform =>
        obtain ⟨-, rfl⟩ := EStateM.Result.error.inj (hperform.symm.trans h)
        rw [after_error hpeek] at hreads
        exact hreads.tokens
    | misfits t m u hpeek hperform =>
        obtain ⟨-, rfl⟩ := EStateM.Result.error.inj (hperform.symm.trans h)
        rw [after_ok hpeek] at hreads
        exact hreads.tokens
    | takes t n u hpeek hperform => exact absurd (hperform.symm.trans h) (by simp)

/-- A construct left open that an operation reports is then gone. -/
theorem reports_of_fails {e : Unterminated} (h : op.perform s = .error (.unterminated e) s') :
    Reports e s s' := by
  rcases op.exists_ends s with hnone | ⟨k, hends⟩
  · exact absurd (hnone.symm.trans h) (by simp)
  · cases hends with
    | fails f' u hpeek hperform =>
        obtain ⟨rfl, rfl⟩ := EStateM.Result.error.inj (hperform.symm.trans h)
        obtain ⟨e', he, -, hreports⟩ := peek_reports hpeek
        obtain rfl := Failure.unterminated.inj he
        exact hreports
    | misfits t m u hpeek hperform => exact absurd (hperform.symm.trans h) (by simp)
    | takes t n u hpeek hperform => exact absurd (hperform.symm.trans h) (by simp)

end Fails

/-! ### What the operations answer -/

section Answers

variable {s s' : TokenSource} {pattern : List TokenTest} {t : Token}

theorem exists_look_true_iff :
    (∃ s', Rule.look pattern s = .ok true s') ↔ Fits s.tokenAt pattern := by
  rcases Decidable.em (pattern = []) with rfl | nonempty
  · exact ⟨fun _ => fits_nil, fun _ => ⟨s, rfl⟩⟩
  obtain ⟨k, test, hstops, hrun⟩ := Rule.exists_look nonempty s
  rw [hrun]
  constructor
  · rintro ⟨s', h⟩
    obtain ⟨t, u, hpeek, hanswer⟩ := exists_of_bind_ok h
    rw [hstops.fits_iff (tokenAt_of_peek hpeek)]
    exact (EStateM.Result.ok.inj hanswer).1
  · intro hfits
    obtain ⟨t, ht, hfit⟩ := hfits k test hstops.there
    obtain ⟨u, hpeek, -⟩ := exists_peek ht
    refine ⟨u, ?_⟩
    rw [bind_ok hpeek, hfit]
    rfl

theorem exists_look_false_iff :
    (∃ s', Rule.look pattern s = .ok false s') ↔ ∃ k t, MissesAt s.tokenAt pattern k t := by
  rcases Decidable.em (pattern = []) with rfl | nonempty
  · constructor
    · rintro ⟨s', h⟩
      exact absurd (EStateM.Result.ok.inj h).1 (by simp)
    · rintro ⟨k, t, hmiss⟩
      exact absurd hmiss fits_nil.not_missesAt
  obtain ⟨k, test, hstops, hrun⟩ := Rule.exists_look nonempty s
  rw [hrun]
  constructor
  · rintro ⟨s', h⟩
    obtain ⟨t, u, hpeek, hanswer⟩ := exists_of_bind_ok h
    have hno := (EStateM.Result.ok.inj hanswer).1
    exact ⟨k, t, hstops.missesAt (tokenAt_of_peek hpeek) hno⟩
  · rintro ⟨k', t, hmiss⟩
    obtain rfl := hstops.eq_of_missesAt hmiss
    obtain ⟨u, hpeek, -⟩ := exists_peek hmiss.there
    refine ⟨u, ?_⟩
    rw [bind_ok hpeek, hstops.misfit hmiss]
    rfl

/-- A look takes nothing, and reads as far as the place where the comparison stops. -/
theorem exists_after_look (nonempty : pattern ≠ []) (s : TokenSource) :
    ∃ k test, StopsAt s.tokenAt pattern k test ∧
      after (Rule.look pattern) s = after (peek k) s := by
  obtain ⟨k, test, hstops, hrun⟩ := Rule.exists_look nonempty s
  refine ⟨k, test, hstops, ?_⟩
  rw [after, hrun]
  exact after_bind_pure (peek k) _ s

theorem exists_expect_ok_iff (nonempty : pattern ≠ []) :
    (∃ t s', Rule.expect pattern nonempty s = .ok t s') ↔ Fits s.tokenAt pattern := by
  obtain ⟨k, test, hstops, hrun⟩ := Rule.exists_expect nonempty s
  rw [hrun]
  constructor
  · rintro ⟨t, s', h⟩
    obtain ⟨t, u, hpeek, hanswer⟩ := exists_of_bind_ok h
    rw [hstops.fits_iff (tokenAt_of_peek hpeek)]
    by_contra hno
    rw [if_neg hno] at hanswer
    exact absurd hanswer (by rintro ⟨⟩)
  · intro hfits
    obtain ⟨t, ht, hfit⟩ := hfits k test hstops.there
    obtain ⟨u, hpeek, -⟩ := exists_peek ht
    refine ⟨t, u.drop pattern.length, ?_⟩
    rw [bind_ok hpeek, if_pos hfit]
    rfl

theorem exists_expect_mismatch_iff (nonempty : pattern ≠ []) {m : Mismatch} :
    (∃ s', Rule.expect pattern nonempty s = .error (.mismatch m) s') ↔
      m.expected = pattern ∧ ∃ k, MissesAt s.tokenAt pattern k m.actual := by
  obtain ⟨k, test, hstops, hrun⟩ := Rule.exists_expect nonempty s
  rw [hrun]
  constructor
  · rintro ⟨s', h⟩
    cases hpeek : peek k s with
    | error f u =>
        obtain ⟨e, rfl, -⟩ := peek_reports hpeek
        exact absurd ((bind_error hpeek).symm.trans h) (by simp)
    | ok t u =>
        rw [bind_ok hpeek] at h
        cases hfit : test.fits t with
        | true => rw [hfit] at h; exact absurd h (by rintro ⟨⟩)
        | false =>
            rw [hfit] at h
            obtain rfl := Failure.mismatch.inj (EStateM.Result.error.inj h).1
            exact ⟨rfl, k, hstops.missesAt (tokenAt_of_peek hpeek) hfit⟩
  · rintro ⟨rfl, k', hmiss⟩
    obtain rfl := hstops.eq_of_missesAt hmiss
    obtain ⟨u, hpeek, -⟩ := exists_peek hmiss.there
    refine ⟨u, ?_⟩
    rw [bind_ok hpeek, hstops.misfit hmiss]
    rfl

/-- **What a pattern takes**: the tokens at its places, the end of the source apart.  The answer
is the last of them. -/
theorem expect_takes {nonempty : pattern ≠ []} (hkinds : ∀ t ∈ s.tokens, t.kind ≠ .endOfInput)
    (h : Rule.expect pattern nonempty s = .ok t s') :
    ∃ matched : List Token, matched.length = pattern.length ∧
      (∀ i t, matched[i]? = some t → s.tokenAt i = .ok t) ∧ matched.getLast? = some t ∧
        s.tokens = matched.filter (fun t => t.kind ≠ .endOfInput) ++ s'.tokens := by
  have hfits := (exists_expect_ok_iff nonempty).1 ⟨t, s', h⟩
  obtain ⟨tokens, ends, hup, hlen, hat⟩ := s.exists_places (n := pattern.length) fun i hi => by
    obtain ⟨t, ht, -⟩ := hfits i _ (List.getElem?_eq_getElem hi)
    exact ⟨t, ht⟩
  set matched := tokens ++ List.replicate ends s.endToken with hmatched
  have hlength : matched.length = pattern.length := by simp [hmatched, hlen]
  -- the rule has looked at the last place, which is where the comparison stops
  obtain ⟨k, test, hstops, hrun⟩ := Rule.exists_expect nonempty s
  obtain ⟨t', ht', hfit⟩ := hfits k test hstops.there
  have hlast := hstops.last ht' hfit
  obtain ⟨u, hpeek, hreached⟩ := exists_peek ht'
  rw [h, bind_ok hpeek, if_pos hfit] at hrun
  obtain ⟨rfl, rfl⟩ := EStateM.Result.ok.inj hrun
  have hleft : (u.drop pattern.length).tokens =
      Upcoming.tokens (s.upcoming.drop pattern.length) := by
    rw [← hlast, TokenSource.tokens, upcoming_drop_of_reached hreached, (upcoming_peek hpeek).1]
  have hall : s.tokens = tokens ++ (u.drop pattern.length).tokens := by
    rw [hleft, ← Upcoming.tokens_map_ok tokens, ← Upcoming.tokens_append, ← hup,
      TokenSource.tokens]
  refine ⟨matched, hlength, fun i t hi => ?_, ?_, ?_⟩
  · obtain ⟨hlt, rfl⟩ := List.getElem?_eq_some_iff.1 hi
    exact hat i hlt
  · have hk : k < matched.length := by omega
    have hlastIndex : matched.length - 1 = k := by omega
    rw [List.getLast?_eq_getElem?, hlastIndex, List.getElem?_eq_getElem hk,
      Except.ok.inj ((hat k hk).symm.trans ht')]
  · rw [hmatched, s.filter_places (fun t ht => hkinds t ?_) ends]
    · exact hall
    · rw [hall]
      exact List.mem_append_left _ ht

/-- **What a step takes**: the token in front, or nothing at the end of the source. -/
theorem next_takes (h : Rule.next s = .ok t s') :
    s.tokens = t :: s'.tokens ∨ s.tokens = [] ∧ t = s.endToken ∧ s'.upcoming = [] := by
  obtain ⟨t', u, hpeek, hanswer⟩ := exists_of_bind_ok h
  obtain ⟨rfl, rfl⟩ := EStateM.Result.ok.inj hanswer
  have hat := tokenAt_of_peek hpeek
  obtain ⟨u', hu', hreached⟩ := exists_peek hat
  obtain ⟨-, rfl⟩ := EStateM.Result.ok.inj (hu'.symm.trans hpeek)
  have hdrop := upcoming_drop_of_reached hreached
  rw [(upcoming_peek hpeek).1] at hdrop
  rw [tokenAt] at hat
  rw [TokenSource.tokens, TokenSource.tokens, hdrop]
  cases hup : s.upcoming with
  | nil =>
      rw [hup, lookAt_nil] at hat
      exact .inr ⟨rfl, (Except.ok.inj hat).symm, rfl⟩
  | cons first more =>
      rw [hup] at hat
      cases first with
      | error e => exact absurd hat (by simp)
      | ok t'' =>
          obtain rfl := Except.ok.inj hat
          exact .inl rfl

theorem exists_next_iff : (∃ s', Rule.next s = .ok t s') ↔ s.tokenAt 0 = .ok t := by
  constructor
  · rintro ⟨s', h⟩
    obtain ⟨t', u, hpeek, hanswer⟩ := exists_of_bind_ok h
    obtain ⟨rfl, -⟩ := EStateM.Result.ok.inj hanswer
    exact tokenAt_of_peek hpeek
  · intro ht
    obtain ⟨u, hpeek, -⟩ := exists_peek ht
    exact ⟨u.drop 1, bind_ok hpeek⟩

theorem exists_atEnd_iff {b : Bool} :
    (∃ s', Rule.atEnd s = .ok b s') ↔
      ∃ t, s.tokenAt 0 = .ok t ∧ decide (t.kind = .endOfInput) = b := by
  constructor
  · rintro ⟨s', h⟩
    obtain ⟨t, u, hpeek, hanswer⟩ := exists_of_bind_ok h
    obtain ⟨rfl, -⟩ := EStateM.Result.ok.inj hanswer
    exact ⟨t, tokenAt_of_peek hpeek, rfl⟩
  · rintro ⟨t, ht, rfl⟩
    obtain ⟨u, hpeek, -⟩ := exists_peek ht
    exact ⟨u, bind_ok hpeek⟩

/-- Whether a token is left is answered from what is to come first. -/
theorem atEnd_of_upcoming {b : Bool} (hkinds : ∀ t ∈ s.tokens, t.kind ≠ .endOfInput)
    (h : Rule.atEnd s = .ok b s') : b = true ↔ s.upcoming = [] := by
  obtain ⟨t, ht, rfl⟩ := exists_atEnd_iff.1 ⟨s', h⟩
  rw [tokenAt] at ht
  rw [tokens] at hkinds
  cases hup : s.upcoming with
  | nil =>
      rw [hup, lookAt_nil] at ht
      obtain rfl := Except.ok.inj ht
      simp [endToken]
  | cons first more =>
      rw [hup] at ht hkinds
      cases first with
      | error e => exact absurd ht (by simp)
      | ok t' =>
          obtain rfl := Except.ok.inj ht
          simpa using hkinds t' (by simp)

/-- Asking whether a token is left takes none. -/
theorem after_atEnd (s : TokenSource) : after Rule.atEnd s = after (peek 0) s :=
  after_bind_pure (peek 0) _ s

end Answers

/-! ### Sequences of operations -/

/-- **The source after a sequence of operations.**  Where one fails, the sequence goes on. -/
def afterAll : List Operation → TokenSource → TokenSource
  | [], s => s
  | op :: more, s => afterAll more (after op.perform s)

/-- The tokens that the second source no longer has before its cursor. -/
def takenBetween (s s' : TokenSource) : List Token :=
  s.tokens.take (s.tokens.length - s'.tokens.length)

/-- **The tokens that a sequence of operations takes**, one operation after another. -/
def takenAll : List Operation → TokenSource → List Token
  | [], _ => []
  | op :: more, s =>
      takenBetween s (after op.perform s) ++ takenAll more (after op.perform s)

theorem takenBetween_append {s s' : TokenSource} (h : s'.tokens <:+ s.tokens) :
    takenBetween s s' ++ s'.tokens = s.tokens := by
  obtain ⟨front, hfront⟩ := h
  rw [takenBetween, ← hfront, List.length_append, Nat.add_sub_cancel, List.take_left]

theorem movesOn_afterAll (ops : List Operation) (s : TokenSource) :
    MovesOn s (afterAll ops s) := by
  induction ops generalizing s with
  | nil => exact .refl s
  | cons op more ih => exact (movesOn_perform op s).trans (ih _)

/-- **No token is lost, and none comes twice.** -/
theorem takenAll_append (ops : List Operation) (s : TokenSource) :
    takenAll ops s ++ (afterAll ops s).tokens = s.tokens := by
  induction ops generalizing s with
  | nil => rfl
  | cons op more ih =>
      rw [takenAll, afterAll, List.append_assoc, ih,
        takenBetween_append (movesOn_perform op s).suffix]

/-- Where nothing is to come, nothing ever will be, and the answer is the end of the source. -/
theorem next_of_upcoming_eq_nil {s : TokenSource} (h : s.upcoming = []) (ops : List Operation) :
    ∃ s', Rule.next (afterAll ops s) = .ok s.endToken s' := by
  have hmoves := movesOn_afterAll ops s
  have hnil : (afterAll ops s).upcoming = [] := List.sublist_nil.1 (h ▸ hmoves.sublist)
  rw [exists_next_iff, tokenAt, hnil, lookAt_nil, hmoves.endToken]

/-- **The source is a plain cursor** over the tokens before it: what each operation answers and
takes is told by `tokens` and `tokenAt` alone. -/
structure IsPlainCursor (s : TokenSource) : Prop where
  /-- The end of the source is not one of the tokens. -/
  kinds : ∀ t ∈ s.tokens, t.kind ≠ .endOfInput
  /-- An operation that fails takes nothing. -/
  fails : ∀ (op : Operation) f s', op.perform s = .error f s' → s'.tokens = s.tokens
  /-- A construct left open that is reported is then gone, and nothing else changes. -/
  reports : ∀ (op : Operation) e s', op.perform s = .error (.unterminated e) s' → Reports e s s'
  /-- A look at a place answers the token there. -/
  peek_iff : ∀ n t, (∃ s', peek n s = .ok t s') ↔ s.tokenAt n = .ok t
  /-- It takes nothing. -/
  peek_keeps : ∀ n, (after (peek n) s).tokens = s.tokens
  /-- It reads no further than its place. -/
  peek_reads : ∀ n, (after (peek n) s).ahead.length ≤ max s.ahead.length (n + 1)
  /-- A pattern is found if each of its tests fits the token at its place. -/
  look_true_iff : ∀ pattern, (∃ s', Rule.look pattern s = .ok true s') ↔ Fits s.tokenAt pattern
  /-- It is not found if there is a first place that does not fit. -/
  look_false_iff : ∀ pattern,
    (∃ s', Rule.look pattern s = .ok false s') ↔ ∃ k t, MissesAt s.tokenAt pattern k t
  /-- Looking for a pattern takes nothing. -/
  look_keeps : ∀ pattern, (after (Rule.look pattern) s).tokens = s.tokens
  /-- It reads as far as the comparison goes, to the first misfit or to the last place. -/
  look_reads : ∀ pattern, pattern ≠ [] → ∃ k test, StopsAt s.tokenAt pattern k test ∧
    after (Rule.look pattern) s = after (peek k) s
  /-- A pattern is taken if each of its tests fits the token at its place. -/
  expect_iff : ∀ pattern nonempty,
    (∃ t s', Rule.expect pattern nonempty s = .ok t s') ↔ Fits s.tokenAt pattern
  /-- It takes the tokens at its places, the end of the source apart, and answers the last. -/
  expect_takes : ∀ pattern nonempty t s', Rule.expect pattern nonempty s = .ok t s' →
    ∃ matched : List Token, matched.length = pattern.length ∧
      (∀ i t, matched[i]? = some t → s.tokenAt i = .ok t) ∧ matched.getLast? = some t ∧
        s.tokens = matched.filter (fun t => t.kind ≠ .endOfInput) ++ s'.tokens
  /-- It is refused at the first place that does not fit, with the pattern and the token. -/
  expect_mismatch_iff : ∀ pattern nonempty m,
    (∃ s', Rule.expect pattern nonempty s = .error (.mismatch m) s') ↔
      m.expected = pattern ∧ ∃ k, MissesAt s.tokenAt pattern k m.actual
  /-- A step answers the token in front. -/
  next_iff : ∀ t, (∃ s', Rule.next s = .ok t s') ↔ s.tokenAt 0 = .ok t
  /-- It takes just that; at the end it takes nothing, and from then on every step, whatever is
  done in between, answers the end. -/
  next_takes : ∀ t s', Rule.next s = .ok t s' →
    s.tokens = t :: s'.tokens ∨
      s.tokens = [] ∧ s'.tokens = [] ∧ t = s.endToken ∧
        ∀ ops, ∃ s'', Rule.next (afterAll ops s') = .ok s.endToken s''
  /-- Nothing is left if nothing is to come. -/
  atEnd_true : ∀ b s', Rule.atEnd s = .ok b s' → (b = true ↔ s.upcoming = [])
  /-- Asking for that answers if a look at the first place does. -/
  atEnd_iff : (∃ b s', Rule.atEnd s = .ok b s') ↔ ∃ t, s.tokenAt 0 = .ok t
  /-- It takes nothing. -/
  atEnd_keeps : (after Rule.atEnd s).tokens = s.tokens

theorem isPlainCursor {s : TokenSource} (hkinds : ∀ t ∈ s.tokens, t.kind ≠ .endOfInput) :
    s.IsPlainCursor where
  kinds := hkinds
  fails _ _ _ h := tokens_of_fails h
  reports _ _ _ h := reports_of_fails h
  peek_iff n t := by
    constructor
    · rintro ⟨s', h⟩
      exact tokenAt_of_peek h
    · intro h
      obtain ⟨u, hu, -⟩ := exists_peek h
      exact ⟨u, hu⟩
  peek_keeps n := (readsTo_peek s n).tokens
  peek_reads n := length_ahead_peek_le s n
  look_true_iff _ := exists_look_true_iff
  look_false_iff _ := exists_look_false_iff
  look_keeps pattern := by
    rcases Decidable.em (pattern = []) with rfl | nonempty
    · rfl
    · obtain ⟨k, test, -, hafter⟩ := exists_after_look nonempty s
      rw [hafter, (readsTo_peek s k).tokens]
  look_reads _ nonempty := exists_after_look nonempty s
  expect_iff _ nonempty := exists_expect_ok_iff nonempty
  expect_takes _ _ _ _ h := expect_takes hkinds h
  expect_mismatch_iff _ nonempty _ := exists_expect_mismatch_iff nonempty
  next_iff _ := exists_next_iff
  next_takes t s' h := by
    rcases next_takes h with htaken | ⟨hnil, rfl, hup⟩
    · exact .inl htaken
    · -- the operations in between cannot bring anything back
      refine .inr ⟨hnil, by rw [tokens, hup]; rfl, rfl, fun ops => ?_⟩
      have hafter : after Operation.next.perform s = s' := after_ok (discard_ok h)
      have hend := (hafter ▸ movesOn_perform .next s).endToken
      exact hend ▸ next_of_upcoming_eq_nil hup ops
  atEnd_true _ _ h := atEnd_of_upcoming hkinds h
  atEnd_iff := by
    constructor
    · rintro ⟨b, h⟩
      obtain ⟨t, ht, -⟩ := exists_atEnd_iff.1 h
      exact ⟨t, ht⟩
    · rintro ⟨t, ht⟩
      exact ⟨_, exists_atEnd_iff.2 ⟨t, ht, rfl⟩⟩
  atEnd_keeps := by rw [after_atEnd, (readsTo_peek s 0).tokens]

/-- **A token source is a plain cursor over the tokens of its source**, whatever was done before
and whatever failed.  The tokens taken so far, those read ahead and those that the lexer still
yields are all the tokens of the source; and each operation answers and takes what is in front. -/
theorem operations_move_plain_cursor (source : String) (ops : List Operation) :
    let s := afterAll ops (ofString source)
    (∃ n, let l := Lexer.advance^[n] (Lexer.start source)
      Drives l s ∧
        takenAll ops (ofString source) ++ s.ahead ++ l.yields = (Lexer.start source).yields) ∧
      s.endToken = (ofString source).endToken ∧ s.IsPlainCursor := by
  intro s
  have hmoves : MovesOn (ofString source) s := movesOn_afterAll ops _
  obtain ⟨n, hdrives⟩ := hmoves.drives _ (drives_ofString source)
  refine ⟨⟨n, hdrives, ?_⟩, hmoves.endToken, isPlainCursor fun t ht => ?_⟩
  · rw [List.append_assoc, ← hdrives.yields, takenAll_append, (drives_ofString source).yields]
    rfl
  · exact kind_ne_endOfInput_of_mem_upcoming (Upcoming.mem_tokens.1 (hmoves.suffix.subset ht))

/-- The look in the middle meets a string left open, and the last step takes what is behind it. -/
example : takenAll [.next, .peek 1, .next] (ofString "a 'b\nc") =
    [⟨.ident, "a", 1, 1⟩, ⟨.ident, "c", 2, 1⟩] := by
  decide +kernel

end TokenSource

end DocComments
