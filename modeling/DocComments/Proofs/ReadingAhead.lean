import DocComments.Proofs.LexerRun
import Mathlib.Logic.Function.Iterate

/-!
# Reading ahead

A token source reads ahead as far as a question needs, and a construct left open may stop it half
way.  This file says what a single look changes, whether it is answered or not.

`TokenSource.tokens` is what stands before the source: the tokens read ahead, and those that the
lexer still yields.  `TokenSource.Drives` names the lexer whose future is pending, so that the
latter can be told of a lexer.  A look keeps the tokens and makes some steps of that lexer
(`TokenSource.readsTo_peek`), reads no further than its place (`TokenSource.length_ahead_peek_le`),
and does not change the looks after it (`TokenSource.peek_peek`).  Where it fails, it has reported
a construct left open, which is then gone (`TokenSource.peek_reports`).
-/

namespace DocComments

open Text

/-! ### The tokens to come -/

/-- The tokens among what is to come, failures passed over. -/
def Upcoming.tokens (u : Upcoming) : List Token :=
  u.filterMap Except.toOption

namespace Upcoming

@[simp] theorem tokens_nil : tokens [] = [] := rfl

@[simp] theorem tokens_ok (t : Token) (more : Upcoming) :
    tokens (.ok t :: more) = t :: tokens more := rfl

@[simp] theorem tokens_error (e : Unterminated) (more : Upcoming) :
    tokens (.error e :: more) = tokens more := rfl

@[simp] theorem tokens_append (u v : Upcoming) : tokens (u ++ v) = tokens u ++ tokens v :=
  List.filterMap_append

@[simp] theorem tokens_map_ok (ts : List Token) : tokens (ts.map .ok) = ts := by
  induction ts with
  | nil => rfl
  | cons t ts ih => rw [List.map_cons, tokens_ok, ih]

theorem mem_tokens {t : Token} {u : Upcoming} : t ∈ tokens u ↔ .ok t ∈ u := by
  rw [tokens, List.mem_filterMap]
  constructor
  · rintro ⟨result, hmem, hresult⟩
    cases result with
    | error e => exact absurd hresult (by simp [Except.toOption])
    | ok t' =>
        obtain rfl : t' = t := by simpa [Except.toOption] using hresult
        exact hmem
  · exact fun h => ⟨.ok t, h, rfl⟩

end Upcoming

/-- **The tokens that a lexer yields** when it is driven to the end of the source, past its
failures. -/
def Lexer.yields (l : Lexer) : List Token :=
  Upcoming.tokens (l.run.1.map (·.result))

/-- The lexer one step further. -/
def Lexer.advance (l : Lexer) : Lexer :=
  l.next.2

namespace TokenSource

/-- **The tokens before the cursor**: those read ahead, and those that the lexer still yields. -/
def tokens (s : TokenSource) : List Token :=
  Upcoming.tokens s.upcoming

theorem tokens_eq (s : TokenSource) :
    s.tokens = s.ahead ++ Upcoming.tokens (s.pending.map (·.result)) := by
  rw [tokens, upcoming, Upcoming.tokens_append, Upcoming.tokens_map_ok]

/-- The lexer that the source drives: it stands where the source says, and its future is what is
pending. -/
structure Drives (l : Lexer) (s : TokenSource) : Prop where
  /-- Where it stands. -/
  cursor : s.cursor = l.cursor
  /-- What it will find. -/
  run : l.run = (s.pending, s.finish)

theorem drives_ofString (source : String) : Drives (Lexer.start source) (ofString source) :=
  ⟨rfl, rfl⟩

theorem Drives.yields {l : Lexer} {s : TokenSource} (h : Drives l s) :
    s.tokens = s.ahead ++ l.yields := by
  rw [tokens_eq, Lexer.yields, h.run]

/-- **The second source is the first one moved on**: some tokens have been taken from the front,
and the lexer has made some steps. -/
structure MovesOn (s s' : TokenSource) : Prop where
  /-- The tokens before the cursor are the last of those that were. -/
  suffix : s'.tokens <:+ s.tokens
  /-- Nothing new is to come. -/
  sublist : s'.upcoming.Sublist s.upcoming
  /-- The source ends where it did. -/
  finish : s'.finish = s.finish
  /-- A lexer that was driven has moved on. -/
  drives : ∀ l, Drives l s → ∃ n, Drives (Lexer.advance^[n] l) s'

theorem MovesOn.refl (s : TokenSource) : MovesOn s s :=
  ⟨List.suffix_rfl, .refl _, rfl, fun _ h => ⟨0, h⟩⟩

theorem MovesOn.trans {s s' s'' : TokenSource} (h : MovesOn s s') (h' : MovesOn s' s'') :
    MovesOn s s'' := by
  refine ⟨h'.suffix.trans h.suffix, h'.sublist.trans h.sublist, h'.finish.trans h.finish,
    fun l hl => ?_⟩
  obtain ⟨n, hn⟩ := h.drives l hl
  obtain ⟨m, hm⟩ := h'.drives _ hn
  rw [← Function.iterate_add_apply] at hm
  exact ⟨m + n, hm⟩

theorem MovesOn.endToken {s s' : TokenSource} (h : MovesOn s s') :
    s'.endToken = s.endToken := by
  rw [TokenSource.endToken, TokenSource.endToken, h.finish]

theorem movesOn_drop (s : TokenSource) (n : Nat) : MovesOn s (s.drop n) where
  suffix := by
    rw [tokens_eq, tokens_eq, drop]
    exact List.suffix_append_self_iff.2 (List.drop_suffix n s.ahead)
  sublist := ((List.drop_sublist n s.ahead).map _).append_right _
  finish := rfl
  drives _ hl := ⟨0, hl.cursor, hl.run⟩

/-- **The second source has read on from the first**: it has moved, and no token is gone. -/
structure ReadsTo (s s' : TokenSource) : Prop extends MovesOn s s' where
  /-- The same tokens are before the cursor. -/
  tokens : s'.tokens = s.tokens

theorem ReadsTo.refl (s : TokenSource) : ReadsTo s s :=
  ⟨.refl s, rfl⟩

theorem ReadsTo.trans {s s' s'' : TokenSource} (h : ReadsTo s s') (h' : ReadsTo s' s'') :
    ReadsTo s s'' :=
  ⟨h.toMovesOn.trans h'.toMovesOn, h'.tokens.trans h.tokens⟩

/-- The lexer makes the step that is pending first. -/
theorem Drives.step {l : Lexer} {s : TokenSource} (h : Drives l s) {step : Lexer.Step}
    {more : List Lexer.Step} (hpending : s.pending = step :: more) (ahead : List Token) :
    Drives l.advance ⟨ahead, more, step.after, s.finish⟩ := by
  have hrun := h.run
  cases hnext : l.next with
  | mk result l' =>
      have hadvance : l.advance = l' := by rw [Lexer.advance, hnext]
      cases result with
      | none =>
          rw [Lexer.run_of_next_eq_none hnext, hpending] at hrun
          exact absurd (Prod.mk.inj hrun).1 (by simp)
      | some result =>
          rw [Lexer.run_of_next_eq_some hnext, hpending] at hrun
          obtain ⟨hsteps, hfinish⟩ := Prod.mk.inj hrun
          obtain ⟨rfl, rfl⟩ := List.cons.inj hsteps
          rw [hadvance]
          exact ⟨rfl, by rw [← hfinish]⟩

/-- Where nothing is pending, the lexer meets the end of the source behind the last gap. -/
theorem Drives.finished {l : Lexer} {s : TokenSource} (h : Drives l s) (hpending : s.pending = [])
    (ahead : List Token) : Drives l.advance ⟨ahead, [], s.finish, s.finish⟩ := by
  have hrun := h.run
  cases hnext : l.next with
  | mk result l' =>
      have hadvance : l.advance = l' := by rw [Lexer.advance, hnext]
      cases result with
      | some result =>
          rw [Lexer.run_of_next_eq_some hnext, hpending] at hrun
          exact absurd (Prod.mk.inj hrun).1 (by simp)
      | none =>
          rw [Lexer.run_of_next_eq_none hnext] at hrun
          have hfinish := (Prod.mk.inj hrun).2
          -- a lexer that has met the end stands behind the last gap, and stays there
          have hend : l'.next = (none, l') := by
            unfold Lexer.next at hnext
            split at hnext
            · next hrest =>
                obtain ⟨-, rfl⟩ := Prod.mk.inj hnext
                exact Lexer.next_nil hrest
            · exact absurd (Prod.mk.inj hnext).1 (by simp)
          rw [hadvance]
          exact ⟨hfinish.symm, by rw [Lexer.run_of_next_eq_none hend, hfinish]⟩

/-- The source that a rule leaves, whether it answers or fails. -/
def after {α : Type} (r : Rule α) (s : TokenSource) : TokenSource :=
  left (r s)

section After

variable {α : Type} {r : Rule α} {s s' : TokenSource}

theorem after_ok {a : α} (h : r s = .ok a s') : after r s = s' := by
  rw [after, h, left]

theorem after_error {f : Failure} (h : r s = .error f s') : after r s = s' := by
  rw [after, h, left]

/-- What is made of an answer does not change what is left. -/
theorem after_bind_pure {β : Type} (r : Rule α) (f : α → β) (s : TokenSource) :
    after (r >>= fun a => pure (f a)) s = after r s := by
  cases h : r s with
  | error e u => rw [after_error (bind_error h), after_error h]
  | ok a u =>
      rw [after, bind_ok h, after_ok h]
      rfl

end After

/-- Moving the first token that is found to those read ahead is reading on. -/
theorem readsTo_found {ahead : List Token} {t : Token} {cursor after : Cursor}
    {more : List Lexer.Step} {finish : Cursor} :
    ReadsTo ⟨ahead, ⟨.ok t, after⟩ :: more, cursor, finish⟩ ⟨ahead ++ [t], more, after, finish⟩ :=
  ⟨⟨by simp [tokens_eq], by simp [upcoming], rfl, fun l hl => ⟨1, hl.step rfl _⟩⟩,
    by simp [tokens_eq]⟩

/-- The search behind the tokens read ahead is reading on, whatever comes of it. -/
theorem fetch_readsTo (finish : Cursor) (pending : List Lexer.Step) :
    ∀ (n : Nat) (ahead : List Token) (cursor : Cursor),
      ReadsTo ⟨ahead, pending, cursor, finish⟩ (left (fetch finish n ahead cursor pending)) := by
  -- each step moves one token over, so what has been read ahead stays general
  induction pending with
  | nil =>
      intro n ahead cursor
      simp only [fetch, left]
      exact ⟨⟨by simp [tokens_eq], by simp [upcoming], rfl, fun l hl => ⟨1, hl.finished rfl _⟩⟩,
        by simp [tokens_eq]⟩
  | cons step more ih =>
      obtain ⟨result, after⟩ := step
      intro n ahead cursor
      cases result with
      | error e =>
          simp only [fetch, left]
          exact ⟨⟨by simp [tokens_eq], by simp [upcoming], rfl, fun l hl => ⟨1, hl.step rfl _⟩⟩,
            by simp [tokens_eq]⟩
      | ok t =>
          cases n with
          | zero => exact readsTo_found
          | succ n => exact readsTo_found.trans (ih n (ahead ++ [t]) after)

/-- **A look reads on.** -/
theorem readsTo_peek (s : TokenSource) (n : Nat) : ReadsTo s (after (peek n) s) := by
  by_cases hn : n < s.ahead.length
  · rw [after_ok (peek_of_lt hn)]
    exact .refl s
  · obtain ⟨k, rfl⟩ : ∃ k, n = s.ahead.length + k := ⟨n - s.ahead.length, by omega⟩
    rw [after, peek_add]
    exact fetch_readsTo s.finish s.pending k s.ahead s.cursor

/-! ### How far a look reads -/

/-- The search reads one token for each place it moves over, and one for the answer. -/
theorem length_ahead_fetch_le (finish : Cursor) (pending : List Lexer.Step) :
    ∀ (n : Nat) (ahead : List Token) (cursor : Cursor),
      (left (fetch finish n ahead cursor pending)).ahead.length ≤ ahead.length + (n + 1) := by
  induction pending with
  | nil => intro n ahead cursor; simp only [fetch, left]; omega
  | cons step more ih =>
      obtain ⟨result, after⟩ := step
      intro n ahead cursor
      cases result with
      | error e => simp only [fetch, left]; omega
      | ok t =>
          cases n with
          | zero => simp [fetch, left]
          | succ n =>
              have hmore := ih n (ahead ++ [t]) after
              rw [List.length_append, List.length_singleton] at hmore
              simp only [fetch]
              omega

/-- **A look reads no further than its place.** -/
theorem length_ahead_peek_le (s : TokenSource) (n : Nat) :
    (after (peek n) s).ahead.length ≤ max s.ahead.length (n + 1) := by
  by_cases hn : n < s.ahead.length
  · rw [after_ok (peek_of_lt hn)]
    exact Nat.le_max_left _ _
  · obtain ⟨k, rfl⟩ : ∃ k, n = s.ahead.length + k := ⟨n - s.ahead.length, by omega⟩
    rw [after, peek_add]
    have hextent := length_ahead_fetch_le s.finish s.pending k s.ahead s.cursor
    omega

/-- The search goes on where an earlier one stopped. -/
theorem peek_after_fetch {finish : Cursor} {pending : List Lexer.Step} {t : Token}
    {s' : TokenSource} {k m : Nat} (hkm : k ≤ m) {ahead : List Token} {cursor : Cursor}
    (h : fetch finish k ahead cursor pending = .ok t s') :
    peek (ahead.length + m) s' = fetch finish m ahead cursor pending := by
  induction pending generalizing k m ahead cursor with
  | nil =>
      simp only [fetch, EStateM.Result.ok.injEq] at h
      obtain ⟨-, rfl⟩ := h
      rw [peek_add ⟨ahead, [], finish, finish⟩ m]
      simp only [fetch]
  | cons step more ih =>
      obtain ⟨result, after⟩ := step
      cases result with
      | error e => simp [fetch] at h
      | ok u =>
          have hlen : (ahead ++ [u]).length = ahead.length + 1 := by simp
          cases m with
          | zero =>
              obtain rfl : k = 0 := by omega
              simp only [fetch, EStateM.Result.ok.injEq] at h
              obtain ⟨rfl, rfl⟩ := h
              simp [peek, fetch]
          | succ m =>
              -- the place is counted from the tokens read ahead, which are one more by now
              rw [Nat.add_comm m 1, ← Nat.add_assoc, ← hlen, Nat.add_comm 1 m]
              cases k with
              | zero =>
                  simp only [fetch, EStateM.Result.ok.injEq] at h
                  obtain ⟨-, rfl⟩ := h
                  exact peek_add ⟨ahead ++ [u], more, after, finish⟩ m
              | succ k =>
                  simp only [fetch] at h ⊢
                  exact ih (Nat.le_of_succ_le_succ hkm) h

/-- **A look does not depend on the looks before it**: one at the same place, or further on, ends
as if the first had not been made. -/
theorem peek_peek {s s' : TokenSource} {i j : Nat} {t : Token} (hij : i ≤ j)
    (h : peek i s = .ok t s') : peek j s' = peek j s := by
  by_cases hi : i < s.ahead.length
  · obtain ⟨-, rfl⟩ := EStateM.Result.ok.inj ((peek_of_lt hi).symm.trans h)
    rfl
  · obtain ⟨k, rfl⟩ : ∃ k, i = s.ahead.length + k := ⟨i - s.ahead.length, by omega⟩
    obtain ⟨m, rfl⟩ : ∃ m, j = s.ahead.length + m := ⟨j - s.ahead.length, by omega⟩
    rw [peek_add] at h
    rw [peek_add]
    exact peek_after_fetch (by omega) h

/-! ### What a look answers -/

/-- **The token at a place**, as a look from here sees it. -/
def tokenAt (s : TokenSource) (n : Nat) : Except Unterminated Token :=
  lookAt s.endToken n s.upcoming

section Peek

variable {s s' : TokenSource} {n : Nat} {t : Token}

theorem tokenAt_of_peek (h : peek n s = .ok t s') : s.tokenAt n = .ok t := by
  have hview := s.peek_view n
  rw [tokenAt]
  split at hview
  · next t' hat =>
      obtain ⟨u, hu, -⟩ := hview
      obtain ⟨rfl, -⟩ := EStateM.Result.ok.inj (hu.symm.trans h)
      exact hat
  · obtain ⟨u, hu⟩ := hview
    exact absurd (hu.symm.trans h) (by simp)

theorem exists_peek (h : s.tokenAt n = .ok t) : ∃ u, peek n s = .ok t u ∧ u.Reached n := by
  have hview := s.peek_view n
  rw [show lookAt s.endToken n s.upcoming = .ok t from h] at hview
  obtain ⟨u, hu, -, hreached⟩ := hview
  exact ⟨u, hu, hreached⟩

/-- After a look that is answered, the places are as before. -/
theorem tokenAt_after_peek (h : peek n s = .ok t s') : s'.tokenAt = s.tokenAt := by
  obtain ⟨hup, hfinish⟩ := upcoming_peek h
  funext i
  rw [tokenAt, tokenAt, hup, endToken, hfinish, endToken]

end Peek

/-- **A construct left open is reported once**: it was to come, and all that changes is that it no
longer is. -/
def Reports (e : Unterminated) (s s' : TokenSource) : Prop :=
  ∃ (before : List Token) (later : Upcoming),
    s.upcoming = before.map .ok ++ .error e :: later ∧
      s'.upcoming = before.map .ok ++ later

theorem fetch_reports {finish : Cursor} {pending : List Lexer.Step} {f : Failure}
    {s' : TokenSource} {n : Nat} {ahead : List Token} {cursor : Cursor}
    (h : fetch finish n ahead cursor pending = .error f s') :
    ∃ e, f = .unterminated e ∧ Reports e ⟨ahead, pending, cursor, finish⟩ s' := by
  induction pending generalizing n ahead cursor with
  | nil => simp [fetch] at h
  | cons step more ih =>
      obtain ⟨result, after⟩ := step
      cases result with
      | error e =>
          simp only [fetch] at h
          obtain ⟨rfl, rfl⟩ := EStateM.Result.error.inj h
          exact ⟨e, rfl, ahead, more.map (·.result), by simp [upcoming], by simp [upcoming]⟩
      | ok t =>
          cases n with
          | zero => simp [fetch] at h
          | succ n =>
              simp only [fetch] at h
              obtain ⟨e, hf, before, later, hbefore, hafter⟩ := ih h
              refine ⟨e, hf, before, later, ?_, hafter⟩
              rw [← hbefore]
              simp [upcoming]

/-- A look fails at a construct left open only. -/
theorem peek_reports {s s' : TokenSource} {n : Nat} {f : Failure} (h : peek n s = .error f s') :
    ∃ e, f = .unterminated e ∧ s.tokenAt n = .error e ∧ Reports e s s' := by
  by_cases hn : n < s.ahead.length
  · rw [peek_of_lt hn] at h
    exact absurd h (by simp)
  · obtain ⟨k, rfl⟩ : ∃ k, n = s.ahead.length + k := ⟨n - s.ahead.length, by omega⟩
    have hview := s.peek_view (s.ahead.length + k)
    rw [tokenAt]
    split at hview
    · obtain ⟨u, hu, -⟩ := hview
      exact absurd (hu.symm.trans h) (by simp)
    · next e hat =>
        obtain ⟨u, hu⟩ := hview
        obtain ⟨rfl, rfl⟩ := EStateM.Result.error.inj (hu.symm.trans h)
        rw [peek_add] at hu
        obtain ⟨e', he, hreports⟩ := fetch_reports hu
        obtain rfl := Failure.unterminated.inj he
        exact ⟨e, rfl, hat, hreports⟩

end TokenSource

end DocComments
