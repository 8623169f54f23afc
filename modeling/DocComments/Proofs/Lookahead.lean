import DocComments.Token.Rule

/-!
# What a look ahead sees

A token source splits what is to come into the tokens read ahead and the steps still to be
made; no question about tokens depends on where the split is.  `TokenSource.lookAt` answers a
look from the list of everything to come alone, and `TokenSource.peek_view` says that this
is the answer of `TokenSource.peek`.  All that is proved about rules later on goes through
that view, so the buffer is opened in this file only.

A look that is answered also leaves everything up to its place read ahead
(`TokenSource.Reached`), which is what makes taking tokens afterwards the same as dropping
them from the list of what is to come (`TokenSource.upcoming_drop`).
-/

namespace DocComments

/-- The tokens and failures that are to come, in order. -/
abbrev Upcoming := List (Except Unterminated Token)

/-! ### One computation after another -/

section Sequence

variable {ε σ α β : Type} {x : EStateM ε σ α} {f : α → EStateM ε σ β} {s s' : σ}

theorem bind_ok {a : α} (h : x s = .ok a s') : (x >>= f) s = f a s' := by
  change EStateM.bind x f s = f a s'
  simp only [EStateM.bind, h]

theorem bind_error {e : ε} (h : x s = .error e s') : (x >>= f) s = .error e s' := by
  change EStateM.bind x f s = .error e s'
  simp only [EStateM.bind, h]

/-- Where both answer in the end, the first one has answered. -/
theorem exists_of_bind_ok {b : β} (h : (x >>= f) s = .ok b s') :
    ∃ a u, x s = .ok a u ∧ f a u = .ok b s' := by
  cases hx : x s with
  | ok a u => exact ⟨a, u, rfl, (bind_ok hx).symm.trans h⟩
  | error e u => exact absurd ((bind_error hx).symm.trans h) (by simp)

theorem exists_of_map_ok {g : α → β} {b : β} (h : (g <$> x) s = .ok b s') :
    ∃ a, x s = .ok a s' ∧ g a = b := by
  rw [map_eq_pure_bind] at h
  obtain ⟨a, u, hx, hu⟩ := exists_of_bind_ok h
  obtain ⟨rfl, rfl⟩ := EStateM.Result.ok.inj hu
  exact ⟨a, hx, rfl⟩

/-- Two computations are the same from a state on if their parts are. -/
theorem bind_congr_run {x' : EStateM ε σ α} {f' : α → EStateM ε σ β} (hx : x s = x' s)
    (hf : ∀ a u, x s = .ok a u → f a u = f' a u) : (x >>= f) s = (x' >>= f') s := by
  cases hrun : x s with
  | ok a u => rw [bind_ok hrun, bind_ok (hx.symm.trans hrun), hf a u hrun]
  | error e u => rw [bind_error hrun, bind_error (hx.symm.trans hrun)]

/-- The state that a computation leaves, whether it answers or fails. -/
def left : EStateM.Result ε σ α → σ
  | .ok _ s => s
  | .error _ s => s

/-- The computation answers, and the answer and what is left pass a test. -/
def answersWith (p : α → σ → Bool) : EStateM.Result ε σ α → Bool
  | .ok a s => p a s
  | .error _ _ => false

theorem exists_of_answersWith {p : α → σ → Bool} {result : EStateM.Result ε σ α}
    (h : answersWith p result = true) : ∃ a s, result = .ok a s ∧ p a s = true := by
  cases result with
  | ok a s => exact ⟨a, s, rfl, h⟩
  | error e s => exact absurd h Bool.false_ne_true

end Sequence

/-! ### Looking -/

namespace TokenSource

/-- **The answer to a look** `n` places ahead, from everything that is to come.  A failure
before that place is met first; behind the last token stands the token `final` for the end. -/
def lookAt (final : Token) : Nat → Upcoming → Except Unterminated Token
  | _, [] => .ok final
  | _, .error e :: _ => .error e
  | 0, .ok t :: _ => .ok t
  | n + 1, .ok _ :: more => lookAt final n more

@[simp] theorem lookAt_nil (final : Token) (n : Nat) : lookAt final n [] = .ok final := by
  cases n <;> rfl

@[simp] theorem lookAt_error (final : Token) (n : Nat) (e : Unterminated) (more : Upcoming) :
    lookAt final n (.error e :: more) = .error e := by
  cases n <;> rfl

/-- Tokens before the place that is asked for do not change the answer. -/
theorem lookAt_map_ok_append (final : Token) (tokens : List Token) (tail : Upcoming) (n : Nat) :
    lookAt final (tokens.length + n) (tokens.map .ok ++ tail) = lookAt final n tail := by
  induction tokens with
  | nil => simp
  | cons t more ih =>
      rw [List.length_cons, Nat.add_right_comm]
      exact ih

theorem lookAt_of_lt {final : Token} {tokens : List Token} {n : Nat} (h : n < tokens.length)
    (tail : Upcoming) : lookAt final n (tokens.map .ok ++ tail) = .ok tokens[n] := by
  have hcut := lookAt_map_ok_append final (tokens.take n) ((tokens.drop n).map .ok ++ tail) 0
  rw [List.length_take, Nat.min_eq_left (Nat.le_of_lt h), Nat.add_zero, ← List.append_assoc,
    ← List.map_append, List.take_append_drop, List.drop_eq_getElem_cons h] at hcut
  exact hcut

/-- Everything up to the place `n`, or all there is, has been read ahead. -/
def Reached (s : TokenSource) (n : Nat) : Prop :=
  min (n + 1) s.size ≤ s.ahead.length

theorem size_eq_length_upcoming (s : TokenSource) : s.size = s.upcoming.length := by
  simp [size, upcoming]

/-- The search behind the tokens read ahead answers as `lookAt` does. -/
theorem fetch_view (finish : Text.Cursor) (pending : List Lexer.Step) :
    ∀ (n : Nat) (ahead : List Token) (cursor : Text.Cursor),
      match lookAt (.endOfInput finish.line finish.column) n (pending.map (·.result)) with
      | .ok t => ∃ s', fetch finish n ahead cursor pending = .ok t s' ∧
          ahead.length + min (n + 1) pending.length ≤ s'.ahead.length
      | .error e => ∃ s', fetch finish n ahead cursor pending = .error (.unterminated e) s' := by
  -- each step moves one token over, so what has been read ahead stays general
  induction pending with
  | nil =>
      intro n ahead cursor
      simp only [List.map_nil, lookAt_nil]
      exact ⟨⟨ahead, [], finish, finish⟩, by simp only [fetch], by simp⟩
  | cons step more ih =>
      obtain ⟨result, after⟩ := step
      intro n ahead cursor
      cases result with
      | error e =>
          simp only [List.map_cons, lookAt_error]
          exact ⟨⟨ahead, more, after, finish⟩, by simp only [fetch]⟩
      | ok t =>
          cases n with
          | zero => exact ⟨⟨ahead ++ [t], more, after, finish⟩, by simp only [fetch], by simp⟩
          | succ n =>
              have hmore := ih n (ahead ++ [t]) after
              simp only [List.map_cons, lookAt, fetch]
              split at hmore
              · obtain ⟨s', hfetch, hlen⟩ := hmore
                refine ⟨s', hfetch, ?_⟩
                simp only [List.length_append, List.length_cons] at *
                omega
              · exact hmore

/-- What has been read ahead is at hand. -/
theorem peek_of_lt {s : TokenSource} {n : Nat} (h : n < s.ahead.length) :
    peek n s = .ok s.ahead[n] s := by
  simp [peek, List.getElem?_eq_getElem h]

/-- Behind what has been read ahead the lexer is asked. -/
theorem peek_add (s : TokenSource) (k : Nat) :
    peek (s.ahead.length + k) s = fetch s.finish k s.ahead s.cursor s.pending := by
  simp [peek]

/-- **A look is answered from what is to come.**  It takes nothing, and what it had to pass
over has then been read ahead. -/
theorem peek_view (s : TokenSource) (n : Nat) :
    match lookAt s.endToken n s.upcoming with
    | .ok t => ∃ s', peek n s = .ok t s' ∧ s'.upcoming = s.upcoming ∧ s'.Reached n
    | .error e => ∃ s', peek n s = .error (.unterminated e) s' := by
  by_cases hn : n < s.ahead.length
  · rw [upcoming, lookAt_of_lt hn]
    exact ⟨s, peek_of_lt hn, rfl, Nat.le_trans (Nat.min_le_left _ _) hn⟩
  · -- the place is behind what has been read ahead, so the search starts at its end
    obtain ⟨k, rfl⟩ : ∃ k, n = s.ahead.length + k := ⟨n - s.ahead.length, by omega⟩
    have hview := fetch_view s.finish s.pending k s.ahead s.cursor
    rw [upcoming, lookAt_map_ok_append, peek_add]
    simp only [endToken]
    split at hview
    · obtain ⟨s', hfetch, hlen⟩ := hview
      have hsame := (upcoming_fetch hfetch).1
      refine ⟨s', hfetch, hsame, ?_⟩
      have hsize : s'.size = s.size := by
        rw [size_eq_length_upcoming, size_eq_length_upcoming, hsame, upcoming]
      unfold Reached
      rw [hsize, size]
      omega
    · exact hview

/-- Taking tokens that have been read ahead drops them from what is to come. -/
theorem upcoming_drop {s : TokenSource} {n : Nat} (h : n ≤ s.ahead.length) :
    (s.drop n).upcoming = s.upcoming.drop n := by
  simp [drop, upcoming, List.drop_append_of_le_length, h]

/-- What has been read ahead up to a place is dropped from what is to come, even where the end
comes before that place. -/
theorem upcoming_drop_of_reached {s : TokenSource} {k : Nat} (h : s.Reached k) :
    (s.drop (k + 1)).upcoming = s.upcoming.drop (k + 1) := by
  rcases Nat.lt_or_ge s.ahead.length (k + 1) with _ | hle
  · have hpending : s.pending = [] := by
      rw [← List.length_eq_zero_iff]
      unfold Reached size at h
      omega
    simp [drop, upcoming, hpending]
  · exact upcoming_drop hle

/-! ### The next token -/

variable {s : TokenSource} {t : Token} {e : Unterminated} {more : Upcoming}

theorem peek_nil (h : s.upcoming = []) :
    ∃ u, peek 0 s = .ok s.endToken u ∧ u.upcoming = [] := by
  have hview := s.peek_view 0
  rw [h, lookAt_nil] at hview
  obtain ⟨u, hpeek, hu, -⟩ := hview
  exact ⟨u, hpeek, hu⟩

theorem peek_error (h : s.upcoming = .error e :: more) :
    ∃ u, peek 0 s = .error (.unterminated e) u := by
  have hview := s.peek_view 0
  rwa [h, lookAt_error] at hview

theorem peek_cons (h : s.upcoming = .ok t :: more) :
    ∃ u, peek 0 s = .ok t u ∧ u.upcoming = .ok t :: more ∧ 0 < u.ahead.length := by
  have hview := s.peek_view 0
  rw [h] at hview
  obtain ⟨u, hpeek, hu, hreach⟩ := hview
  refine ⟨u, hpeek, hu, ?_⟩
  rw [Reached, size_eq_length_upcoming, hu, List.length_cons] at hreach
  omega

end TokenSource

end DocComments
