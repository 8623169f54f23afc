import DocComments.Proofs.ReadingAhead

/-!
# Reading ahead within a limit

`LooksWithin limit` is the judgement on computations that never have more than `limit` tokens read
ahead, at no moment of a run.

A moment inside a run is seen through a source that is broken there.  The lexer makes its steps one
after another, and `TokenSource.Breaks` exchanges one of them for a construct left open.  A run from
the broken source is the same run up to that step, and stops with the tokens that it has read ahead
by then.  Tokens are read ahead by steps of the lexer only, so the moments before these steps, the
beginning and the end are all that matter.

The judgement says both things at once, how a run ends (`EndsWithin`) and where it stops on a broken
source (`SameUntil`), because what is done next is bound by what was left before.  There is one
lemma for each building block of rules, with seven tokens as the limit: the longest pattern has as
many.
-/

namespace DocComments

open TokenSource

/-! ### Sources that are broken at a step -/

/-- **The second source is the first one with a step of its lexer broken**: `step`, with the steps
`later` behind it, now meets a construct left open. -/
def TokenSource.Breaks (step : Lexer.Step) (later : List Lexer.Step) (e : Unterminated)
    (s s' : TokenSource) : Prop :=
  ∃ sooner, s.pending = sooner ++ step :: later ∧
    s' = { s with pending := sooner ++ { step with result := .error e } :: later }

namespace TokenSource.Breaks

variable {step : Lexer.Step} {later : List Lexer.Step} {e : Unterminated} {s s' : TokenSource}

theorem ahead (h : Breaks step later e s s') : s'.ahead = s.ahead := by
  obtain ⟨sooner, -, rfl⟩ := h
  rfl

theorem size_eq (h : Breaks step later e s s') : s'.size = s.size := by
  obtain ⟨sooner, hpending, rfl⟩ := h
  simp [size, hpending]

/-- The broken step is still to be made. -/
theorem length_lt (h : Breaks step later e s s') : later.length < s.pending.length := by
  obtain ⟨sooner, hpending, -⟩ := h
  rw [hpending, List.length_append, List.length_cons]
  omega

theorem drop (h : Breaks step later e s s') (n : Nat) :
    Breaks step later e (s.drop n) (s'.drop n) := by
  obtain ⟨sooner, hpending, rfl⟩ := h
  exact ⟨sooner, hpending, rfl⟩

end TokenSource.Breaks

/-! ### The judgement -/

section Judgement

variable {σ α β : Type}

/-- **How a run from `u` ends**: the steps that it has made are the first ones, everything to come
was taken, read ahead or is still to come, and no more than `limit` tokens are read ahead.  Where a
construct left open stops the run, there are less than `limit` tokens in front of it. -/
inductive EndsWithin (limit : Nat) (source : σ → TokenSource) (u : TokenSource) :
    EStateM.Result Failure σ α → Prop where
  | answer {a : α} {s : σ} (hahead : (source s).ahead.length ≤ limit)
      (hpending : (source s).pending <:+ u.pending)
      (htaken : ∃ taken : List Token, u.upcoming = taken.map .ok ++ (source s).upcoming) :
      EndsWithin limit source u (.ok a s)
  | mismatch {m : Mismatch} {s : σ} (hahead : (source s).ahead.length ≤ limit)
      (hpending : (source s).pending <:+ u.pending)
      (htaken : ∃ taken : List Token, u.upcoming = taken.map .ok ++ (source s).upcoming) :
      EndsWithin limit source u (.error (.mismatch m) s)
  | unterminated {e : Unterminated} {s : σ} (hahead : (source s).ahead.length < limit)
      (hpending : (source s).pending <:+ u.pending)
      (htaken : ∃ taken : List Token, u.upcoming = (taken ++ (source s).ahead).map .ok ++
        .error e :: (source s).pending.map (·.result)) :
      EndsWithin limit source u (.error (.unterminated e) s)

/-- **The second run is the first one up to a broken step**: it ends alike with the step still to be
made, or it stops there and the first run goes on behind it. -/
inductive SameUntil (limit : Nat) (source : σ → TokenSource) (step : Lexer.Step)
    (later : List Lexer.Step) (e : Unterminated) :
    EStateM.Result Failure σ α → EStateM.Result Failure σ α → Prop where
  | answer {a : α} {s s' : σ} (h : Breaks step later e (source s) (source s')) :
      SameUntil limit source step later e (.ok a s) (.ok a s')
  | failure {f : Failure} {s s' : σ} (h : Breaks step later e (source s) (source s')) :
      SameUntil limit source step later e (.error f s) (.error f s')
  | stopped {result : EStateM.Result Failure σ α} {s' : σ}
      (hahead : (source s').ahead.length < limit) (hpending : (source s').pending = later)
      (hbehind : (source (left result)).pending <:+ later) :
      SameUntil limit source step later e result (.error (.unterminated e) s')

/-- **The computation never has more than `limit` tokens read ahead**, if it starts with no more. -/
def LooksWithin (limit : Nat) (source : σ → TokenSource) (r : EStateM Failure σ α) : Prop :=
  ∀ s, (source s).ahead.length ≤ limit → EndsWithin limit source (source s) (r s) ∧
    ∀ step later e s', Breaks step later e (source s) (source s') →
      SameUntil limit source step later e (r s) (r s')

variable {limit : Nat} {source : σ → TokenSource} {u v : TokenSource}

theorem EndsWithin.pending {result : EStateM.Result Failure σ α}
    (h : EndsWithin limit source u result) : (source (left result)).pending <:+ u.pending := by
  cases h with
  | answer _ hpending => exact hpending
  | mismatch _ hpending => exact hpending
  | unterminated _ hpending => exact hpending

theorem EndsWithin.ahead {result : EStateM.Result Failure σ α}
    (h : EndsWithin limit source u result) : (source (left result)).ahead.length ≤ limit := by
  cases h with
  | answer hahead => exact hahead
  | mismatch hahead => exact hahead
  | unterminated hahead => exact Nat.le_of_lt hahead

/-- What was taken before comes first. -/
theorem EndsWithin.behind {result : EStateM.Result Failure σ α}
    (h : EndsWithin limit source v result) (hpending : v.pending <:+ u.pending)
    (htaken : ∃ taken : List Token, u.upcoming = taken.map .ok ++ v.upcoming) :
    EndsWithin limit source u result := by
  obtain ⟨taken, htaken⟩ := htaken
  cases h with
  | answer hahead hmore hbehind =>
      obtain ⟨more, hbehind⟩ := hbehind
      refine .answer hahead (hmore.trans hpending) ⟨taken ++ more, ?_⟩
      rw [htaken, hbehind, List.map_append, List.append_assoc]
  | mismatch hahead hmore hbehind =>
      obtain ⟨more, hbehind⟩ := hbehind
      refine .mismatch hahead (hmore.trans hpending) ⟨taken ++ more, ?_⟩
      rw [htaken, hbehind, List.map_append, List.append_assoc]
  | unterminated hahead hmore hbehind =>
      obtain ⟨more, hbehind⟩ := hbehind
      refine .unterminated hahead (hmore.trans hpending) ⟨taken ++ more, ?_⟩
      rw [htaken, hbehind, ← List.append_assoc, ← List.map_append, List.append_assoc]

theorem looksWithin_pure (a : α) : LooksWithin limit source (pure a) := by
  intro s hs
  constructor
  · exact .answer hs (List.suffix_refl _) ⟨[], rfl⟩
  · intro step later e s' hbreaks
    exact .answer hbreaks

theorem looksWithin_throw (m : Mismatch) :
    LooksWithin limit source (throw (.mismatch m) : EStateM Failure σ α) := by
  intro s hs
  constructor
  · exact .mismatch hs (List.suffix_refl _) ⟨[], rfl⟩
  · intro step later e s' hbreaks
    exact .failure hbreaks

/-- A change that leaves the source as it is. -/
theorem looksWithin_modify {change : σ → σ} (h : ∀ s, source (change s) = source s) :
    LooksWithin limit source (modify change) := by
  intro s hs
  constructor
  · refine .answer ?_ ?_ ⟨[], ?_⟩
    · rw [h]
      exact hs
    · rw [h]
    · rw [h]
      rfl
  · intro step later e s' hbreaks
    refine .answer ?_
    rw [h, h]
    exact hbreaks

section Sequence

variable {r : EStateM Failure σ α} {f : α → EStateM Failure σ β}

theorem EndsWithin.bind {s : σ} (h : EndsWithin limit source u (r s))
    (hf : ∀ a, LooksWithin limit source (f a)) : EndsWithin limit source u ((r >>= f) s) := by
  change EndsWithin limit source u (EStateM.bind r f s)
  simp only [EStateM.bind]
  generalize r s = result at h
  cases h with
  | @answer a s' hahead hpending htaken => exact ((hf a s' hahead).1).behind hpending htaken
  | mismatch hahead hpending htaken => exact .mismatch hahead hpending htaken
  | unterminated hahead hpending htaken => exact .unterminated hahead hpending htaken

/-- Where the first computation stops at the broken step, the second one could only have gone
further. -/
theorem SameUntil.bind {step : Lexer.Step} {later : List Lexer.Step} {e : Unterminated} {s s' : σ}
    (h : SameUntil limit source step later e (r s) (r s')) (hends : EndsWithin limit source u (r s))
    (hf : ∀ a, LooksWithin limit source (f a)) :
    SameUntil limit source step later e ((r >>= f) s) ((r >>= f) s') := by
  change SameUntil limit source step later e (EStateM.bind r f s) (EStateM.bind r f s')
  simp only [EStateM.bind]
  generalize r s = result at h hends
  generalize r s' = result' at h
  cases h with
  | failure h => exact .failure h
  | @answer a s₁ s₁' h =>
      cases hends with
      | answer hahead => exact (hf a s₁ hahead).2 step later e s₁' h
  | stopped hahead hpending hbehind =>
      refine .stopped hahead hpending ?_
      cases hends with
      | @answer a s₁ hwithin => exact ((hf a s₁ hwithin).1).pending.trans hbehind
      | mismatch => exact hbehind
      | unterminated => exact hbehind

/-- **One computation after another.** -/
theorem LooksWithin.bind (hr : LooksWithin limit source r)
    (hf : ∀ a, LooksWithin limit source (f a)) : LooksWithin limit source (r >>= f) := by
  intro s hs
  obtain ⟨hends, hsame⟩ := hr s hs
  constructor
  · exact hends.bind hf
  · intro step later e s' hbreaks
    exact (hsame step later e s' hbreaks).bind hends hf

end Sequence

/-- What follows an answer that may be absent. -/
theorem LooksWithin.bind_option {r : EStateM Failure σ (Option α)}
    {f : Option α → EStateM Failure σ β} (hr : LooksWithin limit source r)
    (hnone : LooksWithin limit source (f none))
    (hsome : ∀ a, LooksWithin limit source (f (some a))) : LooksWithin limit source (r >>= f) := by
  refine hr.bind fun answer => ?_
  cases answer with
  | none => exact hnone
  | some a => exact hsome a

theorem LooksWithin.map {r : EStateM Failure σ α} (g : α → β) (hr : LooksWithin limit source r) :
    LooksWithin limit source (g <$> r) := by
  rw [map_eq_pure_bind]
  exact hr.bind fun a => looksWithin_pure (g a)

theorem tryCatch_apply (r : EStateM Failure σ α) (handle : Failure → EStateM Failure σ α) (s : σ) :
    tryCatch r handle s = match r s with
      | .ok a s₁ => .ok a s₁
      | .error f s₁ => handle f s₁ := by
  change EStateM.tryCatch r handle s = _
  simp only [EStateM.tryCatch]
  cases r s <;> rfl

/-- **A mismatch is handled**, and a construct left open is not. -/
theorem LooksWithin.tryCatch {r : EStateM Failure σ α} {handle : Failure → EStateM Failure σ α}
    (hr : LooksWithin limit source r)
    (hmismatch : ∀ m, LooksWithin limit source (handle (.mismatch m)))
    (hunterminated : ∀ e, handle (.unterminated e) = throw (.unterminated e)) :
    LooksWithin limit source (tryCatch r handle) := by
  intro s hs
  obtain ⟨hends, hsame⟩ := hr s hs
  have hthrow : ∀ e s₁, handle (.unterminated e) s₁ = .error (.unterminated e) s₁ := by
    intro e s₁
    rw [hunterminated]
    rfl
  constructor
  · rw [tryCatch_apply]
    generalize r s = result at hends
    cases hends with
    | answer hahead hpending htaken => exact .answer hahead hpending htaken
    | @mismatch m s₁ hahead hpending htaken =>
        exact ((hmismatch m s₁ hahead).1).behind hpending htaken
    | unterminated hahead hpending htaken =>
        simp only [hthrow]
        exact .unterminated hahead hpending htaken
  · intro step later e s' hbreaks
    have hruns := hsame step later e s' hbreaks
    rw [tryCatch_apply, tryCatch_apply]
    generalize r s = result at hends hruns
    generalize r s' = result' at hruns
    cases hruns with
    | answer h => exact .answer h
    | @failure f s₁ s₁' h =>
        cases hends with
        | mismatch hahead => exact (hmismatch _ s₁ hahead).2 step later e s₁' h
        | unterminated =>
            simp only [hthrow]
            exact .failure h
    | stopped hahead hpending hbehind =>
        simp only [hthrow]
        refine .stopped hahead hpending ?_
        cases hends with
        | answer => exact hbehind
        | @mismatch m s₁ hwithin =>
            exact ((hmismatch m s₁ hwithin).1).pending.trans hbehind
        | unterminated =>
            simp only [hthrow]
            exact hbehind

end Judgement

/-! ### Looking and taking -/

namespace TokenSource

/-- The search behind the tokens read ahead ends within the limit if the place does. -/
theorem endsWithin_fetch {limit : Nat} (finish : Text.Cursor) (pending : List Lexer.Step) :
    ∀ (n : Nat) (ahead : List Token) (cursor : Text.Cursor), ahead.length + n < limit →
      EndsWithin limit (fun s => s) ⟨ahead, pending, cursor, finish⟩
        (fetch finish n ahead cursor pending) := by
  induction pending with
  | nil =>
      intro n ahead cursor hn
      have hahead : ahead.length ≤ limit := by omega
      simp only [fetch]
      exact .answer hahead (List.suffix_refl _) ⟨[], rfl⟩
  | cons step more ih =>
      obtain ⟨result, after⟩ := step
      intro n ahead cursor hn
      have hmore : more <:+ ⟨result, after⟩ :: more := List.suffix_cons _ _
      cases result with
      | error e =>
          have hahead : ahead.length < limit := by omega
          simp only [fetch]
          exact .unterminated hahead hmore ⟨[], rfl⟩
      | ok t =>
          have hread : (⟨ahead, ⟨.ok t, after⟩ :: more, cursor, finish⟩ : TokenSource).upcoming =
              (⟨ahead ++ [t], more, after, finish⟩ : TokenSource).upcoming := by
            simp [upcoming]
          have hlength : (ahead ++ [t]).length = ahead.length + 1 := by simp
          cases n with
          | zero =>
              have hahead : (ahead ++ [t]).length ≤ limit := by omega
              exact .answer hahead hmore ⟨[], hread⟩
          | succ n => exact (ih n (ahead ++ [t]) after (by omega)).behind hmore ⟨[], hread⟩

/-- The search stops at a broken step if it makes the step. -/
theorem sameUntil_fetch {limit : Nat} {step : Lexer.Step} {later : List Lexer.Step}
    {e : Unterminated} (finish : Text.Cursor) (sooner : List Lexer.Step) :
    ∀ (n : Nat) (ahead : List Token) (cursor : Text.Cursor), ahead.length + n < limit →
      SameUntil limit (fun s => s) step later e
        (fetch finish n ahead cursor (sooner ++ step :: later))
        (fetch finish n ahead cursor (sooner ++ { step with result := .error e } :: later)) := by
  induction sooner with
  | nil =>
      intro n ahead cursor hn
      have hahead : ahead.length < limit := by omega
      have hbehind : (left (fetch finish n ahead cursor (step :: later))).pending <:+ later := by
        obtain ⟨result, after⟩ := step
        cases result with
        | error e' =>
            simp only [fetch]
            exact List.suffix_refl later
        | ok t =>
            cases n with
            | zero => exact List.suffix_refl later
            | succ n =>
                have hmore : (ahead ++ [t]).length + n < limit := by
                  rw [List.length_append, List.length_singleton]
                  omega
                exact (endsWithin_fetch finish later n (ahead ++ [t]) after hmore).pending
      simp only [List.nil_append, fetch]
      exact .stopped hahead rfl hbehind
  | cons first sooner ih =>
      obtain ⟨result, after⟩ := first
      intro n ahead cursor hn
      have hbroken : ∀ ahead : List Token, Breaks step later e
          ⟨ahead, sooner ++ step :: later, after, finish⟩
          ⟨ahead, sooner ++ { step with result := .error e } :: later, after, finish⟩ :=
        fun _ => ⟨sooner, rfl, rfl⟩
      cases result with
      | error e' =>
          simp only [List.cons_append, fetch]
          exact .failure (hbroken ahead)
      | ok t =>
          cases n with
          | zero => exact .answer (hbroken (ahead ++ [t]))
          | succ n =>
              have hlength : (ahead ++ [t]).length = ahead.length + 1 := by simp
              exact ih n (ahead ++ [t]) after (by omega)

end TokenSource

namespace Rule

variable {α β : Type}

/-- **The rule never has more than seven tokens read ahead**, if it starts with no more. -/
abbrev LooksNear (r : Rule α) : Prop :=
  LooksWithin 7 (fun s => s) r

theorem looksNear_peek {n : Nat} (hn : n < 7) : LooksNear (peek n) := by
  intro s hs
  by_cases hread : n < s.ahead.length
  · -- the token has been read before, and no step is made
    constructor
    · rw [peek_of_lt hread]
      exact .answer hs (List.suffix_refl _) ⟨[], rfl⟩
    · intro step later e s' hbreaks
      have hread' : n < s'.ahead.length := by rwa [hbreaks.ahead]
      rw [peek_of_lt hread, peek_of_lt hread']
      simp only [hbreaks.ahead]
      exact .answer hbreaks
  · obtain ⟨k, rfl⟩ : ∃ k, n = s.ahead.length + k := ⟨n - s.ahead.length, by omega⟩
    constructor
    · rw [peek_add]
      exact endsWithin_fetch s.finish s.pending k s.ahead s.cursor hn
    · rintro step later e _ ⟨sooner, hpending, rfl⟩
      have hbroken := peek_add
        { s with pending := sooner ++ { step with result := .error e } :: later } k
      rw [peek_add, hbroken, hpending]
      exact sameUntil_fetch s.finish sooner k s.ahead s.cursor hn

/-- Taking tokens that have been read ahead. -/
theorem looksNear_drop (n : Nat) : LooksNear (modify (TokenSource.drop n)) := by
  intro s hs
  constructor
  · have hahead : (s.drop n).ahead.length ≤ 7 := by
      rw [drop, List.length_drop]
      exact (Nat.sub_le _ _).trans hs
    have htaken : s.upcoming = (s.ahead.take n).map .ok ++ (s.drop n).upcoming := by
      rw [upcoming, upcoming, drop, ← List.append_assoc, ← List.map_append, List.take_append_drop]
    exact .answer hahead (List.suffix_refl _) ⟨_, htaken⟩
  · intro step later e s' hbreaks
    exact .answer (hbreaks.drop n)

/-- A rule that is bounded by the number of steps to come: a broken step counts. -/
theorem looksNear_size_bind {f : Nat → Rule α} (h : ∀ n, LooksNear (f n)) :
    LooksNear (do f (← get).size) := by
  intro s hs
  obtain ⟨hends, hsame⟩ := h s.size s hs
  refine ⟨hends, fun step later e s' hbreaks => ?_⟩
  change SameUntil 7 _ step later e (f s.size s) (f s'.size s')
  rw [hbreaks.size_eq]
  exact hsame step later e s' hbreaks

section Blocks

variable {pattern : List TokenTest}

theorem looksNear_lookFrom {offset : Nat} (h : offset + pattern.length ≤ 7) :
    LooksNear (lookFrom offset pattern) := by
  induction pattern generalizing offset with
  | nil => exact looksWithin_pure true
  | cons test pattern ih =>
      rw [List.length_cons] at h
      refine (looksNear_peek (by omega)).bind fun t => ?_
      split
      · exact ih (by omega)
      · exact looksWithin_pure false

/-- **A look** reads no further than its pattern is long. -/
theorem looksNear_look (h : pattern.length ≤ 7) : LooksNear (look pattern) :=
  looksNear_lookFrom (by rwa [Nat.zero_add])

theorem looksNear_lookAny {patterns : List (List TokenTest)}
    (h : ∀ pattern ∈ patterns, pattern.length ≤ 7) : LooksNear (lookAny patterns) := by
  induction patterns with
  | nil => exact looksWithin_pure false
  | cons pattern patterns ih =>
      obtain ⟨hpattern, hothers⟩ := List.forall_mem_cons.1 h
      refine (looksNear_look hpattern).bind fun fits => ?_
      split
      · exact looksWithin_pure true
      · exact ih hothers

theorem looksNear_requireFrom (whole : List TokenTest) {offset : Nat}
    (h : offset + pattern.length ≤ 7) : LooksNear (requireFrom whole offset pattern) := by
  induction pattern generalizing offset with
  | nil => exact looksWithin_pure ()
  | cons test pattern ih =>
      rw [List.length_cons] at h
      refine (looksNear_peek (by omega)).bind fun t => ?_
      split
      · exact ih (by omega)
      · exact looksWithin_throw _

theorem looksNear_expect {nonempty : pattern ≠ []} (h : pattern.length ≤ 7) :
    LooksNear (expect pattern nonempty) := by
  have hpos := List.length_pos_iff.2 nonempty
  refine (looksNear_requireFrom pattern (by rwa [Nat.zero_add])).bind fun _ => ?_
  refine (looksNear_peek (by omega)).bind fun t => ?_
  exact (looksNear_drop pattern.length).bind fun _ => looksWithin_pure t

/-- A decision by a look. -/
theorem looksNear_ite_look {r q : Rule α} (h : pattern.length ≤ 7) (hr : LooksNear r)
    (hq : LooksNear q) : LooksNear (do if ← look pattern then r else q) := by
  refine (looksNear_look h).bind fun fits => ?_
  split
  · exact hr
  · exact hq

theorem looksNear_accept {nonempty : pattern ≠ []} (h : pattern.length ≤ 7) :
    LooksNear (accept pattern nonempty) :=
  looksNear_ite_look h ((looksNear_expect h).map some) (looksWithin_pure none)

theorem looksNear_next : LooksNear next :=
  (looksNear_peek (by decide)).bind fun t =>
    (looksNear_drop 1).bind fun _ => looksWithin_pure t

theorem looksNear_atEnd : LooksNear atEnd :=
  (looksNear_peek (by decide)).bind fun _ => looksWithin_pure _

end Blocks

/-! ### Repetition -/

theorem looksNear_manyUpTo {step : Rule (Option α)} (h : LooksNear step) (rounds : Nat) :
    LooksNear (manyUpTo step rounds) := by
  induction rounds with
  | zero => exact looksWithin_pure []
  | succ rounds ih => exact h.bind_option (looksWithin_pure []) fun a => ih.map (a :: ·)

theorem looksNear_many {step : Rule (Option α)} (h : LooksNear step) : LooksNear (many step) :=
  looksNear_size_bind fun n => looksNear_manyUpTo h (n + 1)

theorem looksNear_separatedUpTo {part : Rule (Part α)} (h : LooksNear part) (rounds : Nat) :
    LooksNear (separatedUpTo part rounds) := by
  induction rounds with
  | zero => exact looksWithin_pure _
  | succ rounds ih =>
      refine h.bind fun p => ?_
      cases p with
      | absent => exact looksWithin_pure _
      | broken => exact looksWithin_pure none
      | found a =>
          refine (looksNear_accept (by decide)).bind_option (looksWithin_pure _) fun _ => ?_
          exact ih.bind fun more => looksWithin_pure _

theorem looksNear_separated {part : Rule (Part α)} (h : LooksNear part) :
    LooksNear (separated part) :=
  looksNear_size_bind fun n => looksNear_separatedUpTo h (n + 1)

end Rule

end DocComments
