import DocComments.Proofs.TokenCursor
import DocComments.Proofs.Taking

/-!
# What rules yield

`Rule.Yields s r P` is the judgement that a rule moves on from the source `s`, whether it answers or
fails, and that its answer has the property `P`.  It is the judgement for invariants of answers:
there is one lemma for each building block of rules, and what a list of answers has in common is
said of one answer.

The source is part of the judgement, so a property can tell where an answer was read.  What follows
a rule is bound by the run of the rule before it (`Yields.bind_run`); most rules do not need it and
use `Yields.bind`.
-/

namespace DocComments.Rule

open TokenSource

variable {α β : Type} {s : TokenSource} {r : Rule α} {P : α → Prop} {Q : β → Prop}

/-- **The rule moves on from `s`, and its answer has the property `P`.** -/
structure Yields (s : TokenSource) (r : Rule α) (P : α → Prop) : Prop where
  /-- What is left, whether the rule answers or fails. -/
  moves : MovesOn s (after r s)
  /-- What is answered. -/
  answers : ∀ a s', r s = .ok a s' → P a

theorem Yields.movesOn {a : α} {s' : TokenSource} (h : Yields s r P) (hrun : r s = .ok a s') :
    MovesOn s s' := by
  rw [← after_ok hrun]
  exact h.moves

theorem Yields.weaken {P' : α → Prop} (h : Yields s r P) (himp : ∀ a, P a → P' a) :
    Yields s r P' :=
  ⟨h.moves, fun a s' hrun => himp a (h.answers a s' hrun)⟩

theorem yields_pure {a : α} (h : P a) : Yields s (pure a) P := by
  refine ⟨.refl s, fun a' s' hrun => ?_⟩
  obtain ⟨rfl, -⟩ := EStateM.Result.ok.inj hrun
  exact h

/-- **One rule after another**, the second one where the first one has stopped. -/
theorem Yields.bind_run {f : α → Rule β} (h : Yields s r P)
    (hf : ∀ a s', r s = .ok a s' → P a → Yields s' (f a) Q) : Yields s (r >>= f) Q := by
  cases hrun : r s with
  | error e s' =>
      constructor
      · rw [after_error (bind_error hrun), ← after_error hrun]
        exact h.moves
      · intro b s'' hb
        exact absurd ((bind_error hrun).symm.trans hb) (by simp)
  | ok a s' =>
      have hnext := hf a s' hrun (h.answers a s' hrun)
      constructor
      · rw [after, bind_ok hrun]
        exact (h.movesOn hrun).trans hnext.moves
      · intro b s'' hb
        exact hnext.answers b s'' ((bind_ok hrun).symm.trans hb)

theorem Yields.bind {f : α → Rule β} (h : Yields s r P)
    (hf : ∀ a s', P a → Yields s' (f a) Q) : Yields s (r >>= f) Q :=
  h.bind_run fun a s' _ ha => hf a s' ha

theorem Yields.map {g : α → β} (h : Yields s r fun a => Q (g a)) : Yields s (g <$> r) Q := by
  rw [map_eq_pure_bind]
  exact h.bind fun a _ ha => yields_pure ha

/-- What follows an answer that may be absent. -/
theorem Yields.bind_option {r : Rule (Option α)} {f : Option α → Rule β}
    (h : Yields s r fun found => ∀ a ∈ found, P a) (hnone : ∀ s', Yields s' (f none) Q)
    (hsome : ∀ a s', P a → Yields s' (f (some a)) Q) : Yields s (r >>= f) Q := by
  refine h.bind fun found s' hfound => ?_
  cases found with
  | none => exact hnone s'
  | some a => exact hsome a s' (hfound a rfl)

/-! ### Looking and taking -/

section Blocks

variable {pattern : List TokenTest}

theorem after_discard (r : Rule α) (s : TokenSource) : after (discard r) s = after r s := by
  cases h : r s with
  | error e u => rw [after_error (discard_error h), after_error h]
  | ok a u => rw [after_ok (discard_ok h), after_ok h]

theorem yields_peek (s : TokenSource) (n : Nat) : Yields s (peek n) fun _ => True :=
  ⟨(readsTo_peek s n).toMovesOn, fun _ _ _ => trivial⟩

theorem yields_look (s : TokenSource) (pattern : List TokenTest) :
    Yields s (look pattern) fun _ => True := by
  refine ⟨?_, fun _ _ _ => trivial⟩
  rw [← after_discard]
  exact movesOn_perform (.look pattern) s

theorem yields_expect (s : TokenSource) (nonempty : pattern ≠ []) :
    Yields s (expect pattern nonempty) fun _ => True := by
  refine ⟨?_, fun _ _ _ => trivial⟩
  rw [← after_discard]
  exact movesOn_perform (.expect pattern nonempty) s

theorem yields_next (s : TokenSource) : Yields s next fun _ => True := by
  refine ⟨?_, fun _ _ _ => trivial⟩
  rw [← after_discard]
  exact movesOn_perform .next s

theorem yields_atEnd (s : TokenSource) : Yields s atEnd fun _ => True := by
  refine ⟨?_, fun _ _ _ => trivial⟩
  rw [← after_discard]
  exact movesOn_perform .atEnd s

theorem yields_lookAny (s : TokenSource) (patterns : List (List TokenTest)) :
    Yields s (lookAny patterns) fun _ => True := by
  induction patterns generalizing s with
  | nil => exact yields_pure trivial
  | cons pattern patterns ih =>
      refine (yields_look s pattern).bind fun fits s' _ => ?_
      cases fits with
      | true => exact yields_pure trivial
      | false => exact ih s'

/-- A decision by a look. -/
theorem yields_ite_look {r q : Rule α} (hr : ∀ s', Yields s' r P) (hq : ∀ s', Yields s' q P) :
    Yields s (do if ← look pattern then r else q) P := by
  refine (yields_look s pattern).bind fun fits s' _ => ?_
  cases fits with
  | true => exact hr s'
  | false => exact hq s'

theorem yields_accept (s : TokenSource) (nonempty : pattern ≠ []) :
    Yields s (accept pattern nonempty) fun _ => True :=
  yields_ite_look (fun s' => ((yields_expect s' nonempty).weaken fun _ _ => trivial).map)
    fun _ => yields_pure trivial

end Blocks

/-! ### Repetition -/

/-- A rule that is bounded by what is to come. -/
theorem yields_size_bind {f : Nat → Rule α} (h : ∀ n, Yields s (f n) P) :
    Yields s (do f (← get).size) P :=
  ⟨(h s.size).moves, (h s.size).answers⟩

/-- **Every answer of a repeated rule** has what one round gives it, wherever it starts. -/
theorem yields_many {step : Rule (Option α)}
    (h : ∀ s', MovesOn s s' → Yields s' step fun found => ∀ a ∈ found, P a) :
    Yields s (many step) fun found => ∀ a ∈ found, P a := by
  have hrounds : ∀ (rounds : Nat) (s' : TokenSource), MovesOn s s' →
      Yields s' (manyUpTo step rounds) fun found => ∀ a ∈ found, P a := by
    intro rounds
    induction rounds with
    | zero => exact fun s' _ => yields_pure (by simp)
    | succ rounds ih =>
        intro s' hs'
        refine (h s' hs').bind_run fun found s'' hrun hfound => ?_
        have hs'' := hs'.trans ((h s' hs').movesOn hrun)
        cases found with
        | none => exact yields_pure (by simp)
        | some a =>
            have ha : P a := hfound a rfl
            exact ((ih s'' hs'').weaken fun more hmore => by simpa using ⟨ha, hmore⟩).map
  exact yields_size_bind fun n => hrounds (n + 1) s (.refl s)

theorem yields_separated {part : Rule (Part α)} (h : ∀ s', Yields s' part fun _ => True) :
    Yields s (separated part) fun _ => True := by
  have hrounds : ∀ (rounds : Nat) (s' : TokenSource),
      Yields s' (separatedUpTo part rounds) fun _ => True := by
    intro rounds
    induction rounds with
    | zero => exact fun s' => yields_pure trivial
    | succ rounds ih =>
        intro s'
        refine (h s').bind fun p s'' _ => ?_
        cases p with
        | absent => exact yields_pure trivial
        | broken => exact yields_pure trivial
        | found a =>
            refine (yields_accept s'' _).bind fun comma s₃ _ => ?_
            cases comma with
            | none => exact yields_pure trivial
            | some _ => exact (ih s₃).bind fun _ _ _ => yields_pure trivial
  exact yields_size_bind fun n => hrounds (n + 1) s

end DocComments.Rule
