import DocComments.Proofs.ClassConfiguration
import DocComments.Proofs.Consuming
import Mathlib.Data.List.Chain

/-!
# Loops over tokens end

The rules repeat themselves in two ways, over the parts of a list and over the tokens of a source,
and literals stand inside literals.  The definitions bound all of this by what is to come.  Here it
is shown that no bound is ever met: a loop is left by one of its own rounds, and a literal is read
by a rule that reads the literals inside it in the same way, with no bound on the depth.

`Rounds` are the rounds of a loop that go on.  Each of them takes a token (`EndsByItself.takes`), so
there are no more of them than tokens (`exists_last_round`).  `Rule.CallsAt` are the places at which
the literals inside a literal are read.  A bracket has been taken before each of them
(`Rule.consumed_callsAt`), so the literals that are being read at one time are no more than the
tokens and one (`Rule.length_calls_le`).

That the bounds do not matter is one argument for all of them, `unbounded_of_smaller`: what is
repeated is repeated where less is to come.
-/

namespace DocComments

open TokenSource

/-! ### Rounds -/

section Rounds

variable {ε σ α : Type} {round : EStateM ε σ Bool} {size : σ → Nat}
variable {again : EStateM ε σ α → EStateM ε σ α}

/-- **Some rounds of a loop that go on**, one after the other: a round answers whether the loop goes
on behind it. -/
inductive Rounds (round : EStateM ε σ Bool) : Nat → σ → σ → Prop where
  | nil (s : σ) : Rounds round 0 s s
  | cons {n : Nat} {s u v : σ} (h : round s = .ok true u) (hmore : Rounds round n u v) :
      Rounds round (n + 1) s v

/-- **A loop is left** after no more rounds than the size of its state, if each round that goes on
makes the state smaller. -/
theorem exists_last_round (h : ∀ s u, round s = .ok true u → size u < size s) (s : σ) :
    ∃ n ≤ size s, ∃ u, Rounds round n s u ∧ ∀ v, round u ≠ .ok true v := by
  induction hn : size s using Nat.strong_induction_on generalizing s with
  | _ n ih =>
      by_cases hgoes : ∃ u, round s = .ok true u
      · obtain ⟨u, hu⟩ := hgoes
        have hlt := h s u hu
        obtain ⟨k, hk, v, hrounds, hlast⟩ := ih (size u) (hn ▸ hlt) u rfl
        exact ⟨k + 1, by omega, v, .cons hu hrounds, hlast⟩
      · exact ⟨0, Nat.zero_le _, s, .nil s, fun v hv => hgoes ⟨v, hv⟩⟩

/-- **The round of a loop**, where `again rest` is the loop with `rest` behind the first round. -/
structure IsRoundOf (round : EStateM ε σ Bool) (again : EStateM ε σ α → EStateM ε σ α) : Prop where
  /-- Where the round goes on, the rest runs behind it, and something may be made of its answer. -/
  goes_on : ∀ s u, round s = .ok true u → ∃ g : α → α, ∀ rest, again rest s = (g <$> rest) u
  /-- Where it does not, the rest is not run. -/
  leaves : ∀ s, (∀ u, round s ≠ .ok true u) → ∀ rest rest', again rest s = again rest' s

/-- What is behind a round matters only where the round goes on. -/
theorem IsRoundOf.congr (h : IsRoundOf round again) {s : σ} {rest rest' : EStateM ε σ α}
    (hrest : ∀ u, round s = .ok true u → rest u = rest' u) : again rest s = again rest' s := by
  by_cases hgoes : ∃ u, round s = .ok true u
  · obtain ⟨u, hu⟩ := hgoes
    obtain ⟨g, hg⟩ := h.goes_on s u hu
    rw [hg, hg, map_eq_pure_bind, map_eq_pure_bind]
    exact bind_congr_run (hrest u hu) fun _ _ _ => rfl
  · exact h.leaves s (fun u hu => hgoes ⟨u, hu⟩) rest rest'

/-- **A bound that is never met.**  What is done `n` times at most, with no more than the size of
the state, is done as often as it takes, if it is repeated at smaller states only. -/
theorem unbounded_of_smaller (size : σ → Nat) (upTo : Nat → EStateM ε σ α)
    (hupTo : ∀ n, upTo (n + 1) = again (upTo n))
    (hcongr : ∀ n s rest, (∀ u, size u < size s → upTo n u = rest u) →
      again (upTo n) s = again rest s) (s : σ) :
    upTo (size s + 1) s = again (fun u => upTo (size u + 1) u) s := by
  have hstable : ∀ (n n' : Nat) (u : σ), size u < n → size u < n' → upTo n u = upTo n' u := by
    intro n
    induction n with
    | zero => exact fun _ _ h => absurd h (Nat.not_lt_zero _)
    | succ n ih =>
        intro n' u hn hn'
        obtain ⟨n', rfl⟩ : ∃ k, n' = k + 1 := ⟨n' - 1, by omega⟩
        rw [hupTo, hupTo]
        exact hcongr n u _ fun v hv => ih n' v (by omega) (by omega)
  rw [hupTo]
  exact hcongr (size s) s _ fun u hu => hstable _ _ u hu (Nat.lt_succ_self _)

/-- **A loop over tokens that ends by itself.**  `source` are the tokens to come in a state. -/
structure EndsByItself (source : σ → TokenSource) (round : EStateM Failure σ Bool)
    (again : EStateM Failure σ α → EStateM Failure σ α) (loop : EStateM Failure σ α) : Prop
    extends IsRoundOf round again where
  /-- A round that does not leave the loop takes a token. -/
  takes : ∀ s u, round s = .ok true u → Consumed (source s) (source u)
  /-- The loop is left, after no more rounds than there are tokens. -/
  left : ∀ s, ∃ n ≤ (source s).tokens.length, ∃ u, Rounds round n s u ∧
    ∀ v, round u ≠ .ok true v
  /-- The loop is one round and then the same loop, with no bound on the rounds. -/
  unbounded : ∀ s, loop s = again loop s

theorem endsByItself {source : σ → TokenSource} {round : EStateM Failure σ Bool}
    {again : EStateM Failure σ α → EStateM Failure σ α} {loop : EStateM Failure σ α}
    (upTo : Nat → EStateM Failure σ α) (hround : IsRoundOf round again)
    (htakes : ∀ s u, round s = .ok true u → Consumed (source s) (source u))
    (hupTo : ∀ n, upTo (n + 1) = again (upTo n))
    (hloop : ∀ s, loop s = upTo ((source s).size + 1) s) :
    EndsByItself source round again loop where
  toIsRoundOf := hround
  takes := htakes
  left := exists_last_round fun s u hu => (htakes s u hu).fewer
  unbounded s := by
    have hall : loop = fun u => upTo ((source u).size + 1) u := funext hloop
    rw [hloop, hall]
    refine unbounded_of_smaller (fun u => (source u).size) upTo hupTo (fun n u rest hrest => ?_) s
    exact hround.congr fun v hv => hrest v (htakes u v hv).size_lt

end Rounds

namespace Rule

variable {α : Type} {s u : TokenSource}

/-! ### Repetition -/

section Repetition

variable {step : Rule (Option α)} {part part' : Rule (Part α)}

/-- The round of a rule that is repeated for as long as it finds something. -/
def foundRound (step : Rule (Option α)) : Rule Bool :=
  Option.isSome <$> step

/-- What the rule finds, and what `rest` finds behind it. -/
def nextFound (step : Rule (Option α)) (rest : Rule (List α)) : Rule (List α) := do
  match ← step with
  | none => pure []
  | some a => (a :: ·) <$> rest

theorem foundRound_eq_iff :
    foundRound step s = .ok true u ↔ ∃ a, step s = .ok (some a) u := by
  constructor
  · intro h
    obtain ⟨found, hstep, hfound⟩ := exists_of_map_ok h
    obtain ⟨a, rfl⟩ := Option.isSome_iff_exists.1 hfound
    exact ⟨a, hstep⟩
  · rintro ⟨a, hstep⟩
    rw [foundRound, map_eq_pure_bind, bind_ok hstep]
    rfl

theorem isRoundOf_nextFound : IsRoundOf (foundRound step) (nextFound step) where
  goes_on s u h := by
    obtain ⟨a, hstep⟩ := foundRound_eq_iff.1 h
    exact ⟨(a :: ·), fun rest => bind_ok hstep⟩
  leaves s hno rest rest' := by
    refine bind_congr_run rfl fun found u hstep => ?_
    cases found with
    | none => rfl
    | some a => exact absurd (foundRound_eq_iff.2 ⟨a, hstep⟩) (hno u)

theorem endsByItself_many (h : ∀ s u a, step s = .ok (some a) u → Consumed s u) :
    EndsByItself id (foundRound step) (nextFound step) (many step) := by
  refine endsByItself (manyUpTo step) isRoundOf_nextFound (fun s u hround => ?_)
    (fun _ => rfl) fun _ => rfl
  obtain ⟨a, hstep⟩ := foundRound_eq_iff.1 hround
  exact h s u a hstep

/-- The next parameter of a function, with the comma in front of it. -/
abbrev nextParameter : Rule (Option Token) :=
  accept [",", TokenKind.ident] (List.cons_ne_nil _ _)

/-- The next name of a chain, with the point in front of it. -/
abbrev nextName : Rule (Option Token) :=
  accept [".", TokenKind.ident] (List.cons_ne_nil _ _)

/-- A field that is found has taken a token, whatever the comma behind it is. -/
theorem consumed_configRound {field : String × Value} (h : configRound s = .ok (some field) u) :
    Consumed s u := by
  obtain ⟨found, v, hfield, h⟩ := exists_of_bind_ok h
  cases found with
  | none => cases h
  | some field' =>
      obtain ⟨comma, w, hcomma, h⟩ := exists_of_bind_ok h
      obtain ⟨-, rfl⟩ := EStateM.Result.ok.inj h
      exact (consumed_configField hfield).movesOn ((yields_accept v _).movesOn hcomma)

/-- The round of a list: one part, and the comma behind it. -/
def partRound (part : Rule (Part α)) : Rule Bool := do
  match ← part with
  | .found _ => Option.isSome <$> acceptOne ","
  | _ => pure false

/-- One part, and what `rest` finds behind the comma. -/
def nextPart (part : Rule (Part α)) (rest : Rule (Option (List α))) : Rule (Option (List α)) := do
  match ← part with
  | .absent => pure (some [])
  | .broken => pure none
  | .found a =>
      match ← acceptOne "," with
      | none => pure (some [a])
      | some _ =>
          let more ← rest
          pure (more.map (a :: ·))

theorem partRound_eq_iff :
    partRound part s = .ok true u ↔
      ∃ a v comma, part s = .ok (.found a) v ∧ acceptOne "," v = .ok (some comma) u := by
  constructor
  · intro h
    obtain ⟨p, v, hpart, h⟩ := exists_of_bind_ok h
    cases p with
    | absent => cases h
    | broken => cases h
    | found a =>
        obtain ⟨comma, hcomma⟩ := foundRound_eq_iff.1 h
        exact ⟨a, v, comma, hpart, hcomma⟩
  · rintro ⟨a, v, comma, hpart, hcomma⟩
    rw [partRound, bind_ok hpart]
    exact foundRound_eq_iff.2 ⟨comma, hcomma⟩

theorem isRoundOf_nextPart : IsRoundOf (partRound part) (nextPart part) where
  goes_on s u h := by
    obtain ⟨a, v, comma, hpart, hcomma⟩ := partRound_eq_iff.1 h
    refine ⟨Option.map (a :: ·), fun rest => ?_⟩
    rw [nextPart, bind_ok hpart, map_eq_pure_bind]
    exact bind_ok hcomma
  leaves s hno rest rest' := by
    refine bind_congr_run rfl fun p v hpart => ?_
    cases p with
    | absent => rfl
    | broken => rfl
    | found a =>
        refine bind_congr_run rfl fun comma u hcomma => ?_
        cases comma with
        | none => rfl
        | some comma => exact absurd (partRound_eq_iff.2 ⟨a, v, comma, hpart, hcomma⟩) (hno u)

theorem endsByItself_separated (h : ∀ s u a, part s = .ok (.found a) u → Consumed s u) :
    EndsByItself id (partRound part) (nextPart part) (separated part) := by
  refine endsByItself (separatedUpTo part) isRoundOf_nextPart (fun s u hround => ?_)
    (fun _ => rfl) fun _ => rfl
  obtain ⟨a, v, comma, hpart, hcomma⟩ := partRound_eq_iff.1 hround
  exact (h s v a hpart).movesOn ((yields_accept v _).movesOn hcomma)

theorem yields_partRound (h : ∀ u, Yields u part fun _ => True) (s : TokenSource) :
    Yields s (partRound part) fun _ => True := by
  refine (h s).bind fun p v _ => ?_
  cases p with
  | absent => exact yields_pure trivial
  | broken => exact yields_pure trivial
  | found a => exact ((yields_accept v _).weaken fun _ _ => trivial).map

theorem movesOn_of_rounds {round : Rule Bool} (h : ∀ u, Yields u round fun _ => True) {n : Nat}
    (hrounds : Rounds round n s u) : MovesOn s u := by
  induction hrounds with
  | nil s => exact .refl s
  | @cons n s u v hround _ ih => exact ((h s).movesOn hround).trans ih

/-- A list depends on the rule for its parts only where its rounds come to. -/
theorem separated_congr (h : ∀ n u, Rounds (partRound part) n s u → part u = part' u) :
    separated part s = separated part' s := by
  have hrounds : ∀ (rounds : Nat) (s : TokenSource),
      (∀ n u, Rounds (partRound part) n s u → part u = part' u) →
        separatedUpTo part rounds s = separatedUpTo part' rounds s := by
    intro rounds
    induction rounds with
    | zero => exact fun _ _ => rfl
    | succ rounds ih =>
        intro s h
        refine bind_congr_run (h 0 s (.nil s)) fun p v hpart => ?_
        cases p with
        | absent => rfl
        | broken => rfl
        | found a =>
            refine bind_congr_run rfl fun comma u hcomma => ?_
            cases comma with
            | none => rfl
            | some comma =>
                have hround := partRound_eq_iff.2 ⟨a, v, comma, hpart, hcomma⟩
                refine bind_congr_run (ih u fun n w hw => ?_) fun _ _ _ => rfl
                exact h (n + 1) w (.cons hround hw)
  exact hrounds _ s h

end Repetition

/-! ### Literals inside literals -/

section Literals

variable {inner inner' : Rule (Option Literal)}

/-- The item of an array, if there is one: what `arrayWith` repeats, as `objectWith` repeats
`memberWith` and `classConfig` repeats `configRound`. -/
def itemWith (inner : Rule (Option Literal)) : Rule (Part Literal) := do
  match ← inner with
  | none => pure .absent
  | some item => pure (.found item)

/-- **The places at which `literalWith inner` reads the literals inside** the one at `s`. -/
inductive CallsAt (inner : Rule (Option Literal)) (s : TokenSource) : TokenSource → Prop where
  /-- An item of an array, behind the bracket and some rounds. -/
  | item {first opening : Token} {v w u : TokenSource} {n : Nat}
      (hfirst : peek 0 s = .ok first v) (hscalar : first.kind.scalarKind? = none)
      (hopens : TokenTest.fits "[" first = true) (hopening : expectOne "[" v = .ok opening w)
      (hrounds : Rounds (partRound (itemWith inner)) n w u) : CallsAt inner s u
  /-- The value of a member of an object, behind the bracket, some rounds, the key and the colon. -/
  | value {first opening key colon : Token} {v w x y z u : TokenSource} {n : Nat}
      (hfirst : peek 0 s = .ok first v) (hscalar : first.kind.scalarKind? = none)
      (harray : TokenTest.fits "[" first = false) (hopens : TokenTest.fits "\x7b" first = true)
      (hopening : expectOne "\x7b" v = .ok opening w)
      (hrounds : Rounds (partRound (memberWith inner)) n w x)
      (hstarts : lookAny memberPatterns x = .ok true y) (hkey : next y = .ok key z)
      (hcolon : expectOne ":" z = .ok colon u) : CallsAt inner s u

/-- **The literals inside are read at these places only.** -/
theorem literalWith_congr (h : ∀ u, CallsAt inner s u → inner u = inner' u) :
    literalWith inner s = literalWith inner' s := by
  refine bind_congr_run rfl fun first v hfirst => ?_
  cases hscalar : first.kind.scalarKind? with
  | some kind => rfl
  | none =>
      cases harray : TokenTest.fits "[" first with
      | true =>
          refine bind_congr_run rfl fun opening w hopening => ?_
          have hitems : separated (itemWith inner) w = separated (itemWith inner') w :=
            separated_congr fun n u hrounds =>
              bind_congr_run (h u (.item hfirst hscalar harray hopening hrounds)) fun _ _ _ => rfl
          exact bind_congr_run hitems fun _ _ _ => rfl
      | false =>
          cases hobject : TokenTest.fits "\x7b" first with
          | false => rfl
          | true =>
              refine bind_congr_run rfl fun opening w hopening => ?_
              refine bind_congr_run (separated_congr fun n x hrounds => ?_) fun _ _ _ => rfl
              refine bind_congr_run rfl fun starts y hstarts => ?_
              cases starts with
              | false => rfl
              | true =>
                  refine bind_congr_run rfl fun key z hkey => ?_
                  refine bind_congr_run rfl fun colon u hcolon => ?_
                  have hcall : CallsAt inner s u :=
                    .value hfirst hscalar harray hobject hopening hrounds hstarts hkey hcolon
                  exact bind_congr_run (h u hcall) fun _ _ _ => rfl

theorem yields_itemWith (h : ∀ u, Yields u inner fun _ => True) (s : TokenSource) :
    Yields s (itemWith inner) fun _ => True := by
  refine (h s).bind fun found u _ => ?_
  cases found <;> exact yields_pure trivial

/-- **A token has been taken before a literal inside is read**: the bracket that opens the outer
one. -/
theorem consumed_callsAt (hinner : ∀ v, Yields v inner fun _ => True) (h : CallsAt inner s u) :
    Consumed s u := by
  cases h with
  | @item first opening v w _ n hfirst _ _ hopening hrounds =>
      have hbracket := consumed_expect (isInnerPattern_text "[") hopening
      have hmoved := movesOn_of_rounds (yields_partRound (yields_itemWith hinner)) hrounds
      exact ((yields_peek s 0).movesOn hfirst).consumed (hbracket.movesOn hmoved)
  | @value _ opening key colon v w x y z _ n hfirst _ _ _ hopening hrounds hstarts hkey hcolon =>
      have hbracket := consumed_expect (isInnerPattern_text "\x7b") hopening
      have hmoved := movesOn_of_rounds (yields_partRound (yields_memberWith hinner)) hrounds
      have hhead := ((yields_lookAny x _).movesOn hstarts).trans
        (((yields_next y).movesOn hkey).trans ((yields_expect z _).movesOn hcolon))
      exact ((yields_peek s 0).movesOn hfirst).consumed (hbracket.movesOn (hmoved.trans hhead))

/-- **A literal is read with no bound on the depth.** -/
theorem literal_eq (s : TokenSource) : literal s = literalWith literal s :=
  unbounded_of_smaller size literalWithin (fun _ => rfl)
    (fun n _ _ hrest => literalWith_congr fun u hu =>
      hrest u (consumed_callsAt (yields_literalWithin n) hu).size_lt) s

/-- **The literals that are read inside one another** are no more than the tokens to come and
one. -/
theorem length_calls_le {calls : List TokenSource}
    (h : List.IsChain (CallsAt literal) (s :: calls)) :
    (s :: calls).length ≤ s.tokens.length + 1 := by
  induction calls generalizing s with
  | nil => simp
  | cons u calls ih =>
      obtain ⟨hcall, hmore⟩ := List.isChain_cons_cons.1 h
      have hfewer := (consumed_callsAt yields_literal hcall).fewer
      have hlen := ih hmore
      rw [List.length_cons]
      omega

/-- **Reading a literal ends.** -/
structure LiteralsEnd : Prop where
  /-- The literals inside are read as the outer one is, with no bound on the depth. -/
  unbounded : ∀ s, literal s = literalWith literal s
  /-- All of them are read at the places that `CallsAt` tells. -/
  all : ∀ inner s, (∀ u, CallsAt literal s u → literal u = inner u) →
    literalWith literal s = literalWith inner s
  /-- There are fewer tokens left at each of these places. -/
  fewer : ∀ s u, CallsAt literal s u → Consumed s u
  /-- The depth is at most the number of tokens and one. -/
  depth : ∀ s calls, List.IsChain (CallsAt literal) (s :: calls) →
    (s :: calls).length ≤ s.tokens.length + 1

end Literals

end Rule

namespace Scanner

/-- One round of a scan, and `rest` behind it. -/
def nextRound (mode : ScanMode) (rest : Step Unit) : Step Unit := do
  if ← round mode then rest else pure ()

theorem isRoundOf_nextRound (mode : ScanMode) : IsRoundOf (round mode) (nextRound mode) where
  goes_on s u h := ⟨id, fun rest => by rw [id_map]; exact bind_ok h⟩
  leaves s hno rest rest' := by
    refine bind_congr_run rfl fun more u hround => ?_
    cases more with
    | false => rfl
    | true => exact absurd hround (hno u)

theorem endsByItself_scan (mode : ScanMode) :
    EndsByItself source (round mode) (nextRound mode) (scan mode) :=
  endsByItself (scanUpTo mode) (isRoundOf_nextRound mode) (fun _ _ => consumed_round)
    (fun _ => rfl) fun _ => rfl

end Scanner

namespace Rule

/-- **Everything that rules repeat over tokens ends.**  A literal or a field that is found has taken
a token.  The loops over items, members, fields, parameters, the names of a chain and the tokens of
a scan are each left by a round of their own, and a round that goes on has taken a token.  Literals
stand inside one another only as long as there are tokens left for them. -/
theorem loops_end (mode : ScanMode) :
    (∀ s s' l, literal s = .ok (some l) s' → Consumed s s') ∧
    (∀ s s' field, configField s = .ok (some field) s' → Consumed s s') ∧
    EndsByItself id (partRound (itemWith literal)) (nextPart (itemWith literal))
      (separated (itemWith literal)) ∧
    EndsByItself id (partRound (memberWith literal)) (nextPart (memberWith literal))
      (separated (memberWith literal)) ∧
    EndsByItself id (foundRound configRound) (nextFound configRound) (many configRound) ∧
    EndsByItself id (foundRound nextParameter) (nextFound nextParameter) (many nextParameter) ∧
    EndsByItself id (foundRound nextName) (nextFound nextName) (many nextName) ∧
    EndsByItself Scanner.source (Scanner.round mode) (Scanner.nextRound mode)
      (Scanner.scan mode) ∧
    LiteralsEnd := by
  have hnames : ∀ text : String, IsInnerPattern [.text text, .kind .ident] := by
    intro text test htest
    rcases List.mem_pair.1 htest with rfl | rfl
    · exact ⟨nofun, nofun⟩
    · decide
  refine ⟨fun _ _ _ => consumed_literal, fun _ _ _ => consumed_configField,
    endsByItself_separated fun s u item hitem => ?_,
    endsByItself_separated fun s u m => consumed_memberWith yields_literal,
    endsByItself_many fun s u field => consumed_configRound,
    endsByItself_many fun s u t => consumed_accept (hnames ","),
    endsByItself_many fun s u t => consumed_accept (hnames "."),
    Scanner.endsByItself_scan mode, ?_⟩
  · obtain ⟨l, v, hl, h⟩ := exists_of_bind_ok hitem
    cases l with
    | none => cases h
    | some l =>
        obtain ⟨-, rfl⟩ := EStateM.Result.ok.inj h
        exact consumed_literal hl
  · exact ⟨literal_eq, fun _ _ => literalWith_congr, fun _ _ => consumed_callsAt yields_literal,
      fun _ _ => length_calls_le⟩

end Rule

end DocComments
