import DocComments.Token.Source

/-!
# Rules

The building blocks of every grammar here.  A rule looks at the next tokens, takes those
that fit, and fails where a token it is bound to does not.  `look` asks and takes nothing,
`expect` insists, `accept` takes a pattern if it fits, and `many` repeats a rule for as long
as it finds something.

A pattern is compared from left to right and no further than its first misfit, so no more
tokens are read ahead than the comparison needs.
-/

namespace DocComments.Rule

/-- The tokens from place `offset` on fit the pattern. -/
def lookFrom (offset : Nat) : List TokenTest → Rule Bool
  | [] => pure true
  | test :: more => do
      let t ← TokenSource.peek offset
      if test.fits t then lookFrom (offset + 1) more else pure false

/-- **The next tokens fit the pattern.**  Nothing is taken. -/
def look (pattern : List TokenTest) : Rule Bool :=
  lookFrom 0 pattern

/-- One of the patterns fits; they are tried in order, up to the first that does. -/
def lookAny : List (List TokenTest) → Rule Bool
  | [] => pure false
  | pattern :: more => do
      if ← look pattern then pure true else lookAny more

/-- Fails unless the tokens from place `offset` on fit `tests`, the end of `pattern`. -/
def requireFrom (pattern : List TokenTest) (offset : Nat) : List TokenTest → Rule Unit
  | [] => pure ()
  | test :: more => do
      let t ← TokenSource.peek offset
      if test.fits t then requireFrom pattern (offset + 1) more
      else throw (.mismatch ⟨pattern, t⟩)

/-- **Takes the tokens of a pattern** and answers with the last of them; where they do not
fit, fails and takes nothing. -/
def expect (pattern : List TokenTest) (_nonempty : pattern ≠ [] := by simp) : Rule Token := do
  requireFrom pattern 0 pattern
  let last ← TokenSource.peek (pattern.length - 1)
  modify (TokenSource.drop pattern.length)
  pure last

/-- Takes the tokens of a pattern if they fit, and answers with the last of them. -/
def accept (pattern : List TokenTest) (nonempty : pattern ≠ [] := by simp) :
    Rule (Option Token) := do
  if ← look pattern then some <$> expect pattern nonempty else pure none

/-- Takes one token, which is to pass the test. -/
abbrev expectOne (test : TokenTest) : Rule Token :=
  expect [test]

/-- Takes one token if it passes the test. -/
abbrev acceptOne (test : TokenTest) : Rule (Option Token) :=
  accept [test]

/-- **Takes the next token.**  At the end of the source nothing is taken. -/
def next : Rule Token := do
  let t ← TokenSource.peek 0
  modify (TokenSource.drop 1)
  pure t

/-- No token is left. -/
def atEnd : Rule Bool := do
  let t ← TokenSource.peek 0
  pure (t.kind = .endOfInput)

/-! ### Repetition -/

/-- Repeats a rule at most `rounds` times, for as long as it finds something. -/
def manyUpTo {α : Type} (step : Rule (Option α)) : Nat → Rule (List α)
  | 0 => pure []
  | rounds + 1 => do
      match ← step with
      | none => pure []
      | some a => (a :: ·) <$> manyUpTo step rounds

/-- **Repeats a rule** for as long as it finds something.  A rule that takes a token whenever
it finds something cannot find more often than there are tokens to come. -/
def many {α : Type} (step : Rule (Option α)) : Rule (List α) := do
  manyUpTo step ((← get).size + 1)

/-- What a rule for one part of a list finds: no further part, a part that breaks off, or a
part. -/
inductive Part (α : Type) where
  | absent
  | broken
  | found (a : α)

/-- The parts of a list with commas between them, at most `rounds` of them. -/
def separatedUpTo {α : Type} (part : Rule (Part α)) : Nat → Rule (Option (List α))
  | 0 => pure (some [])
  | rounds + 1 => do
      match ← part with
      | .absent => pure (some [])
      | .broken => pure none
      | .found a =>
          match ← acceptOne "," with
          | none => pure (some [a])
          | some _ =>
              let more ← separatedUpTo part rounds
              pure (more.map (a :: ·))

/-- **The parts of a list**, with a comma between every two and perhaps one behind the last;
`none` if one of them breaks off.  As for `many`, the tokens to come bound their number. -/
def separated {α : Type} (part : Rule (Part α)) : Rule (Option (List α)) := do
  separatedUpTo part ((← get).size + 1)

end DocComments.Rule
