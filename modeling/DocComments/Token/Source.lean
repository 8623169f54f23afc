import DocComments.Token.Lexer
import DocComments.Token.Pattern

/-!
# Tokens to come

A `TokenSource` hands out the tokens of a source in order and can look ahead.  It holds the
tokens read ahead and not yet taken, and the steps of the lexer that are still to be made.
Looking ahead moves tokens from the second list to the first, as few as the question needs;
taking removes them from the front of the first.

`TokenSource.upcoming` is the view that counts: everything still to come, the tokens read
ahead first.  A successful look leaves it as it is (`TokenSource.upcoming_fetch`).  A step at
which the lexer fails is reported when a look reaches it, and is then gone.
-/

namespace DocComments

open Text

/-- Why reading tokens fails: the lexer meets a construct left open, or the tokens do not
fit. -/
inductive Failure where
  | unterminated (e : Unterminated)
  | mismatch (m : Mismatch)
  deriving DecidableEq, Repr

/-- The wording of a failure, in which `quote` shows the text of a token. -/
def Failure.messageBy (quote : String → String) : Failure → String
  | unterminated e => e.message
  | mismatch m => m.messageBy quote

/-- The wording of a failure. -/
def Failure.message (f : Failure) : String :=
  f.messageBy Text.quoted

/-- **The tokens still to come.** -/
structure TokenSource where
  /-- The tokens read ahead and not yet taken. -/
  ahead : List Token
  /-- The steps of the lexer still to be made. -/
  pending : List Lexer.Step
  /-- Where the lexer stands. -/
  cursor : Cursor
  /-- Where the lexer stands once it has met the end of the source. -/
  finish : Cursor

/-- A computation that reads tokens.  When it fails, the tokens it took stay taken. -/
abbrev Rule := EStateM Failure TokenSource

namespace TokenSource

/-- The tokens of a source. -/
def ofString (source : String) : TokenSource :=
  let l := Lexer.start source
  let r := l.run
  { ahead := [], pending := r.1, cursor := l.cursor, finish := r.2 }

/-- The token for the end of the source. -/
def endToken (s : TokenSource) : Token :=
  .endOfInput s.finish.line s.finish.column

/-- **Everything still to come**, in order. -/
def upcoming (s : TokenSource) : List (Except Unterminated Token) :=
  s.ahead.map .ok ++ s.pending.map (·.result)

/-- How many tokens and failures are still to come. -/
def size (s : TokenSource) : Nat :=
  s.ahead.length + s.pending.length

/-- The token read ahead that has `behind` others behind it, counted from the last one. -/
def aheadFromLast? (s : TokenSource) (behind : Nat) : Option Token :=
  s.ahead.reverse[behind]?

/-- The token that is `n` steps of the lexer away, with all tokens up to it read ahead.  At
the end of the source the answer is the token for the end, however large `n` is. -/
def fetch (finish : Cursor) :
    Nat → List Token → Cursor → List Lexer.Step → EStateM.Result Failure TokenSource Token
  | _, ahead, _, [] => .ok (.endOfInput finish.line finish.column) ⟨ahead, [], finish, finish⟩
  | n, ahead, _, ⟨result, after⟩ :: more =>
      match result with
      | .error e => .error (.unterminated e) ⟨ahead, more, after, finish⟩
      | .ok t =>
          match n with
          | 0 => .ok t ⟨ahead ++ [t], more, after, finish⟩
          | n + 1 => fetch finish n (ahead ++ [t]) after more

/-- **Looks ahead**: the token `offset` places from here.  Nothing is taken. -/
def peek (offset : Nat) : Rule Token := fun s =>
  match s.ahead[offset]? with
  | some t => .ok t s
  | none => fetch s.finish (offset - s.ahead.length) s.ahead s.cursor s.pending

/-- Takes the first `n` of the tokens read ahead. -/
def drop (n : Nat) (s : TokenSource) : TokenSource :=
  { s with ahead := s.ahead.drop n }

/-! ### Looking keeps what is to come -/

theorem upcoming_fetch {finish cursor : Cursor} {n : Nat} {ahead : List Token}
    {pending : List Lexer.Step} {t : Token} {s' : TokenSource}
    (h : fetch finish n ahead cursor pending = .ok t s') :
    s'.upcoming = ahead.map .ok ++ pending.map (·.result) ∧ s'.finish = finish := by
  induction pending generalizing n ahead cursor with
  | nil => simp only [fetch, EStateM.Result.ok.injEq] at h; obtain ⟨-, rfl⟩ := h; simp [upcoming]
  | cons step more ih =>
      obtain ⟨result, after⟩ := step
      cases result with
      | error e => simp [fetch] at h
      | ok u =>
          cases n with
          | zero =>
              simp only [fetch, EStateM.Result.ok.injEq] at h
              obtain ⟨-, rfl⟩ := h
              simp [upcoming]
          | succ n =>
              simp only [fetch] at h
              simpa using ih h

theorem upcoming_peek {s s' : TokenSource} {offset : Nat} {t : Token}
    (h : peek offset s = .ok t s') : s'.upcoming = s.upcoming ∧ s'.finish = s.finish := by
  unfold peek at h
  split at h
  · simp only [EStateM.Result.ok.injEq] at h
    obtain ⟨-, rfl⟩ := h
    exact ⟨rfl, rfl⟩
  · exact upcoming_fetch h

end TokenSource

end DocComments
