import DocComments.Text.Cursor
import DocComments.Token.Lexeme

/-!
# The lexer

A `Lexer` is a place in the source together with the last token that counts for telling a
regular expression from a division.  `Lexer.next` moves over the gap before the next lexeme
and reads it; a construct that is never closed is reported with the place where it opens,
and the lexer then stands where the search for its end stopped, ready to go on.

Every step leaves less to read (`Lexer.rest_next_lt`).  So the whole future of a lexer is a
finite list, `Lexer.run`, and readers of tokens can be written against that list.
-/

namespace DocComments

open Text

/-- **A construct that is never closed**, with the place where it opens. -/
structure Unterminated where
  /-- What was left open. -/
  what : Construct
  /-- The line on which it opens. -/
  line : Int
  /-- The column at which it opens. -/
  column : Int
  deriving DecidableEq, Repr

/-- What a construct is called. -/
def Construct.name : Construct → String
  | string => "string"
  | regex => "regex"
  | comment => "comment"

/-- The wording of a construct left open. -/
def Unterminated.message (e : Unterminated) : String :=
  s!"Unterminated {e.what.name} at line {e.line}, col {e.column}"

/-- **A lexer**: where it stands, and the last token other than a doc-comment. -/
structure Lexer where
  /-- Where it stands. -/
  cursor : Cursor
  /-- The last token read, doc-comments apart. -/
  last : Option Token
  deriving DecidableEq, Repr

/-- A slash after this token opens a regular expression: nothing precedes it, or an operator
other than a closing bracket, or a reserved word that is not itself a value. -/
def regexMayFollow : Option Token → Bool
  | none => true
  | some t =>
      match t.kind with
      | .punct => !([")", "]", "\x7d"].contains t.text)
      | .keyword => t.text ≠ "this"
      | _ => false

namespace Lexer

/-- The lexer at the start of a source. -/
def start (source : String) : Lexer :=
  ⟨Cursor.start source.toList, none⟩

/-- The lexer behind the gap before the next lexeme. -/
def settle (l : Lexer) : Lexer :=
  { l with cursor := l.cursor.skip (gapLength l.cursor.rest) }

/-- Reads the lexeme at the start of `c :: more`, where the lexer stands. -/
def take (l : Lexer) (c : Char) (more : List Char) : Except Unterminated Token × Lexer :=
  match Lexeme.read (regexMayFollow l.last) c more with
  | .unterminated what width =>
      (.error ⟨what, l.cursor.line, l.cursor.column⟩, { l with cursor := l.cursor.skip width })
  | .token kind text width =>
      let t : Token := ⟨kind, String.ofList text, l.cursor.line, l.cursor.column⟩
      (.ok t,
        { cursor := l.cursor.skip width
          last := if kind = .docComment then l.last else some t })

/-- **One step**: the next token, or the construct left open, and the lexer behind it.  At
the end of the source there is no next token, and the lexer stands behind the last gap. -/
def next (l : Lexer) : Option (Except Unterminated Token) × Lexer :=
  match l.settle.cursor.rest with
  | [] => (none, l.settle)
  | c :: more =>
      let r := l.settle.take c more
      (some r.1, r.2)

/-! ### Progress -/

theorem rest_settle (l : Lexer) :
    l.settle.cursor.rest = l.cursor.rest.drop (gapLength l.cursor.rest) := by
  simp [settle]

theorem rest_take (l : Lexer) (c : Char) (more : List Char) :
    (l.take c more).2.cursor.rest =
      l.cursor.rest.drop (Lexeme.read (regexMayFollow l.last) c more).width := by
  unfold take
  split <;> next h => simp [h, Lexeme.width]

/-- **Progress**: after a step that finds something, less is left to read. -/
theorem rest_next_lt {l l' : Lexer} {result : Except Unterminated Token}
    (h : l.next = (some result, l')) : l'.cursor.rest.length < l.cursor.rest.length := by
  unfold next at h
  split at h
  · simp at h
  · next c more hrest =>
      obtain ⟨-, rfl⟩ := Prod.mk.inj h
      have hpos := Lexeme.width_read_pos (regexMayFollow l.settle.last) c more
      have hle : l.settle.cursor.rest.length ≤ l.cursor.rest.length := by
        rw [rest_settle, List.length_drop]
        omega
      rw [rest_take, List.length_drop]
      rw [hrest, List.length_cons] at *
      omega

/-! ### The whole run -/

/-- **A step of a run**: what it found, and where the lexer then stands. -/
structure Step where
  /-- The token, or the construct left open. -/
  result : Except Unterminated Token
  /-- Where the lexer stands afterwards. -/
  after : Cursor

/-- **The whole run** of a lexer: its steps to the end of the source, failures passed over,
and where it stands at the end. -/
def run (l : Lexer) : List Step × Cursor :=
  match _h : l.next with
  | (none, l') => ([], l'.cursor)
  | (some result, l') =>
      let r := l'.run
      (⟨result, l'.cursor⟩ :: r.1, r.2)
termination_by l.cursor.rest.length
decreasing_by exact rest_next_lt ‹_›

theorem run_of_next_eq_none {l l' : Lexer} (h : l.next = (none, l')) :
    l.run = ([], l'.cursor) := by
  rw [run]
  split <;> simp_all

theorem run_of_next_eq_some {l l' : Lexer} {result : Except Unterminated Token}
    (h : l.next = (some result, l')) :
    l.run = (⟨result, l'.cursor⟩ :: l'.run.1, l'.run.2) := by
  rw [run]
  split <;> simp_all

end Lexer

/-- **The tokens of a source**, its end not included, or the first construct left open. -/
def tokenize (source : String) : Except Unterminated (List Token) :=
  (Lexer.start source).run.1.mapM (·.result)

end DocComments
