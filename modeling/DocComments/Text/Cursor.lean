/-!
# A place in a text

A `Cursor` is a place in a text together with its line and column, both counted from one.
It keeps the text in two halves, what it has passed (nearest first) and what is still to
come, so that a step forward costs no search.  Only a newline starts a new line.

`Cursor.skip` moves over several characters; `Cursor.rest_skip` says what is left and
`Cursor.source_skip` that the text itself never changes.
-/

namespace DocComments.Text

/-- **A place in a text.** -/
structure Cursor where
  /-- The characters before the place, nearest first. -/
  passed : List Char
  /-- The characters from the place on. -/
  rest : List Char
  /-- How many characters stand before the place. -/
  offset : Nat
  /-- The line of the place, counted from one. -/
  line : Int
  /-- The column of the place, counted from one. -/
  column : Int
  /-- The number is that of the characters passed. -/
  offset_eq : offset = passed.length
  deriving DecidableEq, Repr

namespace Cursor

/-- The cursor at the start of a text. -/
def start (source : List Char) : Cursor :=
  ⟨[], source, 0, 1, 1, rfl⟩

/-- The whole text. -/
def source (c : Cursor) : List Char :=
  c.passed.reverse ++ c.rest

/-- One character forward; at the end nothing moves. -/
def forward (c : Cursor) : Cursor :=
  match c.rest with
  | [] => c
  | ch :: rest =>
      { passed := ch :: c.passed
        rest := rest
        offset := c.offset + 1
        line := if ch = '\n' then c.line + 1 else c.line
        column := if ch = '\n' then 1 else c.column + 1
        offset_eq := by simp [c.offset_eq] }

/-- `n` characters forward, or to the end if fewer are left. -/
def skip (c : Cursor) : Nat → Cursor
  | 0 => c
  | n + 1 => c.forward.skip n

/-! ### What a move leaves -/

@[simp] theorem rest_start (source : List Char) : (start source).rest = source := rfl

@[simp] theorem source_start (source : List Char) : (start source).source = source := by
  simp [start, Cursor.source]

@[simp] theorem rest_forward (c : Cursor) : c.forward.rest = c.rest.tail := by
  unfold forward
  split <;> simp_all

@[simp] theorem source_forward (c : Cursor) : c.forward.source = c.source := by
  unfold forward
  split <;> simp_all [Cursor.source]

@[simp] theorem skip_zero (c : Cursor) : c.skip 0 = c := rfl

theorem skip_succ (c : Cursor) (n : Nat) : c.skip (n + 1) = c.forward.skip n := rfl

theorem skip_add (c : Cursor) (m n : Nat) : c.skip (m + n) = (c.skip m).skip n := by
  induction m generalizing c with
  | zero => rw [Nat.zero_add, skip_zero]
  | succ m ih => rw [Nat.add_right_comm, skip_succ, ih, skip_succ]

@[simp] theorem rest_skip (c : Cursor) (n : Nat) : (c.skip n).rest = c.rest.drop n := by
  induction n generalizing c with
  | zero => rfl
  | succ n ih => rw [skip_succ, ih, rest_forward, List.drop_tail]

@[simp] theorem source_skip (c : Cursor) (n : Nat) : (c.skip n).source = c.source := by
  induction n generalizing c with
  | zero => rfl
  | succ n ih => rw [skip_succ, ih, source_forward]

end Cursor

end DocComments.Text
