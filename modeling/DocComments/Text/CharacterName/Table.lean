/-!
# Tables of names

The names of consecutive characters are alike, so each is written as what is new in it, behind
the number of characters that it shares with the name before.  Names are in capital letters,
digits, hyphens and blanks; small letters write the number, from `a` for none to `z` for
twenty-five and as many as what follows says.  A table is runs of such names, each with the code
point that it starts at; the first name of a run counts on the last one of the run before.
-/

namespace DocComments.Text

/-- **Names of characters**, as runs in ascending order. -/
abbrev NameTable := List (Nat × String)

namespace NameTable

/-- The names of a run as they are written: what stands before the first number, and behind each
number the characters that are new. -/
def entries : List Char → List Char × List (Nat × List Char)
  | [] => ([], [])
  | c :: text =>
      let (new, more) := entries text
      if 'a' ≤ c ∧ c ≤ 'z' then
        let shared := c.toNat - 'a'.toNat
        match c, new, more with
        | 'z', [], (n, new) :: more => ([], (shared + n, new) :: more)
        | _, _, _ => ([], (shared, new) :: more)
      else (c :: new, more)

/-- Where a name stands in a run: its number in the run, or else the last name of the run, with
`last` the name before. -/
def position (name last : List Char) : List (Nat × List Char) → Nat ⊕ List Char
  | [] => .inr last
  | (shared, new) :: more =>
      let this := last.take shared ++ new
      if this = name then .inl 0
      else
        match position name this more with
        | .inl n => .inl (n + 1)
        | .inr last => .inr last

/-- The code point with a given name, with `last` the name before the table. -/
def findFrom (name last : List Char) : NameTable → Option Nat
  | [] => none
  | (start, text) :: more =>
      match position name last (entries text.toList).2 with
      | .inl n => some (start + n)
      | .inr last => findFrom name last more

/-- **The code point with a given name** in a table. -/
def find? (t : NameTable) (name : List Char) : Option Nat :=
  findFrom name [] t

end NameTable

end DocComments.Text
