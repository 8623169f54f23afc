/-!
# Character classes as tables of ranges

A class of characters that a standard lists is kept here as a table: the code points of
its members as closed intervals, in increasing order.  Membership is the plain statement
that some interval holds the code point; no search order is part of the meaning.
-/

namespace DocComments.Text

/-- **A table of closed intervals** of code points. -/
abbrev Ranges := List (Nat × Nat)

/-- The code point lies in one of the intervals. -/
def Ranges.containsCode (table : Ranges) (code : Nat) : Bool :=
  table.any fun r => r.1 ≤ code && code ≤ r.2

/-- The character lies in one of the intervals. -/
def Ranges.contains (table : Ranges) (c : Char) : Bool :=
  table.containsCode c.toNat

theorem Ranges.contains_iff {table : Ranges} {c : Char} :
    table.contains c = true ↔ ∃ r ∈ table, r.1 ≤ c.toNat ∧ c.toNat ≤ r.2 := by
  simp [Ranges.contains, Ranges.containsCode]

end DocComments.Text
