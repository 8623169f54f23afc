import DocComments.Text.Loose

/-!
# Tables of characters

A set of characters numbers them.  Most numbers between the first and the last are taken, so a
set is written as runs of characters, each with the number it starts at, and kept as an array.
The replacement character U+FFFD stands where a number is free; no set has that character
itself.
-/

namespace DocComments.Text

/-- **Characters by number.** -/
structure CharTable where
  /-- The characters, with the replacement character where there is none. -/
  chars : Array Char

namespace CharTable

/-- The characters `added` put at the number `start`, behind all others. -/
def extend (t : CharTable) (start : Nat) (added : List Char) : CharTable :=
  ⟨t.chars ++ Array.replicate (start - t.chars.size) Sign.replacement ++ added.toArray⟩

/-- The table of some runs, which are given in ascending order. -/
def ofRuns (runs : List (Nat × String)) : CharTable :=
  runs.foldl (fun t run => t.extend run.1 run.2.toList) ⟨#[]⟩

/-- **The character with a given number**, if there is one. -/
def char? (t : CharTable) (number : Nat) : Option Char :=
  t.chars[number]?.filter (· ≠ Sign.replacement)

/-- The code points from `first` to before `first + count` that no character of the table has,
in order. -/
def unlisted (t : CharTable) (first count : Nat) : List Nat :=
  let listed := t.chars.foldl
    (fun marks c => if first ≤ c.toNat then marks.setIfInBounds (c.toNat - first) true else marks)
    (Array.replicate count false)
  (List.range count).filterMap fun n => if listed[n]?.getD true then none else some (first + n)

theorem size_extend {t : CharTable} {start : Nat} (added : List Char) (h : t.chars.size ≤ start) :
    (t.extend start added).chars.size = start + added.length := by
  simp [extend]
  omega

end CharTable

/-- The number of a cell in a grid of 94 rows of 94 cells, rows and places in them both counted
from 0x21 on. -/
def gridNumber? (row place : Nat) : Option Nat :=
  if 0x21 ≤ row ∧ row ≤ 0x7E ∧ 0x21 ≤ place ∧ place ≤ 0x7E then
    some ((row - 0x21) * 94 + (place - 0x21))
  else none

theorem lt_of_gridNumber? {row place number : Nat} (h : gridNumber? row place = some number) :
    number < 94 * 94 := by
  simp only [gridNumber?] at h
  split at h
  · simp only [Option.some.injEq] at h
    omega
  · simp at h

/-- The character in a cell of a grid. -/
def CharTable.cell? (t : CharTable) (row place : Nat) : Option Char :=
  (gridNumber? row place).bind t.char?

end DocComments.Text
