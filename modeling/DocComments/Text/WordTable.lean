import DocComments.Text.Words

/-!
# Tables of words by number

A table that gives a word for most numbers of an interval is written as runs: a number, and the
words for it and for the numbers that follow, with a section sign between every two.  No word
has a section sign in it, and none is empty, so an empty word leaves its number out.
-/

namespace DocComments.Text

/-- **Words by number**, as runs in ascending order. -/
abbrev WordTable := List (Nat × String)

/-- **The word for a number**, if there is one. -/
def WordTable.word? (t : WordTable) (number : Nat) : Option (List Char) :=
  match (t.takeWhile fun run => run.1 ≤ number).getLast? with
  | none => none
  | some run => (pieces '§' run.2.toList)[number - run.1]?.filter (· ≠ [])

end DocComments.Text
