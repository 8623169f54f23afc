import DocComments.Text.Normal.CombiningClass
import DocComments.Text.Normal.Composition
import DocComments.Text.Normal.Decomposition

/-!
# The composed form of a text

One text can be written in several ways: a letter with its marks, or one character for both; a
plain form of a character, or one that differs in style.  `composed` takes every character
apart, puts marks into the order of their classes, and composes what can be composed, so that
texts that differ only in this get the same form.

A text is given by its code points, among which can be halves of pairs; these stay as they are.
-/

namespace DocComments.Text

/-! ### Decomposition -/

/-- The first syllable of Hangul. -/
def firstSyllable : Nat := 0xAC00

/-- What a code point is taken apart into.  A syllable of Hangul is two or three letters. -/
def decompose (code : Nat) : List Nat :=
  if firstSyllable ≤ code ∧ code < firstSyllable + 11172 then
    let number := code - firstSyllable
    let letters := [0x1100 + number / 588, 0x1161 + number % 588 / 28]
    if number % 28 = 0 then letters else letters ++ [0x11A7 + number % 28]
  else
    match decompositions.word? code with
    | some chars => chars.map Char.toNat
    | none => [code]

/-- The combining class of a code point. -/
def combiningClass (code : Nat) : Nat :=
  match combiningClasses.find? fun r => r.1 ≤ code && code ≤ r.2.1 with
  | some r => r.2.2
  | none => 0

/-- Puts a mark in its place among marks in order: behind all whose class is not higher. -/
def insertMark (code : Nat) : List Nat → List Nat
  | [] => [code]
  | mark :: more =>
      if combiningClass mark ≤ combiningClass code then mark :: insertMark code more
      else code :: mark :: more

/-- The code points with the marks between every two others in the order of their classes;
`marks` are those read so far that wait for their place. -/
def orderMarks (marks : List Nat) : List Nat → List Nat
  | [] => marks
  | code :: more =>
      if combiningClass code = 0 then marks ++ code :: orderMarks [] more
      else orderMarks (insertMark code marks) more

/-! ### Composition -/

/-- The composition of two characters in a list of triples. -/
def composition? (a b : Char) : List Char → Option Char
  | first :: second :: both :: more =>
      if first = a ∧ second = b then some both else composition? a b more
  | _ => none

/-- What two code points compose to.  An initial letter of Hangul and a medial compose to a
syllable, and so do a syllable without a final letter and one. -/
def compose? (a b : Nat) : Option Nat :=
  if 0x1100 ≤ a ∧ a < 0x1113 ∧ 0x1161 ≤ b ∧ b < 0x1176 then
    some (firstSyllable + ((a - 0x1100) * 21 + (b - 0x1161)) * 28)
  else if firstSyllable ≤ a ∧ a < firstSyllable + 11172 ∧ (a - firstSyllable) % 28 = 0 ∧
      0x11A8 ≤ b ∧ b < 0x11C3 then
    some (a + (b - 0x11A7))
  else (composition? (Char.ofNat a) (Char.ofNat b) compositions.toList).map Char.toNat

/-- Composes marks and letters with the code point `base` before them; `held` are those between
that do not compose with it, the last of them of class `last`.  What follows composes with the
base only if its class is higher. -/
def composeFrom (base : Nat) (held : List Nat) (last : Nat) : List Nat → List Nat
  | [] => base :: held
  | code :: more =>
      let rank := combiningClass code
      if held ≠ [] ∧ rank = 0 then base :: held ++ composeFrom code [] 0 more
      else if held ≠ [] ∧ rank ≤ last then composeFrom base (held ++ [code]) last more
      else
        match compose? base code with
        | some both => composeFrom both held last more
        | none =>
            if rank = 0 then base :: held ++ composeFrom code [] 0 more
            else composeFrom base (held ++ [code]) rank more

/-- **The composed form** of a text. -/
def composed (codes : List Nat) : List Nat :=
  match orderMarks [] (codes.flatMap decompose) with
  | [] => []
  | base :: more => composeFrom base [] 0 more

end DocComments.Text
