import DocComments.Text.Encoding.CharacterSet.Page932
import DocComments.Text.Encoding.CharacterSet.JisX0208
import DocComments.Text.Encoding.CharacterSet.JisX0212
import DocComments.Text.Encoding.CharacterSet.JisX0213
import DocComments.Text.Encoding.Multibyte

/-!
# Japanese text

Shift JIS folds two rows of a character set under each first byte, so that 188 second bytes
follow it (`shiftNumber?`), and leaves single bytes to the half-width katakana.  EUC sets the
upper bit of both bytes of a cell and has prefixes for the half-width katakana and for a second
plane (`eucPiece`).

Of JIS X 0213 there are two editions; the later one added ten kanji.
-/

namespace DocComments.Text

/-! ### Character sets -/

/-- The editions of JIS X 0213. -/
inductive JisEdition where
  | first
  | second
  deriving DecidableEq, Repr

/-- The cells of JIS X 0213 that the second edition filled. -/
def laterKanji : List Nat := [1222, 1409, 4375, 4417, 7808, 8831, 8832, 8833, 8834, 8835]

/-- The cells of JIS X 0213 that hold two characters: a letter and a mark, or two tone marks. -/
def jisSequences : List (Nat × List Char) :=
  let marked (first : Nat) (letters : String) (mark : Char) : List (Nat × List Char) :=
    letters.toList.zipIdx.map fun (letter, n) => (first + n, [letter, mark])
  let accented (first : Nat) (letters : List Char) : List (Nat × List Char) :=
    letters.zipIdx.flatMap fun (letter, n) =>
      [(first + 2 * n, [letter, '\u0300']), (first + 2 * n + 1, [letter, '\u0301'])]
  marked 368 "かきくけこ" '\u309a' ++ marked 462 "カキクケコセツト" '\u309a' ++
    marked 557 "ㇷ" '\u309a' ++ marked 975 "æ" '\u0300' ++ accented 979 ['ɔ', 'ʌ', 'ə', 'ɚ'] ++
    [(1008, ['˩', '˥']), (1009, ['˥', '˩'])]

/-- A cell of the first plane of JIS X 0213. -/
def jisFirstPlane (edition : JisEdition) (number : Nat) : Meaning :=
  if edition = .first ∧ number ∈ laterKanji then .error 2
  else
    match CharTable.jisX0208.char? number <|> CharTable.jisX0213First.char? number with
    | some c => .ok [c]
    | none =>
        match jisSequences.lookup number with
        | some chars => .ok chars
        | none => .error 1

/-- A cell of the second plane of JIS X 0213.  One kanji has another form in the first edition
outside ISO 2022. -/
def jisSecondPlane (edition : JisEdition) (number : Nat) : Meaning :=
  if edition = .first ∧ number = 8674 then .ok ['鬝']
  else .ofChar? (CharTable.jisX0213Second.char? number)

/-- A half-width katakana. -/
def halfKatakana? (b : Nat) : Option Char :=
  if 0xA1 ≤ b ∧ b ≤ 0xDF then some (Char.ofNat (0xFEC0 + b)) else none

/-- A character of the Japanese edition of ISO 646, which has a yen sign for the backslash and
an overline for the tilde. -/
def jisRoman? (b : Nat) : Option Char :=
  if b = 0x5C then some '¥'
  else if b = 0x7E then some '‾'
  else asciiChar? b

/-! ### Shift JIS -/

/-- The number of the cell that a pair of bytes stands for, in a grid of 94 cells a row. -/
def shiftNumber? (first second : Nat) : Option Nat :=
  if second < 0x40 ∨ second = 0x7F ∨ 0xFC < second then none
  else
    let rows := if first < 0xE0 then first - 0x81 else first - 0xC1
    some (rows * 188 + (if second < 0x80 then second - 0x40 else second - 0x41))

/-- The meaning of the cell that a pair of bytes stands for. -/
def shiftPair (meaning : Nat → Meaning) (first second : Nat) : Meaning :=
  match shiftNumber? first second with
  | some number => meaning number
  | none => .error 1

/-- Shift JIS. -/
def shiftJisPiece : Unit → UInt8 → List UInt8 → Piece Unit :=
  pairPiece (fun b => asciiChar? b <|> halfKatakana? b)
    (fun b => 0x81 ≤ b ∧ b ≤ 0x9F ∨ 0xE0 ≤ b ∧ b ≤ 0xEA)
    (shiftPair fun number => .ofChar? (CharTable.jisX0208.char? number))

/-- Shift JIS as code page 932 has it: with more rows, with rows for private use, and with a
meaning for single bytes that are nothing elsewhere. -/
def shift932Piece : Unit → UInt8 → List UInt8 → Piece Unit :=
  pairPiece
    (fun b =>
      if b ≤ 0x80 then some (Char.ofNat b)
      else if b = 0xA0 then some '\uf8f0'
      else if 0xFD ≤ b then some (Char.ofNat (0xF8F1 + (b - 0xFD)))
      else halfKatakana? b)
    (fun _ => true)
    (shiftPair fun number =>
      if 94 * 94 ≤ number ∧ number < 114 * 94 then .ok [Char.ofNat (0xE000 + (number - 94 * 94))]
      else .ofChar? (CharTable.page932.char? number <|> CharTable.jisX0208.char? number))

/-- The number in the second plane of a cell that Shift JIS numbers behind the first plane.  Only
the rows 1, 3 to 5, 8, 12 to 15 and 78 to 94 of that plane are there. -/
def secondPlaneNumber (number : Nat) : Nat :=
  let row := number / 94 - 94
  let planeRow := [0, 7, 2, 3, 4, 11, 12, 13, 14][row]?.getD (row + 68)
  planeRow * 94 + number % 94

/-- Shift JIS with the characters of JIS X 0213. -/
def shift0213Piece (edition : JisEdition) : Unit → UInt8 → List UInt8 → Piece Unit :=
  pairPiece (fun b => jisRoman? b <|> halfKatakana? b)
    (fun b => 0x81 ≤ b ∧ b ≤ 0x9F ∨ 0xE0 ≤ b ∧ b ≤ 0xFC)
    (shiftPair fun number =>
      if number = 31 then .ok ['\\']
      else if number < 94 * 94 then jisFirstPlane edition number
      else jisSecondPlane edition (secondPlaneNumber number))

/-! ### EUC -/

/-- The piece of an encoding in which a pair of upper bytes is a cell of a first plane, a pair
behind the byte 0x8F is one of a second plane, and a byte behind 0x8E is a half-width
katakana. -/
def eucPiece (firstPlane secondPlane : Nat → Meaning) (_ : Unit) (b : UInt8)
    (more : List UInt8) : Piece Unit :=
  let cell (plane : Nat → Meaning) (row place : UInt8) : Meaning :=
    match gridNumber? (row.toNat - 0x80) (place.toNat - 0x80) with
    | some number => plane number
    | none => .error 1
  if b < 0x80 then .text [Char.ofNat b.toNat] 0 ()
  else if b = 0x8E then
    match more with
    | [] => .incomplete
    | second :: _ => (Meaning.ofChar? (halfKatakana? second.toNat)).piece 1 ()
  else if b = 0x8F then
    match more with
    | row :: place :: _ => (cell secondPlane row place).piece 2 ()
    | _ => .incomplete
  else
    match more with
    | [] => .incomplete
    | place :: _ => (cell firstPlane b place).piece 1 ()

/-- EUC with JIS X 0208 and JIS X 0212. -/
def eucJpPiece : Unit → UInt8 → List UInt8 → Piece Unit :=
  eucPiece (fun number => .ofChar? (CharTable.jisX0208.char? number))
    (fun number => .ofChar? (CharTable.jisX0212.char? number))

/-- EUC with JIS X 0213 and, where its second plane is free, JIS X 0212. -/
def euc0213Piece (edition : JisEdition) : Unit → UInt8 → List UInt8 → Piece Unit :=
  eucPiece (fun number => if number = 111 then .ok ['～'] else jisFirstPlane edition number)
    (fun number =>
      match jisSecondPlane edition number with
      | .ok chars => .ok chars
      | .error _ => .ofChar? (CharTable.jisX0212.char? number))

end DocComments.Text
