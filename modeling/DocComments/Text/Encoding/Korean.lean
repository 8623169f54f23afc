import DocComments.Text.Encoding.CharacterSet.KsX1001
import DocComments.Text.Encoding.Multibyte

/-!
# Korean text

A Hangul syllable is an initial, a medial and possibly a final letter.  KS X 1001 holds the
syllables in common use.  EUC spells the others with eight bytes (`spelledPiece`), code page 949
numbers them in the free pairs (`unifiedNumber?`), and Johab has five bits for each letter of any
syllable (`johabHangul?`).
-/

namespace DocComments.Text

/-! ### Hangul -/

/-- The initial letters. -/
def initials : List Char := "ㄱㄲㄴㄷㄸㄹㅁㅂㅃㅅㅆㅇㅈㅉㅊㅋㅌㅍㅎ".toList

/-- The medial letters. -/
def medials : List Char := "ㅏㅐㅑㅒㅓㅔㅕㅖㅗㅘㅙㅚㅛㅜㅝㅞㅟㅠㅡㅢㅣ".toList

/-- The final letters. -/
def finals : List Char := "ㄱㄲㄳㄴㄵㄶㄷㄹㄺㄻㄼㄽㄾㄿㅀㅁㅂㅄㅅㅆㅇㅈㅊㅋㅌㅍㅎ".toList

/-- The syllable of three letters by number; the final is numbered from one on, zero for none. -/
def syllable (initial medial final : Nat) : Char :=
  Char.ofNat (0xAC00 + (initial * 21 + medial) * 28 + final)

/-- The letter of a byte in the row of letters. -/
def jamo? (b : UInt8) : Option Char :=
  if 0xA1 ≤ b ∧ b ≤ 0xD3 then some (Char.ofNat (0x3131 + (b.toNat - 0xA1))) else none

/-! ### EUC -/

/-- A syllable spelled with four letters of two bytes each, the first of which is a filler, as is
the last if there is no final; `more` is what follows the very first byte. -/
def spelledPiece (more : List UInt8) : Piece Unit :=
  match more with
  | _ :: 0xA4 :: initial :: 0xA4 :: medial :: 0xA4 :: final :: _ =>
      let number? (letters : List Char) (b : UInt8) : Option Nat :=
        (jamo? b).bind fun letter => letters.idxOf? letter
      let final? := if final = 0xD4 then some 0 else (number? finals final).map (· + 1)
      match number? initials initial, number? medials medial, final? with
      | some i, some m, some f => .text [syllable i m f] 7 ()
      | _, _, _ => .illegal 1
  | more => if more.length < 7 then .incomplete else .illegal 1

/-- EUC with KS X 1001. -/
def eucKrPiece (_ : Unit) (b : UInt8) (more : List UInt8) : Piece Unit :=
  if b < 0x80 then .text [Char.ofNat b.toNat] 0 ()
  else
    match more with
    | [] => .incomplete
    | place :: _ =>
        if b = 0xA4 ∧ place = 0xD4 then spelledPiece more
        else
          (Meaning.ofChar?
            (CharTable.ksX1001.cell? (b.toNat - 0x80) (place.toNat - 0x80))).piece 1 ()

/-! ### Code page 949 -/

/-- The number of a pair of bytes that KS X 1001 leaves free, among all such pairs. -/
def unifiedNumber? (first second : Nat) : Option Nat :=
  let place? : Option Nat :=
    if 0x41 ≤ second ∧ second ≤ 0x5A then some (second - 0x41)
    else if 0x61 ≤ second ∧ second ≤ 0x7A then some (second - 0x61 + 26)
    else if 0x81 ≤ second ∧ second ≤ 0xFE then some (second - 0x81 + 52)
    else none
  place?.bind fun place =>
    if 0x81 ≤ first ∧ first ≤ 0xA0 then some ((first - 0x81) * 178 + place)
    else if 0xA1 ≤ first ∧ place < 84 then some (32 * 178 + (first - 0xA1) * 84 + place)
    else none

/-- The code points of the syllables that KS X 1001 does not have, in order. -/
def uncommonSyllables : Array Nat :=
  (CharTable.ksX1001.unlisted 0xAC00 11172).toArray

/-- Code page 949. -/
def korean949Piece : Unit → UInt8 → List UInt8 → Piece Unit :=
  doublePiece fun first second =>
    .ofChar?
      (CharTable.ksX1001.cell? (first - 0x80) (second - 0x80) <|>
        ((unifiedNumber? first second).bind fun number => uncommonSyllables[number]?).map
          Char.ofNat)

/-! ### Johab -/

/-- A letter in five bits: the letter with a given number, or the filler. -/
inductive JohabLetter where
  | letter (number : Nat)
  | filler

/-- An initial in five bits. -/
def johabInitial? (bits : Nat) : Option JohabLetter :=
  if bits = 1 then some .filler
  else if 2 ≤ bits ∧ bits ≤ 20 then some (.letter (bits - 2))
  else none

/-- A medial in five bits; of each eight values the first two are no letter. -/
def johabMedial? (bits : Nat) : Option JohabLetter :=
  if bits = 2 then some .filler
  else if 3 ≤ bits ∧ bits ≤ 7 then some (.letter (bits - 3))
  else if 10 ≤ bits ∧ bits ≤ 15 then some (.letter (bits - 5))
  else if 18 ≤ bits ∧ bits ≤ 23 then some (.letter (bits - 7))
  else if 26 ≤ bits ∧ bits ≤ 29 then some (.letter (bits - 9))
  else none

/-- A final in five bits, numbered from zero on. -/
def johabFinal? (bits : Nat) : Option JohabLetter :=
  if bits = 1 then some .filler
  else if 2 ≤ bits ∧ bits ≤ 17 then some (.letter (bits - 2))
  else if 19 ≤ bits ∧ bits ≤ 29 then some (.letter (bits - 3))
  else none

/-- A syllable, or a letter alone, in fifteen bits. -/
def johabHangul? (code : Nat) : Option Char := do
  let initial ← johabInitial? (code / 1024 % 32)
  let medial ← johabMedial? (code / 32 % 32)
  let final ← johabFinal? (code % 32)
  match initial, medial, final with
  | .letter i, .letter m, .letter f => some (syllable i m (f + 1))
  | .letter i, .letter m, .filler => some (syllable i m 0)
  | .letter i, .filler, .filler => initials[i]?
  | .filler, .letter m, .filler => medials[m]?
  | .filler, .filler, .letter f => finals[f]?
  | .filler, .filler, .filler => some '\u3000'
  | _, _, _ => none

/-- The signs and hanja of Johab, two rows of KS X 1001 under each first byte. -/
def johabSign? (first second : Nat) : Option Char :=
  if first < 0xD9 ∨ first = 0xDF ∨ 0xF9 < first ∨ second < 0x31 ∨ 0x80 ≤ second ∧ second < 0x91 ∨
      second % 0x80 = 0x7F ∨ first = 0xDA ∧ 0xA1 ≤ second ∧ second ≤ 0xD3 then none
  else
    let row := if first < 0xE0 then 2 * (first - 0xD9) else 2 * first - 0x197
    let place := if second < 0x91 then second - 0x31 else second - 0x43
    CharTable.ksX1001.char? (row * 94 + place)

/-- Johab. -/
def johabPiece : Unit → UInt8 → List UInt8 → Piece Unit :=
  doublePiece fun first second =>
    .ofChar?
      (if first < 0xD8 then johabHangul? (first * 256 + second) else johabSign? first second)

end DocComments.Text
