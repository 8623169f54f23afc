import DocComments.Text.Encoding.CharacterSet.Big5
import DocComments.Text.Encoding.CharacterSet.Gb2312
import DocComments.Text.Encoding.CharacterSet.Gbk
import DocComments.Text.Encoding.CharacterSet.HongKong
import DocComments.Text.Encoding.Multibyte

/-!
# Chinese text

GB 2312 is a grid of simplified characters.  GBK puts all other ideographs of the first block of
Unicode into the pairs that GB 2312 leaves free, in order; GB 18030 adds pairs for private use
and has four bytes for every code point that has no pair (`fourBytes?`).  HZ writes GB 2312 in
seven bits between escapes (`hzPiece`).

Big5 is a set of traditional characters in pairs of bytes of its own.
-/

namespace DocComments.Text

/-! ### GB 2312 and GBK -/

/-- GB 2312 with the upper bit of both bytes set. -/
def gb2312Piece : Unit → UInt8 → List UInt8 → Piece Unit :=
  doublePiece fun first second =>
    .ofChar? (CharTable.gb2312.cell? (first - 0x80) (second - 0x80))

/-- The place of a second byte among the 190 of GBK. -/
def gbkPlace? (second : Nat) : Option Nat :=
  if 0x40 ≤ second ∧ second ≤ 0x7E then some (second - 0x40)
  else if 0x80 ≤ second ∧ second ≤ 0xFE then some (second - 0x41)
  else none

/-- The ideographs that GBK adds: those of the first block that GB 2312 does not have, and some
for compatibility. -/
def gbkIdeographs : Array Nat :=
  (CharTable.gb2312.unlisted 0x4E00 20902 ++
    [0xF92C, 0xF979, 0xF995, 0xF9E7, 0xF9F1, 0xFA0C, 0xFA0D, 0xFA0E, 0xFA0F, 0xFA11, 0xFA13,
      0xFA14, 0xFA18, 0xFA1F, 0xFA20, 0xFA21, 0xFA23, 0xFA24, 0xFA27, 0xFA28, 0xFA29]).toArray

/-- The number of a pair among those for the ideographs that GBK adds: all pairs with a first
byte below 0xA1, and those with one from 0xAA on whose second byte is below 0xA1. -/
def gbkIdeographNumber? (first place : Nat) : Option Nat :=
  if 0x81 ≤ first ∧ first ≤ 0xA0 then some ((first - 0x81) * 190 + place)
  else if 0xAA ≤ first ∧ first ≤ 0xFE ∧ place < 96 then
    some (32 * 190 + (first - 0xAA) * 96 + place)
  else none

/-- The character of a pair in GBK. -/
def gbkChar? (first second : Nat) : Option Char := do
  let place ← gbkPlace? second
  if first < 0x81 then none
  else
    CharTable.gbkSigns.char? ((first - 0x81) * 190 + place) <|>
      CharTable.gb2312.cell? (first - 0x80) (second - 0x80) <|>
      ((gbkIdeographNumber? first place).bind fun number => gbkIdeographs[number]?).map Char.ofNat

/-- GBK. -/
def gbkPiece : Unit → UInt8 → List UInt8 → Piece Unit :=
  doublePiece fun first second => .ofChar? (gbkChar? first second)

/-! ### GB 18030 -/

/-- The private character of a pair that GBK leaves free. -/
def gbPrivate? (first place : Nat) : Option Char :=
  if 0xAA ≤ first ∧ first ≤ 0xAF ∧ 96 ≤ place then
    some (Char.ofNat (0xE000 + (first - 0xAA) * 94 + (place - 96)))
  else if 0xF8 ≤ first ∧ first ≤ 0xFE ∧ 96 ≤ place then
    some (Char.ofNat (0xE234 + (first - 0xF8) * 94 + (place - 96)))
  else if 0xA1 ≤ first ∧ first ≤ 0xA7 ∧ place < 96 then
    some (Char.ofNat (0xE4C6 + (first - 0xA1) * 96 + place))
  else none

/-- The character of a pair in GB 18030. -/
def gb18030Char? (first second : Nat) : Option Char :=
  gbkChar? first second <|> do
    let place ← gbkPlace? second
    if first < 0x81 then none
    else CharTable.gb18030Signs.char? ((first - 0x81) * 190 + place) <|> gbPrivate? first place

/-- All characters that have pairs in GB 18030. -/
def gb18030Pairs : CharTable where
  chars :=
    ((List.range 126).flatMap fun first =>
      (List.range 191).filterMap fun second => gb18030Char? (first + 0x81) (second + 0x40)).toArray

/-- The code points of the first plane of Unicode that have no pair in GB 18030, in order. -/
def gb18030Singles : Array Nat :=
  (gb18030Pairs.unlisted 0x80 0xFF80).filter (fun n => n < 0xD800 ∨ 0xE000 ≤ n) |>.toArray

/-- The character of four bytes, each counted from the least that it can be. -/
def fourBytes? (a b c d : Nat) : Option Char :=
  let number := (a * 10 + b) * 1260 + c * 10 + d
  if a < 4 then gb18030Singles[number]?.map Char.ofNat
  else if 15 ≤ a ∧ number - 15 * 12600 < 0x100000 then
    some (Char.ofNat (0x10000 + (number - 15 * 12600)))
  else none

/-- GB 18030. -/
def gb18030Piece (_ : Unit) (b : UInt8) (more : List UInt8) : Piece Unit :=
  if b < 0x80 then .text [Char.ofNat b.toNat] 0 ()
  else
    match more with
    | [] => .incomplete
    | second :: rest =>
        if 0x30 ≤ second ∧ second ≤ 0x39 then
          match rest with
          | third :: fourth :: _ =>
              if b < 0x81 ∨ 0xFE < b ∨ third < 0x81 ∨ 0xFE < third ∨ fourth < 0x30 ∨
                  0x39 < fourth then .illegal 1
              else
                (Meaning.ofChar?
                  (fourBytes? (b.toNat - 0x81) (second.toNat - 0x30) (third.toNat - 0x81)
                    (fourth.toNat - 0x30))).piece 3 ()
          | _ => .incomplete
        else (Meaning.ofChar? (gb18030Char? b.toNat second.toNat)).piece 1 ()

/-! ### HZ -/

/-- HZ; the state tells whether bytes are pairs of GB 2312. -/
def hzPiece (inPairs : Bool) (b : UInt8) (more : List UInt8) : Piece Bool :=
  if b = 0x7E then
    match more with
    | [] => .incomplete
    | second :: _ =>
        if inPairs then if second = 0x7D then .text [] 1 false else .illegal 1
        else if second = 0x7E then .text ['~'] 1 false
        else if second = 0x7B then .text [] 1 true
        else if second = 0x0A then .text [] 1 false
        else .illegal 1
  else if 0x80 ≤ b then .illegal 1
  else if inPairs then
    match more with
    | [] => .incomplete
    | second :: _ =>
        (Meaning.ofChar? (CharTable.gb2312.cell? b.toNat second.toNat)).piece 1 true
  else .text [Char.ofNat b.toNat] 0 false

/-! ### Big5 -/

/-- The number of a pair of bytes of Big5. -/
def big5Number? (first second : Nat) : Option Nat :=
  if first < 0x81 then none
  else if 0x40 ≤ second ∧ second ≤ 0x7E then some ((first - 0x81) * 157 + (second - 0x40))
  else if 0xA1 ≤ second ∧ second ≤ 0xFE then some ((first - 0x81) * 157 + (second - 0x62))
  else none

/-- Big5. -/
def big5Piece : Unit → UInt8 → List UInt8 → Piece Unit :=
  doublePiece fun first second =>
    .ofChar? ((big5Number? first second).bind CharTable.big5.char?)

/-- Big5 as code page 950 has it. -/
def big5WindowsPiece : Unit → UInt8 → List UInt8 → Piece Unit :=
  doublePiece fun first second =>
    .ofChar? ((big5Number? first second).bind fun number =>
      CharTable.big5Windows.char? number <|> CharTable.big5.char? number)

/-- The pairs of the Hong Kong supplement that are a letter and a mark. -/
def hongKongSequences : List ((Nat × Nat) × List Char) :=
  [((0x88, 0x62), ['Ê', '\u0304']), ((0x88, 0x64), ['Ê', '\u030c']),
    ((0x88, 0xA3), ['ê', '\u0304']), ((0x88, 0xA5), ['ê', '\u030c'])]

/-- Big5 with the Hong Kong supplement, which takes the pairs from 0xC6A1 to before 0xC900 for
itself. -/
def big5HongKongPiece : Unit → UInt8 → List UInt8 → Piece Unit :=
  doublePiece fun first second =>
    let number? := big5Number? first second
    let isOwn : Bool := 0xC6A1 ≤ first * 256 + second ∧ first < 0xC9
    let basic? := if isOwn then none else number?.bind CharTable.big5.char?
    match basic? <|> number?.bind CharTable.hongKong.char?,
        hongKongSequences.lookup (first, second) with
    | some c, _ => .ok [c]
    | none, some chars => .ok chars
    | none, none => .error 1

end DocComments.Text
