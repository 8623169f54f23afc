import DocComments.Text.Encoding.Chinese
import DocComments.Text.Encoding.CodePage.Iso
import DocComments.Text.Encoding.Japanese
import DocComments.Text.Encoding.Korean

/-!
# ISO 2022

Text in seven bits, in which escape sequences tell the character sets of the bytes that follow.
Up to three sets are designated at a time: the set in use, the one that a shift puts into its
place, and one from which a single character can be taken.  The versions differ in the sets that
they know and in which of the shifts they have.
-/

namespace DocComments.Text.Iso2022

/-! ### Sets and versions -/

/-- **A character set** that can be designated. -/
inductive CharacterSet where
  | ascii
  | latin1
  | greek
  | jisRoman
  | halfKatakana
  | jisX0208
  | jisX0212
  | jisX0213First (edition : JisEdition)
  | jisX0213Second
  | ksX1001
  | gb2312
  deriving DecidableEq, Repr

namespace CharacterSet

/-- How many bytes a character takes. -/
def width : CharacterSet → Nat
  | ascii | latin1 | greek | jisRoman | halfKatakana => 1
  | _ => 2

/-- A character of one byte.  The upper halves of Latin-1 and Greek are out of reach here. -/
def single? : CharacterSet → Nat → Option Char
  | ascii, b => asciiChar? b
  | jisRoman, b => jisRoman? b
  | halfKatakana, b => halfKatakana? (b + 0x80)
  | _, _ => none

/-- What a cell stands for. -/
def cell : CharacterSet → Nat → Option (List Char)
  | jisX0208, number => (CharTable.jisX0208.char? number).map ([·])
  | jisX0212, number => (CharTable.jisX0212.char? number).map ([·])
  | jisX0213First edition, number => (jisFirstPlane edition number).toOption
  | jisX0213Second, number => (CharTable.jisX0213Second.char? number).map ([·])
  | ksX1001, number => (CharTable.ksX1001.char? number).map ([·])
  | gb2312, number => (CharTable.gb2312.char? number).map ([·])
  | _, _ => none

/-- The bytes that end an escape sequence for a set. -/
def final : CharacterSet → List UInt8
  | ascii => [0x42]
  | latin1 => [0x41]
  | greek => [0x46]
  | jisRoman => [0x4A]
  | halfKatakana => [0x49]
  | jisX0208 => [0x42, 0x40]
  | jisX0212 => [0x44]
  | jisX0213First .first => [0x4F]
  | jisX0213First .second => [0x51]
  | jisX0213Second => [0x50]
  | ksX1001 => [0x43]
  | gb2312 => [0x41]

end CharacterSet

/-- **A version of ISO 2022.** -/
inductive Version where
  | jp
  | jp1
  | jp2
  | jp3
  | jp2004
  | jpExt
  | kr
  deriving DecidableEq, Repr

namespace Version

/-- The sets of a version beside ASCII. -/
def sets : Version → List CharacterSet
  | jp => [.jisX0208, .jisRoman]
  | jp1 => [.jisX0208, .jisX0212, .jisRoman]
  | jp2 => [.jisX0208, .jisX0212, .ksX1001, .gb2312, .jisRoman, .latin1, .greek]
  | jp3 => [.jisX0208, .jisX0213First .first, .jisX0213Second]
  | jp2004 => [.jisX0208, .jisX0213First .second, .jisX0213Second]
  | jpExt => [.jisX0208, .jisX0212, .jisRoman, .halfKatakana]
  | kr => [.ksX1001]

/-- The older edition of JIS X 0208 is known by its own escape sequence. -/
def knowsOlder : Version → Bool
  | jp | jp1 | jp2 | jpExt => true
  | _ => false

/-- The set whose escape sequence ends with a given byte. -/
def set? (v : Version) (width : Nat) (final : UInt8) : Option CharacterSet :=
  (.ascii :: v.sets).find? fun s =>
    s.width = width && s.final.contains final &&
      (v.knowsOlder || s ≠ .jisX0208 || final ≠ 0x40)

/-- Bytes can be shifted to the second set. -/
def hasShift (v : Version) : Bool := v = .kr

/-- A single character can be taken from the third set. -/
def hasSingleShift (v : Version) : Bool := v = .jp2

/-- Two bytes that announce a revised set can come before its escape sequence. -/
def hasRevisions (v : Version) : Bool := v ≠ .kr

end Version

/-! ### Reading -/

/-- **What holds at a place.** -/
structure State where
  /-- The set in use. -/
  first : CharacterSet := .ascii
  /-- The set that a shift puts into its place. -/
  second : CharacterSet := .ascii
  /-- The set of single characters. -/
  third : CharacterSet := .ascii
  /-- Bytes are shifted. -/
  shifted : Bool := false
  /-- The place is within an escape sequence that means nothing here and is kept. -/
  escaping : Bool := false
  deriving DecidableEq, Repr

/-- The byte ends an escape sequence. -/
def isFinal (b : UInt8) : Bool := 0x40 ≤ b ∧ b ≤ 0x5A

/-- What is known of the end of an escape sequence. -/
inductive Ending where
  /-- It has this many bytes. -/
  | length (n : Nat)
  /-- The bytes break off before it. -/
  | incomplete
  /-- There is none as far as an escape sequence can reach. -/
  | missing

/-- The end of the escape sequence whose bytes from place `n` on are given; `left` more of them
can be part of it. -/
def ending (v : Version) (n left : Nat) (bytes : List UInt8) : Ending :=
  match left, bytes with
  | 0, _ => .missing
  | _, [] => .incomplete
  | left + 1, b :: more =>
      if isFinal b then .length (n + 1)
      else if v.hasRevisions && b = 0x26 && more.head? = some 0x40 then
        ending v (n + 3) (left - 2) (more.drop 2)
      else ending v (n + 1) left more
termination_by left

/-- What an escape sequence designates, given its bytes behind the escape: the state then. -/
def designate? (v : Version) (state : State) : List UInt8 → Option State
  | [0x24, final] => (v.set? 2 final).map fun s => { state with first := s }
  | [0x28, final] => (v.set? 1 final).map fun s => { state with first := s }
  | [0x29, final] => (v.set? 1 final).map fun s => { state with second := s }
  | [0x2E, final] =>
      if v.hasSingleShift then (v.set? 1 final).map fun s => { state with third := s } else none
  | [0x24, 0x28, final] => (v.set? 2 final).map fun s => { state with first := s }
  | [0x24, 0x29, final] => (v.set? 2 final).map fun s => { state with second := s }
  | [_, _, 0x1B, 0x24, 0x42] =>
      if v.hasRevisions then some { state with first := .jisX0208 } else none
  | _ => none

/-- A character of the Greek set in its first edition, which is without three signs of the
page. -/
def greek? (b : Nat) : Option Char :=
  if 0x80 ≤ b then some (Char.ofNat (b - 0x80))
  else if b ∈ [0x24, 0x25, 0x2A] then none
  else CodePage.iso88597.chars[b + 0x80]?.filter (· ≠ Sign.replacement)

/-- A character taken from the third set. -/
def singleShift (state : State) (b : Nat) : Piece State :=
  let piece : Option Char → Piece State
    | some c => .text [c] 2 state
    | none => .illegal 3
  match state.third with
  | .ascii => piece (asciiChar? b)
  | .latin1 => piece (if b < 0x80 then some (Char.ofNat (b + 0x80)) else none)
  | .greek => piece (greek? b)
  | _ => .unforeseen

/-- The piece behind an escape. -/
def escapePiece (v : Version) (state : State) (more : List UInt8) : Piece State :=
  match more with
  | [] => .incomplete
  | second :: _ =>
      if second ∈ [0x28, 0x29, 0x24, 0x2E, 0x26] then
        match ending v 1 15 more with
        | .incomplete => .incomplete
        | .missing => .illegal 1
        | .length n =>
            match designate? v state (more.take (n - 1)) with
            | some state => .text [] (n - 1) state
            | none => .illegal n
      else if v.hasSingleShift && second = 0x4E then
        match more with
        | _ :: b :: _ => singleShift state b.toNat
        | _ => .incomplete
      else .text ['\x1b'] 0 { state with escaping := true }

/-- **The piece at a place.** -/
def piece (v : Version) (state : State) (b : UInt8) (more : List UInt8) : Piece State :=
  let plain := Piece.text [Char.ofNat b.toNat] 0
  if state.escaping then plain { state with escaping := !isFinal b }
  else if b = 0x1B then escapePiece v state more
  else if v.hasShift && (b = 0x0E || b = 0x0F) then .text [] 0 { state with shifted := b = 0x0E }
  else if b = 0x0A then plain { state with shifted := false }
  else if b < 0x20 then plain state
  else if 0x80 ≤ b then .illegal 1
  else
    let set := if state.shifted then state.second else state.first
    if set.width = 1 then
      match set.single? b.toNat with
      | some c => .text [c] 0 state
      | none => .illegal 1
    else
      match more with
      | [] => .incomplete
      | place :: _ =>
          match (gridNumber? b.toNat place.toNat).bind set.cell with
          | some chars => .text chars 1 state
          | none => .illegal 2

end DocComments.Text.Iso2022
