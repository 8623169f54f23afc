import DocComments.Text.Encoding.Fault

/-!
# Characters of several bytes

In many encodings of East Asia a character takes one byte or several, and in some of them what
the bytes mean depends on shifts that came before.  A decoder says for each place what it finds
there (`Piece`), and `decodePieces` puts the pieces together.
-/

namespace DocComments.Text

/-- **What a decoder finds at a place.** -/
inductive Piece (State : Type) where
  /-- Some characters, which take `behind` bytes after the first; `state` holds behind them. -/
  | text (chars : List Char) (behind : Nat) (state : State)
  /-- Bytes that are nothing. -/
  | illegal (width : Nat)
  /-- The beginning of something that breaks off. -/
  | incomplete
  /-- Something that the encoding does not define. -/
  | unforeseen

/-- **The text of bytes** that are pieces as `piece` finds them; `offset` bytes came before. -/
def decodePieces {State : Type} (codec : String)
    (piece : State → UInt8 → List UInt8 → Piece State) (state : State) (offset : Nat) :
    List UInt8 → Decoded
  | [] => .ok []
  | b :: more =>
      match piece state b more with
      | .text chars behind state =>
          (decodePieces codec piece state (offset + 1 + behind) (more.drop behind)).map (chars ++ ·)
      | .illegal width =>
          .error (.undecodable codec b offset (offset + width) "illegal multibyte sequence")
      | .incomplete =>
          .error (.undecodable codec b offset (offset + 1 + more.length)
            "incomplete multibyte sequence")
      | .unforeseen => .error .unforeseen
termination_by bytes => bytes.length
decreasing_by simp only [List.length_drop, List.length_cons]; omega

/-- What some bytes stand for, or how many of them are nothing. -/
abbrev Meaning := Except Nat (List Char)

/-- One character, or a fault in the first byte alone. -/
def Meaning.ofChar? : Option Char → Meaning
  | some c => .ok [c]
  | none => .error 1

/-- The piece that has a meaning. -/
def Meaning.piece {State : Type} (behind : Nat) (state : State) : Meaning → Piece State
  | .ok chars => .text chars behind state
  | .error width => .illegal width

/-- An ASCII character. -/
def asciiChar? (b : Nat) : Option Char :=
  if b < 0x80 then some (Char.ofNat b) else none

/-- The piece of an encoding without shifts, in which a byte is a character by itself, the first
of a pair, or nothing. -/
def pairPiece (single? : Nat → Option Char) (isFirst : Nat → Bool) (pair : Nat → Nat → Meaning)
    (_ : Unit) (b : UInt8) (more : List UInt8) : Piece Unit :=
  match single? b.toNat with
  | some c => .text [c] 0 ()
  | none =>
      if isFirst b.toNat then
        match more with
        | [] => .incomplete
        | second :: _ => (pair b.toNat second.toNat).piece 1 ()
      else .illegal 1

/-- The piece of an encoding in which each byte that is not of ASCII begins a pair. -/
def doublePiece (pair : Nat → Nat → Meaning) : Unit → UInt8 → List UInt8 → Piece Unit :=
  pairPiece asciiChar? (fun _ => true) pair

end DocComments.Text
