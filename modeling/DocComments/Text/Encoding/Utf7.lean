import DocComments.Text.Encoding.Fault
import DocComments.Text.Loose

/-!
# UTF-7

Text of ASCII characters that stand for themselves and of shifted runs, which start with a
plus sign and hold UTF-16 in base 64, six bits a character.  A run ends at the first byte
outside base 64, which is dropped if it is a hyphen; a plus sign and a hyphen are a plus
sign.  The bits that are left over at the end of a run have to be zero and fewer than six.
-/

namespace DocComments.Text

/-- The value of a byte in base 64. -/
def base64Value? (b : UInt8) : Option Nat :=
  let n := b.toNat
  if 0x41 ≤ n ∧ n ≤ 0x5A then some (n - 0x41)
  else if 0x61 ≤ n ∧ n ≤ 0x7A then some (n - 0x61 + 26)
  else if 0x30 ≤ n ∧ n ≤ 0x39 then some (n - 0x30 + 52)
  else if n = 0x2B then some 62
  else if n = 0x2F then some 63
  else none

/-- **What has been read of a shifted run.** -/
structure ShiftedRun where
  /-- Where its plus sign stands. -/
  start : Nat
  /-- The value of the bits that are no unit yet. -/
  buffer : Nat := 0
  /-- How many bits these are. -/
  bits : Nat := 0
  /-- The first half of a pair, as a code point, whose second half has not come yet. -/
  high? : Option Nat := none

namespace ShiftedRun

/-- A first half whose second half does not come. -/
def loose (r : ShiftedRun) : List Sign :=
  r.high?.toList.map .ofCode

/-- The run with one more unit, and the signs that are complete by it. -/
def pushUnit (r : ShiftedRun) (unit : Nat) : List Sign × ShiftedRun :=
  let isLow : Bool := 0xDC00 ≤ unit ∧ unit < 0xE000
  match r.high?, isLow with
  | some high, true =>
      ([.ofCode (0x10000 + (high - 0xD800) * 0x400 + (unit - 0xDC00))],
        { r with high? := none })
  | _, _ =>
      if 0xD800 ≤ unit ∧ unit < 0xDC00 then (r.loose, { r with high? := some unit })
      else (r.loose ++ [.ofCode unit], { r with high? := none })

/-- The run with six more bits, and the signs that are complete by them. -/
def push (r : ShiftedRun) (value : Nat) : List Sign × ShiftedRun :=
  let buffer := r.buffer * 64 + value
  let bits := r.bits + 6
  if 16 ≤ bits then
    let scale := Nat.pow 2 (bits - 16)
    pushUnit { r with buffer := buffer % scale, bits := bits - 16 } (buffer / scale)
  else ([], { r with buffer := buffer, bits := bits })

end ShiftedRun

/-- **The text of bytes in UTF-7**; `offset` bytes came before them, the last of them in the
shifted run `run?` if there is one. -/
def decodeUtf7 (run? : Option ShiftedRun) (offset : Nat) (bytes : List UInt8) :
    LooseDecoded :=
  match run?, bytes with
  | none, [] => .ok []
  | some run, [] =>
      if run.high?.isSome ∨ 6 ≤ run.bits ∨ run.buffer ≠ 0 then
        .error (fault 0x2B run.start offset "unterminated shift sequence")
      else .ok []
  | some run, b :: more =>
      match base64Value? b with
      | some value =>
          let (text, run) := run.push value
          (decodeUtf7 (some run) (offset + 1) more).map (text ++ ·)
      | none =>
          if 6 ≤ run.bits then
            .error (fault 0x2B run.start (offset + 1) "partial character in shift sequence")
          else if run.buffer ≠ 0 then
            .error (fault 0x2B run.start (offset + 1) "non-zero padding bits in shift sequence")
          else if b = 0x2D then (decodeUtf7 none (offset + 1) more).map (run.loose ++ ·)
          else (decodeUtf7 none offset (b :: more)).map (run.loose ++ ·)
  | none, 0x2B :: 0x2D :: more => (decodeUtf7 none (offset + 2) more).map (.char '+' :: ·)
  | none, 0x2B :: more =>
      if more.head?.any (base64Value? · |>.isNone) then
        .error (fault 0x2B offset (offset + 2) "ill-formed sequence")
      else decodeUtf7 (some ⟨offset, 0, 0, none⟩) (offset + 1) more
  | none, b :: more =>
      if b < 0x80 then
        (decodeUtf7 none (offset + 1) more).map (.ofCode b.toNat :: ·)
      else .error (fault b offset (offset + 1) "unexpected special character")
termination_by 2 * bytes.length + (if run?.isSome then 1 else 0)
where
  /-- A fault of this encoding. -/
  fault (byte : UInt8) (start stop : Nat) (reason : String) : DecodeFault :=
    .undecodable "utf7" byte start stop reason

end DocComments.Text
