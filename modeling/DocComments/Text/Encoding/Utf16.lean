import DocComments.Text.Encoding.ByteOrder
import DocComments.Text.Encoding.Fault

/-!
# UTF-16

Two bytes are a unit, and a character is one unit or a pair of them.
-/

namespace DocComments.Text

/-- **The text of bytes in UTF-16**; `offset` bytes came before them. -/
def decodeUtf16 (order : ByteOrder) : Nat → List UInt8 → Decoded
  | _, [] => .ok []
  | offset, [b] => .error (fault b offset (offset + 1) "truncated data")
  | offset, a :: b :: more =>
      let first := order.number [a, b]
      if first < 0xD800 ∨ 0xE000 ≤ first then
        (decodeUtf16 order (offset + 2) more).map (Char.ofNat first :: ·)
      else if 0xDC00 ≤ first then .error (fault a offset (offset + 2) "illegal encoding")
      else
        match more with
        | c :: d :: rest =>
            let second := order.number [c, d]
            if 0xDC00 ≤ second ∧ second < 0xE000 then
              (decodeUtf16 order (offset + 4) rest).map
                (Char.ofNat (0x10000 + (first - 0xD800) * 0x400 + (second - 0xDC00)) :: ·)
            else .error (fault a offset (offset + 2) "illegal UTF-16 surrogate")
        | more => .error (fault a offset (offset + 2 + more.length) "unexpected end of data")
where
  /-- A fault of this encoding. -/
  fault (byte : UInt8) (start stop : Nat) (reason : String) : DecodeFault :=
    .undecodable ("utf-16-" ++ order.ending) byte start stop reason

/-- The text of bytes in UTF-16 that begin with a byte-order mark.  Bytes without one are
read all the same, the low byte of each unit first, for the faults they may have. -/
def decodeUtf16Marked (bytes : List UInt8) : Decoded :=
  match bytes with
  | 0xFF :: 0xFE :: more => decodeUtf16 .little 2 more
  | 0xFE :: 0xFF :: more => decodeUtf16 .big 2 more
  | bytes => do
      let text ← decodeUtf16 .little 0 bytes
      if bytes.isEmpty then pure text else .error (.irregular (.unmarked "UTF-16"))

end DocComments.Text
