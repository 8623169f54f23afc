import DocComments.Text.Encoding.ByteOrder
import DocComments.Text.Encoding.Fault

/-!
# UTF-32

Four bytes are a character, namely its code point.
-/

namespace DocComments.Text

/-- **The text of bytes in UTF-32**; `offset` bytes came before them. -/
def decodeUtf32 (order : ByteOrder) : Nat → List UInt8 → Decoded
  | _, [] => .ok []
  | offset, a :: b :: c :: d :: more =>
      let code := order.number [a, b, c, d]
      if 0xD800 ≤ code ∧ code < 0xE000 then
        .error
          (fault a offset (offset + 4) "code point in surrogate code point range(0xd800, 0xe000)")
      else if 0x110000 ≤ code then
        .error (fault a offset (offset + 4) "code point not in range(0x110000)")
      else (decodeUtf32 order (offset + 4) more).map (Char.ofNat code :: ·)
  | offset, a :: more => .error (fault a offset (offset + 1 + more.length) "truncated data")
where
  /-- A fault of this encoding. -/
  fault (byte : UInt8) (start stop : Nat) (reason : String) : DecodeFault :=
    .undecodable ("utf-32-" ++ order.ending) byte start stop reason

/-- The text of bytes in UTF-32 that begin with a byte-order mark.  Bytes without one are
read all the same, the low byte of each character first, for the faults they may have. -/
def decodeUtf32Marked (bytes : List UInt8) : Decoded :=
  match bytes with
  | 0xFF :: 0xFE :: 0 :: 0 :: more => decodeUtf32 .little 4 more
  | 0 :: 0 :: 0xFE :: 0xFF :: more => decodeUtf32 .big 4 more
  | bytes => do
      let text ← decodeUtf32 .little 0 bytes
      if bytes.isEmpty then pure text else .error (.irregular (.unmarked "UTF-32"))

end DocComments.Text
