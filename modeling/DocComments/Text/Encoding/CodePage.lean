import DocComments.Text.Encoding.Fault

/-!
# Code pages

In a code page each byte is one character, or none.  A page is kept as the characters of the
128 lower and the 128 upper bytes, in order, with the replacement character U+FFFD where a
byte has no character; no page has that character itself.
-/

namespace DocComments.Text

/-- **A code page.** -/
structure CodePage where
  /-- Its name. -/
  name : String
  /-- Other names. -/
  aliases : List String
  /-- The characters of the bytes below 0x80. -/
  lower : String
  /-- The characters of the bytes from 0x80 on. -/
  upper : String
  deriving DecidableEq, Repr

namespace CodePage

/-- The characters of ASCII. -/
def asciiChars : String :=
  String.ofList ((List.range 0x80).map Char.ofNat)

/-- The characters of all bytes. -/
def chars (p : CodePage) : Array Char :=
  (p.lower.toList ++ p.upper.toList).toArray

end CodePage

/-- The text of bytes that are one character each, as far as `char?` knows them; `offset`
bytes came before them. -/
def decodeSingle (codec reason : String) (char? : Nat → Option Char) :
    Nat → List UInt8 → Decoded
  | _, [] => .ok []
  | offset, b :: more =>
      match char? b.toNat with
      | none => .error (.undecodable codec b offset (offset + 1) reason)
      | some c => (decodeSingle codec reason char? (offset + 1) more).map (c :: ·)

/-- The text of bytes in ASCII. -/
def decodeAscii (bytes : List UInt8) : Decoded :=
  decodeSingle "ascii" "ordinal not in range(128)"
    (fun b => if b < 0x80 then some (Char.ofNat b) else none) 0 bytes

/-- The text of bytes that are the first 256 code points. -/
def decodeLatin1 (bytes : List UInt8) : Decoded :=
  .ok (bytes.map fun b => Char.ofNat b.toNat)

/-- **The text of bytes in a code page.** -/
def CodePage.decode (p : CodePage) (bytes : List UInt8) : Decoded :=
  let chars := p.chars
  decodeSingle "charmap" "character maps to <undefined>"
    (fun b => chars[b]?.filter (· ≠ Sign.replacement)) 0 bytes

end DocComments.Text
