import DocComments.Text.Hex
import DocComments.Text.Quoted

/-!
# Faults in bytes

Bytes need not be text in an encoding.  Most decoders then say which bytes they cannot read
and why; some only say which rule is broken (`Irregularity`).
-/

namespace DocComments.Text

/-- **A rule of an encoding that is broken**, with no bytes to point at. -/
inductive Irregularity where
  /-- There is no byte-order mark where there has to be one; `family` is the encoding. -/
  | unmarked (family : String)
  /-- The encoding has no text at all. -/
  | noText
  /-- A number breaks off. -/
  | incompleteNumber
  /-- A character is no digit. -/
  | notDigit (c : Char)
  /-- A number is no code point. -/
  | notCodePoint (number : Nat)
  /-- A label is empty or too long. -/
  | labelLength
  /-- The Punycode of a label breaks a rule. -/
  | inLabel (rule : Irregularity)
  /-- A label has a sign that none may have. -/
  | prohibited (s : Sign)
  /-- A label has characters of scripts of both directions. -/
  | bothDirections
  /-- A label with characters of a script written from right to left has another at an end. -/
  | strayDirection
  /-- The text of a label looks like a label that stands for another. -/
  | marked
  /-- A label is not how its text is written. -/
  | notCanonical (label text : String)
  deriving DecidableEq, Repr

/-- The wording of a broken rule. -/
def Irregularity.message : Irregularity → String
  | unmarked family => family ++ " stream does not start with BOM"
  | noText => "undefined encoding"
  | incompleteNumber => "incomplete punicode string"
  | notDigit c => s!"Invalid extended code point '{c}'"
  | notCodePoint number => "Invalid character U+" ++ String.ofList (Nat.toDigits 16 number)
  | labelLength => "label empty or too long"
  | inLabel rule => "decoding with 'punycode' codec failed (UnicodeError: " ++ rule.message ++ ")"
  | prohibited s => "Invalid character " ++ (LooseString.mk [s]).quoted
  | bothDirections => "Violation of BIDI requirement 2"
  | strayDirection => "Violation of BIDI requirement 3"
  | marked => "Label starts with ACE prefix"
  | notCanonical label text =>
      s!"('IDNA does not round-trip', b{quoted label}, b{quoted text})"

/-- **Bytes that are no text** in an encoding. -/
inductive DecodeFault where
  /-- The bytes from `start` to before `stop`, the first of which is `byte`, cannot be read. -/
  | undecodable (codec : String) (byte : UInt8) (start stop : Nat) (reason : String)
  /-- The bytes break a rule as a whole. -/
  | irregular (rule : Irregularity)
  /-- The bytes ask for something that the encoding does not define. -/
  | unforeseen
  deriving DecidableEq, Repr

/-- The wording of a fault. -/
def DecodeFault.message : DecodeFault → String
  | undecodable codec byte start stop reason =>
      if stop = start + 1 then
        let code := String.ofList (hexDigits byte.toNat 2)
        s!"'{codec}' codec can't decode byte 0x{code} in position {start}: {reason}"
      else s!"'{codec}' codec can't decode bytes in position {start}-{stop - 1}: {reason}"
  | irregular rule => rule.message
  | unforeseen => "internal codec error"

/-- What a decoder answers with. -/
abbrev Decoded := Except DecodeFault (List Char)

/-- What a decoder answers with whose text can have halves of pairs that stand alone. -/
abbrev LooseDecoded := Except DecodeFault (List Sign)

end DocComments.Text
