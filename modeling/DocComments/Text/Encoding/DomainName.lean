import DocComments.Text.Encoding.DomainName.Classes
import DocComments.Text.Encoding.DomainName.Folding
import DocComments.Text.Encoding.Punycode
import DocComments.Text.Normal

/-!
# Domain names

A domain name is labels with points between them, all of it in ASCII.  A label that begins with
`xn--` stands for one with other characters, which it holds in Punycode.  Before a label is
written so it is prepared (`prepare`): case and style are folded away, and some characters are
refused.  A label is only good if its text, prepared and written, is that label again
(`readLabel`).
-/

namespace DocComments.Text.DomainName

/-- What begins a label that holds Punycode. -/
def mark : List Char := ['x', 'n', '-', '-']

/-- What a code point becomes in a label. -/
def fold (code : Nat) : List Nat :=
  if ignored.containsCode code then []
  else
    match foldings.word? code with
    | some chars => chars.map Char.toNat
    | none => [code]

/-- **A label as it is to be written**, or the rule that it breaks: there are signs that no label
may have, and one with a sign of a script written from right to left has none of the other
direction and begins and ends with such a sign. -/
def prepare (label : List Nat) : Except Irregularity (List Nat) :=
  let label := composed (label.flatMap fold)
  match label.find? prohibited.containsCode with
  | some code => .error (.prohibited (.ofCode code))
  | none =>
      if !label.any rightToLeft.containsCode then .ok label
      else if label.any leftToRight.containsCode then .error .bothDirections
      else if (label.head?.all rightToLeft.containsCode) &&
          label.getLast?.all rightToLeft.containsCode then .ok label
      else .error .strayDirection

/-- The label, if it is not empty nor too long. -/
def sized (label : List Char) : Except Irregularity (List Char) :=
  if label.length = 0 ∨ 63 < label.length then .error .labelLength else .ok label

/-- The characters, if all are of ASCII. -/
def ascii? (label : List Nat) : Option (List Char) :=
  if label.all (· < 0x80) then some (label.map Char.ofNat) else none

/-- **How a label is written** in ASCII. -/
def writeLabel (label : List Nat) : Except Irregularity (List Char) :=
  match ascii? label with
  | some chars => sized chars
  | none => do
      let label ← prepare label
      match ascii? label with
      | some chars => sized chars
      | none =>
          if mark.isPrefixOf (label.map Sign.charOfCode) then .error .marked
          else sized (mark ++ writePunycode label)

/-- A fault in the Punycode of a label. -/
def labelFault : DecodeFault → DecodeFault
  | .irregular rule => .irregular (.inLabel rule)
  | f => f

/-- **The text of a label.** -/
def readLabel (label : List Char) : Decoded :=
  if mark.isPrefixOf label then do
    let text ←
      (readPunycode ((label.drop mark.length).map fun c => UInt8.ofNat c.toNat)).mapError labelFault
    let written ← (writeLabel text).mapError .irregular
    if label.map Char.toLower = written then pure (text.map Sign.charOfCode)
    else .error (.irregular (.notCanonical (String.ofList label) (String.ofList written)))
  else .ok label

end DocComments.Text.DomainName

namespace DocComments.Text

/-- **The text of bytes that are a domain name.** -/
def decodeDomain (bytes : List UInt8) : Decoded := do
  let text ← decodeAscii bytes
  let labels ← (text.splitOn '.').mapM DomainName.readLabel
  pure (['.'].intercalate labels)

end DocComments.Text
