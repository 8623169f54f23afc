/-!
# Loose texts

A `String` holds characters.  Some formats can also name the code points U+D800 to U+DFFF,
which are halves of pairs and no characters; a JSON text can name one half alone.  A
`LooseString` holds both.

Every string is a loose string (`LooseString.ofString`), and a loose string without halves
is one string (`LooseString.toString?_ofString`).
-/

namespace DocComments.Text

/-- **A sign of a loose text**: a character, or a half of a pair that stands alone. -/
inductive Sign where
  | char (c : Char)
  | half (index : Fin 0x800)
  deriving DecidableEq, Repr

namespace Sign

/-- The code point of a sign. -/
def code : Sign → Nat
  | char c => c.toNat
  | half index => 0xD800 + index

/-- The sign with a given code point. -/
def ofCode (code : Nat) : Sign :=
  if h : 0xD800 ≤ code ∧ code < 0xE000 then half ⟨code - 0xD800, by omega⟩
  else char (Char.ofNat code)

/-- The character, if the sign is one. -/
def char? : Sign → Option Char
  | char c => some c
  | half _ => none

/-- The character that stands for a half that is to be one. -/
def replacement : Char := '\ufffd'

/-- The character with a given code point; the code point of a half is replaced. -/
def charOfCode (code : Nat) : Char :=
  (ofCode code).char?.getD replacement

@[simp] theorem ofCode_code (s : Sign) : ofCode s.code = s := by
  cases s with
  | char c =>
      have hc : c.toNat < 0xD800 ∨ 0xDFFF < c.toNat ∧ c.toNat < 0x110000 := c.valid
      have hn : ¬(0xD800 ≤ c.toNat ∧ c.toNat < 0xE000) := by omega
      simp [ofCode, code, hn]
  | half index =>
      have hi := index.isLt
      have hh : 0xD800 ≤ 0xD800 + index.val ∧ 0xD800 + index.val < 0xE000 := by omega
      simp [ofCode, code, hh]

@[simp] theorem charOfCode_toNat (c : Char) : charOfCode c.toNat = c := by
  have h : ofCode c.toNat = char c := ofCode_code (char c)
  simp [charOfCode, h, char?]

@[simp] theorem char?_char (c : Char) : (char c).char? = some c := rfl

@[simp] theorem char?_half (index : Fin 0x800) : (half index).char? = none := rfl

end Sign

/-- **A text in which halves of pairs can stand alone.** -/
structure LooseString where
  /-- The signs, in order. -/
  signs : List Sign
  deriving DecidableEq, Repr

namespace LooseString

/-- A string as a loose string. -/
def ofString (s : String) : LooseString := ⟨s.toList.map .char⟩

instance : Coe String LooseString := ⟨ofString⟩

instance : Inhabited LooseString := ⟨⟨[]⟩⟩

instance : Append LooseString := ⟨fun a b => ⟨a.signs ++ b.signs⟩⟩

/-- Several loose strings as one. -/
def join (parts : List LooseString) : LooseString := ⟨parts.flatMap signs⟩

/-- The string, if no half stands alone. -/
def toString? (s : LooseString) : Option String :=
  (s.signs.mapM Sign.char?).map String.ofList

/-- The loose string ends with the signs of another. -/
def endsWith (s ending : LooseString) : Bool :=
  ending.signs.isSuffixOf s.signs

theorem ofString_append (s t : String) : ofString (s ++ t) = ofString s ++ ofString t := by
  refine congrArg LooseString.mk ?_
  rw [String.toList_append, List.map_append]
  rfl

theorem append_empty (s : LooseString) : s ++ (⟨[]⟩ : LooseString) = s :=
  congrArg LooseString.mk (List.append_nil s.signs)

@[simp] theorem toString?_ofString (s : String) : (ofString s).toString? = some s := by
  have h (cs : List Char) : (cs.map Sign.char).mapM Sign.char? = some cs := by
    induction cs with
    | nil => rfl
    | cons c cs ih => simp [ih]
  simp [toString?, ofString, h]

theorem ofString_injective {s t : String} (h : ofString s = ofString t) : s = t := by
  have h' := congrArg toString? h
  simpa using h'

end LooseString

end DocComments.Text
