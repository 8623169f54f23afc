import DocComments.Json

/-!
# JSON text

The text of a JSON value, in ASCII.  Written compactly, a space follows each comma and each
colon; written with an indentation, each item and member has a line of its own.  Every
character outside printable ASCII is escaped, one beyond U+FFFF as two halves; so is a half
that stands alone.
-/

namespace DocComments.Json

open Text

/-- A code unit as an escape of four digits. -/
def escapeUnit (unit : Nat) : List Char :=
  '\\' :: 'u' :: hexDigits unit 4

/-- One character of a JSON string. -/
def escapeChar (c : Char) : List Char :=
  if c = '"' ∨ c = '\\' then ['\\', c]
  else if c = '\n' then ['\\', 'n']
  else if c = '\r' then ['\\', 'r']
  else if c = '\t' then ['\\', 't']
  else if c = '\x0c' then ['\\', 'f']
  else if c = '\x08' then ['\\', 'b']
  else if ' ' ≤ c ∧ c ≤ '~' then [c]
  else if c.toNat < 0x10000 then escapeUnit c.toNat
  else
    let n := c.toNat - 0x10000
    escapeUnit (0xD800 + n / 0x400) ++ escapeUnit (0xDC00 + n % 0x400)

/-- One sign of a JSON string. -/
def escapeSign : Sign → List Char
  | .char c => escapeChar c
  | .half index => escapeUnit (Sign.half index).code

/-- A string between its quotes. -/
def stringText (s : LooseString) : String :=
  String.ofList ('"' :: s.signs.flatMap escapeSign ++ ['"'])

/-- A number of double precision; JSON has no words for the last three, and these are the
usual ones. -/
def realText : Binary64 → String
  | .nan => "NaN"
  | .infinite negative => if negative then "-Infinity" else "Infinity"
  | x => x.display

/-- How a text is laid out: on one line, or with each level indented by a number of blanks. -/
inductive Layout where
  | compact
  | indented (width : Nat)
  deriving DecidableEq, Repr

namespace Layout

/-- What stands before an item or a closing bracket at depth `depth`. -/
def lineStart (l : Layout) (depth : Nat) : String :=
  match l with
  | compact => ""
  | indented width => String.ofList ('\n' :: List.replicate (width * depth) ' ')

/-- What stands between two items at depth `depth`. -/
def separator (l : Layout) (depth : Nat) : String :=
  match l with
  | compact => ", "
  | indented _ => "," ++ l.lineStart depth

/-- Items at depth `depth + 1` between brackets; brackets around nothing touch. -/
def wrap (l : Layout) (depth : Nat) (opening closing : String) (items : List String) : String :=
  match items with
  | [] => opening ++ closing
  | items =>
      opening ++ l.lineStart (depth + 1) ++ (l.separator (depth + 1)).intercalate items ++
        l.lineStart depth ++ closing

end Layout

mutual

/-- The text of a value that stands at depth `depth`. -/
def writeAt (l : Layout) (depth : Nat) : Json → String
  | null => "null"
  | bool b => if b then "true" else "false"
  | int n => toString n
  | real x => realText x
  | string s => stringText s
  | array items => l.wrap depth "[" "]" (writeItems l (depth + 1) items)
  | object members => l.wrap depth "\x7b" "\x7d" (writeMembers l (depth + 1) members)

/-- The texts of the items of an array. -/
def writeItems (l : Layout) (depth : Nat) : List Json → List String
  | [] => []
  | j :: more => writeAt l depth j :: writeItems l depth more

/-- The texts of the members of an object. -/
def writeMembers (l : Layout) (depth : Nat) : List (LooseString × Json) → List String
  | [] => []
  | (k, j) :: more => (stringText k ++ ": " ++ writeAt l depth j) :: writeMembers l depth more

end

/-- **The text of a value.** -/
def write (l : Layout) (j : Json) : String :=
  writeAt l 0 j

end DocComments.Json
