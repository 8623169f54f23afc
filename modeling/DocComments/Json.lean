import DocComments.Number.Binary64
import DocComments.OrderedMap
import DocComments.Text.Quoted

/-!
# JSON values

A JSON value, with the members of an object in order.  Whole numbers are kept as integers of
any size; a number written with a point or an exponent is one of double precision.  Texts are
loose, for JSON can name halves of pairs.

A value has two written forms.  The JSON text is in `DocComments.Json.Writer`; here is the
form in which messages show a value (`Json.display`): texts in quotes, lists in brackets, and
`None`, `True` and `False` for the constants.
-/

namespace DocComments

/-- **A JSON value.** -/
inductive Json where
  | null
  | bool (b : Bool)
  | int (n : Int)
  | real (x : Binary64)
  | string (s : Text.LooseString)
  | array (items : List Json)
  | object (members : List (Text.LooseString × Json))
  deriving Inhabited

/-- Several texts between brackets, with commas between them. -/
def bracketed (opening closing : String) (items : List String) : String :=
  opening ++ ", ".intercalate items ++ closing

namespace Json

mutual

/-- **How messages show a value.** -/
def display : Json → String
  | null => "None"
  | bool b => if b then "True" else "False"
  | int n => toString n
  | real x => x.display
  | string s => s.quoted
  | array items => bracketed "[" "]" (displayItems items)
  | object members => bracketed "\x7b" "\x7d" (displayMembers members)

/-- How messages show the items of an array. -/
def displayItems : List Json → List String
  | [] => []
  | j :: more => display j :: displayItems more

/-- How messages show the members of an object. -/
def displayMembers : List (Text.LooseString × Json) → List String
  | [] => []
  | (k, j) :: more => (k.quoted ++ ": " ++ display j) :: displayMembers more

end

/-! ### Texts -/

mutual

/-- The value with every text in it, keys among them, changed by `f`. -/
def mapTexts (f : Text.LooseString → Text.LooseString) : Json → Json
  | string s => string (f s)
  | array items => array (mapTextsItems f items)
  | object members => object (mapTextsMembers f members)
  | j => j

/-- The items with every text in them changed by `f`. -/
def mapTextsItems (f : Text.LooseString → Text.LooseString) : List Json → List Json
  | [] => []
  | j :: more => mapTexts f j :: mapTextsItems f more

/-- The members with every text in them changed by `f`. -/
def mapTextsMembers (f : Text.LooseString → Text.LooseString) :
    List (Text.LooseString × Json) → List (Text.LooseString × Json)
  | [] => []
  | (k, j) :: more => (f k, mapTexts f j) :: mapTextsMembers f more

end

/-! ### Equality of values -/

/-- The number that a value stands for in comparisons: the constants true and false count as
one and zero. -/
def asNumber? : Json → Option (Int ⊕ Binary64)
  | bool b => some (.inl (if b then 1 else 0))
  | int n => some (.inl n)
  | real x => some (.inr x)
  | _ => none

/-- Two numbers have the same value. -/
def sameNumber : Int ⊕ Binary64 → Int ⊕ Binary64 → Bool
  | .inl m, .inl n => m = n
  | .inl m, .inr y => y.equalsInt m
  | .inr x, .inl n => x.equalsInt n
  | .inr x, .inr y => x.sameValue y

/-- Two values that are neither arrays nor objects are equal. -/
def sameScalar : Json → Json → Bool
  | null, null => true
  | string s, string t => s = t
  | a, b =>
      match a.asNumber?, b.asNumber? with
      | some x, some y => sameNumber x y
      | _, _ => false

mutual

/-- **The values are equal**: numbers by value, whatever their notation, and objects as maps,
whatever the order of their members. -/
def same : Json → Json → Bool
  | array as, array bs => sameItems as bs
  | object as, object bs => as.length = bs.length && sameMembers as bs
  | a, b => sameScalar a b

/-- The items are equal, one by one. -/
def sameItems : List Json → List Json → Bool
  | [], [] => true
  | a :: as, b :: bs => same a b && sameItems as bs
  | _, _ => false

/-- Every member of the first list has an equal value in the second. -/
def sameMembers :
    List (Text.LooseString × Json) → List (Text.LooseString × Json) → Bool
  | [], _ => true
  | (k, a) :: as, bs =>
      match OrderedMap.get? k bs with
      | some b => same a b && sameMembers as bs
      | none => false

end

end Json

end DocComments
