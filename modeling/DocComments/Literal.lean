import DocComments.Json.Writer

/-!
# Literals

A literal is a string, a number, a regular expression, a name, or an array or object of
literals.  Scalars keep their source text, strings without their quotes and with their
escapes; an object keeps its members in order, repeated keys included.

Each literal knows the line on which it starts.  The line is not part of the value:
`Literal.same` compares values only.
-/

namespace DocComments

/-- The kinds of literal that have no parts. -/
inductive ScalarKind where
  | string
  | number
  | regex
  | ident
  deriving DecidableEq, Repr

/-- The name of a kind of scalar. -/
def ScalarKind.name : ScalarKind → String
  | string => "string"
  | number => "number"
  | regex => "regex"
  | ident => "ident"

/-- The kind of scalar with a given name. -/
def ScalarKind.ofName? (name : String) : Option ScalarKind :=
  [string, number, regex, ident].find? fun kind => kind.name = name

@[simp] theorem ScalarKind.ofName?_name (kind : ScalarKind) :
    ofName? kind.name = some kind := by
  cases kind <;> decide

/-- **A literal.** -/
inductive Literal where
  | scalar (kind : ScalarKind) (text : String) (line : Int)
  | array (items : List Literal) (line : Int)
  | object (members : List (Literal × Literal)) (line : Int)
  deriving Inhabited

namespace Literal

/-- The line on which the literal starts. -/
def line : Literal → Int
  | scalar _ _ line => line
  | array _ line => line
  | object _ line => line

/-- The name of the kind of a literal. -/
def kindName : Literal → String
  | scalar kind _ _ => kind.name
  | array _ _ => "array"
  | object _ _ => "object"

mutual

/-- **The literals have the same value**: the same kinds and texts at every depth, in the same
order, wherever they stand. -/
def same : Literal → Literal → Bool
  | scalar k s _, scalar k' s' _ => k = k' && s = s'
  | array as _, array bs _ => sameItems as bs
  | object as _, object bs _ => sameMembers as bs
  | _, _ => false

/-- The items have the same values, one by one. -/
def sameItems : List Literal → List Literal → Bool
  | [], [] => true
  | a :: as, b :: bs => same a b && sameItems as bs
  | _, _ => false

/-- The members have the same keys and values, one by one. -/
def sameMembers : List (Literal × Literal) → List (Literal × Literal) → Bool
  | [], [] => true
  | (k, a) :: as, (k', b) :: bs => same k k' && same a b && sameMembers as bs
  | _, _ => false

end

mutual

/-- **The literal as a JSON value**: its kind, and its text, items or members. -/
def toJson : Literal → Json
  | scalar kind text _ => .object [("type", .string kind.name), ("value", .string text)]
  | array items _ => .object [("type", .string "array"), ("value", .array (itemsToJson items))]
  | object members _ =>
      .object [("type", .string "object"), ("value", .array (membersToJson members))]

/-- The items of an array as JSON values. -/
def itemsToJson : List Literal → List Json
  | [] => []
  | a :: more => toJson a :: itemsToJson more

/-- The members of an object as JSON values with a key and a value. -/
def membersToJson : List (Literal × Literal) → List Json
  | [] => []
  | (k, a) :: more => .object [("key", toJson k), ("value", toJson a)] :: membersToJson more

end

/-! ### How messages show a literal -/

/-- Several texts between parentheses; a single one is followed by a comma. -/
def tupleText : List String → String
  | [item] => "(" ++ item ++ ",)"
  | items => bracketed "(" ")" items

/-- A literal of kind `kind` whose value is shown as `value`. -/
def nodeText (kind value : String) : String :=
  s!"LiteralNode({kind}, value={value})"

mutual

/-- **How messages show a literal.** -/
def display : Literal → String
  | scalar kind text _ => nodeText kind.name (Text.quoted text)
  | array items _ => nodeText "array" (tupleText (displayItems items))
  | object members _ => nodeText "object" (tupleText (displayMembers members))

/-- How messages show the items of an array. -/
def displayItems : List Literal → List String
  | [] => []
  | a :: more => display a :: displayItems more

/-- How messages show the members of an object. -/
def displayMembers : List (Literal × Literal) → List String
  | [] => []
  | (k, a) :: more => tupleText [display k, display a] :: displayMembers more

end

end Literal

end DocComments
