import DocComments.Literal.Source

/-!
# Summaries of code

What follows a doc-comment is summed up by a tag and named fields: a function by its name
and parameters, an assignment by its target and value, and so on.  Which fields there are
depends on the tag, and a class definition has whatever fields its configuration has, so
the fields are an ordered map from names to values.

`Value` is what a field can hold.  Lists and tuples are told apart: they differ in equality
and in how messages show them, and become the same JSON array.
-/

namespace DocComments

/-- The tags of summaries. -/
inductive SummaryKind where
  /-- The head of a function. -/
  | function
  /-- A target and perhaps its value. -/
  | assignment
  /-- A call that defines a class. -/
  | classDefinition
  /-- A call that extends a class. -/
  | extension
  /-- A literal as a value. -/
  | literal
  /-- Nothing that is recognised. -/
  | unrecognised
  deriving DecidableEq, Repr

namespace SummaryKind

/-- The name of a tag. -/
def name : SummaryKind → String
  | function => "function"
  | assignment => "assignment"
  | classDefinition => "ext_define"
  | extension => "ext_extend"
  | literal => "literal"
  | unrecognised => "nop"

/-- The tag with a given name. -/
def ofName? (name : String) : Option SummaryKind :=
  [function, assignment, classDefinition, extension, literal, unrecognised].find? fun kind =>
    kind.name = name

@[simp] theorem ofName?_name (kind : SummaryKind) : ofName? kind.name = some kind := by
  cases kind <;> decide

end SummaryKind

/-- **What a field can hold**: plain data, a list or tuple of values, a literal, or the
summary of a part. -/
inductive Value where
  | data (j : Json)
  | list (items : List Value)
  | tuple (items : List Value)
  | literal (l : Literal)
  | summary (kind : SummaryKind) (fields : List (String × Value))
  deriving Inhabited

namespace Value

/-- A text. -/
def text (s : String) : Value := data (.string s)

/-- A text that may be missing. -/
def text? : Option String → Value
  | some s => text s
  | none => data .null

/-- A list of texts. -/
def texts (items : List String) : Value := list (items.map text)

/-- What a literal holds, without its kind: its text, its items, or its members as pairs. -/
def ofContent : Literal → Value
  | .scalar _ s _ => text s
  | .array items _ => tuple (items.map literal)
  | .object members _ => tuple (members.map fun m => tuple [literal m.1, literal m.2])

/-! ### JSON -/

mutual

/-- **The value as a JSON value.** -/
def toJson : Value → Json
  | data j => j
  | list items => .array (itemsToJson items)
  | tuple items => .array (itemsToJson items)
  | literal l => l.toJson
  | summary kind fields =>
      .object (OrderedMap.ofEntries (("type", .string kind.name) :: fieldsToJson fields))

/-- The items of a list as JSON values. -/
def itemsToJson : List Value → List Json
  | [] => []
  | v :: more => toJson v :: itemsToJson more

/-- The fields of a summary as members of a JSON object.  A field called `type` stands in the
place of the tag. -/
def fieldsToJson : List (String × Value) → List (Text.LooseString × Json)
  | [] => []
  | (k, v) :: more => (k, toJson v) :: fieldsToJson more

end

/-! ### How messages show a value -/

mutual

/-- **How messages show a value.** -/
def display : Value → String
  | data j => j.display
  | list items => bracketed "[" "]" (displayItems items)
  | tuple items => Literal.tupleText (displayItems items)
  | literal l => l.display
  | summary kind fields => bracketed "CodeNode(" ")" (kind.name :: displayFields fields)

/-- How messages show the items of a list. -/
def displayItems : List Value → List String
  | [] => []
  | v :: more => display v :: displayItems more

/-- How messages show the fields of a summary. -/
def displayFields : List (String × Value) → List String
  | [] => []
  | (k, v) :: more => (k ++ "=" ++ display v) :: displayFields more

end

/-! ### Equality of values -/

mutual

/-- **The values are equal**: literals wherever they stand, summaries whatever the order of
their fields. -/
def same : Value → Value → Bool
  | data a, data b => a.same b
  | list as, list bs => sameItems as bs
  | tuple as, tuple bs => sameItems as bs
  | literal a, literal b => a.same b
  | summary k as, summary k' bs => k = k' && as.length = bs.length && sameFields as bs
  | _, _ => false

/-- The items are equal, one by one. -/
def sameItems : List Value → List Value → Bool
  | [], [] => true
  | a :: as, b :: bs => same a b && sameItems as bs
  | _, _ => false

/-- Every field of the first list has an equal value in the second. -/
def sameFields : List (String × Value) → List (String × Value) → Bool
  | [], _ => true
  | (k, a) :: as, bs =>
      match OrderedMap.get? k bs with
      | some b => same a b && sameFields as bs
      | none => false

end

end Value

/-- **A summary of code**: its tag and its fields. -/
structure Summary where
  /-- What sort of code it is. -/
  kind : SummaryKind
  /-- The fields, in order. -/
  fields : OrderedMap String Value

namespace Summary

/-- A summary as the value of a field. -/
def toValue (s : Summary) : Value := .summary s.kind s.fields

/-- The summary as a JSON value. -/
def toJson (s : Summary) : Json := s.toValue.toJson

/-- How messages show a summary. -/
def display (s : Summary) : String := s.toValue.display

/-- The summaries are equal. -/
def same (s t : Summary) : Bool := s.toValue.same t.toValue

/-- The summary of code in which nothing is recognised. -/
def unrecognised : Summary := ⟨.unrecognised, []⟩

/-- The summary of a function: its name, if it has one, and the names of its parameters. -/
def function (name : Option String) (params : List String) : Summary where
  kind := .function
  fields :=
    [("name", .text? name),
      ("params", .list (params.map fun (p : String) => .data (.object [("name", .string p)])))]

/-- The summary of an assignment: the names in its target, and its value if it has one. -/
def assignment (left : List String) (right : Option Summary) : Summary where
  kind := .assignment
  fields :=
    [("left", .texts left),
      ("right", match right with
        | some s => s.toValue
        | none => .data .null)]

/-- The summary of a call that extends the class with the given name. -/
def extension (base : List String) : Summary :=
  ⟨.extension, [("extend", .texts base)]⟩

/-- The class of the values that a literal stands for, where its form tells. -/
def literalClass : Literal → Option String
  | .scalar .string _ _ => some "String"
  | .scalar .number _ _ => some "Number"
  | .scalar .regex _ _ => some "RegExp"
  | .scalar .ident text _ => if text = "true" ∨ text = "false" then some "Boolean" else none
  | .array _ _ => some "Array"
  | .object _ _ => some "Object"

/-- The summary of a literal: its class and its source text. -/
def literal (l : Literal) : Summary :=
  ⟨.literal, [("class", .text? (literalClass l)), ("value", .text l.render)]⟩

/-- The keys of a configuration that would hide the name or the tag of a class
definition. -/
def reservedKeys : List String := ["name", "type"]

/-- **The summary of a class definition**: its name, and behind it the fields of its
configuration apart from the reserved ones. -/
def classDefinition (name : String) (config : OrderedMap String Value) : Summary where
  kind := .classDefinition
  fields := ("name", .text name) :: config.filter fun e => !reservedKeys.contains e.1

end Summary

end DocComments
