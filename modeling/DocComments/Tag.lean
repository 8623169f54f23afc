import DocComments.Json

/-!
# Tags

A doc-comment says what it has to say in tags.  The text before the first tag is a tag of
its own, named `default`.  What a tag holds depends on its name: a type in braces, a name
perhaps with a default value, or just text.
-/

namespace DocComments

/-- **What a tag holds.** -/
inductive TagContent where
  /-- A parameter, option or property: its type and name, whether it may be left out, the
  value it then has, and its description. -/
  | member (type name : Option String) (optional : Bool) (default : Option String)
      (doc : String)
  /-- What is returned: its type and description. -/
  | result (type : Option String) (doc : String)
  /-- A type alone. -/
  | type (type : Option String)
  /-- A name and a description. -/
  | named (name : Option String) (doc : String)
  /-- A description alone. -/
  | plain (doc : String)
  deriving DecidableEq, Repr

/-- **A tag**: its name and what it holds. -/
structure Tag where
  /-- The name, without the sign before it. -/
  name : String
  /-- What the tag holds. -/
  content : TagContent
  deriving DecidableEq, Repr

namespace Tag

/-- The tag for the text before the first marker. -/
def description (doc : String) : Tag := ⟨"default", .plain doc⟩

/-- A text that may be missing, as a JSON value. -/
def textOrNull : Option String → Json
  | some s => .string s
  | none => .null

/-- **The tag as a JSON object**, with the members that its content has. -/
def toJson (t : Tag) : Json :=
  .object <| ("tagname", .string t.name) ::
    match t.content with
    | .member type name optional default doc =>
        [("type", textOrNull type), ("name", textOrNull name), ("optional", .bool optional),
          ("default", textOrNull default), ("doc", .string doc)]
    | .result type doc => [("type", textOrNull type), ("doc", .string doc)]
    | .type type => [("type", textOrNull type)]
    | .named name doc => [("name", textOrNull name), ("doc", .string doc)]
    | .plain doc => [("doc", .string doc)]

end Tag

end DocComments
