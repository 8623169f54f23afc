import DocComments.Literal.Grammar
import DocComments.Summary

/-!
# The grammar of class definitions

    definition  :=  "Ext" "." ( "define" | "ClassManager" "." "create" )
                    "(" string ( "," config | "," | ")" )
    config      :=  "{" { field [ "," ] }
    field       :=  "extend" ":" string
                 |  "mixins" ":" object
                 |  "alternateClassName" ":" names
                 |  "alias" ":" names
                 |  ident ":" literal
    names       :=  [ literal ]

The configuration is read field by field, up to the first token that starts no field or to
a field whose literal is absent.  Its closing brace is never taken.
-/

namespace DocComments

/-- The names that a literal lists: a string is one name, an array lists what its items
hold, and anything else lists nothing. -/
def namesOfLiteral : Option Literal → List Value
  | some (.scalar .string s _) => [.text s]
  | some (.array items _) => items.map .ofContent
  | _ => []

/-- What the members of an object hold, the keys left out. -/
def memberContents : Literal → List Value
  | .object members _ => members.map fun m => .ofContent m.2
  | _ => []

namespace Rule

/-- The superclass. -/
def extendField : Rule (String × Value) := do
  let name ← expect ["extend", ":", TokenKind.string]
  pure ("extend", .text name.text)

/-- The mixins; absent where the object is. -/
def mixinsField : Rule (Option (String × Value)) := do
  let _ ← expect ["mixins", ":"]
  match ← literal with
  | none => pure none
  | some l => pure (some ("mixins", .list (memberContents l)))

/-- A field that lists names. -/
def namesField (word key : String) : Rule (String × Value) := do
  let _ ← expect [word, ":"]
  let l ← literal
  pure (key, .list (namesOfLiteral l))

/-- Any other field; absent where its literal is. -/
def otherField : Rule (Option (String × Value)) := do
  let key ← expectOne TokenKind.ident
  let _ ← expectOne ":"
  match ← literal with
  | none => pure none
  | some l => pure (some (key.text, .literal l))

/-- **The field at the next token**, if there is one.  The rules are tried in order. -/
def configField : Rule (Option (String × Value)) := do
  if ← look ["extend", ":", TokenKind.string] then some <$> extendField
  else if ← look ["mixins", ":", "\x7b"] then mixinsField
  else if ← look ["alternateClassName", ":"] then
    some <$> namesField "alternateClassName" "alternateClassNames"
  else if ← look ["alias", ":"] then some <$> namesField "alias" "alias"
  else if ← look [TokenKind.ident, ":"] then otherField
  else pure none

/-- The fields of a configuration, in the order in which they stand. -/
def classConfig : Rule (List (String × Value)) := do
  let _ ← expectOne "\x7b"
  many do
    match ← configField with
    | none => pure none
    | some field =>
        let _ ← acceptOne ","
        pure (some field)

/-- **The class definition at the next token**, which must start one. -/
def classDefinition : Rule Summary := do
  let _ ← expect ["Ext", "."]
  if ← look ["define"] then
    let _ ← expectOne "define"
  else
    let _ ← expect ["ClassManager", ".", "create"]
  let name ← expect ["(", TokenKind.string]
  let fields ←
    if ← look [",", "\x7b"] then do
      let _ ← expectOne ","
      classConfig
    else if ← look [","] then pure []
    else do
      let _ ← expectOne ")"
      pure []
  pure (.classDefinition name.text (OrderedMap.ofEntries fields))

end Rule

end DocComments
