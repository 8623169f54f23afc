import DocComments.Literal
import DocComments.Token.Rule

/-!
# The grammar of literals

    literal  :=  string | number | regex | ident | array | object
    array    :=  "[" [ literal { "," literal } [ "," ] ] "]"
    object   :=  "{" [ member { "," member } [ "," ] ] "}"
    member   :=  ( ident | string ) ":" literal

A literal may be absent, and that is no failure: the rule then answers `none`, be it that
the next token starts no literal, or that an array or object breaks off before its closing
bracket.  In the second case the tokens up to that point are taken.

A literal is read by `Rule.literalWith inner`, where `inner` reads the literals inside it.
Tying the knot needs a bound on the depth.  Before `inner` is entered a bracket has been
taken, so one more than the number of tokens to come is deep enough; that is the bound of
`Rule.literal`.
-/

namespace DocComments

/-- The kind of scalar that a kind of token stands for. -/
def TokenKind.scalarKind? : TokenKind → Option ScalarKind
  | .string => some .string
  | .number => some .number
  | .regex => some .regex
  | .ident => some .ident
  | _ => none

namespace Rule

/-- A scalar of a known kind, which is the next token. -/
def scalar (kind : ScalarKind) : Rule Literal := do
  let t ← next
  pure (.scalar kind t.text t.line)

/-- The array at the next token, which must open one. -/
def arrayWith (inner : Rule (Option Literal)) : Rule (Option Literal) := do
  let opening ← expectOne "["
  let items ← separated do
    match ← inner with
    | none => pure .absent
    | some item => pure (.found item)
  match items, ← acceptOne "]" with
  | some items, some _ => pure (some (.array items opening.line))
  | _, _ => pure none

/-- A member of an object, if one starts here.  It breaks off where its value is absent. -/
def memberWith (inner : Rule (Option Literal)) : Rule (Part (Literal × Literal)) := do
  if ← lookAny [[TokenKind.ident, ":"], [TokenKind.string, ":"]] then
    let key ← next
    let _ ← expectOne ":"
    match ← inner with
    | none => pure .broken
    | some value =>
        let kind := if key.kind = .ident then ScalarKind.ident else ScalarKind.string
        pure (.found (.scalar kind key.text key.line, value))
  else pure .absent

/-- The object at the next token, which must open one.  Where a member breaks off, nothing
more is looked at. -/
def objectWith (inner : Rule (Option Literal)) : Rule (Option Literal) := do
  let opening ← expectOne "\x7b"
  match ← separated (memberWith inner) with
  | none => pure none
  | some members =>
      match ← acceptOne "\x7d" with
      | none => pure none
      | some _ => pure (some (.object members opening.line))

/-- The literal at the next token, if there is one; `inner` reads the literals inside it. -/
def literalWith (inner : Rule (Option Literal)) : Rule (Option Literal) := do
  let first ← TokenSource.peek 0
  match first.kind.scalarKind? with
  | some kind => some <$> scalar kind
  | none =>
      if TokenTest.fits "[" first then arrayWith inner
      else if TokenTest.fits "\x7b" first then objectWith inner
      else pure none

/-- The literal at the next token, no more than `depth` literals deep. -/
def literalWithin : Nat → Rule (Option Literal)
  | 0 => pure none
  | depth + 1 => literalWith (literalWithin depth)

/-- **The literal at the next token**, if there is one. -/
def literal : Rule (Option Literal) := do
  literalWithin ((← get).size + 1)

/-- The array at the next token, which must open one. -/
def array : Rule (Option Literal) :=
  arrayWith literal

/-- The object at the next token, which must open one. -/
def object : Rule (Option Literal) :=
  objectWith literal

end Rule

end DocComments
