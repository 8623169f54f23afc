import DocComments.Summary

/-!
# Building a class definition

A class definition is summed up from its configuration, whose fields become known one by
one.  `ClassBuilder` collects them and is then used up: it builds one summary and refuses
everything afterwards, without losing what it has built.
-/

namespace DocComments

/-- The builder has already built its summary. -/
structure AlreadyBuilt where
  deriving DecidableEq, Repr

/-- The wording of a use that comes too late. -/
def AlreadyBuilt.message (_ : AlreadyBuilt) : String :=
  "Class config already finalized"

/-- **A collector of configuration fields** that builds one summary. -/
structure ClassBuilder where
  /-- The fields so far. -/
  fields : OrderedMap String Value
  /-- The summary has been built. -/
  built : Bool

namespace ClassBuilder

/-- The builder with no fields. -/
def empty : ClassBuilder := ⟨[], false⟩

/-- Gives the field `key` the value `value`. -/
def set (b : ClassBuilder) (key : String) (value : Value) : Except AlreadyBuilt ClassBuilder :=
  if b.built then .error ⟨⟩
  else .ok { b with fields := OrderedMap.insert key value b.fields }

/-- **Builds the summary** of the class called `name`, once. -/
def build (b : ClassBuilder) (name : String) : Except AlreadyBuilt (Summary × ClassBuilder) :=
  if b.built then .error ⟨⟩
  else .ok (.classDefinition name b.fields, { b with built := true })

theorem set_eq_error_iff (b : ClassBuilder) (key : String) (value : Value) :
    b.set key value = .error ⟨⟩ ↔ b.built = true := by
  unfold set
  split <;> simp_all

theorem build_eq_error_iff (b : ClassBuilder) (name : String) :
    b.build name = .error ⟨⟩ ↔ b.built = true := by
  unfold build
  split <;> simp_all

end ClassBuilder

end DocComments
