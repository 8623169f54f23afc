import DocComments.Proofs.LiteralRoundTrip
import DocComments.Record

/-!
# Summaries without places

Literals know the line on which they start, and the summary of a class definition holds literals.
`Value.bare` forgets these lines, and this file says that nothing that is made of a summary shows
them: neither its JSON form nor the form in which messages show it, and no comparison with another
summary (`Summary.Indistinct`).

What builds summaries commutes with forgetting, one lemma for each builder: a summary built from
literals without lines is the summary without lines.
-/

namespace DocComments

/-! ### Literals -/

namespace Literal

theorem bareItems_eq (items : List Literal) : bareItems items = items.map bare := by
  induction items with
  | nil => rfl
  | cons a more ih => rw [bareItems, List.map_cons, ih]

theorem bareMembers_eq (members : List (Literal × Literal)) :
    bareMembers members = members.map (Prod.map bare bare) := by
  induction members with
  | nil => rfl
  | cons m more ih => rw [bareMembers, List.map_cons, ih, Prod.map]

mutual

/-- The lines do not show in the JSON form. -/
theorem toJson_bare : ∀ a : Literal, toJson (bare a) = toJson a
  | scalar kind text _ => rfl
  | array items _ => by rw [bare, toJson, toJson, itemsToJson_bare items]
  | object members _ => by rw [bare, toJson, toJson, membersToJson_bare members]

theorem itemsToJson_bare : ∀ items : List Literal, itemsToJson (bareItems items) = itemsToJson items
  | [] => rfl
  | a :: more => by rw [bareItems, itemsToJson, itemsToJson, toJson_bare a, itemsToJson_bare more]

theorem membersToJson_bare : ∀ members : List (Literal × Literal),
    membersToJson (bareMembers members) = membersToJson members
  | [] => rfl
  | (k, a) :: more => by
      rw [bareMembers, membersToJson, membersToJson, toJson_bare k, toJson_bare a,
        membersToJson_bare more]

end

mutual

/-- The lines do not show in messages. -/
theorem display_bare : ∀ a : Literal, display (bare a) = display a
  | scalar kind text _ => rfl
  | array items _ => by rw [bare, display, display, displayItems_bare items]
  | object members _ => by rw [bare, display, display, displayMembers_bare members]

theorem displayItems_bare : ∀ items : List Literal,
    displayItems (bareItems items) = displayItems items
  | [] => rfl
  | a :: more => by
      rw [bareItems, displayItems, displayItems, display_bare a, displayItems_bare more]

theorem displayMembers_bare : ∀ members : List (Literal × Literal),
    displayMembers (bareMembers members) = displayMembers members
  | [] => rfl
  | (k, a) :: more => by
      rw [bareMembers, displayMembers, displayMembers, display_bare k, display_bare a,
        displayMembers_bare more]

end

mutual

theorem bare_bare : ∀ a : Literal, bare (bare a) = bare a
  | scalar kind text _ => rfl
  | array items _ => by rw [bare, bare, bareItems_bareItems items]
  | object members _ => by rw [bare, bare, bareMembers_bareMembers members]

theorem bareItems_bareItems : ∀ items : List Literal,
    bareItems (bareItems items) = bareItems items
  | [] => rfl
  | a :: more => by rw [bareItems, bareItems, bare_bare a, bareItems_bareItems more]

theorem bareMembers_bareMembers : ∀ members : List (Literal × Literal),
    bareMembers (bareMembers members) = bareMembers members
  | [] => rfl
  | (k, a) :: more => by
      rw [bareMembers, bareMembers, bare_bare k, bare_bare a, bareMembers_bareMembers more]

end

theorem same_bare (a b : Literal) : same (bare a) (bare b) = same a b := by
  rw [Bool.eq_iff_iff, same_iff, same_iff, bare_bare, bare_bare]

end Literal

/-! ### Values -/

namespace Value

mutual

/-- The value with the lines of its literals forgotten. -/
def bare : Value → Value
  | data j => data j
  | list items => list (bareItems items)
  | tuple items => tuple (bareItems items)
  | literal l => literal l.bare
  | summary kind fields => summary kind (bareFields fields)

/-- The items of a list with the lines of their literals forgotten. -/
def bareItems : List Value → List Value
  | [] => []
  | v :: more => bare v :: bareItems more

/-- The fields of a summary with the lines of their literals forgotten. -/
def bareFields : List (String × Value) → List (String × Value)
  | [] => []
  | (k, v) :: more => (k, bare v) :: bareFields more

end

theorem bareItems_eq (items : List Value) : bareItems items = items.map bare := by
  induction items with
  | nil => rfl
  | cons v more ih => rw [bareItems, List.map_cons, ih]

theorem bareFields_eq (fields : List (String × Value)) :
    bareFields fields = fields.map (Prod.map id bare) := by
  induction fields with
  | nil => rfl
  | cons e more ih => rw [bareFields, List.map_cons, ih, Prod.map, id]

mutual

/-- The lines do not show in the JSON form. -/
theorem toJson_bare : ∀ v : Value, toJson (bare v) = toJson v
  | data j => rfl
  | list items => by rw [bare, toJson, toJson, itemsToJson_bare items]
  | tuple items => by rw [bare, toJson, toJson, itemsToJson_bare items]
  | literal l => by rw [bare, toJson, toJson, l.toJson_bare]
  | summary kind fields => by rw [bare, toJson, toJson, fieldsToJson_bare fields]

theorem itemsToJson_bare : ∀ items : List Value, itemsToJson (bareItems items) = itemsToJson items
  | [] => rfl
  | v :: more => by rw [bareItems, itemsToJson, itemsToJson, toJson_bare v, itemsToJson_bare more]

theorem fieldsToJson_bare : ∀ fields : List (String × Value),
    fieldsToJson (bareFields fields) = fieldsToJson fields
  | [] => rfl
  | (k, v) :: more => by
      rw [bareFields, fieldsToJson, fieldsToJson, toJson_bare v, fieldsToJson_bare more]

end

mutual

/-- The lines do not show in messages. -/
theorem display_bare : ∀ v : Value, display (bare v) = display v
  | data j => rfl
  | list items => by rw [bare, display, display, displayItems_bare items]
  | tuple items => by rw [bare, display, display, displayItems_bare items]
  | literal l => by rw [bare, display, display, l.display_bare]
  | summary kind fields => by rw [bare, display, display, displayFields_bare fields]

theorem displayItems_bare : ∀ items : List Value,
    displayItems (bareItems items) = displayItems items
  | [] => rfl
  | v :: more => by
      rw [bareItems, displayItems, displayItems, display_bare v, displayItems_bare more]

theorem displayFields_bare : ∀ fields : List (String × Value),
    displayFields (bareFields fields) = displayFields fields
  | [] => rfl
  | (k, v) :: more => by
      rw [bareFields, displayFields, displayFields, display_bare v, displayFields_bare more]

end

mutual

/-- The lines do not count in comparisons. -/
theorem same_bare : ∀ a b : Value, same (bare a) (bare b) = same a b
  | data a, b => by cases b <;> simp [bare, same]
  | list as, b => by cases b <;> simp [bare, same, sameItems_bare as]
  | tuple as, b => by cases b <;> simp [bare, same, sameItems_bare as]
  | literal a, b => by cases b <;> simp [bare, same, Literal.same_bare a]
  | summary k as, b => by
      cases b with
      | summary k' bs =>
          have hlen : ∀ fields : List (String × Value),
              (bareFields fields).length = fields.length := fun fields => by
            rw [bareFields_eq, List.length_map]
          rw [bare, bare, same, same, sameFields_bare as bs, hlen, hlen]
      | _ => simp [bare, same]

theorem sameItems_bare : ∀ as bs : List Value,
    sameItems (bareItems as) (bareItems bs) = sameItems as bs
  | [], bs => by cases bs <;> rfl
  | a :: as, bs => by
      cases bs with
      | nil => rfl
      | cons b bs =>
          rw [bareItems, bareItems, sameItems, sameItems, same_bare a b, sameItems_bare as bs]

theorem sameFields_bare : ∀ as bs : List (String × Value),
    sameFields (bareFields as) (bareFields bs) = sameFields as bs
  | [], bs => rfl
  | (k, a) :: as, bs => by
      have hget : OrderedMap.get? k (bareFields bs) = (OrderedMap.get? k bs).map bare := by
        rw [bareFields_eq, OrderedMap.get?_map bare]
      rw [bareFields, sameFields, sameFields, hget]
      cases OrderedMap.get? k bs with
      | none => rfl
      | some b => simp only [Option.map_some, same_bare a b, sameFields_bare as bs]

end

theorem bare_text (s : String) : bare (text s) = text s := rfl

theorem bare_ofContent (l : Literal) : bare (ofContent l) = ofContent l.bare := by
  cases l with
  | scalar kind text line => rfl
  | array items line =>
      simp [ofContent, bare, Literal.bare, bareItems_eq, Literal.bareItems_eq, Function.comp_def]
  | object members line =>
      simp [ofContent, bare, Literal.bare, bareItems_eq, Literal.bareMembers_eq, Function.comp_def]

end Value

theorem map_bare_namesOfLiteral (l : Option Literal) :
    (namesOfLiteral l).map Value.bare = namesOfLiteral (l.map Literal.bare) := by
  cases l with
  | none => rfl
  | some l =>
      cases l with
      | scalar kind text line => cases kind <;> rfl
      | array items line =>
          simp [namesOfLiteral, Literal.bare, Literal.bareItems_eq, Function.comp_def,
            Value.bare_ofContent]
      | object members line => rfl

theorem map_bare_memberContents (l : Literal) :
    (memberContents l).map Value.bare = memberContents l.bare := by
  cases l with
  | object members line =>
      simp [memberContents, Literal.bare, Literal.bareMembers_eq, Function.comp_def,
        Value.bare_ofContent]
  | _ => rfl

/-! ### Summaries -/

namespace Summary

/-- The summary with the lines of its literals forgotten. -/
def bare (s : Summary) : Summary :=
  ⟨s.kind, s.fields.map (Prod.map id Value.bare)⟩

theorem toValue_bare (s : Summary) : s.bare.toValue = s.toValue.bare := by
  rw [toValue, toValue, Value.bare, Value.bareFields_eq, bare]

theorem bare_texts (items : List String) : Value.bare (.texts items) = .texts items := by
  simp [Value.texts, Value.bare, Value.bareItems_eq, Function.comp_def, Value.bare_text]

theorem bare_assignment (left : List String) (right : Option Summary) :
    bare (assignment left right) = assignment left (right.map bare) := by
  cases right with
  | none => simp [bare, assignment, bare_texts, Value.bare]
  | some s => simp [bare, assignment, bare_texts, ← toValue_bare]

theorem literalClass_bare (l : Literal) : literalClass l.bare = literalClass l := by
  cases l with
  | scalar kind text line => cases kind <;> rfl
  | _ => rfl

theorem bare_literal (l : Literal) : bare (literal l) = literal l.bare := by
  rw [literal, literal, l.render_bare, literalClass_bare]
  cases literalClass l <;> rfl

theorem bare_classDefinition (name : String) (fields : List (String × Value)) :
    bare (classDefinition name (OrderedMap.ofEntries fields)) =
      classDefinition name (OrderedMap.ofEntries (fields.map (Prod.map id Value.bare))) := by
  rw [OrderedMap.ofEntries_map Value.bare, classDefinition, classDefinition, bare, List.map_cons,
    List.filter_map]
  rfl

/-- **No one can tell the summaries apart**: they have the same JSON form, messages show them
alike, and they compare alike with every summary. -/
structure Indistinct (s t : Summary) : Prop where
  /-- The JSON forms. -/
  toJson : s.toJson = t.toJson
  /-- What messages show. -/
  display : s.display = t.display
  /-- Comparisons. -/
  same : ∀ other : Summary, s.same other = t.same other

/-- **Lines do not tell summaries apart.** -/
theorem indistinct_of_bare {s t : Summary} (h : s.bare = t.bare) : Indistinct s t := by
  have hvalue : s.toValue.bare = t.toValue.bare := by rw [← toValue_bare, h, toValue_bare]
  refine ⟨?_, ?_, fun other => ?_⟩
  · rw [Summary.toJson, Summary.toJson, ← Value.toJson_bare, hvalue, Value.toJson_bare]
  · rw [Summary.display, Summary.display, ← Value.display_bare, hvalue, Value.display_bare]
  · rw [Summary.same, Summary.same, ← Value.same_bare, hvalue, Value.same_bare]

end Summary

end DocComments
