import DocComments.Record
import Mathlib.Data.List.Forall2

/-!
# What JSON forms tell apart

Equality of JSON values compares objects as maps, and the JSON forms of tags and of literals are
objects.  This file says what the form tells of each: a tag is told by its form
(`Tag.toJson_same_iff`), and a literal is told up to lines (`Literal.toJson_same_iff`).

The forms of two kinds of a thing differ in their keys, or else in the text under `type`.  That the
keys are texts of the program is all that enters, so most of the comparisons are settled by the
simplifier once `LooseString.ofString_inj` has made the texts strings again.
-/

namespace DocComments

open Text

theorem Text.LooseString.ofString_inj {s t : String} :
    LooseString.ofString s = LooseString.ofString t ↔ s = t :=
  ⟨LooseString.ofString_injective, congrArg _⟩

namespace Json

/-! ### Equality of JSON values, form by form -/

theorem same_text (s t : String) : same (.string s) (.string t) = decide (s = t) := by
  simp [same, sameScalar, LooseString.ofString_inj]

theorem same_int (m n : Int) : same (.int m) (.int n) = decide (m = n) := by
  simp [same, sameScalar, asNumber?, sameNumber]

theorem same_bool (b c : Bool) : same (.bool b) (.bool c) = decide (b = c) := by
  cases b <;> cases c <;> rfl

theorem same_array (as bs : List Json) : same (.array as) (.array bs) = sameItems as bs := by
  rw [same]

theorem same_object (as bs : List (LooseString × Json)) :
    same (.object as) (.object bs) = (decide (as.length = bs.length) && sameMembers as bs) := by
  rw [same]

/-- Every member has an equal value in the other object. -/
theorem sameMembers_iff {as bs : List (LooseString × Json)} :
    sameMembers as bs = true ↔
      ∀ e ∈ as, ∃ b, OrderedMap.get? e.1 bs = some b ∧ same e.2 b = true := by
  induction as with
  | nil => simp [sameMembers]
  | cons e more ih =>
      obtain ⟨k, a⟩ := e
      rw [sameMembers, List.forall_mem_cons]
      cases OrderedMap.get? k bs with
      | none => simp
      | some b => simp [ih]

/-- Objects with the same two keys. -/
theorem same_pair {k k' : String} (h : k ≠ k') (a a' b b' : Json) :
    same (.object [(k, a), (k', b)]) (.object [(k, a'), (k', b')]) =
      (same a a' && same b b') := by
  simp [same_object, sameMembers, OrderedMap.get?, LooseString.ofString_inj, h]

/-- Arrays compare item by item. -/
theorem sameItems_map_iff {α : Type} {f : α → Json} {R : α → α → Prop} {as bs : List α}
    (h : ∀ a ∈ as, ∀ b ∈ bs, (f a).same (f b) = true ↔ R a b) :
    sameItems (as.map f) (bs.map f) = true ↔ List.Forall₂ R as bs := by
  induction as generalizing bs with
  | nil => cases bs <;> simp [sameItems]
  | cons a as ih =>
      cases bs with
      | nil => simp [sameItems]
      | cons b bs =>
          have hfirst := h a List.mem_cons_self b List.mem_cons_self
          have hmore := ih fun a ha b hb =>
            h a (List.mem_cons_of_mem _ ha) b (List.mem_cons_of_mem _ hb)
          simp [sameItems, hfirst, hmore]

end Json

/-! ### Tags -/

namespace Tag

theorem same_textOrNull (s t : Option String) :
    (textOrNull s).same (textOrNull t) = decide (s = t) := by
  cases s <;> cases t <;> simp [textOrNull, Json.same_text, Json.same, Json.sameScalar,
    Json.asNumber?]

/-- **The JSON form tells a tag**: what the content is shows in the keys. -/
theorem toJson_same_iff (t t' : Tag) : t.toJson.same t'.toJson = true ↔ t = t' := by
  obtain ⟨name, content⟩ := t
  obtain ⟨name', content'⟩ := t'
  cases content <;> cases content' <;>
    simp [toJson, Json.same_object, Json.sameMembers, OrderedMap.get?, LooseString.ofString_inj,
      Json.same_text, Json.same_bool, same_textOrNull]

end Tag

/-! ### Literals -/

theorem ScalarKind.name_inj {kind kind' : ScalarKind} : kind.name = kind'.name ↔ kind = kind' := by
  cases kind <;> cases kind' <;> simp [name]

namespace Literal

/-- The JSON form of what a literal holds: its text, its items or its members. -/
def contentToJson : Literal → Json
  | scalar _ text _ => .string text
  | array items _ => .array (itemsToJson items)
  | object members _ => .array (membersToJson members)

theorem toJson_eq (l : Literal) :
    l.toJson = .object [("type", .string l.kindName), ("value", l.contentToJson)] := by
  cases l <;> simp [toJson, kindName, contentToJson]

/-- Two forms of literals are equal where the kinds and what is held are. -/
theorem same_node (kind kind' : String) (a a' : Json) :
    Json.same (.object [("type", .string kind), ("value", a)])
        (.object [("type", .string kind'), ("value", a')]) =
      (decide (kind = kind') && a.same a') := by
  rw [Json.same_pair (by decide), Json.same_text]

mutual

/-- **The JSON form tells a literal**, wherever it stands. -/
theorem toJson_same_iff : ∀ a b : Literal, (toJson a).same (toJson b) = true ↔ same a b = true
  | scalar kind s _, scalar kind' s' _ => by
      simp [toJson, same_node, Json.same_text, same, ScalarKind.name_inj]
  | array as _, array bs _ => by
      simp [toJson, same_node, Json.same_array, same, itemsToJson_same_iff as bs]
  | object as _, object bs _ => by
      simp [toJson, same_node, Json.same_array, same, membersToJson_same_iff as bs]
  | scalar kind _ _, array _ _ => by cases kind <;> simp [toJson, same_node, same, ScalarKind.name]
  | scalar kind _ _, object _ _ => by cases kind <;> simp [toJson, same_node, same, ScalarKind.name]
  | array _ _, scalar kind _ _ => by cases kind <;> simp [toJson, same_node, same, ScalarKind.name]
  | array _ _, object _ _ => by simp [toJson, same_node, same]
  | object _ _, scalar kind _ _ => by cases kind <;> simp [toJson, same_node, same, ScalarKind.name]
  | object _ _, array _ _ => by simp [toJson, same_node, same]

theorem itemsToJson_same_iff : ∀ as bs : List Literal,
    Json.sameItems (itemsToJson as) (itemsToJson bs) = true ↔ sameItems as bs = true
  | [], [] => by simp [itemsToJson, Json.sameItems, sameItems]
  | [], b :: bs => by simp [itemsToJson, Json.sameItems, sameItems]
  | a :: as, [] => by simp [itemsToJson, Json.sameItems, sameItems]
  | a :: as, b :: bs => by
      simp [itemsToJson, Json.sameItems, sameItems, toJson_same_iff a b, itemsToJson_same_iff as bs]

theorem membersToJson_same_iff : ∀ as bs : List (Literal × Literal),
    Json.sameItems (membersToJson as) (membersToJson bs) = true ↔ sameMembers as bs = true
  | [], [] => by simp [membersToJson, Json.sameItems, sameMembers]
  | [], (_, _) :: bs => by simp [membersToJson, Json.sameItems, sameMembers]
  | (_, _) :: as, [] => by simp [membersToJson, Json.sameItems, sameMembers]
  | (k, a) :: as, (k', b) :: bs => by
      have hpair : "key" ≠ "value" := by decide
      simp [membersToJson, Json.sameItems, sameMembers, Json.same_pair hpair, toJson_same_iff k k',
        toJson_same_iff a b, membersToJson_same_iff as bs]

end

end Literal

end DocComments
