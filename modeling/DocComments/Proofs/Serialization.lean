import DocComments.Proofs.ClassIdentity
import DocComments.Proofs.JsonEquality
import DocComments.Proofs.ReadRecords
import DocComments.Proofs.Unplaced

/-!
# Serialization loses nothing that equality sees

The JSON form of a value forgets two things: a list and a tuple both become arrays, and the tag of a
summary becomes a member among its fields.  So two unequal values can have the same form, and that
two records of scans cannot is a matter of what scans record.

`Value.Fills` is the invariant behind it.  Lists are fields of summaries and tuples are items of
lists, so the place of a value tells them apart; no field is called `type`; and an object that is
not a summary is a literal or a parameter, whose kinds and keys are none of a summary.  Of values in
the same place the form tells everything that equality does (`Value.toJson_same_iff`), by induction
over the nesting.
-/

namespace DocComments

open Text

namespace Value

/-! ### Where values stand -/

/-- The places of values: the fields of a summary, and the items of a list or tuple. -/
inductive Place where
  | field
  | item

/-- **The value can stand at a place** in the summary of code. -/
inductive Fills : Place → Value → Prop where
  | absent : Fills .field (.data .null)
  | text (place : Place) (s : String) : Fills place (.text s)
  | parameter (name : String) : Fills .item (.data (.object [("name", .string name)]))
  | literal (place : Place) (l : Literal) : Fills place (.literal l)
  | list {items : List Value} (h : ∀ v ∈ items, Fills .item v) : Fills .field (.list items)
  | tuple {items : List Value} (h : ∀ v ∈ items, Fills .item v) : Fills .item (.tuple items)
  | summary (kind : SummaryKind) {fields : List (String × Value)}
      (hkeys : (OrderedMap.keys fields).Nodup) (htype : "type" ∉ OrderedMap.keys fields)
      (h : ∀ e ∈ fields, Fills .field e.2) : Fills .field (.summary kind fields)

/-! ### Equality, part by part -/

theorem itemsToJson_eq (items : List Value) : itemsToJson items = items.map toJson := by
  induction items with
  | nil => rfl
  | cons v more ih => rw [itemsToJson, List.map_cons, ih]

theorem sameItems_iff {as bs : List Value} :
    sameItems as bs = true ↔ List.Forall₂ (fun a b => same a b = true) as bs := by
  induction as generalizing bs with
  | nil => cases bs <;> simp [sameItems]
  | cons a as ih =>
      cases bs with
      | nil => simp [sameItems]
      | cons b bs => simp [sameItems, ih]

/-- Every field has an equal value in the other summary. -/
theorem sameFields_iff {as bs : List (String × Value)} :
    sameFields as bs = true ↔
      ∀ e ∈ as, ∃ b, OrderedMap.get? e.1 bs = some b ∧ same e.2 b = true := by
  induction as with
  | nil => simp [sameFields]
  | cons e more ih =>
      obtain ⟨k, a⟩ := e
      rw [sameFields, List.forall_mem_cons]
      cases OrderedMap.get? k bs with
      | none => simp
      | some b => simp [ih]

theorem get?_fieldsToJson_eq (key : String) (fields : List (String × Value)) :
    OrderedMap.get? (key : LooseString) (fieldsToJson fields) =
      (OrderedMap.get? key fields).map toJson := by
  induction fields with
  | nil => rfl
  | cons e more ih =>
      obtain ⟨k, v⟩ := e
      rw [fieldsToJson, OrderedMap.get?, OrderedMap.get?, ih]
      by_cases h : k = key
      · simp [h]
      · simp [h, LooseString.ofString_inj]

/-! ### The form of a summary -/

section Summaries

variable {kind kind' : SummaryKind} {as bs fields : List (String × Value)}

/-- The tag comes first, and behind it the fields. -/
theorem toJson_summary (hkeys : (OrderedMap.keys fields).Nodup)
    (htype : "type" ∉ OrderedMap.keys fields) :
    toJson (.summary kind fields) =
      .object (("type", .string kind.name) :: fieldsToJson fields) := by
  rw [toJson, OrderedMap.ofEntries_of_nodup]
  rw [OrderedMap.keys, List.map_cons]
  change (LooseString.ofString "type" :: OrderedMap.keys (fieldsToJson fields)).Nodup
  rw [keys_fieldsToJson]
  refine List.nodup_cons.2 ⟨fun hmem => ?_,
    List.Pairwise.map _ (fun _ _ => mt LooseString.ofString_injective) hkeys⟩
  obtain ⟨key, hkey, heq⟩ := List.mem_map.1 hmem
  rw [LooseString.ofString_injective heq] at hkey
  exact htype hkey

theorem mem_fieldsToJson {e : LooseString × Json} :
    e ∈ fieldsToJson fields ↔ ∃ f ∈ fields, (LooseString.ofString f.1, toJson f.2) = e := by
  induction fields with
  | nil => simp [fieldsToJson]
  | cons f more ih => simp [fieldsToJson, ih, eq_comm]

theorem length_fieldsToJson : (fieldsToJson fields).length = fields.length := by
  induction fields with
  | nil => rfl
  | cons f more ih => rw [fieldsToJson, List.length_cons, ih, List.length_cons]

/-- **The forms of summaries** are equal where the tags are and the forms of the fields. -/
theorem toJson_same_summary (ha : (OrderedMap.keys as).Nodup) (hb : (OrderedMap.keys bs).Nodup)
    (htypea : "type" ∉ OrderedMap.keys as) (htypeb : "type" ∉ OrderedMap.keys bs) :
    (toJson (.summary kind as)).same (toJson (.summary kind' bs)) = true ↔
      kind = kind' ∧ as.length = bs.length ∧
        ∀ e ∈ as, ∃ b, OrderedMap.get? e.1 bs = some b ∧ (toJson e.2).same (toJson b) = true := by
  have hkinds : (kind.name = kind'.name) ↔ kind = kind' := by
    cases kind <;> cases kind' <;> simp [SummaryKind.name]
  -- no field is called as the tag is, so a field is found among the fields
  have hget : ∀ e ∈ as, OrderedMap.get? (LooseString.ofString e.1)
      (("type", .string kind'.name) :: fieldsToJson bs) = (OrderedMap.get? e.1 bs).map toJson := by
    intro e he
    have hne : "type" ≠ e.1 := fun h => htypea (h ▸ List.mem_map_of_mem he)
    rw [OrderedMap.get?, if_neg (mt LooseString.ofString_inj.1 hne), get?_fieldsToJson_eq]
  rw [toJson_summary ha htypea, toJson_summary hb htypeb, Json.same_object, Bool.and_eq_true,
    decide_eq_true_iff, List.length_cons, List.length_cons, Nat.succ_inj, length_fieldsToJson,
    length_fieldsToJson, Json.sameMembers_iff, List.forall_mem_cons, and_left_comm]
  refine and_congr ?_ (and_congr_right fun _ => ?_)
  · simp [OrderedMap.get?, Json.same_text, hkinds]
  · constructor
    · intro h e he
      obtain ⟨_, hfound, hsame⟩ := h _ (mem_fieldsToJson.2 ⟨e, he, rfl⟩)
      rw [hget e he] at hfound
      obtain ⟨b, hfield, rfl⟩ := Option.map_eq_some_iff.1 hfound
      exact ⟨b, hfield, hsame⟩
    · intro h m hm
      obtain ⟨e, he, rfl⟩ := mem_fieldsToJson.1 hm
      obtain ⟨b, hfound, hsame⟩ := h e he
      exact ⟨_, (hget e he).trans (congrArg (Option.map toJson) hfound), hsame⟩

end Summaries

/-! ### Values in the same place -/

/-- The form of a literal is no form of a summary. -/
theorem toJson_literal_summary {l : Literal} {kind : SummaryKind} {fields : List (String × Value)}
    (hkeys : (OrderedMap.keys fields).Nodup) (htype : "type" ∉ OrderedMap.keys fields) :
    (toJson (.literal l)).same (toJson (.summary kind fields)) = false ∧
      (toJson (.summary kind fields)).same (toJson (.literal l)) = false := by
  have hkind : l.kindName ≠ kind.name := by
    cases l with
    | scalar scalar =>
        cases scalar <;> cases kind <;>
          simp [Literal.kindName, ScalarKind.name, SummaryKind.name]
    | _ => cases kind <;> simp [Literal.kindName, SummaryKind.name]
  rw [toJson_summary hkeys htype, toJson, Literal.toJson_eq]
  simp [Json.same_object, Json.sameMembers, OrderedMap.get?, Json.same_text, hkind, hkind.symm]

/-- **Of values in the same place the JSON form tells all that equality does.** -/
theorem toJson_same_iff {place : Place} {a b : Value} (ha : Fills place a) (hb : Fills place b) :
    (toJson a).same (toJson b) = true ↔ same a b = true := by
  induction ha generalizing b
  all_goals cases hb
  case literal.literal l l' =>
    rw [toJson, toJson, same]
    exact l.toJson_same_iff l'
  case list.list items h ih items' h' =>
    rw [toJson, toJson, itemsToJson_eq, itemsToJson_eq, Json.same_array, same, sameItems_iff]
    exact Json.sameItems_map_iff fun a ha b hb => ih a ha (h' b hb)
  case tuple.tuple items h ih items' h' =>
    rw [toJson, toJson, itemsToJson_eq, itemsToJson_eq, Json.same_array, same, sameItems_iff]
    exact Json.sameItems_map_iff fun a ha b hb => ih a ha (h' b hb)
  case summary.summary kind fields hkeys htype h ih kind' fields' hkeys' htype' h' =>
    rw [toJson_same_summary hkeys hkeys' htype htype', same, Bool.and_eq_true, Bool.and_eq_true,
      decide_eq_true_iff, decide_eq_true_iff, sameFields_iff, and_assoc]
    refine and_congr_right fun _ => and_congr_right fun _ => ?_
    refine forall₂_congr fun e he => exists_congr fun b => and_congr_right fun hb => ?_
    exact ih e he (h' _ (OrderedMap.mem_of_get? hb))
  case literal.summary l kind fields hkeys htype h =>
    simp [(toJson_literal_summary hkeys htype).1, same]
  case summary.literal kind fields hkeys htype h ih l =>
    simp [(toJson_literal_summary hkeys htype).2, same]
  -- other values of different sorts differ, and so do their forms; those of one sort are texts
  all_goals
    simp [toJson, text, Literal.toJson_eq, same, Json.same, Json.sameScalar, Json.asNumber?]

end Value

/-! ### Summaries that were read -/

namespace Summary

open Value

/-- What a literal holds is an item of a list. -/
theorem fills_ofContent (l : Literal) : Fills .item (ofContent l) := by
  cases l with
  | scalar kind s line => exact .text .item s
  | array items line =>
      refine .tuple fun v hv => ?_
      obtain ⟨item, -, rfl⟩ := List.mem_map.1 hv
      exact .literal .item item
  | object members line =>
      refine .tuple fun v hv => ?_
      obtain ⟨m, -, rfl⟩ := List.mem_map.1 hv
      refine .tuple fun v hv => ?_
      simp only [List.mem_cons, List.not_mem_nil, or_false] at hv
      rcases hv with rfl | rfl
      · exact .literal .item m.1
      · exact .literal .item m.2

theorem fills_texts (items : List String) : Fills .field (.texts items) := by
  refine .list fun v hv => ?_
  obtain ⟨s, -, rfl⟩ := List.mem_map.1 hv
  exact .text .item s

theorem fills_text? (s : Option String) : Fills .field (.text? s) := by
  cases s with
  | none => exact .absent
  | some s => exact .text .field s

theorem fills_namesOfLiteral (found : Option Literal) :
    Fills .field (.list (namesOfLiteral found)) := by
  refine .list fun v hv => ?_
  match found, hv with
  | some (.scalar .string s _), hv =>
      obtain rfl := List.mem_singleton.1 hv
      exact .text .item s
  | some (.array items _), hv =>
      obtain ⟨l, -, rfl⟩ := List.mem_map.1 hv
      exact fills_ofContent l

theorem fills_memberContents (l : Literal) : Fills .field (.list (memberContents l)) := by
  refine .list fun v hv => ?_
  cases l with
  | object members line =>
      obtain ⟨m, -, rfl⟩ := List.mem_map.1 hv
      exact fills_ofContent m.2
  | _ => exact absurd hv List.not_mem_nil

/-- **Every entry of a configuration fills a field.** -/
theorem fills_entry {source : TokenSource} {e : String × Value} (h : Rule.EntryRead source e) :
    Fills .field e.2 := by
  cases h with
  | extend s => exact .text .field s
  | mixins => exact fills_memberContents _
  | names => exact fills_namesOfLiteral _
  | other => exact .literal .field _

/-- A summary with two fields. -/
theorem fills_pair (kind : SummaryKind) {k k' : String} {v v' : Value} (hne : k ≠ k')
    (htype : "type" ∉ [k, k']) (hv : Fills .field v) (hv' : Fills .field v') :
    Fills .field (.summary kind [(k, v), (k', v')]) := by
  refine .summary kind ?_ htype ?_
  · exact List.nodup_cons.2 ⟨mt List.mem_singleton.1 hne, List.pairwise_singleton _ k'⟩
  · exact List.forall_mem_cons.2 ⟨hv, List.forall_mem_singleton.2 hv'⟩

theorem fills_function (name : Option String) (params : List String) :
    Fills .field (toValue (function name params)) := by
  refine fills_pair .function (by decide) (by decide) (fills_text? name) (.list fun v hv => ?_)
  obtain ⟨p, -, rfl⟩ := List.mem_map.1 hv
  exact .parameter p

theorem fills_isValue {s : Summary} (h : s.IsValue) : Fills .field s.toValue := by
  cases h with
  | function name params => exact fills_function name params
  | extension base =>
      have htype : "type" ∉ ["extend"] := by decide
      exact .summary .extension (List.pairwise_singleton _ _) htype
        (List.forall_mem_singleton.2 (fills_texts base))
  | literal l =>
      exact fills_pair .literal (by decide) (by decide) (fills_text? _) (.text .field l.render)

/-- The keys of a class definition are distinct, and none is the tag. -/
theorem keys_classDefinition (name : String) (entries : List (String × Value)) :
    (OrderedMap.keys (classDefinition name (OrderedMap.ofEntries entries)).fields).Nodup ∧
      "type" ∉ OrderedMap.keys (classDefinition name (OrderedMap.ofEntries entries)).fields := by
  have hfree : ∀ key ∈ reservedKeys, key ∉ OrderedMap.keys
      ((OrderedMap.ofEntries entries).filter fun e => !reservedKeys.contains e.1) := by
    intro key hkey hmem
    obtain ⟨e, he, rfl⟩ := List.mem_map.1 hmem
    have hkept := (List.mem_filter.1 he).2
    simp [hkey] at hkept
  have hsub : ((OrderedMap.ofEntries entries).filter fun e => !reservedKeys.contains e.1).Sublist
      (OrderedMap.ofEntries entries) := List.filter_sublist
  constructor
  · exact List.nodup_cons.2 ⟨hfree "name" (by decide),
      (OrderedMap.nodup_keys_ofEntries entries).sublist (hsub.map _)⟩
  · have hne : "type" ≠ "name" := by decide
    exact mt List.mem_cons.1 (not_or.2 ⟨hne, hfree "type" (by decide)⟩)

/-- **Every summary that was read** has distinct fields, none of them in the place of the tag, and
each holds what a field can. -/
theorem ReadFrom.fills {source : TokenSource} {s : Summary} (h : s.ReadFrom source) :
    Fills .field s.toValue := by
  cases h with
  | unrecognised => exact .summary .unrecognised List.nodup_nil List.not_mem_nil nofun
  | function name params => exact fills_function name params
  | @assignment left right h =>
      refine fills_pair .assignment (by decide) (by decide) (fills_texts left) ?_
      cases right with
      | none => exact .absent
      | some value => exact fills_isValue (h value rfl)
  | @classDefinition name entries h =>
      obtain ⟨hkeys, htype⟩ := keys_classDefinition name entries
      refine .summary .classDefinition hkeys htype ?_
      refine List.forall_mem_cons.2 ⟨.text .field name, fun e he => ?_⟩
      exact fills_entry (h e (OrderedMap.mem_of_mem_ofEntries (List.mem_filter.1 he).1))

end Summary

/-! ### Records -/

theorem sameItems_tags (tags tags' : List Tag) :
    Json.sameItems (tags.map Tag.toJson) (tags'.map Tag.toJson) = true ↔ tags = tags' := by
  rw [Json.sameItems_map_iff (R := Eq) fun t _ t' _ => t.toJson_same_iff t', List.forall₂_eq_eq_eq]

/-- **The JSON form tells a record** whose code was read from a source. -/
theorem Record.toJson_same_iff {source source' : TokenSource} {r r' : Record}
    (h : r.code.ReadFrom source) (h' : r'.code.ReadFrom source') :
    r.toJson.same r'.toJson = true ↔ r.same r' = true := by
  have hcode : r.code.toJson.same r'.code.toJson = true ↔ r.code.same r'.code = true :=
    Value.toJson_same_iff h.fills h'.fills
  simp [toJson, Record.same, Json.same_object, Json.sameMembers, OrderedMap.get?,
    LooseString.ofString_inj, Json.same_array, Json.same_int, sameItems_tags, hcode, and_assoc]

namespace Scanner

/-- **Serialization loses nothing that equality sees.**  Two records of scans, of whatever sources,
in whatever modes and after whatever runs, are equal exactly if their JSON forms are; and so are two
literals, which is to say that nothing differs but lines. -/
theorem records_told_by_json :
    (∀ (mode mode' : ScanMode) (runs runs' : Nat) (source source' : TokenSource),
      ∀ r ∈ (afterScans mode runs (ofSource source)).records,
      ∀ r' ∈ (afterScans mode' runs' (ofSource source')).records,
        r.same r' = true ↔ r.toJson.same r'.toJson = true) ∧
    ∀ a b : Literal, (a.same b = true ↔ a.toJson.same b.toJson = true) ∧
      (a.same b = true ↔ a.bare = b.bare) := by
  constructor
  · intro mode mode' runs runs' source source' r hr r' hr'
    have h := (readFrom_afterScans mode runs source).records r hr
    have h' := (readFrom_afterScans mode' runs' source').records r' hr'
    exact (Record.toJson_same_iff h h').symm
  · exact fun a b => ⟨(a.toJson_same_iff b).symm, a.same_iff b⟩

/-- A literal on another line, an object with nothing in it in the place of an array. -/
theorem records_told_by_json_lines :
    let source := TokenSource.ofString "/***/Ext.define('A',\x7bmixins:\x7bm:[]\x7d\x7d)"
    let source' := TokenSource.ofString "/***/Ext.define('A',\x7bmixins:\x7bm:\n\x7b\x7d\x7d\x7d)"
    let mode : ScanMode := ⟨false, Tag.readAll⟩
    ∃ r ∈ (afterScans mode 1 (ofSource source)).records,
      ∃ r' ∈ (afterScans mode 1 (ofSource source')).records,
        r.same r' = true ∧ r.toJson.same r'.toJson = true := by
  intro source source' mode
  have hsame : ((afterScans mode 1 (ofSource source)).records.any fun r =>
      (afterScans mode 1 (ofSource source')).records.any fun r' => r.same r') = true := by
    decide +kernel
  obtain ⟨r, hr, hany⟩ := List.any_eq_true.1 hsame
  obtain ⟨r', hr', heq⟩ := List.any_eq_true.1 hany
  exact ⟨r, hr, r', hr', heq,
    (records_told_by_json.1 mode mode 1 1 source source' r hr r' hr').1 heq⟩

end Scanner

end DocComments
