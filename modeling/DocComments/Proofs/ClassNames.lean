import DocComments.Proofs.ReadRecords

/-!
# The names that a class definition lists

The aliases and the alternate names of a class are kept as what a literal lists, and they are texts
exactly where the literal lists nothing but scalars.  An item of an array that is itself an array or
an object is kept as what it holds, which is no text; and a field whose word is
`alternateClassNames` is no field for names, so that its literal is kept as it is.

`Scanner.names_of_scans` says so of every record of scans, by where the field was read.
-/

namespace DocComments

/-! ### Lists of texts -/

/-- The value is a text. -/
def Value.isText : Value → Bool
  | .data (.string _) => true
  | _ => false

/-- **The value is a list of texts.** -/
def Value.isTexts : Value → Bool
  | .list items => items.all Value.isText
  | _ => false

/-- The literal has no parts. -/
def Literal.isScalar : Literal → Bool
  | .scalar _ _ _ => true
  | _ => false

/-- **What the rule for literals found lists nothing but texts**: it is no array with an array or an
object in it. -/
def listsTexts : Option Literal → Bool
  | some (.array items _) => items.all Literal.isScalar
  | _ => true

theorem Value.isText_ofContent (l : Literal) : (Value.ofContent l).isText = l.isScalar := by
  cases l <;> rfl

/-- **The names of a literal are texts** exactly where it lists nothing else. -/
theorem isTexts_namesOfLiteral (found : Option Literal) :
    (Value.list (namesOfLiteral found)).isTexts = listsTexts found := by
  match found with
  | none => rfl
  | some (.scalar kind s line) => cases kind <;> rfl
  | some (.object members line) => rfl
  | some (.array items line) =>
      rw [namesOfLiteral, Value.isTexts, listsTexts, List.all_map]
      exact congrArg (items.all ·) (funext Value.isText_ofContent)

/-! ### Class definitions -/

namespace Summary

variable {source : TokenSource} {s : Summary} {key : String} {value : Value}

/-- A field of a class definition is its name or an entry that was read. -/
theorem ReadFrom.entry (h : s.ReadFrom source) (hkind : s.kind = .classDefinition)
    (hmem : (key, value) ∈ s.fields) : key = "name" ∨ Rule.EntryRead source (key, value) := by
  cases h with
  | unrecognised => exact nomatch hkind
  | function => exact nomatch hkind
  | assignment => exact nomatch hkind
  | @classDefinition name entries h =>
      rcases List.mem_cons.1 hmem with heq | hmem
      · exact .inl (Prod.mk.inj heq).1
      · exact .inr (h _ (OrderedMap.mem_of_mem_ofEntries (List.mem_filter.1 hmem).1))

end Summary

namespace Rule.EntryRead

variable {source : TokenSource} {e : String × Value}

/-- Aliases are what a literal behind that word lists. -/
theorem of_alias (h : EntryRead source e) (hkey : e.1 = "alias") :
    ∃ found, source.ReadsField "alias" found ∧ e.2 = .list (namesOfLiteral found) := by
  cases h with
  | extend s => exact absurd hkey (by simp)
  | mixins => exact absurd hkey (by simp)
  | @names word key found hword hread =>
      obtain rfl : key = "alias" := hkey
      obtain rfl : word = "alias" := by simpa [namesWords] using hword
      exact ⟨found, hread, rfl⟩
  | other hnot => exact absurd hkey (hnot ("alias", "alias") (by decide))

/-- Alternate names are what a literal lists, or a literal that is behind the key itself. -/
theorem of_alternateClassNames (h : EntryRead source e) (hkey : e.1 = "alternateClassNames") :
    (∃ found, source.ReadsField "alternateClassName" found ∧
        e.2 = .list (namesOfLiteral found)) ∨
      ∃ l, source.ReadsField "alternateClassNames" (some l) ∧ e.2 = .literal l := by
  cases h with
  | extend s => exact absurd hkey (by simp)
  | mixins => exact absurd hkey (by simp)
  | @names word key found hword hread =>
      obtain rfl : key = "alternateClassNames" := hkey
      obtain rfl : word = "alternateClassName" := by simpa [namesWords] using hword
      exact .inl ⟨found, hread, rfl⟩
  | @other key l hnot hread =>
      obtain rfl : key = "alternateClassNames" := hkey
      exact .inr ⟨l, hread, rfl⟩

end Rule.EntryRead

/-! ### Records of scans -/

namespace Scanner

/-- **What the names of a class are.**  In every class definition that scans record, the aliases are
a list, and the alternate names are one unless a field has their very key; a list has been read
behind its word, and is one of texts exactly if the literal there lists nothing else. -/
theorem names_of_scans (mode : ScanMode) (runs : Nat) (source : TokenSource) :
    ∀ r ∈ (afterScans mode runs (ofSource source)).records, r.code.kind = .classDefinition →
      ∀ value,
        (("alias", value) ∈ r.code.fields →
          ∃ found, source.ReadsField "alias" found ∧ value = .list (namesOfLiteral found) ∧
            value.isTexts = listsTexts found) ∧
        (("alternateClassNames", value) ∈ r.code.fields →
          (∃ found, source.ReadsField "alternateClassName" found ∧
              value = .list (namesOfLiteral found) ∧ value.isTexts = listsTexts found) ∨
            ∃ l, source.ReadsField "alternateClassNames" (some l) ∧ value = .literal l) := by
  intro r hr hkind value
  have hread := (readFrom_afterScans mode runs source).records r hr
  constructor
  · intro hmem
    have hentry := (hread.entry hkind hmem).resolve_left (by decide)
    obtain ⟨found, hfield, rfl⟩ := hentry.of_alias rfl
    exact ⟨found, hfield, rfl, isTexts_namesOfLiteral found⟩
  · intro hmem
    have hentry := (hread.entry hkind hmem).resolve_left (by decide)
    rcases hentry.of_alternateClassNames rfl with ⟨found, hfield, rfl⟩ | ⟨l, hfield, rfl⟩
    · exact .inl ⟨found, hfield, rfl, isTexts_namesOfLiteral found⟩
    · exact .inr ⟨l, hfield, rfl⟩

/-- A list of a name and an array. -/
theorem names_of_scans_mixed :
    let source := TokenSource.ofString "/***/Ext.define('A',\x7balias:[b,['c']]\x7d)"
    ∃ r ∈ (afterScans ⟨false, Tag.readAll⟩ 1 (ofSource source)).records,
      r.code.kind = .classDefinition ∧ ∃ value, ("alias", value) ∈ r.code.fields ∧
        ∃ found, source.ReadsField "alias" found ∧ value = .list (namesOfLiteral found) ∧
          value.isTexts = listsTexts found := by
  intro source
  have haliased : ((afterScans ⟨false, Tag.readAll⟩ 1 (ofSource source)).records.any fun r =>
      decide (r.code.kind = .classDefinition) &&
        r.code.fields.any fun e => decide (e.1 = "alias")) = true := by
    decide +kernel
  obtain ⟨r, hr, hcode⟩ := List.any_eq_true.1 haliased
  obtain ⟨hkind, hfields⟩ := Bool.and_eq_true_iff.1 hcode
  obtain ⟨⟨key, value⟩, hmem, hkey⟩ := List.any_eq_true.1 hfields
  obtain rfl : key = "alias" := of_decide_eq_true hkey
  have hkind : r.code.kind = .classDefinition := of_decide_eq_true hkind
  exact ⟨r, hr, hkind, value, hmem, (names_of_scans _ 1 source r hr hkind value).1 hmem⟩

/-- **Names need not be texts**: an array in the list of aliases stays one. -/
theorem names_not_texts : ¬∀ (source : String) (mode : ScanMode),
    ∀ r ∈ (afterScans mode 1 (ofString source)).records, r.code.kind = .classDefinition →
      ∀ value, (("alias", value) ∈ r.code.fields → value.isTexts = true) ∧
        (("alternateClassNames", value) ∈ r.code.fields → value.isTexts = true) := by
  intro h
  let source := "/***/Ext.define('A',\x7balias:[['x']]\x7d)"
  have hnested : ((afterScans ⟨false, Tag.readAll⟩ 1 (ofString source)).records.any fun r =>
      decide (r.code.kind = .classDefinition) &&
        r.code.fields.any fun e => decide (e.1 = "alias") && !e.2.isTexts) = true := by
    decide +kernel
  obtain ⟨r, hr, hcode⟩ := List.any_eq_true.1 hnested
  obtain ⟨hkind, hfields⟩ := Bool.and_eq_true_iff.1 hcode
  obtain ⟨⟨key, value⟩, hmem, hfield⟩ := List.any_eq_true.1 hfields
  obtain ⟨hkey, htexts⟩ := Bool.and_eq_true_iff.1 hfield
  obtain rfl : key = "alias" := of_decide_eq_true hkey
  have hall := (h source ⟨false, Tag.readAll⟩ r hr (of_decide_eq_true hkind) value).1 hmem
  rw [hall] at htexts
  exact absurd htexts (by decide)

end Scanner

end DocComments
