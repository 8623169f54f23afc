import DocComments.Proofs.CodeBlockTree

/-!
# The configuration of a class is read field by field

A class definition whose configuration is spelled out is summed up by the fold of its fields
(`Rule.classDefinition_of_fields`).  `DefinitionHead` is how the call starts, `FieldTokens` a field
with the comma behind it, and `FieldTokens.entry` what the field is stored as.

Five rules overlap on a field, and the first that fits is taken.  Which one that is depends on the
key and on the first token of the value, so all five are settled at once in
`Rule.takes_configField`.  Behind the last field no rule fits, for all of them ask for a name and a
colon (`Upcoming.Misses.field`).
-/

namespace DocComments

/-! ### The tokens of a class definition -/

/-- **The head of a call that defines a class**, up to and with the class name. -/
inductive DefinitionHead : Token → List Token → Prop where
  | define {ext point word opening name : Token} (hext : ext.IsName "Ext")
      (hpoint : point.IsPunct ".") (hword : word.IsName "define") (hopen : opening.IsPunct "(")
      (hname : name.kind = .string) : DefinitionHead name [ext, point, word, opening, name]
  | create {ext point manager link word opening name : Token} (hext : ext.IsName "Ext")
      (hpoint : point.IsPunct ".") (hmanager : manager.IsName "ClassManager")
      (hlink : link.IsPunct ".") (hword : word.IsName "create") (hopen : opening.IsPunct "(")
      (hname : name.kind = .string) :
      DefinitionHead name [ext, point, manager, link, word, opening, name]

/-- **The tokens of a field** of a configuration, with the comma behind it if there is one. -/
structure FieldTokens extends MemberTokens where
  /-- The comma. -/
  comma : Option Token

/-- **What a field is stored as**: under which key, and with which value. -/
def fieldEntry (key : String) (l : Literal) : String × Value :=
  if key = "alternateClassName" then ("alternateClassNames", .list (namesOfLiteral (some l)))
  else if key = "alias" then (key, .list (namesOfLiteral (some l)))
  else match l with
    | .scalar .string s _ => (key, if key = "extend" then .text s else .literal l)
    | .object members _ =>
        (key, if key = "mixins" then .list (members.map fun m => .ofContent m.2) else .literal l)
    | _ => (key, .literal l)

namespace FieldTokens

/-- The key is a name, the value a literal. -/
structure Fits (f : FieldTokens) : Prop where
  /-- The key. -/
  key : f.key.kind = .ident
  /-- The colon. -/
  colon : f.colon.IsPunct ":"
  /-- The value. -/
  value : f.value.Sentence f.tokens
  /-- The comma. -/
  comma : ∀ comma ∈ f.comma, comma.IsPunct ","

/-- All tokens of the field. -/
def spelling (f : FieldTokens) : List Token :=
  f.all ++ f.comma.toList

/-- What the field is stored as. -/
def entry (f : FieldTokens) : String × Value :=
  fieldEntry f.key.text f.value

end FieldTokens

/-- **The fold of some entries**: each key in its first place and with its last value, the reserved
ones left out. -/
def foldedFields (entries : List (String × Value)) : List (String × Value) :=
  ((OrderedMap.keys entries).eraseDups.filter (· ∉ Summary.reservedKeys)).filterMap fun key =>
    (OrderedMap.get? key entries.reverse).map (key, ·)

theorem classDefinition_summary (name : String) (entries : List (String × Value)) :
    Summary.classDefinition name (OrderedMap.ofEntries entries) =
      ⟨.classDefinition, ("name", .text name) :: foldedFields entries⟩ := by
  have hfold : (OrderedMap.ofEntries entries).filter
      (fun e => !Summary.reservedKeys.contains e.1) = foldedFields entries := by
    rw [OrderedMap.ofEntries_eq, foldedFields, List.filter_filterMap, List.filterMap_filter]
    refine List.filterMap_congr fun key _ => ?_
    cases OrderedMap.get? key entries.reverse with
    | none => simp
    | some value => by_cases h : key ∈ Summary.reservedKeys <;> simp [h]
  rw [Summary.classDefinition, hfold]

theorem fieldEntry_other {key : String} {l : Literal} (halternate : key ≠ "alternateClassName")
    (halias : key ≠ "alias") (hextend : key = "extend" → ∀ s line, l ≠ .scalar .string s line)
    (hmixins : key = "mixins" → ∀ members line, l ≠ .object members line) :
    fieldEntry key l = (key, .literal l) := by
  unfold fieldEntry
  rw [if_neg halternate, if_neg halias]
  split
  · next s line => rw [if_neg fun h => hextend h s line rfl]
  · next members line => rw [if_neg fun h => hmixins h members line rfl]
  · rfl

/-! ### The first token of a literal -/

section First

variable {l : Literal} {first : Token} {more : List Token}

theorem Literal.Sentence.eq_of_string (h : l.Sentence (first :: more))
    (hkind : first.kind = .string) : l = .scalar .string first.text first.line ∧ more = [] := by
  cases h with
  | @scalar _ kind hscalar =>
      rw [hkind] at hscalar
      obtain rfl : ScalarKind.string = kind := Option.some.inj hscalar
      exact ⟨rfl, rfl⟩
  | array hopen => exact absurd (hopen.1.symm.trans hkind) (by decide)
  | object hopen => exact absurd (hopen.1.symm.trans hkind) (by decide)

theorem Literal.Sentence.kind_of_string {s : String} {line : Int}
    (h : Literal.Sentence (.scalar .string s line) (first :: more)) : first.kind = .string := by
  cases h with
  | scalar hscalar =>
      unfold TokenKind.scalarKind? at hscalar
      split at hscalar <;> simp_all

/-- A brace opens an object. -/
theorem Literal.Sentence.eq_of_brace (h : l.Sentence (first :: more)) (hkinded : first.Kinded)
    (hbrace : TokenTest.fits "\x7b" first = true) : ∃ members line, l = .object members line := by
  have hpunct : first.kind = .punct := (hkinded.told (by decide) hbrace).1
  cases h with
  | scalar hscalar => simp [hpunct, TokenKind.scalarKind?] at hscalar
  | array hopen =>
      rw [hopen.fits_text] at hbrace
      exact absurd hbrace (by decide)
  | object => exact ⟨_, _, rfl⟩

theorem Literal.Sentence.brace_of_object {members : List (Literal × Literal)} {line : Int}
    (h : Literal.Sentence (.object members line) (first :: more)) :
    TokenTest.fits "\x7b" first = true := by
  cases h with
  | object hopen => simp [hopen.fits_text]

end First

/-! ### Where no field starts -/

/-- The names that the rules for fields ask for. -/
def fieldNames : List String :=
  ["extend", "mixins", "alternateClassName", "alias"]

/-- **Where no name with a colon starts, no field does.** -/
theorem Upcoming.Misses.field {v : Upcoming} (h : v.Misses [TokenKind.ident, ":"])
    (hkinded : ∀ t, .ok t ∈ v → t.Kinded) {name : String} (hname : name ∈ fieldNames)
    (more : List TokenTest) : v.Misses (name :: ":" :: more) := by
  have hnames : ∀ name ∈ fieldNames, startsNumber name.toList = false ∧
      kindOfText name.toList = .ident := by
    decide
  obtain ⟨hnumber, hident⟩ := hnames name hname
  match v, h with
  | [], _ => trivial
  | .ok t :: behind, h =>
      by_cases hfits : TokenTest.fits (.text name) t = true
      · -- then it is a name, and no colon comes behind it
        have hkind : t.kind = .ident :=
          ((hkinded t List.mem_cons_self).kind_eq hnumber hfits).trans hident
        have hcolon : Upcoming.Misses [":"] behind :=
          h.resolve_left (by simp [TokenTest.fits_kind, hkind])
        refine .inr ?_
        match behind, hcolon with
        | [], _ => trivial
        | .ok t' :: _, hcolon => exact .inl (hcolon.resolve_right id)
      · exact misses_cons (by simpa using hfits)

namespace Rule

open TokenSource

variable {u v : Upcoming}

/-! ### One field -/

section Field

variable {f : FieldTokens}

/-- The key that a rule asks for, and the colon. -/
theorem takes_key (hf : f.Fits) {word : String} (hword : f.key.text = word)
    (v : Upcoming) : Takes (.ok f.key :: .ok f.colon :: v) (expect [word, ":"]) f.colon v := by
  refine takes_expect [f.key] f.colon rfl ?_ v
  simp [TokenTest.fits_text, hf.key, TokenKind.hasPlainText, hword, hf.colon.fits_text]

theorem takes_extendField (hf : f.Fits) (hword : f.key.text = "extend") {t : Token}
    (ht : t.kind = .string) (v : Upcoming) :
    Takes (.ok f.key :: .ok f.colon :: .ok t :: v) extendField ("extend", .text t.text) v := by
  have hfit : TokenTest.fitAll ["extend", ":", TokenKind.string] [f.key, f.colon, t] = true := by
    simp [TokenTest.fits_text, TokenTest.fits_kind, hf.key, TokenKind.hasPlainText, hword,
      hf.colon.fits_text, ht]
  exact (takes_expect [f.key, f.colon] t rfl hfit v).bind (takes_pure _ _)

theorem takes_mixinsField (hf : f.Fits) (hword : f.key.text = "mixins") (v : Upcoming) :
    Takes (f.all.map .ok ++ v) mixinsField
      (some ("mixins", .list (memberContents f.value))) v :=
  (takes_key hf hword _).bind ((takes_literal hf.value v).bind (takes_pure _ _))

theorem takes_namesField (hf : f.Fits) {word : String} (hword : f.key.text = word) (key : String)
    (v : Upcoming) : Takes (f.all.map .ok ++ v) (namesField word key)
      (key, .list (namesOfLiteral (some f.value))) v :=
  (takes_key hf hword _).bind ((takes_literal hf.value v).bind (takes_pure _ _))

theorem takes_otherField (hf : f.Fits) (v : Upcoming) :
    Takes (f.all.map .ok ++ v) otherField (some (f.key.text, .literal f.value)) v := by
  have hkey : TokenTest.fits TokenKind.ident f.key = true := by simp [TokenTest.fits_kind, hf.key]
  refine (takes_expectOne hkey _).bind ((takes_expectOne_punct hf.colon _).bind ?_)
  exact (takes_literal hf.value v).bind (takes_pure _ _)

/-- **A field is read as its entry**, in front of anything. -/
theorem takes_configField (hf : f.Fits) (hkinded : ∀ t ∈ f.tokens, t.Kinded) (v : Upcoming) :
    Takes (f.all.map .ok ++ v) configField (some f.entry) v := by
  obtain ⟨first, more, htokens, -⟩ := hf.value.exists_first
  have hall : f.all.map .ok ++ v = [f.key, f.colon, first].map .ok ++ (more.map .ok ++ v) := by
    simp [MemberTokens.all, htokens]
  have hkey : ∀ text : String, TokenTest.fits (.text text) f.key = decide (f.key.text = text) :=
    fun text => by
      rw [TokenTest.fits_text, hf.key]
      rfl
  have hsentence := hf.value
  rw [htokens] at hsentence
  have hfirst : first.Kinded := hkinded first (by simp [htokens])
  -- the rules are tried in order, and each look is answered by the first three tokens
  have hextend : TokenTest.fitAll ["extend", ":", TokenKind.string] [f.key, f.colon, first] =
      (decide (f.key.text = "extend") && decide (first.kind = .string)) := by
    simp [hkey, hf.colon.fits_text, TokenTest.fits_kind]
  have hmixins : TokenTest.fitAll ["mixins", ":", "\x7b"] [f.key, f.colon, first] =
      (decide (f.key.text = "mixins") && TokenTest.fits "\x7b" first) := by
    simp [hkey, hf.colon.fits_text]
  have hname : ∀ word : String, TokenTest.fitAll [word, ":"] [f.key, f.colon, first] =
      decide (f.key.text = word) := fun word => by simp [hkey, hf.colon.fits_text]
  have hother : TokenTest.fitAll [TokenKind.ident, ":"] [f.key, f.colon, first] = true := by
    simp [TokenTest.fits_kind, hf.key, hf.colon.fits_text]
  rw [hall]
  refine takes_ite_look [f.key, f.colon, first] (by decide) (by simp) ?_
  rw [hextend]
  split
  · next h =>
      obtain ⟨hword, hstring⟩ : f.key.text = "extend" ∧ first.kind = .string := by simpa using h
      obtain ⟨hvalue, rfl⟩ := hsentence.eq_of_string hstring
      have hentry : f.entry = ("extend", .text first.text) := by
        simp [FieldTokens.entry, fieldEntry, hword, hvalue]
      rw [hentry]
      exact (takes_extendField hf hword hstring v).map some
  next hnoExtend =>
  refine takes_ite_look [f.key, f.colon, first] (by decide) (by simp) ?_
  rw [hmixins]
  split
  · next h =>
      obtain ⟨hword, hbrace⟩ : f.key.text = "mixins" ∧ TokenTest.fits "\x7b" first = true := by
        simpa using h
      obtain ⟨members, line, hvalue⟩ := hsentence.eq_of_brace hfirst hbrace
      have hentry : f.entry = ("mixins", .list (memberContents f.value)) := by
        simp [FieldTokens.entry, fieldEntry, hword, hvalue, memberContents]
      rw [hentry, ← hall]
      exact takes_mixinsField hf hword v
  next hnoMixins =>
  refine takes_ite_look [f.key, f.colon, first] (by decide) (by simp) ?_
  rw [hname]
  split
  · next h =>
      have hword : f.key.text = "alternateClassName" := by simpa using h
      have hentry : f.entry = ("alternateClassNames", .list (namesOfLiteral (some f.value))) := by
        simp [FieldTokens.entry, fieldEntry, hword]
      rw [hentry, ← hall]
      exact (takes_namesField hf hword _ v).map some
  next hnoAlternate =>
  refine takes_ite_look [f.key, f.colon, first] (by decide) (by simp) ?_
  rw [hname]
  split
  · next h =>
      have hword : f.key.text = "alias" := by simpa using h
      have hentry : f.entry = ("alias", .list (namesOfLiteral (some f.value))) := by
        simp [FieldTokens.entry, fieldEntry, hword]
      rw [hentry, ← hall]
      exact (takes_namesField hf hword _ v).map some
  next hnoAlias =>
  refine takes_ite_look [f.key, f.colon, first] (by decide) (by simp) ?_
  rw [hother, if_pos rfl, ← hall]
  have hentry : f.entry = (f.key.text, .literal f.value) := by
    refine fieldEntry_other (by simpa using hnoAlternate) (by simpa using hnoAlias) ?_ ?_
    · rintro hword s line hvalue
      rw [hvalue] at hsentence
      simp [hword, hsentence.kind_of_string] at hnoExtend
    · rintro hword members line hvalue
      rw [hvalue] at hsentence
      simp [hword, hsentence.brace_of_object] at hnoMixins
  rw [hentry]
  exact takes_otherField hf v

end Field

/-! ### All fields -/

/-- The field at the next token, with the comma behind it. -/
def configRound : Rule (Option (String × Value)) := do
  match ← configField with
  | none => pure none
  | some field =>
      let _ ← acceptOne ","
      pure (some field)

theorem takes_configField_none (h : v.Misses [TokenKind.ident, ":"])
    (hkinded : ∀ t, .ok t ∈ v → t.Kinded) : Takes v configField none v := by
  refine takes_ite_look_false (by decide) (h.field hkinded (by decide) _) ?_
  refine takes_ite_look_false (by decide) (h.field hkinded (by decide) _) ?_
  refine takes_ite_look_false (by decide) (h.field hkinded (by decide) _) ?_
  refine takes_ite_look_false (by decide) (h.field hkinded (by decide) _) ?_
  exact takes_ite_look_false (by decide) h (takes_pure none v)

/-- **One round finds one field**, and takes the comma behind it where there is one. -/
theorem takes_configRound {f : FieldTokens} (hf : f.Fits) (hkinded : ∀ t ∈ f.tokens, t.Kinded)
    (hcomma : f.comma = none → v.Misses [","]) :
    Takes (f.spelling.map .ok ++ v) configRound (some f.entry) v := by
  rw [FieldTokens.spelling, List.map_append, List.append_assoc]
  refine (takes_configField hf hkinded _).bind ?_
  cases hc : f.comma with
  | none => exact (takes_accept_none (isInnerPattern_text ",") (hcomma hc)).bind (takes_pure _ _)
  | some comma => exact (takes_acceptOne_punct (hf.comma comma hc) v).bind (takes_pure _ _)

variable {fields : List FieldTokens}

/-- **The rounds find the fields**, one by one, up to where none starts. -/
theorem finds_fields (hfields : ∀ f ∈ fields, f.Fits)
    (hkinded : ∀ t, .ok t ∈ (fields.flatMap (·.spelling)).map .ok ++ v → t.Kinded)
    (hends : v.Misses [TokenKind.ident, ":"])
    (hlast : ∀ f ∈ fields.getLast?, f.comma = none → v.Misses [","]) :
    Finds configRound ((fields.flatMap (·.spelling)).map .ok ++ v) (fields.map (·.entry)) v := by
  induction fields with
  | nil => exact .done ((takes_configField_none hends hkinded).bind (takes_pure _ _))
  | cons f fields ih =>
      obtain ⟨hf, hothers⟩ := List.forall_mem_cons.1 hfields
      rw [List.flatMap_cons, List.map_append, List.append_assoc] at hkinded ⊢
      have hlater : ∀ t, .ok t ∈ (fields.flatMap (·.spelling)).map .ok ++ v → t.Kinded :=
        fun t ht => hkinded t (List.mem_append_right _ ht)
      have hcomma : f.comma = none →
          Upcoming.Misses [","] ((fields.flatMap (·.spelling)).map .ok ++ v) := by
        intro hnone
        cases fields with
        | nil => exact hlast f rfl hnone
        | cons g fields =>
            -- a name comes next, and a name is no comma
            have hkey : g.key.Kinded := hlater g.key (by
              simp [FieldTokens.spelling, MemberTokens.all])
            refine Upcoming.misses_cons (Bool.eq_false_iff.2 fun hfits => ?_)
            have hpunct := hkey.kind_eq (by decide) hfits
            rw [(hothers g List.mem_cons_self).key] at hpunct
            exact absurd hpunct (by decide)
      have hvalue : ∀ t ∈ f.tokens, t.Kinded := fun t ht => hkinded t (by
        simp [FieldTokens.spelling, MemberTokens.all, ht])
      refine .round (takes_configRound hf hvalue hcomma) ?_ (ih hothers hlater fun g hg => ?_)
      · simp [FieldTokens.spelling, MemberTokens.all]
        omega
      · refine hlast g ?_
        cases fields with
        | nil => exact absurd hg (by simp)
        | cons => rwa [List.getLast?_cons_cons]

/-- **A configuration is read** up to where no field starts. -/
theorem takes_classConfig {brace : Token} (hbrace : brace.IsPunct "\x7b")
    (hfields : ∀ f ∈ fields, f.Fits)
    (hkinded : ∀ t, .ok t ∈ (fields.flatMap (·.spelling)).map .ok ++ v → t.Kinded)
    (hends : v.Misses [TokenKind.ident, ":"])
    (hlast : ∀ f ∈ fields.getLast?, f.comma = none → v.Misses [","]) :
    Takes (.ok brace :: ((fields.flatMap (·.spelling)).map .ok ++ v)) classConfig
      (fields.map (·.entry)) v :=
  (takes_expectOne_punct hbrace _).bind (finds_fields hfields hkinded hends hlast).takes_many

/-! ### Class definitions -/

/-- The pattern that either call starts with. -/
def callStart : List TokenTest := ["Ext", "."]

/-- The pattern of the longer call. -/
def createCall : List TokenTest := ["ClassManager", ".", "create"]

/-- The pattern that opens the call. -/
def callOpening : List TokenTest := ["(", TokenKind.string]

/-- The head of a call that defines a class, up to the class name. -/
def definitionHead : Rule Token := do
  let _ ← expect callStart (by decide)
  if ← look ["define"] then
    let _ ← expectOne "define"
  else
    let _ ← expect createCall (by decide)
  expect callOpening (by decide)

/-- What follows the class name. -/
def definitionConfig : Rule (List (String × Value)) := do
  let configured ← look [",", "\x7b"]
  let continued ← look [","]
  if configured then do
    let _ ← expectOne ","
    classConfig
  else if continued then pure []
  else do
    let _ ← expectOne ")"
    pure []

theorem classDefinition_eq : classDefinition = (do
    let name ← definitionHead
    let fields ← definitionConfig
    pure (.classDefinition name.text (OrderedMap.ofEntries fields))) := by
  unfold classDefinition definitionHead definitionConfig
  simp only [bind_assoc]
  refine bind_congr fun _ => bind_congr fun isDefine => ?_
  cases isDefine
  all_goals
    simp only [Bool.false_eq_true, if_false, if_true, bind_assoc]
    refine bind_congr fun _ => bind_congr fun name => bind_congr fun configured =>
      bind_congr fun continued => ?_
    cases configured <;> cases continued <;> simp

theorem takes_definitionHead {name : Token} {head : List Token} (h : DefinitionHead name head)
    (v : Upcoming) : Takes (head.map .ok ++ v) definitionHead name v := by
  cases h with
  | @define ext point word opening _ hext hpoint hword hopen hname =>
      have hcall : TokenTest.fitAll ["Ext", "."] [ext, point] = true := by
        simp [hext.fits_text, hpoint.fits_text]
      have hdefine : TokenTest.fits "define" word = true := by simp [hword.fits_text]
      have hclass : TokenTest.fitAll ["(", TokenKind.string] [opening, name] = true := by
        simp [hopen.fits_text, TokenTest.fits_kind, hname]
      refine (takes_expect [ext] point rfl hcall _).bind ?_
      refine takes_ite_look [word] (by decide) (by simp) ?_
      rw [if_pos (by simp [hdefine])]
      refine (takes_expectOne hdefine _).bind ?_
      exact takes_expect [opening] name rfl hclass v
  | @create ext point manager link word opening _ hext hpoint hmanager hlink hword hopen hname =>
      have hcall : TokenTest.fitAll ["Ext", "."] [ext, point] = true := by
        simp [hext.fits_text, hpoint.fits_text]
      have hdefine : TokenTest.fits "define" manager = false := by simp [hmanager.fits_text]
      have hcreate : TokenTest.fitAll ["ClassManager", ".", "create"] [manager, link, word] =
          true := by
        simp [hmanager.fits_text, hlink.fits_text, hword.fits_text]
      have hclass : TokenTest.fitAll ["(", TokenKind.string] [opening, name] = true := by
        simp [hopen.fits_text, TokenTest.fits_kind, hname]
      refine (takes_expect [ext] point rfl hcall _).bind ?_
      refine takes_ite_look [manager] (by decide) (by simp) ?_
      rw [if_neg (by simp [hdefine])]
      refine (takes_expect [manager, link] word rfl hcreate _).bind ?_
      exact takes_expect [opening] name rfl hclass v

theorem takes_definitionConfig {comma brace : Token} {fields : List (String × Value)}
    (hcomma : comma.IsPunct ",") (hbrace : brace.IsPunct "\x7b")
    (h : Takes (.ok brace :: u) classConfig fields v) :
    Takes (.ok comma :: .ok brace :: u) definitionConfig fields v := by
  have hboth : TokenTest.fitAll [",", "\x7b"] [comma, brace] = true := by
    simp [hcomma.fits_text, hbrace.fits_text]
  have hone : TokenTest.fitAll [","] [comma] = true := by simp [hcomma.fits_text]
  refine (takes_look_true hboth u).bind ((takes_look_true hone (.ok brace :: u)).bind ?_)
  exact (takes_expectOne_punct hcomma _).bind h

/-- **A class configuration is folded field by field, completely and in order.**  Behind the head of
a call and an opening brace, any fields are taken up to where none starts, and the summary has the
class name and the fold of the fields.

That the tokens are kinded is no restriction: those of a source are (`kinded_of_mem_upcoming`). -/
theorem classDefinition_of_fields {s : TokenSource} {name comma brace : Token} {head : List Token}
    {fields : List FieldTokens} {v : Upcoming}
    (hs : s.upcoming =
      (head ++ comma :: brace :: fields.flatMap (·.spelling)).map .ok ++ v)
    (hkinded : ∀ t, .ok t ∈ s.upcoming → t.Kinded) (hhead : DefinitionHead name head)
    (hcomma : comma.IsPunct ",") (hbrace : brace.IsPunct "\x7b")
    (hfields : ∀ f ∈ fields, f.Fits) (hends : v.Misses [TokenKind.ident, ":"])
    (hlast : ∀ f ∈ fields.getLast?, f.comma = none → v.Misses [","]) :
    ∃ s', classDefinition s = .ok ⟨.classDefinition,
        ("name", .text name.text) :: foldedFields (fields.map (·.entry))⟩ s' ∧
      s'.upcoming = v := by
  rw [hs] at hkinded
  have hspelling : ∀ t, .ok t ∈ (fields.flatMap (·.spelling)).map .ok ++ v → t.Kinded := by
    intro t ht
    apply hkinded t
    simp only [List.map_append, List.map_cons, List.append_assoc, List.cons_append,
      List.mem_append, List.mem_cons] at ht ⊢
    exact .inr (.inr (.inr ht))
  have hconfig := takes_definitionConfig hcomma hbrace
    (takes_classConfig hbrace hfields hspelling hends hlast)
  rw [← classDefinition_summary, classDefinition_eq]
  rw [List.map_append, List.append_assoc] at hs
  refine (takes_definitionHead hhead _).bind ?_ hs
  exact hconfig.bind (takes_pure _ v)

/-- A comma left out, a reserved key, and a key that comes twice. -/
theorem classDefinition_of_fields_repeated :
    let source := ofString
      "Ext.define('A', \x7bextend: 'B', type: t, mixins: \x7bm: 'M'\x7d x: 1, alias: 'w', x: 2\x7d)"
    let v : Upcoming := [.ok ⟨.punct, "\x7d", 1, 79⟩, .ok ⟨.punct, ")", 1, 80⟩]
    ∃ s', classDefinition source = .ok ⟨.classDefinition,
        [("name", .text "A"), ("extend", .text "B"), ("mixins", .list [.text "M"]),
          ("x", .literal (.scalar .number "2" 1)), ("alias", .list [.text "w"])]⟩ s' ∧
      s'.upcoming = v := by
  intro source v
  let punct (text : String) (column : Int) : Token := ⟨.punct, text, 1, column⟩
  let ident (text : String) (column : Int) : Token := ⟨.ident, text, 1, column⟩
  -- a field whose value is one token
  let field (key colon : Token) (kind : ScalarKind) (t : Token) (comma : Option Token) :
      FieldTokens := ⟨⟨key, colon, .scalar kind t.text t.line, [t]⟩, comma⟩
  let member : MemberTokens :=
    ⟨ident "m" 49, punct ":" 50, .scalar .string "M" 1, [⟨.string, "M", 1, 52⟩]⟩
  let mixins : FieldTokens := ⟨⟨ident "mixins" 40, punct ":" 46, .object [member.member] 1,
    punct "\x7b" 48 :: (member.all ++ [punct "\x7d" 55])⟩, none⟩
  let fields : List FieldTokens :=
    [field (ident "extend" 18) (punct ":" 24) .string ⟨.string, "B", 1, 26⟩ (some (punct "," 29)),
      field (ident "type" 31) (punct ":" 35) .ident (ident "t" 37) (some (punct "," 38)),
      mixins,
      field (ident "x" 57) (punct ":" 58) .number ⟨.number, "1", 1, 60⟩ (some (punct "," 61)),
      field (ident "alias" 63) (punct ":" 68) .string ⟨.string, "w", 1, 70⟩ (some (punct "," 73)),
      field (ident "x" 75) (punct ":" 76) .number ⟨.number, "2", 1, 78⟩ none]
  let head : List Token :=
    [ident "Ext" 1, punct "." 4, ident "define" 5, punct "(" 11, ⟨.string, "A", 1, 12⟩]
  have hs : source.upcoming = (head ++ punct "," 15 :: punct "\x7b" 17 ::
      fields.flatMap (·.spelling)).map .ok ++ v := by
    decide +kernel
  have hkinded : ∀ t, .ok t ∈ source.upcoming → t.Kinded := fun t => kinded_of_mem_upcoming
  have hhead : DefinitionHead ⟨.string, "A", 1, 12⟩ head :=
    .define ⟨rfl, rfl⟩ ⟨rfl, rfl⟩ ⟨rfl, rfl⟩ ⟨rfl, rfl⟩ rfl
  have hfield : ∀ key colon kind t comma, key.kind = .ident → colon.IsPunct ":" →
      t.kind.scalarKind? = some kind → (∀ c ∈ comma, c.IsPunct ",") →
      (field key colon kind t comma).Fits :=
    fun _ _ _ _ _ hkey hcolon hkind hcomma => ⟨hkey, hcolon, .scalar hkind, hcomma⟩
  have hcomma : ∀ column, ∀ c ∈ some (punct "," column), c.IsPunct "," := by
    rintro column c hc
    obtain rfl := Option.some.inj hc
    exact ⟨rfl, rfl⟩
  have hmixins : mixins.Fits := by
    refine ⟨rfl, ⟨rfl, rfl⟩, ?_, by simp [mixins]⟩
    have hopen : Token.IsPunct (punct "\x7b" 48) "\x7b" := ⟨rfl, rfl⟩
    have hclose : Token.IsPunct (punct "\x7d" 55) "\x7d" := ⟨rfl, rfl⟩
    have hfits : ∀ m ∈ [member], m.Fits := List.forall_mem_singleton.2 ⟨.inl rfl, rfl, rfl⟩
    have hmember : ∀ m ∈ [member], m.value.Sentence m.tokens :=
      List.forall_mem_singleton.2 (@Literal.Sentence.scalar ⟨.string, "M", 1, 52⟩ .string rfl)
    exact .object hopen hclose hfits hmember (.last _)
  have hfields : ∀ f ∈ fields, f.Fits := by
    simp only [fields, List.forall_mem_cons]
    exact ⟨hfield _ _ _ _ _ rfl ⟨rfl, rfl⟩ rfl (hcomma 29),
      hfield _ _ _ _ _ rfl ⟨rfl, rfl⟩ rfl (hcomma 38), hmixins,
      hfield _ _ _ _ _ rfl ⟨rfl, rfl⟩ rfl (hcomma 61),
      hfield _ _ _ _ _ rfl ⟨rfl, rfl⟩ rfl (hcomma 73),
      hfield _ _ _ _ _ rfl ⟨rfl, rfl⟩ rfl (by simp), by simp⟩
  exact classDefinition_of_fields hs hkinded hhead ⟨rfl, rfl⟩ ⟨rfl, rfl⟩ hfields (.inl (by decide))
    fun _ _ _ => .inl (by decide)

end Rule

end DocComments
