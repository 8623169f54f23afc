import DocComments.Settings.Reading
import Mathlib.Data.List.Forall2

/-!
# Settings are taken whole or refused with all that is wrong

Each setting admits the values of one type (`SettingKey.Admits`), and a member of an object is
correct if it names a setting that admits its value (`Settings.Correct`).  A correct member sets
what it names and nothing else (`Settings.member_of_correct`), and any other has a problem that says
what is wrong with it (`Settings.exists_problem`).

From the two, member by member: settings are given if and only if all members are correct, and then
each is what the object says, or else the default; otherwise the problems are those of the incorrect
members, one for each and in their order (`Settings.forall₂_problems`).
-/

namespace DocComments

open Text
open OrderedMap (get? keys)

theorem Json.texts?_eq_some_iff {items : List Json} {texts : List LooseString} :
    Json.texts? items = some texts ↔ items = texts.map .string := by
  constructor
  · intro h
    fun_induction Json.texts? items generalizing texts with
    | case1 => rw [← Option.some.inj h, List.map_nil]
    | case2 s more ih =>
        obtain ⟨later, hlater, rfl⟩ := Option.map_eq_some_iff.1 h
        rw [List.map_cons, ← ih hlater]
    | case3 => cases h
  · rintro rfl
    induction texts with
    | nil => rfl
    | cons s texts ih => rw [List.map_cons, Json.texts?, ih, Option.map_some]

namespace SettingKey

/-- **The values that a setting admits.**  The constants true and false are not numbers, and neither
are numbers that are not whole. -/
inductive Admits : SettingKey → Json → Prop
  | recover (b : Bool) : Admits .recover (.bool b)
  | extensions (texts : List LooseString) : Admits .extensions (.array (texts.map .string))
  | encoding (name : LooseString) : Admits .encoding (.string name)
  | indented (n : Int) : Admits .indent (.int n)
  | flat : Admits .indent .null

theorem mem_all (key : SettingKey) : key ∈ all := by
  cases key <;> decide

theorem ofName?_name (key : SettingKey) : ofName? (.ofString key.name) = some key := by
  cases key <;> rfl

theorem ofName?_eq_some_iff {name : LooseString} {key : SettingKey} :
    ofName? name = some key ↔ name = .ofString key.name := by
  constructor
  · intro h
    have hname := List.find?_some h
    exact (of_decide_eq_true hname).symm
  · rintro rfl
    exact ofName?_name key

theorem name_injective {key other : SettingKey}
    (h : LooseString.ofString key.name = .ofString other.name) : key = other := by
  have hkey := ofName?_name key
  rw [h, ofName?_name] at hkey
  exact (Option.some.inj hkey).symm

end SettingKey

namespace Settings

/-- What the settings have for one setting, as a JSON value. -/
def value (s : Settings) : SettingKey → Json
  | .recover => .bool s.recover
  | .extensions => .array (s.extensions.map .string)
  | .encoding => .string s.encoding
  | .indent =>
      match s.indent with
      | some n => .int n
      | none => .null

/-- The member names a setting that admits its value. -/
def Correct (name : LooseString) (value : Json) : Prop :=
  ∃ key : SettingKey, name = .ofString key.name ∧ key.Admits value

/-- **The problem says what is wrong with the member**: it names no setting, or one that does not
admit the value. -/
inductive Describes : LooseString × Json → SettingProblem → Prop
  | unknownKey {name : LooseString} {value : Json}
      (hname : ∀ key : SettingKey, name ≠ .ofString key.name) :
      Describes (name, value) (.unknownKey name)
  | wrongType {key : SettingKey} {value : Json} (hvalue : ¬key.Admits value) :
      Describes (.ofString key.name, value) (.wrongType key value)

variable {s s' : Settings} {key : SettingKey} {name : LooseString} {v : Json}
  {entries : List (LooseString × Json)}

/-! ### One member -/

theorem exists_set? (h : key.Admits v) (s : Settings) : ∃ s', s.set? key v = some s' := by
  cases h with
  | extensions texts => exact ⟨_, by rw [set?, Json.texts?_eq_some_iff.2 rfl, Option.map_some]⟩
  | _ => exact ⟨_, rfl⟩

theorem admits_of_set? (h : s.set? key v = some s') : key.Admits v := by
  unfold set? at h
  split at h
  · exact .recover _
  · obtain ⟨texts, htexts, -⟩ := Option.map_eq_some_iff.1 h
    rw [Json.texts?_eq_some_iff.1 htexts]
    exact .extensions texts
  · exact .encoding _
  · exact .indented _
  · exact .flat
  · cases h

theorem value_of_set? (h : s.set? key v = some s') : s'.value key = v := by
  unfold set? at h
  split at h
  case h_2 items =>
    obtain ⟨texts, htexts, rfl⟩ := Option.map_eq_some_iff.1 h
    rw [Json.texts?_eq_some_iff.1 htexts]
    rfl
  case h_6 => cases h
  all_goals
    obtain rfl := Option.some.inj h
    rfl

/-- A value is given to one setting only. -/
theorem value_of_set?_of_ne (h : s.set? key v = some s') {other : SettingKey}
    (hother : other ≠ key) : s'.value other = s.value other := by
  have hrecord : (key = .recover ∧ ∃ b, s' = { s with recover := b }) ∨
      (key = .extensions ∧ ∃ texts, s' = { s with extensions := texts }) ∨
      (key = .encoding ∧ ∃ name, s' = { s with encoding := name }) ∨
      (key = .indent ∧ ∃ n, s' = { s with indent := n }) := by
    cases admits_of_set? h with
    | recover b => exact .inl ⟨rfl, b, (Option.some.inj h).symm⟩
    | extensions texts =>
        rw [set?, Json.texts?_eq_some_iff.2 rfl, Option.map_some] at h
        exact .inr (.inl ⟨rfl, texts, (Option.some.inj h).symm⟩)
    | encoding name => exact .inr (.inr (.inl ⟨rfl, name, (Option.some.inj h).symm⟩))
    | indented n => exact .inr (.inr (.inr ⟨rfl, some n, (Option.some.inj h).symm⟩))
    | flat => exact .inr (.inr (.inr ⟨rfl, none, (Option.some.inj h).symm⟩))
  rcases hrecord with ⟨rfl, _, rfl⟩ | ⟨rfl, _, rfl⟩ | ⟨rfl, _, rfl⟩ | ⟨rfl, _, rfl⟩ <;>
    cases other <;> first | rfl | exact absurd rfl hother

/-- **A correct member sets what it names** and nothing else. -/
theorem member_of_correct (h : Correct name v) (s : Settings) :
    ∃ s', s.member name v = .ok s' ∧
      ∀ key, s'.value key = if name = .ofString key.name then v else s.value key := by
  obtain ⟨key, rfl, hadmits⟩ := h
  obtain ⟨s', hset⟩ := exists_set? hadmits s
  refine ⟨s', by simp only [member, SettingKey.ofName?_name, hset], fun other => ?_⟩
  split
  · next hname =>
      obtain rfl := SettingKey.name_injective hname
      exact value_of_set? hset
  · next hname => exact value_of_set?_of_ne hset (by rintro rfl; exact hname rfl)

/-- **Any other member has a problem.** -/
theorem exists_problem (h : ¬Correct name v) (s : Settings) :
    ∃ problem, s.member name v = .error problem ∧ Describes (name, v) problem := by
  cases hname : SettingKey.ofName? name with
  | none =>
      refine ⟨.unknownKey name, by simp only [member, hname], .unknownKey fun key hkey => ?_⟩
      rw [SettingKey.ofName?_eq_some_iff.2 hkey] at hname
      cases hname
  | some key =>
      have hvalue : ¬key.Admits v := fun hadmits =>
        h ⟨key, SettingKey.ofName?_eq_some_iff.1 hname, hadmits⟩
      have hset : s.set? key v = none := by
        cases hset : s.set? key v with
        | none => rfl
        | some s' => exact absurd (admits_of_set? hset) hvalue
      refine ⟨.wrongType key v, by simp only [member, hname, hset], ?_⟩
      rw [SettingKey.ofName?_eq_some_iff.1 hname]
      exact .wrongType hvalue

theorem isOk_member_iff (s : Settings) (name : LooseString) (v : Json) :
    (s.member name v).isOk = true ↔ Correct name v := by
  by_cases h : Correct name v
  · obtain ⟨s', hmember, -⟩ := member_of_correct h s
    exact ⟨fun _ => h, fun _ => by rw [hmember]; rfl⟩
  · obtain ⟨problem, hmember, -⟩ := exists_problem h s
    rw [hmember]
    exact ⟨fun hok => absurd hok Bool.false_ne_true, fun hcorrect => absurd hcorrect h⟩

instance (name : LooseString) (v : Json) : Decidable (Correct name v) :=
  decidable_of_iff _ (isOk_member_iff {} name v)

/-! ### All members -/

/-- The members that are not correct. -/
def incorrect (entries : List (LooseString × Json)) : List (LooseString × Json) :=
  entries.filter fun e => ¬Correct e.1 e.2

theorem incorrect_eq_nil_iff : incorrect entries = [] ↔ ∀ e ∈ entries, Correct e.1 e.2 := by
  simp [incorrect, List.filter_eq_nil_iff]

/-- **The problems are those of the incorrect members**, in order. -/
theorem forall₂_problems (s : Settings) (entries : List (LooseString × Json)) :
    List.Forall₂ Describes (incorrect entries) (s.members entries).2 := by
  induction entries generalizing s with
  | nil => exact .nil
  | cons e more ih =>
      obtain ⟨name, v⟩ := e
      by_cases h : Correct name v
      · obtain ⟨s', hmember, -⟩ := member_of_correct h s
        simpa only [members, hmember, incorrect, List.filter_cons, h, not_true_eq_false,
          decide_false, Bool.false_eq_true, if_false] using ih s'
      · obtain ⟨problem, hmember, hdescribes⟩ := exists_problem h s
        simpa only [members, hmember, incorrect, List.filter_cons, h, not_false_eq_true,
          decide_true, if_true] using List.Forall₂.cons hdescribes (ih s)

/-- **Correct members set what they name**, and the rest stays as it was. -/
theorem value_members (hkeys : (keys entries).Nodup)
    (hcorrect : ∀ e ∈ entries, Correct e.1 e.2) (s : Settings) (key : SettingKey) :
    (s.members entries).1.value key =
      (get? (.ofString key.name) entries).getD (s.value key) := by
  induction entries generalizing s with
  | nil => rfl
  | cons e more ih =>
      obtain ⟨name, v⟩ := e
      obtain ⟨hnew, hmore⟩ := List.nodup_cons.1 hkeys
      obtain ⟨hfirst, hlater⟩ := List.forall_mem_cons.1 hcorrect
      obtain ⟨s', hmember, hvalue⟩ := member_of_correct hfirst s
      have hstep : (s.members ((name, v) :: more)).1 = (s'.members more).1 := by
        simp only [members, hmember]
      rw [hstep, ih hmore hlater s', hvalue key, get?]
      split
      · next hname =>
          -- no other member has that name
          rw [OrderedMap.get?_eq_none (hname ▸ hnew), Option.getD_none, Option.getD_some]
      · rfl

theorem ofJson_eq_ok_iff : ofJson (.object entries) = .ok s ↔
    (({} : Settings).members entries).2 = [] ∧ (({} : Settings).members entries).1 = s := by
  unfold ofJson ofMembers
  rcases hmembers : ({} : Settings).members entries with ⟨s', _ | ⟨problem, problems⟩⟩ <;>
    simp [hmembers]

theorem ofJson_eq_invalid_iff {problems : List SettingProblem} :
    ofJson (.object entries) = .error (.invalid problems) ↔
      problems ≠ [] ∧ (({} : Settings).members entries).2 = problems := by
  unfold ofJson ofMembers
  rcases hmembers : ({} : Settings).members entries with ⟨s', _ | ⟨problem, found⟩⟩
  · simp [hmembers, eq_comm]
  · simp only [hmembers, Except.error.injEq, SettingsError.invalid.injEq]
    exact ⟨fun h => ⟨h ▸ List.cons_ne_nil _ _, h⟩, And.right⟩

/-- **Settings are validated exactly.**  An object gives settings if and only if each of its members
names a setting and has a value of the type of that; then every setting is what the object says, and
the default where it says nothing.  Otherwise all incorrect members are reported together, each once
and in order. -/
theorem ofJson_exact (hkeys : (keys entries).Nodup) :
    ((∃ s, ofJson (.object entries) = .ok s) ↔ ∀ e ∈ entries, Correct e.1 e.2) ∧
      (∀ s, ofJson (.object entries) = .ok s → ∀ key : SettingKey,
        s.value key = (get? (.ofString key.name) entries).getD (({} : Settings).value key)) ∧
      ((∃ e ∈ entries, ¬Correct e.1 e.2) → ∃ problems,
        ofJson (.object entries) = .error (.invalid problems) ∧
          List.Forall₂ Describes (incorrect entries) problems) := by
  have hproblems := forall₂_problems {} entries
  have hcorrect : (({} : Settings).members entries).2 = [] ↔ ∀ e ∈ entries, Correct e.1 e.2 := by
    rw [← incorrect_eq_nil_iff, ← List.length_eq_zero_iff, ← List.length_eq_zero_iff,
      hproblems.length_eq]
  refine ⟨?_, fun s hs key => ?_, fun ⟨e, he, hwrong⟩ => ⟨_, ?_, hproblems⟩⟩
  · simp only [ofJson_eq_ok_iff, exists_and_left, exists_eq', and_true, hcorrect]
  · obtain ⟨hnone, rfl⟩ := ofJson_eq_ok_iff.1 hs
    exact value_members hkeys (hcorrect.1 hnone) {} key
  · exact ofJson_eq_invalid_iff.2 ⟨fun hnone => hwrong (hcorrect.1 hnone e he), rfl⟩

/-- No indentation is not the default one; a number is no truth value. -/
theorem ofJson_exact_taken_refused :
    (∃ s, ofJson (.object [("indent", .null), ("recover", .bool true)]) = .ok s ∧
      s.value .indent = .null ∧ s.value .recover = .bool true ∧
        s.value .encoding = .string "utf-8") ∧
      ∃ problems,
        ofJson (.object [("recover", .int 1), ("colour", .string "red"), ("indent", .null)]) =
          .error (.invalid problems) ∧
          List.Forall₂ Describes [("recover", .int 1), ("colour", .string "red")] problems := by
  constructor
  · have hkeys : (keys [(("indent" : LooseString), Json.null), ("recover", .bool true)]).Nodup := by
      decide
    obtain ⟨htaken, hvalue, -⟩ := ofJson_exact hkeys
    obtain ⟨s, hs⟩ := htaken.2 (by decide)
    exact ⟨s, hs, hvalue s hs .indent, hvalue s hs .recover, hvalue s hs .encoding⟩
  · have hkeys : (keys [(("recover" : LooseString), Json.int 1), ("colour", .string "red"),
        ("indent", .null)]).Nodup := by
      decide
    exact (ofJson_exact hkeys).2.2 ⟨("recover", .int 1), List.mem_cons_self, by decide⟩

end Settings

end DocComments
