import DocComments.Text.Quoted

/-!
# Stand-ins for halves

A text in which halves of pairs stand alone is no string.  Where a string is needed, and where
all characters for private use are treated alike, each such half can go under a character for
private use that the text does not have (`LooseString.standIns`).  What comes of the string is
then a loose text again once the halves are put back (`StandIns.restore`).

A stand-in is no character of the text and stands for one half only, so that putting the halves
back undoes the disguise (`LooseString.restore_disguised`), as long as there are characters
for private use left for all halves; the halves for which there are none go under one
replacement character.
-/

namespace DocComments.Text

/-- **Characters that stand for halves.** -/
abbrev StandIns := List (Char × Fin 0x800)

namespace StandIns

/-- How many characters for private use follow one another from U+E000 on. -/
def privateCount : Nat := 0x1900

/-- The character for private use with a given number. -/
def privateChar (number : Nat) : Char := Char.ofNat (0xE000 + number)

/-- A stand-in for each of some halves, from the character of a given number on, none of which
is among `signs`; `left` characters can still be tried. -/
def choose (signs : List Sign) : Nat → Nat → List (Fin 0x800) → StandIns
  | _, _, [] => []
  | 0, _, _ => []
  | left + 1, number, half :: more =>
      if .char (privateChar number) ∈ signs then choose signs left (number + 1) (half :: more)
      else (privateChar number, half) :: choose signs left (number + 1) more

/-- The half for which a character stands. -/
def half? (t : StandIns) (c : Char) : Option (Fin 0x800) :=
  t.lookup c

/-- The character that stands for a half. -/
def char (t : StandIns) (index : Fin 0x800) : Char :=
  match t.find? (·.2 = index) with
  | some (c, _) => c
  | none => Sign.replacement

/-- The sign for which a sign stands. -/
def restoreSign (t : StandIns) : Sign → Sign
  | .char c => (t.half? c).elim (.char c) .half
  | .half index => .half index

/-- **The text with the halves put back.** -/
def restore (t : StandIns) (s : LooseString) : LooseString :=
  ⟨s.signs.map t.restoreSign⟩

/-- The quoted form of a text with the halves put back. -/
def quoted (t : StandIns) (s : String) : String :=
  (t.restore s).quoted

theorem restoreSign_nil : restoreSign [] = id := by
  funext sign
  cases sign <;> rfl

@[simp] theorem restore_nil (s : LooseString) : restore [] s = s := by
  simp [restore, restoreSign_nil]

@[simp] theorem quoted_nil (s : String) : quoted [] s = Text.quoted s := by
  simp [quoted, Text.quoted]

/-! ### What stands for what -/

theorem privateChar_inj {k n : Nat} (hk : k < privateCount) (hn : n < privateCount)
    (h : privateChar k = privateChar n) : k = n := by
  have valid (m : Nat) (hm : m < privateCount) : (privateChar m).toNat = 0xE000 + m := by
    unfold privateCount at hm
    have hv : (0xE000 + m).isValidChar := Or.inr ⟨by omega, by omega⟩
    rw [privateChar, Char.ofNat, dif_pos hv]
    rfl
  have := congrArg Char.toNat h
  rw [valid k hk, valid n hn] at this
  omega

/-- Each stand-in is new to the text, and has a number from the first one tried on. -/
theorem of_mem_choose {signs : List Sign} {c : Char} {index : Fin 0x800} :
    ∀ {left number : Nat} {halves : List (Fin 0x800)},
      (c, index) ∈ choose signs left number halves →
        .char c ∉ signs ∧ ∃ k, number ≤ k ∧ k < number + left ∧ c = privateChar k := by
  intro left number halves h
  induction left, number, halves using choose.induct signs with
  | case1 => simp [choose] at h
  | case2 => simp [choose] at h
  | case3 left number half more hin ih =>
    rw [choose, if_pos hin] at h
    obtain ⟨hc, k, hk, hl, rfl⟩ := ih h
    exact ⟨hc, k, by omega, by omega, rfl⟩
  | case4 left number half more hin ih =>
    rw [choose, if_neg hin] at h
    rcases List.mem_cons.1 h with heq | h
    · obtain ⟨rfl, rfl⟩ := Prod.mk.inj heq
      exact ⟨hin, number, by omega, by omega, rfl⟩
    · obtain ⟨hc, k, hk, hl, rfl⟩ := ih h
      exact ⟨hc, k, by omega, by omega, rfl⟩

/-- **A stand-in stands for one half.** -/
theorem half?_choose {signs : List Sign} {c : Char} {index : Fin 0x800} :
    ∀ {left number : Nat} {halves : List (Fin 0x800)}, number + left ≤ privateCount →
      (c, index) ∈ choose signs left number halves →
        half? (choose signs left number halves) c = some index := by
  intro left number halves hle h
  induction left, number, halves using choose.induct signs with
  | case1 => simp [choose] at h
  | case2 => simp [choose] at h
  | case3 left number half more hin ih =>
    rw [choose, if_pos hin] at h ⊢
    exact ih (by omega) h
  | case4 left number half more hin ih =>
    rw [choose, if_neg hin] at h ⊢
    rcases List.mem_cons.1 h with heq | h
    · obtain ⟨rfl, rfl⟩ := Prod.mk.inj heq
      simp [half?]
    · obtain ⟨_, k, hk, hl, rfl⟩ := of_mem_choose h
      have hne : privateChar k ≠ privateChar number := fun heq => by
        have := privateChar_inj (by omega) (by omega) heq
        omega
      simpa [half?, List.lookup_cons, beq_eq_false_iff_ne.2 hne] using ih (by omega) h

end StandIns

namespace LooseString

/-- The halves that stand alone in a text, each of them once. -/
def halves (s : LooseString) : List (Fin 0x800) :=
  (s.signs.filterMap fun
    | .char _ => none
    | .half index => some index).eraseDups

/-- **The stand-ins for a text**: a character that it does not have for each half in it. -/
def standIns (s : LooseString) : StandIns :=
  StandIns.choose s.signs StandIns.privateCount 0 s.halves

/-- The text as a string, with a stand-in for each half. -/
def disguised (s : LooseString) : String :=
  let t := s.standIns
  String.ofList (s.signs.map fun
    | .char c => c
    | .half index => t.char index)

@[simp] theorem standIns_ofString (s : String) : (ofString s).standIns = [] := by
  have h : (ofString s).halves = [] := by
    have hs : ((ofString s).signs.filterMap fun
        | .char _ => none
        | .half index => some index) = [] := by
      simp [ofString]
    rw [halves, hs]
    rfl
  simp [standIns, h, StandIns.choose]

@[simp] theorem disguised_ofString (s : String) : (ofString s).disguised = s := by
  simp [disguised, ofString, List.map_map, Function.comp_def]

open StandIns in
/-- **Putting the halves back undoes the disguise**, where there is a stand-in for each of
them. -/
theorem restore_disguised {s : LooseString}
    (h : ∀ index, Sign.half index ∈ s.signs → ∃ c, (c, index) ∈ s.standIns) :
    s.standIns.restore s.disguised = s := by
  have hle : 0 + privateCount ≤ privateCount := by omega
  cases s with
  | mk signs =>
    simp only [restore, disguised, ofString, String.toList_ofList, List.map_map]
    congr 1
    refine (List.map_congr_left fun sign hsign => ?_).trans (List.map_id signs)
    cases sign with
    | char c =>
      have hnone : half? (standIns ⟨signs⟩) c = none := by
        rw [half?, List.lookup_eq_none_iff]
        intro p hp
        refine bne_iff_ne.2 fun heq => ?_
        exact (of_mem_choose hp).1 (heq ▸ hsign)
      simp [restoreSign, hnone]
    | half index =>
      obtain ⟨c, hc⟩ := h index hsign
      have hfind : ∃ d, (standIns ⟨signs⟩).find? (·.2 = index) = some (d, index) := by
        cases hf : (standIns ⟨signs⟩).find? (·.2 = index) with
        | none => exact absurd (List.find?_eq_none.1 hf _ hc) (by simp)
        | some p =>
          obtain ⟨d, index'⟩ := p
          have := List.find?_some hf
          exact ⟨d, by simp at this; rw [this]⟩
      obtain ⟨d, hd⟩ := hfind
      have hsome := half?_choose hle (List.mem_of_find?_eq_some hd)
      simp only [standIns] at hd hsome
      simp [restoreSign, standIns, StandIns.char, hd, hsome]

end LooseString

end DocComments.Text
