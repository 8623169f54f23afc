import DocComments.Tag.Reader
import Mathlib.Data.List.Basic

/-!
# Where the tags of a comment start

`StartsMarker before after` says that a marker starts in a text at the place between `before` and
`after`, from these two alone.  A stretch of a text in which no marker starts (`Unmarked`) is passed
over by the cutting of a text (`cutFrom_unmarked`), and a marker is cut out with its whole word
(`cutFrom_marker`).

A text that has no marker of its own stays without one wherever it stands, as long as no letter
follows it directly (`unmarked_of_no_marker`): what stands before it can only take a marker away.
-/

namespace DocComments

open Text

/-! ### Markers and words -/

/-- A marker can start behind this text: at the start, or behind a blank. -/
def opensMarker (before : List Char) : Bool := (before.getLast?.map isBlank).getD true

/-- **A marker starts between two texts.** -/
def StartsMarker (before after : List Char) : Prop :=
  opensMarker before = true ∧ ∃ c more, after = '@' :: c :: more ∧ isAsciiLetter c = true

/-- **There is a marker in the text.** -/
def HasMarker (text : List Char) : Prop :=
  ∃ before after, text = before ++ after ∧ StartsMarker before after

theorem startsMarker_iff {before after : List Char} :
    StartsMarker before after ↔
      opensMarker before = true ∧ after.head? = some '@' ∧
        after.tail.head?.any isAsciiLetter = true := by
  constructor
  · rintro ⟨hopens, c, more, rfl, hletter⟩
    exact ⟨hopens, rfl, hletter⟩
  · rintro ⟨hopens, hat, hletter⟩
    obtain ⟨rest, rfl⟩ := List.head?_eq_some_iff.1 hat
    obtain ⟨c, hc, hletter⟩ := (Option.any_eq_true _ _).1 hletter
    obtain ⟨more, rfl⟩ := List.head?_eq_some_iff.1 hc
    exact ⟨hopens, c, more, rfl, hletter⟩

instance {before after : List Char} : Decidable (StartsMarker before after) :=
  decidable_of_iff' _ startsMarker_iff

theorem hasMarker_iff {text : List Char} :
    HasMarker text ↔
      ∃ n ∈ List.range (text.length + 1), StartsMarker (text.take n) (text.drop n) := by
  constructor
  · rintro ⟨before, after, rfl, h⟩
    have hlength : before.length < (before ++ after).length + 1 := by
      rw [List.length_append]
      omega
    refine ⟨before.length, List.mem_range.2 hlength, ?_⟩
    rwa [List.take_left, List.drop_left]
  · rintro ⟨n, -, h⟩
    exact ⟨_, _, (List.take_append_drop n text).symm, h⟩

instance {text : List Char} : Decidable (HasMarker text) := decidable_of_iff' _ hasMarker_iff

/-- **No marker starts in a text** that stands between two others. -/
def Unmarked (before text after : List Char) : Prop :=
  ∀ s c t, text = s ++ c :: t → ¬ StartsMarker (before ++ s) (c :: t ++ after)

/-- **The word of a marker**: a letter, and letters, digits and underscores behind it. -/
inductive MarkerWord : List Char → Prop where
  | mk {c : Char} {more : List Char} (hfirst : isAsciiLetter c = true)
      (hmore : ∀ d ∈ more, isWordChar d = true) : MarkerWord (c :: more)

theorem isWordChar_of_isAsciiLetter {c : Char} (h : isAsciiLetter c = true) :
    isWordChar c = true := by
  rw [isWordChar, h]
  rfl

/-- No blank stands in a word. -/
theorem isWordChar_of_isBlank {c : Char} (h : isBlank c = true) : isWordChar c = false := by
  obtain ⟨r, hr, hlow, hhigh⟩ := Ranges.contains_iff.1 h
  simp only [blankRanges, List.mem_cons, List.not_mem_nil, or_false] at hr
  rw [← Bool.not_eq_true]
  intro hword
  simp only [isWordChar, isAsciiLetter, isAsciiDigit, Bool.or_eq_true, Bool.and_eq_true,
    decide_eq_true_eq] at hword
  have hcode : 0x30 ≤ c.toNat ∧ c.toNat ≤ 0x7A := by
    rcases hword with ((⟨h1, h2⟩ | ⟨h1, h2⟩) | ⟨h1, h2⟩) | rfl
    · exact ⟨Nat.le_trans (by decide) h1, h2⟩
    · exact ⟨Nat.le_trans (by decide) h1, Nat.le_trans h2 (by decide)⟩
    · exact ⟨h1, Nat.le_trans h2 (by decide)⟩
    · decide
  rcases hr with rfl | rfl | rfl | rfl | rfl | rfl | rfl | rfl | rfl | rfl <;>
    simp only at hlow hhigh <;> omega

theorem isAsciiLetter_of_isBlank {c : Char} (h : isBlank c = true) : isAsciiLetter c = false := by
  rw [← Bool.not_eq_true]
  intro hletter
  exact absurd (isWordChar_of_isAsciiLetter hletter)
    (by rw [isWordChar_of_isBlank h]; exact Bool.false_ne_true)

theorem at_not_mem_blanks {gap : List Char} (hgap : Blanks gap) : '@' ∉ gap :=
  fun h => absurd (hgap '@' h) (by decide)

theorem MarkerWord.isWordChar {word : List Char} (h : MarkerWord word) :
    ∀ c ∈ word, isWordChar c = true := by
  cases h with
  | mk hfirst hmore => exact List.forall_mem_cons.2 ⟨isWordChar_of_isAsciiLetter hfirst, hmore⟩

/-! ### Stretches without markers -/

section Unmarked

variable {before text after : List Char}

/-- A marker starts with an at sign. -/
theorem unmarked_of_not_mem (h : '@' ∉ text) : Unmarked before text after := by
  rintro s c t rfl ⟨-, d, more, hmarker, -⟩
  obtain ⟨rfl, -⟩ := List.cons.inj hmarker
  exact h (List.mem_append_right s (List.mem_cons_self ..))

/-- What stands before a text can only take a marker away from it, and what stands behind adds one
only by a letter behind an at sign. -/
theorem unmarked_of_no_marker (h : ¬ HasMarker text)
    (hafter : ∀ c ∈ after.head?, isAsciiLetter c = false) : Unmarked before text after := by
  rintro s c t rfl ⟨hopens, d, more, hmarker, hletter⟩
  obtain ⟨rfl, hmore⟩ := List.cons.inj hmarker
  cases t with
  | nil =>
      have hhead : d ∈ after.head? := by
        rw [show after = d :: more from hmore]
        rfl
      exact absurd hletter (by rw [hafter d hhead]; exact Bool.false_ne_true)
  | cons e t =>
      obtain ⟨hd, -⟩ := List.cons.inj hmore
      refine h ⟨s, _, rfl, ?_, e, t, rfl, hd ▸ hletter⟩
      cases hlast : s.getLast? with
      | none => simp [opensMarker, hlast]
      | some b => simpa [opensMarker, List.getLast?_append, hlast] using hopens

theorem Unmarked.append {first second : List Char}
    (hfirst : Unmarked before first (second ++ after))
    (hsecond : Unmarked (before ++ first) second after) :
    Unmarked before (first ++ second) after := by
  intro s c t hsplit
  rcases List.append_eq_append_iff.1 hsplit with ⟨u, rfl, rfl⟩ | ⟨u, rfl, hrest⟩
  · have h := hsecond u c t rfl
    rwa [List.append_assoc] at h
  · cases u with
    | nil =>
        have h := hsecond [] c t hrest.symm
        rwa [List.append_nil, List.append_nil] at h
    | cons d u =>
        obtain ⟨rfl, rfl⟩ := List.cons.inj hrest
        have h := hfirst s c u rfl
        rwa [← List.append_assoc] at h

end Unmarked

/-- **No marker starts in the text, wherever it stands**, unless a letter follows it directly. -/
def Quiet (text : List Char) : Prop :=
  ∀ before after, (∀ c ∈ after.head?, isAsciiLetter c = false) → Unmarked before text after

section Quiet

variable {first second text : List Char}

theorem quiet_of_not_mem (h : '@' ∉ text) : Quiet text := fun _ _ _ => unmarked_of_not_mem h

theorem quiet_of_no_marker (h : ¬ HasMarker text) : Quiet text :=
  fun _ _ hafter => unmarked_of_no_marker h hafter

theorem Quiet.append (hfirst : Quiet first) (hsecond : Quiet second)
    (hhead : ∀ c ∈ second.head?, isAsciiLetter c = false) : Quiet (first ++ second) :=
  fun before after hafter =>
    (hfirst before (second ++ after) (forall_head?_append hhead hafter)).append
      (hsecond (before ++ first) after hafter)

/-- Behind a text without an at sign, a text may start with a letter. -/
theorem Quiet.behind (hfirst : '@' ∉ first) (hsecond : Quiet second) : Quiet (first ++ second) :=
  fun before after hafter =>
    (unmarked_of_not_mem hfirst).append (hsecond (before ++ first) after hafter)

theorem Quiet.cons {c : Char} (hc : c ≠ '@') (h : Quiet text) : Quiet (c :: text) :=
  have hfirst : '@' ∉ [c] := fun hmem => hc (List.mem_singleton.1 hmem).symm
  h.behind hfirst

end Quiet

/-! ### Cutting -/

theorem cutFrom_cons {before more : List Char} {c : Char}
    (h : ¬ StartsMarker before (c :: more)) :
    cutFrom (opensMarker before) (c :: more) =
      (c :: (cutFrom (opensMarker (before ++ [c])) more).1,
        (cutFrom (opensMarker (before ++ [c])) more).2) := by
  have hopens : opensMarker (before ++ [c]) = isBlank c := by simp [opensMarker]
  have hword : (if opensMarker before && c = '@' then markerWord? more else none) = none := by
    by_cases hc : (opensMarker before && c = '@') = true
    · obtain ⟨hbefore, hat⟩ := (Bool.and_eq_true ..).mp hc
      obtain rfl := of_decide_eq_true hat
      rw [if_pos hc]
      cases more with
      | nil => rfl
      | cons d more =>
          rw [markerWord?, if_neg fun hletter => h ⟨hbefore, d, more, rfl, hletter⟩]
    · exact if_neg hc
  rw [cutFrom, hopens]
  simp only [hword]

/-- **A stretch without markers is passed over.** -/
theorem cutFrom_unmarked {before text after : List Char} (h : Unmarked before text after) :
    cutFrom (opensMarker before) (text ++ after) =
      (text ++ (cutFrom (opensMarker (before ++ text)) after).1,
        (cutFrom (opensMarker (before ++ text)) after).2) := by
  induction text generalizing before with
  | nil => simp
  | cons c text ih =>
      have hc : ¬ StartsMarker before (c :: (text ++ after)) := by
        have hstart := h [] c text rfl
        rwa [List.append_nil] at hstart
      have hmore : Unmarked (before ++ [c]) text after := by
        intro s d t hsplit
        have hrest := h (c :: s) d t (by rw [hsplit]; rfl)
        rwa [List.append_assoc]
      rw [List.cons_append, cutFrom_cons hc, ih hmore, List.append_assoc]
      rfl

/-- **A marker is cut out with its whole word.** -/
theorem cutFrom_marker {word rest : List Char} (hword : MarkerWord word)
    (hrest : ∀ c ∈ rest.head?, isWordChar c = false) :
    cutFrom true ('@' :: (word ++ rest)) =
      ([], (word, (cutFrom false rest).1) :: (cutFrom false rest).2) := by
  have hfound : markerWord? (word ++ rest) = some word := by
    have hrun := takeWhile_run hword.isWordChar hrest
    cases hword with
    | mk hfirst _ => rw [List.cons_append, markerWord?, if_pos hfirst, ← List.cons_append, hrun]
  rw [cutFrom]
  simp only [decide_true, Bool.and_self, if_true, hfound, List.drop_left]

end DocComments
