import DocComments.Tag.Reader
import Mathlib.Data.List.Infix

/-!
# Brackets that close

What stands between a bracket and the one that closes it is `Balanced`: as many opening brackets as
closing ones, and nowhere more closing ones so far than opening ones.  The reader of tags counts
open brackets from the first one on.  What a text opens is added to the count and what it closes is
taken off, so the count stands at one in front of the closing bracket and nowhere below one before
that (`closeBrackets?_eq_some_iff`).  That leaves one place to cut at, or none
(`splitBracketed_finds_closing`).
-/

namespace DocComments

variable {opening closing : Char} {text before behind : List Char} {depth : Int}

/-- **The brackets in a text close each other.** -/
structure Balanced (opening closing : Char) (text : List Char) : Prop where
  /-- There are as many of one kind as of the other. -/
  even : text.count opening = text.count closing
  /-- At no place are more of them closed so far than were opened. -/
  open_first : ∀ before, before <+: text → before.count closing ≤ before.count opening

theorem balanced_iff :
    Balanced opening closing text ↔
      text.count opening = text.count closing ∧
        ∀ before ∈ text.inits, before.count closing ≤ before.count opening := by
  simp only [List.mem_inits]
  exact ⟨fun h => ⟨h.even, h.open_first⟩, fun h => ⟨h.1, h.2⟩⟩

instance : Decidable (Balanced opening closing text) := decidable_of_iff' _ balanced_iff

/-! ### The count of open brackets -/

/-- How many brackets are open behind `c`, with `depth` of them open in front of it. -/
def depthBehind (opening closing : Char) (depth : Int) (c : Char) : Int :=
  if c = opening then depth + 1 else if c = closing then depth - 1 else depth

/-- A character is counted in front of a text as it is counted in the text. -/
theorem depthBehind_count (hne : opening ≠ closing) (depth : Int) (c : Char) (text : List Char) :
    depthBehind opening closing depth c + text.count opening - text.count closing =
      depth + (c :: text).count opening - (c :: text).count closing := by
  rw [depthBehind]
  by_cases hopening : c = opening
  · rw [if_pos hopening, hopening, List.count_cons_self, List.count_cons_of_ne hne]
    omega
  by_cases hclosing : c = closing
  · rw [if_neg hopening, if_pos hclosing, hclosing, List.count_cons_self,
      List.count_cons_of_ne hne.symm]
    omega
  · rw [if_neg hopening, if_neg hclosing, List.count_cons_of_ne hopening,
      List.count_cons_of_ne hclosing]

theorem closeBrackets?_cons (hne : opening ≠ closing) (depth : Int) (c : Char) (more : List Char) :
    closeBrackets? opening closing depth (c :: more) =
      if c = closing ∧ depth = 1 then some ([], more)
      else (closeBrackets? opening closing (depthBehind opening closing depth c) more).map
        fun r => (c :: r.1, r.2) := by
  rw [closeBrackets?, depthBehind]
  by_cases hopening : c = opening
  · rw [if_pos hopening, if_pos hopening, if_neg fun h => hne (hopening.symm.trans h.1)]
  rw [if_neg hopening, if_neg hopening]
  by_cases hclosing : c = closing
  · simp only [hclosing, if_true, true_and]
  · simp only [hclosing, if_false, false_and]

/-- **The text closes all but one of the brackets that are open**, `depth` of them in front of it,
and at no place in it fewer than one is open. -/
structure LeavesOne (opening closing : Char) (depth : Int) (text : List Char) : Prop where
  /-- One bracket is open behind the text. -/
  one : depth + text.count opening - text.count closing = 1
  /-- At least one is open at each of its places. -/
  open_first : ∀ start, start <+: text → 1 ≤ depth + start.count opening - start.count closing

/-- With one bracket open, a text that leaves one open is a balanced one. -/
theorem leavesOne_one_iff : LeavesOne opening closing 1 text ↔ Balanced opening closing text := by
  constructor
  · intro h
    refine ⟨?_, fun start hstart => ?_⟩
    · have hone := h.one
      omega
    · have hopen := h.open_first start hstart
      omega
  · intro h
    refine ⟨?_, fun start hstart => ?_⟩
    · have heven := h.even
      omega
    · have hopen := h.open_first start hstart
      omega

theorem leavesOne_nil (hone : depth = 1) : LeavesOne opening closing depth [] := by
  refine ⟨by simpa using hone, fun start hstart => ?_⟩
  rw [List.prefix_nil.1 hstart]
  simp [hone]

/-- **A text leaves one bracket open as the rest of it does** behind its first character. -/
theorem leavesOne_cons_iff (hne : opening ≠ closing) {c : Char} (hdepth : 1 ≤ depth) :
    LeavesOne opening closing depth (c :: text) ↔
      LeavesOne opening closing (depthBehind opening closing depth c) text := by
  constructor
  · intro h
    refine ⟨(depthBehind_count hne depth c text).trans h.one, fun start hstart => ?_⟩
    rw [depthBehind_count hne depth c start]
    exact h.open_first _ ((List.prefix_cons_inj c).2 hstart)
  · intro h
    refine ⟨(depthBehind_count hne depth c text).symm.trans h.one, fun start hstart => ?_⟩
    rcases List.prefix_cons_iff.1 hstart with rfl | ⟨start', rfl, hstart'⟩
    · simpa using hdepth
    · rw [← depthBehind_count hne depth c start']
      exact h.open_first _ hstart'

/-- In front of such a text at least one bracket is open. -/
theorem LeavesOne.one_le (h : LeavesOne opening closing depth text) : 1 ≤ depth := by
  simpa using h.open_first [] List.nil_prefix

/-- **The count comes down to zero at the closing bracket in front of which one bracket is open**,
and at least one at each place before: that is where the text is cut, and nowhere else. -/
theorem closeBrackets?_eq_some_iff (hne : opening ≠ closing) (hdepth : 1 ≤ depth) :
    closeBrackets? opening closing depth text = some (before, behind) ↔
      text = before ++ closing :: behind ∧ LeavesOne opening closing depth before := by
  induction text generalizing depth before with
  | nil => simp [closeBrackets?]
  | cons c more ih =>
      rw [closeBrackets?_cons hne]
      by_cases hlast : c = closing ∧ depth = 1
      · -- the bracket closes here, and a part that goes on behind it would have closed it already.
        obtain ⟨rfl, rfl⟩ := hlast
        rw [if_pos ⟨rfl, rfl⟩, Option.some.injEq, Prod.mk.injEq]
        constructor
        · rintro ⟨rfl, rfl⟩
          exact ⟨rfl, leavesOne_nil rfl⟩
        · rintro ⟨htext, hleaves⟩
          cases before with
          | nil => exact ⟨rfl, (List.cons.inj htext).2⟩
          | cons c' before =>
              obtain ⟨rfl, -⟩ := List.cons.inj htext
              have hone := ((leavesOne_cons_iff hne (Int.le_refl 1)).1 hleaves).one_le
              rw [depthBehind, if_neg hne.symm, if_pos rfl] at hone
              omega
      · have hbehind : 1 ≤ depthBehind opening closing depth c := by
          rw [depthBehind]
          split
          · omega
          · split
            · have hne_one : depth ≠ 1 := fun hone => hlast ⟨‹_›, hone⟩
              omega
            · exact hdepth
        rw [if_neg hlast, Option.map_eq_some_iff]
        constructor
        · rintro ⟨⟨start, behind'⟩, hmore, hr⟩
          obtain ⟨rfl, rfl⟩ := Prod.mk.inj hr
          obtain ⟨rfl, hleaves⟩ := (ih hbehind).1 hmore
          exact ⟨rfl, (leavesOne_cons_iff hne hdepth).2 hleaves⟩
        · rintro ⟨htext, hleaves⟩
          cases before with
          | nil =>
              obtain ⟨rfl, -⟩ := List.cons.inj htext
              exact absurd ⟨rfl, by simpa using hleaves.one⟩ hlast
          | cons c' before =>
              obtain ⟨rfl, hmore⟩ := List.cons.inj htext
              exact ⟨(before, behind),
                (ih hbehind).2 ⟨hmore, (leavesOne_cons_iff hne hdepth).1 hleaves⟩, rfl⟩

/-! ### The bracket that closes the first one -/

/-- **The first character of a text is a bracket, and it is closed**: what stands between it and its
closing bracket is the first of `parts`, what stands behind the second. -/
structure Enclosed (opening closing : Char) (text : List Char) (parts : List Char × List Char) :
    Prop where
  /-- The text is written from the two. -/
  spelled : text = opening :: (parts.1 ++ closing :: parts.2)
  /-- What stands between the brackets has only pairs of them. -/
  balanced : Balanced opening closing parts.1

/-- **A bracket is closed where the count of open brackets comes down to zero.** -/
theorem enclosed_iff (hne : opening ≠ closing) {more : List Char}
    {parts : List Char × List Char} :
    Enclosed opening closing (opening :: more) parts ↔
      closeBrackets? opening closing 1 more = some parts := by
  obtain ⟨before, behind⟩ := parts
  rw [closeBrackets?_eq_some_iff hne (Int.le_refl 1), leavesOne_one_iff]
  exact ⟨fun h => ⟨(List.cons.inj h.spelled).2, h.balanced⟩,
    fun h => ⟨congrArg (opening :: ·) h.1, h.2⟩⟩

theorem splitBracketed_cons (more : List Char) :
    splitBracketed opening closing (opening :: more) =
      (closeBrackets? opening closing 1 more).getD (more, []) := by
  rw [splitBracketed, closeBrackets?, if_pos rfl, Int.zero_add]
  cases closeBrackets? opening closing 1 more <;> rfl

/-- **What stands between a bracket and its closing one is found**, and what stands behind. -/
theorem splitBracketed_of_balanced (hne : opening ≠ closing) (h : Balanced opening closing text)
    (rest : List Char) :
    splitBracketed opening closing (opening :: (text ++ closing :: rest)) = (text, rest) := by
  have henclosed : Enclosed opening closing (opening :: (text ++ closing :: rest)) (text, rest) :=
    ⟨rfl, h⟩
  rw [splitBracketed_cons, (enclosed_iff hne).1 henclosed, Option.getD_some]

/-- **The bracket that closes the first character is found if there is one**, there is never a
second, and without one all the text is taken.  So a bracket in a type or in a default value ends
neither too early nor too late. -/
theorem splitBracketed_finds_closing (hne : opening ≠ closing) (more : List Char) :
    let text := opening :: more
    ((∃ parts, Enclosed opening closing text parts) →
      Enclosed opening closing text (splitBracketed opening closing text) ∧
        ∀ parts, Enclosed opening closing text parts →
          parts = splitBracketed opening closing text) ∧
    (splitBracketed opening closing text = (more, []) ↔
      ¬∃ parts, Enclosed opening closing text parts) := by
  intro text
  simp only [text, enclosed_iff hne, splitBracketed_cons]
  cases hfound : closeBrackets? opening closing 1 more with
  | none =>
      refine ⟨fun h => ?_, fun _ => ?_, fun _ => rfl⟩
      · obtain ⟨parts, hparts⟩ := h
        cases hparts
      · rintro ⟨parts, hparts⟩
        cases hparts
  | some found =>
      refine ⟨fun _ => ⟨rfl, fun parts hparts => ?_⟩, fun hall => ?_,
        fun h => absurd ⟨found, rfl⟩ h⟩
      · exact (Option.some.inj hparts).symm
      · -- a bracket that closes takes a character of its own
        obtain rfl : found = (more, []) := hall
        have hspelled := ((closeBrackets?_eq_some_iff hne (Int.le_refl 1)).1 hfound).1
        exact absurd (congrArg List.length hspelled) (by simp)

/-- Brackets inside the first pair and behind it, and a pair that is not closed. -/
theorem splitBracketed_finds_closing_nested :
    '[' ≠ ']' ∧
      Enclosed '[' ']' "[a[0]=[1]] [b]".toList ("a[0]=[1]".toList, " [b]".toList) ∧
      splitBracketed '[' ']' "[a[0]=[1]] [b]".toList = ("a[0]=[1]".toList, " [b]".toList) ∧
      (¬∃ parts, Enclosed '[' ']' "[a[0]=1 b".toList parts) := by
  have henclosed : Enclosed '[' ']' "[a[0]=[1]] [b]".toList ("a[0]=[1]".toList, " [b]".toList) :=
    ⟨by decide, by decide⟩
  refine ⟨by decide, henclosed, ?_, ?_⟩
  · exact (((splitBracketed_finds_closing (by decide) "a[0]=[1]] [b]".toList).1
      ⟨_, henclosed⟩).2 _ henclosed).symm
  · exact (splitBracketed_finds_closing (by decide) "a[0]=1 b".toList).2.1 (by decide)

end DocComments
