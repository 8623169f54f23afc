import DocComments.Proofs.Markers

/-!
# Tags are cut at the places of the markers

A comment is cut while it is read, character by character.  Here the same cuts are told by
positions in the whole text: `markerPlaces text` are the places of its markers, in order, and the
text of a tag reaches from the end of its word to the next of these places, or to the end.

`cutAtMarkers_eq` says that both ways give the same parts, and `Tag.readAll_at_markers` reads it off
for the tags of a comment.  What is load-bearing is that no marker starts inside the word of another
(`markerWordEnd_le`): an at sign is no character of a word, so an at sign that comes behind a marker
comes behind its word too.
-/

namespace DocComments

open Text

/-! ### Places and stretches of a text -/

/-- **A marker starts at the place `n`** of a text: an at sign, at the start or behind a blank, and
a letter directly behind it. -/
structure MarkerAt (text : List Char) (n : Nat) : Prop where
  sign : text[n]? = some '@'
  before : n = 0 ∨ ∃ c ∈ text[n - 1]?, isBlank c = true
  behind : ∃ c ∈ text[n + 1]?, isAsciiLetter c = true

theorem opensMarker_take {text : List Char} {n : Nat} (hn : n < text.length) :
    opensMarker (text.take n) = true ↔ n = 0 ∨ ∃ c ∈ text[n - 1]?, isBlank c = true := by
  cases n with
  | zero => exact iff_of_true rfl (.inl rfl)
  | succ n =>
      have hlast : (text.take (n + 1)).getLast? = some text[n] := by
        rw [← List.take_append_getElem (Nat.lt_of_succ_lt hn), List.getLast?_concat]
      rw [opensMarker, hlast]
      simp [List.getElem?_eq_getElem (Nat.lt_of_succ_lt hn)]

/-- The text up to a place and from there on tell whether a marker starts there. -/
theorem markerAt_iff {text : List Char} {n : Nat} :
    MarkerAt text n ↔ StartsMarker (text.take n) (text.drop n) := by
  rw [startsMarker_iff, List.head?_drop, List.tail_drop, List.head?_drop, Option.any_eq_true]
  constructor
  · intro h
    have hn : n < text.length := (List.getElem?_eq_some_iff.1 h.sign).1
    exact ⟨(opensMarker_take hn).2 h.before, h.sign, h.behind⟩
  · rintro ⟨hopens, hsign, hbehind⟩
    have hn : n < text.length := (List.getElem?_eq_some_iff.1 hsign).1
    exact ⟨hsign, (opensMarker_take hn).1 hopens, hbehind⟩

instance {text : List Char} {n : Nat} : Decidable (MarkerAt text n) :=
  decidable_of_iff' _ markerAt_iff

/-- The places of the markers from `start` on. -/
def markerPlacesFrom (text : List Char) (start : Nat) : List Nat :=
  (List.range' start (text.length - start)).filter (MarkerAt text ·)

/-- **The places of the markers** of a text, in order. -/
def markerPlaces (text : List Char) : List Nat :=
  (List.range text.length).filter (MarkerAt text ·)

/-- The word of the marker at the place `n`: the longest run behind the at sign. -/
def markerWordAt (text : List Char) (n : Nat) : List Char :=
  (text.drop (n + 1)).takeWhile isWordChar

/-- The place behind the word of the marker at the place `n`. -/
def markerWordEnd (text : List Char) (n : Nat) : Nat :=
  n + 1 + (markerWordAt text n).length

/-- The characters from the place `start` up to the place `stop`. -/
def stretch (text : List Char) (start stop : Nat) : List Char :=
  (text.take stop).drop start

/-- The first of some places, or the end of the text if there is none. -/
def firstPlace (text : List Char) (places : List Nat) : Nat :=
  places.head?.getD text.length

/-- **The parts at some places**: the word of each, and what stands between it and the next. -/
def markedParts (text : List Char) : List Nat → List (List Char × List Char)
  | [] => []
  | n :: more =>
      (markerWordAt text n, stretch text (markerWordEnd text n) (firstPlace text more)) ::
        markedParts text more

section Places

variable {text : List Char} {n : Nat}

theorem markerPlaces_eq (text : List Char) : markerPlaces text = markerPlacesFrom text 0 := by
  rw [markerPlaces, markerPlacesFrom, List.range_eq_range', Nat.sub_zero]

theorem MarkerAt.lt_length (h : MarkerAt text n) : n < text.length :=
  (List.getElem?_eq_some_iff.1 h.sign).1

theorem mem_markerPlaces : n ∈ markerPlaces text ↔ MarkerAt text n := by
  rw [markerPlaces, List.mem_filter, List.mem_range, decide_eq_true_eq, and_iff_right_iff_imp]
  exact MarkerAt.lt_length

theorem markerPlacesFrom_length : markerPlacesFrom text text.length = [] := by
  rw [markerPlacesFrom, Nat.sub_self]
  rfl

/-- One place after the other. -/
theorem markerPlacesFrom_step (h : n < text.length) :
    markerPlacesFrom text n =
      if MarkerAt text n then n :: markerPlacesFrom text (n + 1)
      else markerPlacesFrom text (n + 1) := by
  have hlength : text.length - n = text.length - (n + 1) + 1 := by omega
  rw [markerPlacesFrom, hlength, List.range'_succ, List.filter_cons]
  simp only [decide_eq_true_eq]
  rfl

/-- Places at which no marker starts are passed over. -/
theorem markerPlacesFrom_skip {stop : Nat} (hle : n ≤ stop) (hstop : stop ≤ text.length)
    (h : ∀ k, n ≤ k → k < stop → ¬ MarkerAt text k) :
    markerPlacesFrom text n = markerPlacesFrom text stop := by
  induction hle with
  | refl => rfl
  | @step k hle ih =>
      have hk := h k hle (Nat.lt_succ_self k)
      rw [ih (Nat.le_of_succ_le hstop) fun j hn hj => h j hn (Nat.lt_succ_of_lt hj),
        markerPlacesFrom_step hstop, if_neg hk]

theorem le_firstPlace (hn : n ≤ text.length) : n ≤ firstPlace text (markerPlacesFrom text n) := by
  rw [firstPlace]
  cases hplaces : markerPlacesFrom text n with
  | nil => exact hn
  | cons k more =>
      have hk : k ∈ markerPlacesFrom text n := by
        rw [hplaces]
        exact List.mem_cons_self
      exact (List.mem_range'_1.1 (List.mem_of_mem_filter hk)).1

end Places

/-! ### Words -/

section Words

variable {text : List Char} {n k : Nat}

/-- What follows the at sign is the word and what stands behind it. -/
theorem drop_eq_markerWord (text : List Char) (n : Nat) :
    text.drop (n + 1) = markerWordAt text n ++ text.drop (markerWordEnd text n) := by
  have hprefix : markerWordAt text n <+: text.drop (n + 1) := List.takeWhile_prefix isWordChar
  rw [markerWordEnd, ← List.drop_drop (j := n + 1)]
  exact (List.prefix_iff_eq_append.1 hprefix).symm

theorem markerWordEnd_le_length (hn : n < text.length) :
    markerWordEnd text n ≤ text.length := by
  have hword : (markerWordAt text n).length ≤ (text.drop (n + 1)).length :=
    (List.takeWhile_prefix isWordChar).length_le
  rw [List.length_drop] at hword
  rw [markerWordEnd]
  omega

/-- **An at sign behind a marker stands behind its word.** -/
theorem markerWordEnd_le (hn : n < k) (hat : text[k]? = some '@') : markerWordEnd text n ≤ k := by
  by_contra hlt
  have hplace : k - (n + 1) < (markerWordAt text n).length := by
    rw [markerWordEnd] at hlt
    omega
  -- the at sign would be a character of the word
  have hchar : (text.drop (n + 1))[k - (n + 1)]? = some '@' := by
    rw [List.getElem?_drop, Nat.add_sub_cancel' hn, hat]
  rw [drop_eq_markerWord, List.getElem?_append_left hplace] at hchar
  have hword : isWordChar '@' = true :=
    List.all_eq_true.1 List.all_takeWhile '@' (List.mem_of_getElem? hchar)
  exact absurd hword (by decide)

/-- What stands behind a word goes on with no character of a word. -/
theorem head?_drop_markerWordEnd (text : List Char) (n : Nat) :
    ∀ c ∈ (text.drop (markerWordEnd text n)).head?, isWordChar c = false := by
  have hdropWhile : text.drop (markerWordEnd text n) =
      (text.drop (n + 1)).dropWhile isWordChar := by
    have hsplit := drop_eq_markerWord text n
    rw [← List.takeWhile_append_dropWhile (p := isWordChar) (l := text.drop (n + 1))] at hsplit
    exact (List.append_cancel_left hsplit).symm
  intro c hc
  have hstop := List.head?_dropWhile_not isWordChar (text.drop (n + 1))
  rw [hdropWhile, Option.mem_def] at hc
  rwa [hc] at hstop

/-- The word of a marker starts with a letter. -/
theorem MarkerAt.markerWord (h : MarkerAt text n) : MarkerWord (markerWordAt text n) := by
  obtain ⟨c, hc, hletter⟩ := h.behind
  rw [← List.head?_drop, Option.mem_def, List.head?_eq_some_iff] at hc
  obtain ⟨more, hbehind⟩ := hc
  have hword : markerWordAt text n = c :: more.takeWhile isWordChar := by
    rw [markerWordAt, hbehind, List.takeWhile_cons,
      if_pos (isWordChar_of_isAsciiLetter hletter)]
  rw [hword]
  exact .mk hletter fun d hd => List.all_eq_true.1 List.all_takeWhile d hd

/-- Directly behind a word no marker starts. -/
theorem MarkerWord.not_opensMarker {word : List Char} (h : MarkerWord word) (before : List Char) :
    opensMarker (before ++ word) = false := by
  have hne : word ≠ [] := by
    cases h
    exact List.cons_ne_nil _ _
  have hblank : isBlank (word.getLast hne) = false := by
    rw [← Bool.not_eq_true]
    intro hblank
    have hword := h.isWordChar _ (List.getLast_mem hne)
    rw [isWordChar_of_isBlank hblank] at hword
    exact absurd hword (by decide)
  rw [opensMarker, List.getLast?_append_of_ne_nil _ hne, List.getLast?_eq_some_getLast hne]
  exact hblank

theorem MarkerAt.not_opensMarker (h : MarkerAt text n) :
    opensMarker (text.take (markerWordEnd text n)) = false := by
  have hsplit : text.take (markerWordEnd text n) = text.take (n + 1) ++ markerWordAt text n := by
    rw [markerWordEnd, List.take_add, drop_eq_markerWord, List.take_left]
  rw [hsplit]
  exact h.markerWord.not_opensMarker _

end Words

/-! ### Cutting -/

theorem stretch_self (text : List Char) (n : Nat) : stretch text n n = [] := by
  rw [stretch, List.drop_eq_nil_of_le]
  exact List.length_take_le n text

theorem stretch_cons {text : List Char} {n stop : Nat} (hn : n < text.length) (hstop : n < stop) :
    stretch text n stop = text[n] :: stretch text (n + 1) stop := by
  have hlt : n < (text.take stop).length := by
    rw [List.length_take]
    omega
  rw [stretch, stretch, List.drop_eq_getElem_cons hlt, List.getElem_take]

/-- **From any place on, a text is cut at the places of its markers.** -/
theorem cutFrom_eq {text : List Char} {n : Nat} (hn : n ≤ text.length) :
    cutFrom (opensMarker (text.take n)) (text.drop n) =
      (stretch text n (firstPlace text (markerPlacesFrom text n)),
        markedParts text (markerPlacesFrom text n)) := by
  -- on what is left of the text
  obtain ⟨left, hleft⟩ : ∃ left, left = text.length - n := ⟨_, rfl⟩
  induction left using Nat.strongRecOn generalizing n with
  | ind left ih =>
  rcases Nat.eq_or_lt_of_le hn with rfl | hlt
  · rw [List.drop_length, cutFrom, markerPlacesFrom_length]
    exact congrArg (·, []) (stretch_self text text.length).symm
  · rw [markerPlacesFrom_step hlt]
    by_cases hmarker : MarkerAt text n
    · -- the marker is cut out with its word, and the rest behind the word
      have hend := markerWordEnd_le_length hlt
      have hbehind : n + 1 ≤ markerWordEnd text n := Nat.le_add_right _ _
      have hskip : markerPlacesFrom text (n + 1) = markerPlacesFrom text (markerWordEnd text n) :=
        markerPlacesFrom_skip hbehind hend fun k hk hword hat =>
          Nat.not_le_of_lt hword (markerWordEnd_le hk hat.sign)
      have hrest := ih (text.length - markerWordEnd text n) (by omega) hend rfl
      rw [hmarker.not_opensMarker] at hrest
      have hdrop : text.drop n =
          '@' :: (markerWordAt text n ++ text.drop (markerWordEnd text n)) := by
        obtain ⟨_, hat⟩ := List.getElem?_eq_some_iff.1 hmarker.sign
        rw [List.drop_eq_getElem_cons hlt, hat, drop_eq_markerWord]
      rw [if_pos hmarker, (opensMarker_take hlt).2 hmarker.before, hdrop,
        cutFrom_marker hmarker.markerWord (head?_drop_markerWordEnd text n), hrest, hskip]
      exact congrArg (·, _) (stretch_self text n).symm
    · have hdrop := List.drop_eq_getElem_cons hlt
      have htake : text.take n ++ [text[n]] = text.take (n + 1) := List.take_append_getElem hlt
      have hplain : ¬ StartsMarker (text.take n) (text[n] :: text.drop (n + 1)) := by
        rwa [← hdrop, ← markerAt_iff]
      have hrest := ih (text.length - (n + 1)) (by omega) hlt rfl
      have hfirst := le_firstPlace hlt
      rw [if_neg hmarker, hdrop, cutFrom_cons hplain, htake, hrest,
        stretch_cons hlt (Nat.lt_of_succ_le hfirst)]

/-- **A text is cut exactly at its markers.** -/
theorem cutAtMarkers_eq (text : List Char) :
    cutAtMarkers text = (stretch text 0 (firstPlace text (markerPlaces text)),
      markedParts text (markerPlaces text)) := by
  rw [markerPlaces_eq]
  exact cutFrom_eq (Nat.zero_le text.length)

theorem getElem?_markedParts (text : List Char) (places : List Nat) (k : Nat) :
    (markedParts text places)[k]? = places[k]?.map fun n =>
      (markerWordAt text n, stretch text (markerWordEnd text n)
        (places[k + 1]?.getD text.length)) := by
  induction places generalizing k with
  | nil => rfl
  | cons n more ih =>
      cases k with
      | zero => simp [markedParts, firstPlace, List.head?_eq_getElem?]
      | succ k => simp [markedParts, ih]

/-- Every place before the end stands before the first of some places, or between one of them and
the next. -/
theorem exists_place_before {stop k : Nat} (hk : k < stop) (places : List Nat) :
    k < places.head?.getD stop ∨
      ∃ i n, places[i]? = some n ∧ n ≤ k ∧ k < places[i + 1]?.getD stop := by
  induction places with
  | nil => exact .inl hk
  | cons n more ih =>
      rcases Nat.lt_or_ge k n with hlt | hle
      · exact .inl hlt
      rcases ih with hfirst | ⟨i, m, hi, hm, hnext⟩
      · rw [List.head?_eq_getElem?] at hfirst
        exact .inr ⟨0, n, rfl, hle, by simpa using hfirst⟩
      · exact .inr ⟨i + 1, m, by simpa using hi, hm, by simpa using hnext⟩

/-! ### Lines and their decoration -/

/-- Of a line only what stands at its ends is taken away. -/
theorem infix_stripLine (line : List Char) : stripLine line <:+: line := by
  have hbehind : line.dropWhile isSpaceOrTab <:+ line := List.dropWhile_suffix isSpaceOrTab
  unfold stripLine
  split
  · next text hstar =>
      rw [hstar] at hbehind
      exact ((List.suffix_append ['*', ' '] text).trans hbehind).isInfix
  · next text _ hstar =>
      rw [hstar] at hbehind
      exact ((List.suffix_cons '*' text).trans hbehind).isInfix
  · exact infix_trim line

/-- **Taking off the decoration keeps the number of lines.** -/
theorem length_lines_stripDecoration (text : List Char) :
    (lines (stripDecoration text)).length = (lines text).length := by
  have hne : (lines text).map stripLine ≠ [] := by
    rw [ne_eq, List.map_eq_nil_iff]
    exact pieces_ne_nil '\n' text
  have hfree : ∀ line ∈ (lines text).map stripLine, '\n' ∉ line :=
    List.forall_mem_map.2 fun line hline hmem =>
      not_mem_of_mem_pieces hline ((infix_stripLine line).subset hmem)
  have hlines : lines (stripDecoration text) = (lines text).map stripLine :=
    pieces_joinPieces hne hfree
  rw [hlines, List.length_map]

/-! ### The tags of a comment -/

namespace Tag

/-- **Tags are cut exactly at the tag markers.**  With `places` the places of the markers in the
text without its decoration: the description is what stands before the first of them, and there is
one tag for each, in order, read from what stands between the end of its word and the next one.
Every other at sign stands in one of these texts.  No line is lost with the decoration. -/
theorem readAll_at_markers (comment : String) :
    let body := stripDecoration comment.toList
    let places := markerPlaces body
    (readAll comment)[0]? =
        some (description (String.ofList (trim (body.take (places[0]?.getD body.length))))) ∧
      (∀ i : Nat, (readAll comment)[i + 1]? = places[i]?.map fun n =>
        let name := nameOfWord (String.ofList (markerWordAt body n))
        ⟨name, contentReader name (stretch body (markerWordEnd body n)
          (places[i + 1]?.getD body.length))⟩) ∧
      (∀ k, body[k]? = some '@' → k ∉ places → k < places[0]?.getD body.length ∨
        ∃ i n, places[i]? = some n ∧ markerWordEnd body n ≤ k ∧
          k < places[i + 1]?.getD body.length) ∧
      (lines body).length = (lines comment.toList).length := by
  intro body places
  have htags : readAll comment =
      description (String.ofList (trim (stretch body 0 (firstPlace body places)))) ::
        (markedParts body places).map fun part => read part.1 part.2 := by
    rw [readAll, cutAtMarkers_eq]
  refine ⟨?_, fun i => ?_, fun k hat hplain => ?_, length_lines_stripDecoration _⟩
  · rw [htags, firstPlace, List.head?_eq_getElem?]
    rfl
  · rw [htags, List.getElem?_cons_succ, List.getElem?_map, getElem?_markedParts, Option.map_map]
    rfl
  · have hk : k < body.length := (List.getElem?_eq_some_iff.1 hat).1
    rw [← List.head?_eq_getElem?]
    refine (exists_place_before hk places).imp_right ?_
    rintro ⟨i, n, hi, hle, hnext⟩
    have hne : n ≠ k := by
      rintro rfl
      exact hplain (List.mem_of_getElem? hi)
    exact ⟨i, n, hi, markerWordEnd_le (Nat.lt_of_le_of_ne hle hne) hat, hnext⟩

/-- At signs in a word and behind another one, a marker at the start of a line that had a star, and
one that holds but a blank.  The at sign behind the word of the second marker is its text. -/
theorem readAll_at_markers_mixed :
    let comment := " * A@b @@c\n *@extend @d_1@e\n@f"
    let body := stripDecoration comment.toList
    markerPlaces body = [8, 16, 23] ∧ body[20]? = some '@' ∧ 20 ∉ markerPlaces body ∧
      (readAll comment)[2]? = some ⟨"d_1", .plain "@e"⟩ ∧
      (20 < (markerPlaces body)[0]?.getD body.length ∨
        ∃ i n, (markerPlaces body)[i]? = some n ∧ markerWordEnd body n ≤ 20 ∧
          20 < (markerPlaces body)[i + 1]?.getD body.length) := by
  intro comment body
  have hplaces : markerPlaces body = [8, 16, 23] := by decide
  have hat : body[20]? = some '@' := by decide
  have hplain : 20 ∉ markerPlaces body := by
    rw [hplaces]
    decide
  obtain ⟨-, htags, hothers, -⟩ := readAll_at_markers comment
  have htag := htags 1
  rw [hplaces] at htag
  exact ⟨hplaces, hat, hplain, htag.trans (by decide), hothers 20 hat hplain⟩

end Tag

end DocComments
