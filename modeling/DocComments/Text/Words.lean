import DocComments.Text.Blank

/-!
# Lines, words and trimming

The ways in which text is cut: down to its non-blank core, into its first word and what
follows that word, and into pieces at each place of one character, such as lines.
-/

namespace DocComments.Text

/-! ### Trimming -/

/-- The text without its leading blanks. -/
def trimStart (text : List Char) : List Char :=
  text.dropWhile isBlank

/-- The text without its trailing blanks. -/
def trimEnd (text : List Char) : List Char :=
  (text.reverse.dropWhile isBlank).reverse

/-- The text without the blanks at either end. -/
def trim (text : List Char) : List Char :=
  trimEnd (trimStart text)

@[simp] theorem trimStart_nil : trimStart [] = [] := rfl

@[simp] theorem trim_nil : trim [] = [] := rfl

theorem trimStart_cons_of_not_isBlank {c : Char} (text : List Char) (h : isBlank c = false) :
    trimStart (c :: text) = c :: text := by
  simp [trimStart, h]

theorem trimStart_cons_of_isBlank {c : Char} (text : List Char) (h : isBlank c = true) :
    trimStart (c :: text) = trimStart text := by
  simp [trimStart, h]

/-- Nothing but blanks. -/
def Blanks (text : List Char) : Prop := ∀ c ∈ text, isBlank c = true

/-- No blank stands at either end. -/
structure Trimmed (text : List Char) : Prop where
  start : ∀ c ∈ text.head?, isBlank c = false
  stop : ∀ c ∈ text.getLast?, isBlank c = false

instance (text : List Char) : Decidable (Blanks text) :=
  decidable_of_iff (text.all isBlank = true) List.all_eq_true

theorem trimmed_iff {text : List Char} :
    Trimmed text ↔
      text.head?.all (!isBlank ·) = true ∧ text.getLast?.all (!isBlank ·) = true := by
  simp only [Option.all_eq_true, Bool.not_eq_true']
  exact ⟨fun h => ⟨h.start, h.stop⟩, fun h => ⟨h.1, h.2⟩⟩

instance (text : List Char) : Decidable (Trimmed text) := decidable_of_iff' _ trimmed_iff

theorem blanks_nil : Blanks [] := nofun

theorem trimmed_nil : Trimmed [] := ⟨nofun, nofun⟩

theorem trimStart_append {gap : List Char} (hgap : Blanks gap) (text : List Char) :
    trimStart (gap ++ text) = trimStart text :=
  List.dropWhile_append_of_pos hgap

theorem trimStart_eq_nil {gap : List Char} (hgap : Blanks gap) : trimStart gap = [] := by
  rw [← List.append_nil gap, trimStart_append hgap]
  rfl

/-- What starts without a blank has nothing to trim there. -/
theorem trimStart_of_head {text : List Char} (h : ∀ c ∈ text.head?, isBlank c = false) :
    trimStart text = text := by
  cases text with
  | nil => rfl
  | cons c text => exact trimStart_cons_of_not_isBlank text (h c rfl)

theorem trimEnd_append {tail : List Char} (htail : Blanks tail) (text : List Char) :
    trimEnd (text ++ tail) = trimEnd text := by
  have htail' : Blanks tail.reverse := fun c hc => htail c (List.mem_reverse.1 hc)
  rw [trimEnd, trimEnd, List.reverse_append]
  exact congrArg List.reverse (trimStart_append htail' _)

theorem trimEnd_of_getLast {text : List Char} (h : ∀ c ∈ text.getLast?, isBlank c = false) :
    trimEnd text = text := by
  have hstart : trimStart text.reverse = text.reverse :=
    trimStart_of_head (by rwa [List.head?_reverse])
  rw [trimEnd]
  exact (congrArg List.reverse hstart).trans (List.reverse_reverse text)

/-- What is left by trimming stands in the text as it is. -/
theorem infix_trim (text : List Char) : trim text <:+: text := by
  have hstart : trimStart text <:+ text := List.dropWhile_suffix isBlank
  have hstop : trimEnd (trimStart text) <+: trimStart text := by
    rw [← List.reverse_suffix, trimEnd, List.reverse_reverse]
    exact List.dropWhile_suffix isBlank
  exact hstop.isInfix.trans hstart.isInfix

/-- **Trimming takes away the blanks around a text** that has none at its ends. -/
theorem trim_between {gap text tail : List Char} (hgap : Blanks gap) (htext : Trimmed text)
    (htail : Blanks tail) : trim (gap ++ (text ++ tail)) = text := by
  rw [trim, trimStart_append hgap]
  cases text with
  | nil => rw [List.nil_append, trimStart_eq_nil htail]; rfl
  | cons c text =>
      have hstart : trimStart (c :: text ++ tail) = c :: text ++ tail :=
        trimStart_cons_of_not_isBlank (text ++ tail) (htext.start c rfl)
      rw [hstart, trimEnd_append htail, trimEnd_of_getLast htext.stop]

theorem Trimmed.trim_eq {text : List Char} (h : Trimmed text) : trim text = text := by
  rw [trim, trimStart_of_head h.start, trimEnd_of_getLast h.stop]

theorem trimStart_trimStart (text : List Char) : trimStart (trimStart text) = trimStart text := by
  induction text with
  | nil => rfl
  | cons c text ih =>
      cases hc : isBlank c with
      | true => rw [trimStart_cons_of_isBlank text hc, ih]
      | false => rw [trimStart_cons_of_not_isBlank text hc, trimStart_cons_of_not_isBlank text hc]

theorem trim_trimStart (text : List Char) : trim (trimStart text) = trim text := by
  rw [trim, trimStart_trimStart, trim]

theorem Blanks.head {gap : List Char} (h : Blanks gap) : ∀ c ∈ gap.head?, isBlank c = true :=
  fun c hc => h c (List.mem_of_mem_head? hc)

/-- What holds of the first characters of two texts holds of the first one of both together. -/
theorem forall_head?_append {P : Char → Prop} {front back : List Char}
    (hfront : ∀ d ∈ front.head?, P d) (hback : ∀ d ∈ back.head?, P d) :
    ∀ d ∈ (front ++ back).head?, P d := by
  cases front with
  | nil => exact hback
  | cons d rest => exact hfront

theorem forall_head?_cons {P : Char → Prop} {c : Char} (h : P c) (text : List Char) :
    ∀ d ∈ (c :: text).head?, P d := by
  intro d hd
  obtain rfl := Option.some.inj hd
  exact h

/-! ### Words -/

/-- **The first word** of a text, `none` if the text is blank, and what follows the word and
the blanks behind it. -/
def firstWord (text : List Char) : Option (List Char) × List Char :=
  match trimStart text with
  | [] => (none, [])
  | start =>
      (some (start.takeWhile fun c => !isBlank c),
        trimStart (start.dropWhile fun c => !isBlank c))

theorem firstWord_of_trimStart_eq_nil {text : List Char} (h : trimStart text = []) :
    firstWord text = (none, []) := by
  simp [firstWord, h]

section Run

variable {p : Char → Bool} {run rest : List Char}

/-- A run of characters of one class ends where what follows is not of the class. -/
theorem takeWhile_run (hrun : ∀ c ∈ run, p c = true) (hrest : ∀ c ∈ rest.head?, p c = false) :
    (run ++ rest).takeWhile p = run := by
  rw [List.takeWhile_append_of_pos hrun]
  cases rest with
  | nil => exact List.append_nil run
  | cons c rest => simp [hrest c rfl]

theorem dropWhile_run (hrun : ∀ c ∈ run, p c = true) (hrest : ∀ c ∈ rest.head?, p c = false) :
    (run ++ rest).dropWhile p = rest := by
  rw [List.dropWhile_append_of_pos hrun]
  cases rest with
  | nil => rfl
  | cons c rest => simp [hrest c rfl]

end Run

/-- **A word is found behind a gap**, up to the blank behind it. -/
theorem firstWord_append {gap word rest : List Char} (hgap : Blanks gap) (hword : word ≠ [])
    (hsolid : ∀ c ∈ word, isBlank c = false) (hrest : ∀ c ∈ rest.head?, isBlank c = true) :
    firstWord (gap ++ (word ++ rest)) = (some word, trimStart rest) := by
  obtain ⟨c, more, rfl⟩ := List.exists_cons_of_ne_nil hword
  have hstart : trimStart (gap ++ (c :: more ++ rest)) = c :: (more ++ rest) :=
    (trimStart_append hgap _).trans
      (trimStart_cons_of_not_isBlank (more ++ rest) (hsolid c (List.mem_cons_self ..)))
  have hrun : ∀ d ∈ c :: more, (!isBlank d) = true := fun d hd => by rw [hsolid d hd]; rfl
  have hstop : ∀ d ∈ rest.head?, (!isBlank d) = false := fun d hd => by rw [hrest d hd]; rfl
  rw [firstWord, hstart]
  simp only
  rw [← List.cons_append, takeWhile_run hrun hstop, dropWhile_run hrun hstop]

/-! ### Pieces -/

/-- **The pieces** of a text: what stands before, between and after the places at which it
has the character `sep`.  There is one more of them than there are such places, so the empty
text has one empty piece. -/
def pieces (sep : Char) : List Char → List (List Char)
  | [] => [[]]
  | c :: text =>
      if c = sep then [] :: pieces sep text
      else
        match pieces sep text with
        | [] => [[c]]
        | piece :: more => (c :: piece) :: more

/-- The text whose pieces are given: the character `sep` between every two. -/
def joinPieces (sep : Char) : List (List Char) → List Char
  | [] => []
  | [piece] => piece
  | piece :: more => piece ++ sep :: joinPieces sep more

/-- The lines of a text. -/
def lines (text : List Char) : List (List Char) :=
  pieces '\n' text

/-- The text whose lines are given. -/
def unlines (lines : List (List Char)) : List Char :=
  joinPieces '\n' lines

theorem pieces_ne_nil (sep : Char) (text : List Char) : pieces sep text ≠ [] := by
  cases text with
  | nil => simp [pieces]
  | cons c text =>
      simp only [pieces]
      split
      · simp
      · split <;> simp

/-- Joining the pieces of a text gives the text back. -/
theorem joinPieces_pieces (sep : Char) (text : List Char) :
    joinPieces sep (pieces sep text) = text := by
  induction text with
  | nil => rfl
  | cons c text ih =>
      simp only [pieces]
      have hne := pieces_ne_nil sep text
      split
      · next hc =>
          subst hc
          cases hl : pieces c text with
          | nil => exact absurd hl hne
          | cons piece more => rw [hl] at ih; simp [joinPieces, ih]
      · cases hl : pieces sep text with
        | nil => exact absurd hl hne
        | cons piece more =>
            rw [hl] at ih
            cases more with
            | nil => simpa [joinPieces] using ih
            | cons next more => simpa [joinPieces] using ih

/-- A piece ends where the text does. -/
theorem pieces_of_not_mem {sep : Char} {piece : List Char} (h : sep ∉ piece) :
    pieces sep piece = [piece] := by
  induction piece with
  | nil => rfl
  | cons c piece ih =>
      have hc : sep ≠ c := fun hc => h (hc ▸ List.mem_cons_self ..)
      have hpiece : sep ∉ piece := fun hpiece => h (List.mem_cons_of_mem c hpiece)
      rw [pieces, if_neg hc.symm, ih hpiece]

/-- A piece ends where the text has the character to cut at. -/
theorem pieces_append {sep : Char} {piece : List Char} (h : sep ∉ piece) (text : List Char) :
    pieces sep (piece ++ sep :: text) = piece :: pieces sep text := by
  induction piece with
  | nil => rw [List.nil_append, pieces, if_pos rfl]
  | cons c piece ih =>
      have hc : sep ≠ c := fun hc => h (hc ▸ List.mem_cons_self ..)
      have hpiece : sep ∉ piece := fun hpiece => h (List.mem_cons_of_mem c hpiece)
      rw [List.cons_append, pieces, if_neg hc.symm, ih hpiece]

/-- **The pieces of what was joined are what was joined.** -/
theorem pieces_joinPieces {sep : Char} {parts : List (List Char)} (hparts : parts ≠ [])
    (h : ∀ piece ∈ parts, sep ∉ piece) : pieces sep (joinPieces sep parts) = parts := by
  fun_induction joinPieces sep parts with
  | case1 => exact absurd rfl hparts
  | case2 piece => exact pieces_of_not_mem (h piece (List.mem_cons_self ..))
  | case3 piece more hmore ih =>
      rw [pieces_append (h piece (List.mem_cons_self ..)),
        ih (fun hnil => hmore hnil) fun p hp => h p (List.mem_cons_of_mem _ hp)]

/-- No piece has the character that the text was cut at. -/
theorem not_mem_of_mem_pieces {sep : Char} {text piece : List Char} (h : piece ∈ pieces sep text) :
    sep ∉ piece := by
  induction text generalizing piece with
  | nil =>
      obtain rfl := List.mem_singleton.1 h
      exact List.not_mem_nil
  | cons c text ih =>
      rw [pieces] at h
      split at h
      · rcases List.mem_cons.1 h with rfl | h
        · exact List.not_mem_nil
        · exact ih h
      · next hc =>
          have hne := pieces_ne_nil sep text
          cases hl : pieces sep text with
          | nil => exact absurd hl hne
          | cons first more =>
              rw [hl] at h ih
              rcases List.mem_cons.1 h with rfl | h
              · intro hsep
                rcases List.mem_cons.1 hsep with rfl | hsep
                · exact hc rfl
                · exact ih (List.mem_cons_self ..) hsep
              · exact ih (List.mem_cons_of_mem _ h)

/-- What is joined behind the first piece comes with the character between. -/
theorem joinPieces_cons (sep : Char) (piece : List Char) (more : List (List Char)) :
    joinPieces sep (piece :: more) = piece ++ more.flatMap (sep :: ·) := by
  induction more generalizing piece with
  | nil => exact (List.append_nil piece).symm
  | cons next more ih =>
      rw [joinPieces.eq_3 _ _ _ (List.cons_ne_nil next more), ih, List.flatMap_cons]
      rfl

/-- There is one piece more than there are places to cut at. -/
theorem length_pieces (sep : Char) (text : List Char) :
    (pieces sep text).length = text.count sep + 1 := by
  induction text with
  | nil => rfl
  | cons c text ih =>
      simp only [pieces]
      split
      · next hc => simp [hc, ih]
      · next hc =>
          have hne := pieces_ne_nil sep text
          cases hl : pieces sep text with
          | nil => exact absurd hl hne
          | cons piece more =>
              rw [hl] at ih
              simpa [List.count_cons, hc] using ih

/-- Joining the lines of a text gives the text back. -/
theorem unlines_lines (text : List Char) : unlines (lines text) = text :=
  joinPieces_pieces '\n' text

end DocComments.Text
