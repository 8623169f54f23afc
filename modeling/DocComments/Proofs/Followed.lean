import DocComments.Proofs.Written

/-!
# What more text behind a text does not change

A lexeme is read from characters up to the end of a text.  Here the text goes on behind that end
with something that separates, and the same lexeme is read: `Lexeme.Found.read_append`.  So what a
reader decides near the end of a text, where characters are missing that it would have looked at,
is what it decides when a separator is there instead.

`Lexeme.Found.spells` is about the written form of a token alone.  That is not enough here, since
between this form and the separator stands the rest of the text, which may look as if it continued
the token: behind the number of `1e` stands a letter that is no exponent, and no sign or digit
behind the end may make it one.
-/

namespace DocComments

open Text

section Append

variable {text follow : List Char}

/-- A run of characters of one class ends where it did. -/
theorem takeWhile_append_of_stop {p : Char → Bool} (hstop : ∀ d ∈ follow.head?, p d = false)
    (text : List Char) : (text ++ follow).takeWhile p = text.takeWhile p := by
  induction text with
  | nil => exact takeWhile_run (List.forall_mem_nil _) hstop
  | cons c text ih => rw [List.cons_append, List.takeWhile_cons, List.takeWhile_cons, ih]

theorem Separates.isDigit_eq_false (h : Separates follow) :
    ∀ d ∈ follow.head?, isDigit d = false :=
  fun d hd => (h.endsNumber d hd).1

/-- No text that separates starts with one of the characters that decide what is read. -/
theorem Separates.head?_ne (h : Separates follow) {d : Char}
    (hd : d ∈ ['.', 'e', 'E', 'x', 'X', '+', '-', '/', '*']) : follow.head? ≠ some d :=
  fun hhead => (isSeparator_spec (h d hhead)).2.2.2.2.1 hd

/-- The first character is none that decides what is read, where it was none before. -/
theorem Separates.head?_append_ne (h : Separates follow) {d : Char}
    (hd : d ∈ ['.', 'e', 'E', 'x', 'X', '+', '-', '/', '*']) (htext : text.head? ≠ some d) :
    (text ++ follow).head? ≠ some d := by
  cases text with
  | nil => exact h.head?_ne hd
  | cons c text => exact htext

/-! ### Numbers -/

theorem fractionChars_append_of_separates (h : Separates follow) (text : List Char) :
    fractionChars (text ++ follow) = fractionChars text := by
  by_cases hpoint : text.head? = some '.'
  · obtain ⟨more, rfl⟩ := List.head?_eq_some_iff.1 hpoint
    rw [List.cons_append, fractionChars_point, fractionChars_point,
      takeWhile_append_of_stop h.isDigit_eq_false]
  · rw [fractionChars_of_ne hpoint,
      fractionChars_of_ne (h.head?_append_ne (by decide) hpoint)]

theorem exponentChars_append_of_separates (h : Separates follow) (text : List Char) :
    exponentChars (text ++ follow) = exponentChars text := by
  match text with
  | [] =>
      refine exponentChars_of_ne fun d hd he => ?_
      rcases he with rfl | rfl
      · exact h.head?_ne (by decide) hd
      · exact h.head?_ne (by decide) hd
  | [e] =>
      -- the sign or the digit of an exponent would have to come from behind the end
      cases follow with
      | nil => rfl
      | cons d follow =>
          have hdigit := h.isDigit_eq_false d rfl
          have hsign : ¬(d = '+' ∨ d = '-') := by
            rintro (rfl | rfl)
            · exact h.head?_ne (by decide) rfl
            · exact h.head?_ne (by decide) rfl
          simp [exponentChars, hdigit, hsign]
  | e :: sign :: more =>
      rw [List.cons_append, List.cons_append, exponentChars, exponentChars,
        takeWhile_append_of_stop h.isDigit_eq_false]

theorem decimalChars_append_of_separates (h : Separates follow) (text : List Char) :
    decimalChars (text ++ follow) = decimalChars text := by
  have hwhole := List.takeWhile_prefix isDigit (l := text)
  have hfraction := append_prefix_of_drop hwhole (prefix_fractionChars _)
  have hlen := hfraction.length_le
  rw [List.length_append] at hlen
  rw [decimalChars, decimalChars, takeWhile_append_of_stop h.isDigit_eq_false,
    List.drop_append_of_le_length hwhole.length_le, fractionChars_append_of_separates h,
    List.drop_append_of_le_length hlen, exponentChars_append_of_separates h]

theorem hexMarked_append (h : Separates follow) (htext : ¬HexMarked text) (hne : text ≠ []) :
    ¬HexMarked (text ++ follow) := by
  rintro ⟨x, more, heq, hx⟩
  match text with
  | [] => exact hne rfl
  | [c] =>
      obtain ⟨-, rfl⟩ := List.cons.inj heq
      rcases hx with rfl | rfl
      · exact h.head?_ne (by decide) rfl
      · exact h.head?_ne (by decide) rfl
  | c :: d :: text =>
      obtain ⟨rfl, htail⟩ := List.cons.inj heq
      obtain ⟨rfl, -⟩ := List.cons.inj htail
      exact htext ⟨d, text, rfl, hx⟩

/-- **A number ends where it did.** -/
theorem numberChars_append_of_separates (h : Separates follow) (hne : text ≠ []) :
    numberChars (text ++ follow) = numberChars text := by
  by_cases hmark : HexMarked text
  · obtain ⟨x, more, rfl, hx⟩ := hmark
    rw [List.cons_append, List.cons_append, numberChars_hex hx, numberChars_hex hx,
      takeWhile_append_of_stop fun d hd => (h.endsNumber d hd).2.1]
  · rw [numberChars_of_not_hexMarked hmark,
      numberChars_of_not_hexMarked (hexMarked_append h hmark hne),
      decimalChars_append_of_separates h]

theorem startsNumber_of_ne_point {c : Char} (hc : c ≠ '.') (more : List Char) :
    startsNumber (c :: more) = isDigit c := by
  unfold startsNumber
  split <;> simp_all

theorem startsNumber_append_of_separates (h : Separates follow) (c : Char) (more : List Char) :
    startsNumber (c :: (more ++ follow)) = startsNumber (c :: more) := by
  by_cases hc : c = '.'
  · subst hc
    cases more with
    | cons d more => rfl
    | nil =>
        -- the digit behind the point would have to come from behind the end
        cases follow with
        | nil => rfl
        | cons d follow => exact h.isDigit_eq_false d rfl
  · rw [startsNumber_of_ne_point hc, startsNumber_of_ne_point hc]

/-! ### Operators -/

/-- **An operator ends where it did.** -/
theorem punctChars_append_of_separates (h : Separates follow) (c : Char) (more : List Char) :
    punctChars c (more ++ follow) = punctChars c more := by
  have hsame : punctuatorChars.find? (·.isPrefixOf (c :: (more ++ follow))) =
      punctuatorChars.find? (·.isPrefixOf (c :: more)) := by
    refine List.find?_congr fun p hp => Bool.eq_iff_iff.2 ?_
    rw [List.isPrefixOf_iff_prefix, List.isPrefixOf_iff_prefix]
    exact ⟨prefix_of_prefix_append h hp (List.cons_ne_nil c more),
      fun hfront => hfront.trans (List.prefix_append (c :: more) follow)⟩
  unfold punctChars
  rw [← punctuatorChars, hsame]

end Append

/-! ### Gaps -/

/-- **A plain comment ends where it did**, where the text goes on with a new line. -/
theorem plainCommentLength_append_newline {text : List Char} (h : plainCommentLength text ≠ 0)
    (follow : List Char) :
    plainCommentLength (text ++ '\n' :: follow) = plainCommentLength text := by
  obtain ⟨comment, rest, rfl, hlen, hplain⟩ := plainComment_of_length h
  have hplain' : PlainComment comment (rest ++ '\n' :: follow) := by
    cases hplain with
    | line hbody hend =>
        exact .line hbody (forall_head?_append hend fun c hc => (Option.some.inj hc).symm)
    | block hbody hplain => exact .block hbody hplain
  rw [List.append_assoc, hplain'.length_eq, hlen]

/-! ### Lexemes -/

namespace Lexeme

variable {allowed : Bool} {c : Char} {more text follow : List Char} {kind : TokenKind} {width : Nat}

/-- **The same token is found** in front of more text that separates. -/
theorem Found.append (h : Found allowed c more kind text width) (hfollow : Separates follow) :
    Found allowed c (more ++ follow) kind text width := by
  have hnumber : startsNumber (c :: (more ++ follow)) = startsNumber (c :: more) :=
    startsNumber_append_of_separates hfollow c more
  cases h with
  | comment rest body hc hmore hbody =>
      obtain ⟨hend, behind, rfl⟩ := eq_append_of_commentBody? hbody
      refine .comment (body ++ '*' :: '/' :: (behind ++ follow)) body hc ?_
        (commentBody?_append hend)
      simp [hmore]
  | name hname =>
      have hname' : (more ++ follow).takeWhile isNamePart = more.takeWhile isNamePart :=
        takeWhile_append_of_stop (fun d hd => (isSeparator_spec (hfollow d hd)).1) more
      rw [← hname']
      exact .name hname
  | number hname hstart =>
      have hsame : numberChars (c :: (more ++ follow)) = numberChars (c :: more) :=
        numberChars_append_of_separates hfollow (List.cons_ne_nil c more)
      rw [← hsame]
      exact .number hname (hnumber.trans hstart)
  | string body hname hstart hquote hbody =>
      obtain ⟨hunits, rest, rfl⟩ := stringUnits_of_stringBody hbody
      have hescape : c ≠ '\\' := by rcases hquote with rfl | rfl <;> decide
      refine .string _ hname (hnumber.trans hstart) hquote ?_
      rw [List.append_assoc, List.cons_append]
      exact hunits.stringBody_append hescape (rest ++ follow)
  | regex body hc hstar hallowed hbody =>
      obtain ⟨⟨rest, rfl⟩, hread⟩ := regexBody_append hbody
      have hflags : ((body ++ rest ++ follow).drop body.length).takeWhile isLetter =
          ((body ++ rest).drop body.length).takeWhile isLetter := by
        rw [List.append_assoc, List.drop_left, List.drop_left]
        exact takeWhile_append_of_stop (fun d hd => (isSeparator_spec (hfollow d hd)).2.1) rest
      rw [← hflags]
      refine .regex body hc (hfollow.head?_append_ne (by decide) hstar) hallowed ?_
      rw [List.append_assoc]
      exact hread (rest ++ follow)
  | punct hname hstart hquote hslash =>
      rw [← punctChars_append_of_separates hfollow c more]
      exact .punct hname (hnumber.trans hstart) hquote fun hc =>
        ⟨(hslash hc).1, hfollow.head?_append_ne (by decide) (hslash hc).2⟩

/-- **No plain comment starts** where none started in front of a token. -/
theorem Found.plainCommentLength_append (h : Found allowed c more kind text width)
    (hplain : plainCommentLength (c :: more) = 0) (hfollow : Separates follow) :
    plainCommentLength (c :: (more ++ follow)) = 0 := by
  by_cases hc : c = '/'
  · subst hc
    by_cases hstar : more.head? = some '*'
    · -- then the token is a doc-comment
      obtain ⟨rest, rfl⟩ := List.head?_eq_some_iff.1 hstar
      have hread := h.read_eq
      rw [read, if_pos ⟨rfl, rfl⟩, Lexeme.comment, List.tail_cons] at hread
      cases hbody : commentBody? rest with
      | none => simp [hbody] at hread
      | some body =>
          obtain ⟨inside, behind, -, rfl, -, hslash⟩ := body_of_docComment hbody hplain
          have hslash' : (inside ++ '*' :: '/' :: behind ++ follow).head? ≠ some '/' := by
            cases inside with
            | nil => exact fun hhead => absurd (Option.some.inj hhead) (by decide)
            | cons d inside => exact hslash
          exact plainCommentLength_doc hslash'
    · have hline : more.head? ≠ some '/' := by
        intro hhead
        obtain ⟨rest, rfl⟩ := List.head?_eq_some_iff.1 hhead
        simp [plainCommentLength] at hplain
      exact plainCommentLength_of_head? (hfollow.head?_append_ne (by decide) hline)
        (hfollow.head?_append_ne (by decide) hstar)
  · exact plainCommentLength_of_ne hc

end Lexeme

end DocComments
