import DocComments.Text.Words
import DocComments.Token.Lexeme
import Mathlib.Data.List.Find
import Mathlib.Data.List.TakeWhile

/-!
# What a token is read from

`Lexeme.Found` lists what `Lexeme.read` can find and from which characters, one case for each
class of token; everything about single tokens starts from it.

A token does not depend on the text behind it as long as that text cannot continue it.
`Lexeme.Spells allowed written kind text` says this of the characters `written`: wherever
something that separates follows them, they are read as the token.  The main statement is
`Lexeme.Found.spells`: whatever was read in one place can be read in any other.

What separates is kept small on purpose: a blank, or one of the four characters that stand
behind a literal inside another one (`isSeparator`).  No class of token contains one of them
where it could go on (`isSeparator_spec`).
-/

namespace DocComments

open Text

/-! ### Separators -/

/-- The character ends every name, number, regular expression and operator before it. -/
def isSeparator (c : Char) : Bool :=
  isBlank c || [',', ']', '\x7d', ':'].contains c

/-- The text is at its end or starts with a separator. -/
def Separates (follow : List Char) : Prop :=
  ∀ c ∈ follow.head?, isSeparator c = true

theorem separates_nil : Separates [] := by simp [Separates]

theorem separates_cons {c : Char} (h : isSeparator c = true) (more : List Char) :
    Separates (c :: more) := by
  simpa [Separates] using h

theorem isSeparator_of_isBlank {c : Char} (h : isBlank c = true) : isSeparator c = true := by
  simp [isSeparator, h]

/-- The code points of a table, one by one. -/
def Text.Ranges.codes (table : Ranges) : List Nat :=
  table.flatMap fun r => List.range' r.1 (r.2 + 1 - r.1)

theorem Text.Ranges.mem_codes {table : Ranges} {c : Char} (h : table.contains c = true) :
    c.toNat ∈ table.codes := by
  obtain ⟨r, hr, hlow, hhigh⟩ := Ranges.contains_iff.1 h
  refine List.mem_flatMap.2 ⟨r, hr, List.mem_range'_1.2 ⟨hlow, ?_⟩⟩
  omega

/-- All separators. -/
def separators : List Char :=
  blankRanges.codes.map Char.ofNat ++ [',', ']', '\x7d', ':']

theorem mem_separators {c : Char} (h : isSeparator c = true) : c ∈ separators := by
  rw [isSeparator, Bool.or_eq_true] at h
  rcases h with h | h
  · refine List.mem_append_left _ (List.mem_map.2 ⟨c.toNat, Ranges.mem_codes h, ?_⟩)
    exact Char.ofNat_toNat c
  · exact List.mem_append_right _ (List.contains_iff_mem.1 h)

/-- **No class of token goes on with a separator.** -/
theorem isSeparator_spec {c : Char} (h : isSeparator c = true) :
    isNamePart c = false ∧ isLetter c = false ∧ isDigit c = false ∧ isHexDigit c = false ∧
      c ∉ ['.', 'e', 'E', 'x', 'X', '+', '-', '/', '*'] ∧
      ∀ p ∈ punctuators, c ∉ p.toList.tail := by
  -- over the list and not over all characters, which are too many to go through
  have hall : separators.all (fun c => decide
      (isNamePart c = false ∧ isLetter c = false ∧ isDigit c = false ∧ isHexDigit c = false ∧
        c ∉ ['.', 'e', 'E', 'x', 'X', '+', '-', '/', '*'] ∧
        ∀ p ∈ punctuators, c ∉ p.toList.tail)) = true := by
    decide +kernel
  exact of_decide_eq_true (List.all_eq_true.1 hall c (mem_separators h))

/-! ### What can be found -/

namespace Lexeme

/-- **What is read** at the start of `c :: more`: its kind, its text and its width. -/
inductive Found (allowed : Bool) (c : Char) (more : List Char) :
    TokenKind → List Char → Nat → Prop where
  | comment (rest body : List Char) (hc : c = '/') (hmore : more = '*' :: rest)
      (hbody : commentBody? rest = some body) :
      Found allowed c more .docComment (body.drop 1) (body.length + 4)
  | name (h : isNameStart c = true) :
      Found allowed c more (nameKind (c :: more.takeWhile isNamePart))
        (c :: more.takeWhile isNamePart) (more.takeWhile isNamePart).length.succ
  | number (hname : isNameStart c = false) (h : startsNumber (c :: more) = true) :
      Found allowed c more .number (numberChars (c :: more)) (numberChars (c :: more)).length
  | string (body : List Char) (hname : isNameStart c = false)
      (hnumber : startsNumber (c :: more) = false) (hquote : c = '"' ∨ c = '\'')
      (hbody : stringBody c more = (true, body)) :
      Found allowed c more .string body (body.length + 2)
  | regex (body : List Char) (hc : c = '/') (hstar : more.head? ≠ some '*')
      (hallowed : allowed = true) (hbody : regexBody false more = (true, body)) :
      Found allowed c more .regex
        ('/' :: body ++ (more.drop body.length).takeWhile isLetter)
        (body.length + ((more.drop body.length).takeWhile isLetter).length + 1)
  | punct (hname : isNameStart c = false) (hnumber : startsNumber (c :: more) = false)
      (hquote : ¬(c = '"' ∨ c = '\''))
      (hslash : c = '/' → allowed = false ∧ more.head? ≠ some '*') :
      Found allowed c more .punct (punctChars c more) (punctChars c more).length

variable {allowed : Bool} {c : Char} {more text : List Char} {kind : TokenKind} {width : Nat}

theorem found_of_read (h : read allowed c more = .token kind text width) :
    Found allowed c more kind text width := by
  unfold read at h
  split at h
  · next hcomment =>
      obtain ⟨hc, hstar⟩ := hcomment
      obtain ⟨rest, rfl⟩ : ∃ rest, more = '*' :: rest := by
        cases more with
        | nil => simp at hstar
        | cons d rest => exact ⟨rest, by simpa using hstar⟩
      unfold comment at h
      split at h
      · next body hbody =>
          obtain ⟨rfl, rfl, rfl⟩ := Lexeme.token.inj h
          exact .comment rest body hc rfl hbody
      · exact absurd h (by simp)
  next hcomment =>
  split at h
  · next hname =>
      obtain ⟨rfl, rfl, rfl⟩ := Lexeme.token.inj h
      exact .name hname
  next hname =>
  rw [Bool.not_eq_true] at hname
  split at h
  · next hnumber =>
      obtain ⟨rfl, rfl, rfl⟩ := Lexeme.token.inj h
      exact .number hname hnumber
  next hnumber =>
  rw [Bool.not_eq_true] at hnumber
  split at h
  · next hquote =>
      unfold string at h
      split at h
      · next body hbody =>
          obtain ⟨rfl, rfl, rfl⟩ := Lexeme.token.inj h
          exact .string _ hname hnumber hquote hbody
      · exact absurd h (by simp)
  next hquote =>
  split at h
  · next hslash =>
      obtain ⟨rfl, rfl⟩ := hslash
      unfold regex at h
      split at h
      · next body hbody =>
          obtain ⟨rfl, rfl, rfl⟩ := Lexeme.token.inj h
          exact .regex body rfl (fun hstar => hcomment ⟨rfl, hstar⟩) rfl hbody
      · exact absurd h (by simp)
  · next hslash =>
      obtain ⟨rfl, rfl, rfl⟩ := Lexeme.token.inj h
      refine .punct hname hnumber hquote fun hc => ⟨?_, fun hstar => hcomment ⟨hc, hstar⟩⟩
      simpa [hc] using hslash

/-- **Every kind but that of the end can be found**, and no other. -/
theorem Found.kind_ne_endOfInput (h : Found allowed c more kind text width) :
    kind ≠ .endOfInput := by
  cases h with
  | name h =>
      unfold nameKind
      split <;> simp
  | _ => simp

end Lexeme

/-! ### Numbers -/

section Numbers

variable {text follow : List Char}

/-- A run of characters of one class ends before a text that does not go on with the class. -/
theorem takeWhile_append_of_head {p : Char → Bool} (hfollow : ∀ d ∈ follow.head?, p d = false)
    (text : List Char) : (text.takeWhile p ++ follow).takeWhile p = text.takeWhile p :=
  takeWhile_run (fun _ => List.mem_takeWhile_imp) hfollow

theorem fractionChars_point (more : List Char) :
    fractionChars ('.' :: more) = '.' :: more.takeWhile isDigit := rfl

theorem fractionChars_of_ne (h : text.head? ≠ some '.') : fractionChars text = [] := by
  unfold fractionChars
  split
  · exact absurd rfl h
  · rfl

/-- A fraction is absent or starts with a point. -/
theorem head?_fractionChars (text : List Char) : ∀ d ∈ (fractionChars text).head?, d = '.' := by
  unfold fractionChars
  split <;> simp

theorem fractionChars_append (hdigit : ∀ d ∈ follow.head?, isDigit d = false)
    (hpoint : follow.head? ≠ some '.') (text : List Char) :
    fractionChars (fractionChars text ++ follow) = fractionChars text := by
  by_cases h : text.head? = some '.'
  · obtain ⟨more, rfl⟩ := List.head?_eq_some_iff.1 h
    rw [fractionChars_point, List.cons_append, fractionChars_point,
      takeWhile_append_of_head hdigit]
  · rw [fractionChars_of_ne h]
    exact fractionChars_of_ne hpoint

theorem exponentChars_of_ne (h : ∀ d ∈ text.head?, ¬(d = 'e' ∨ d = 'E')) :
    exponentChars text = [] := by
  unfold exponentChars
  split
  · next e sign more => exact if_neg (h e rfl)
  · rfl

/-- **The three forms of an exponent**: with a digit behind its letter, with a sign and digits,
or absent. -/
inductive ExponentForm : List Char → Prop where
  | digits (e d : Char) (more : List Char) (he : e = 'e' ∨ e = 'E') (hd : isDigit d = true) :
      ExponentForm (e :: d :: more.takeWhile isDigit)
  | signed (e sign : Char) (more : List Char) (he : e = 'e' ∨ e = 'E')
      (hsign : sign = '+' ∨ sign = '-') (hdigits : more.takeWhile isDigit ≠ []) :
      ExponentForm (e :: sign :: more.takeWhile isDigit)
  | absent : ExponentForm []

theorem exponentForm (text : List Char) : ExponentForm (exponentChars text) := by
  unfold exponentChars
  split
  · next e sign more =>
      split
      · next he =>
          split
          · next hd => exact .digits e sign more he hd
          split
          · next hsign =>
              split
              · exact .absent
              · next hdigits => exact .signed e sign more he hsign hdigits
          · exact .absent
      · exact .absent
  · exact .absent

/-- An exponent is absent or starts with its letter. -/
theorem head?_exponentChars (text : List Char) :
    ∀ d ∈ (exponentChars text).head?, d = 'e' ∨ d = 'E' := by
  have form := exponentForm text
  generalize exponentChars text = exponent at form
  cases form with
  | digits e d more he => simpa using he
  | signed e sign more he => simpa using he
  | absent => simp

theorem exponentChars_append (hdigit : ∀ d ∈ follow.head?, isDigit d = false)
    (hletter : ∀ d ∈ follow.head?, ¬(d = 'e' ∨ d = 'E')) (text : List Char) :
    exponentChars (exponentChars text ++ follow) = exponentChars text := by
  have form := exponentForm text
  generalize exponentChars text = exponent at form
  cases form with
  | digits e d more he hd =>
      rw [List.cons_append, List.cons_append, exponentChars, if_pos he, if_pos hd,
        takeWhile_append_of_head hdigit]
  | signed e sign more he hsign hdigits =>
      have hsign' : isDigit sign = false := by rcases hsign with rfl | rfl <;> decide
      rw [List.cons_append, List.cons_append, exponentChars, if_pos he, hsign',
        if_neg Bool.false_ne_true, if_pos hsign, takeWhile_append_of_head hdigit]
      cases hmore : more.takeWhile isDigit with
      | nil => exact absurd hmore hdigits
      | cons d digits => rfl
  | absent => exact exponentChars_of_ne hletter

/-- The text cannot continue a number. -/
def EndsNumber (follow : List Char) : Prop :=
  ∀ d ∈ follow.head?,
    isDigit d = false ∧ isHexDigit d = false ∧ d ∉ ['.', 'e', 'E', 'x', 'X']

theorem Separates.endsNumber (h : Separates follow) : EndsNumber follow := by
  intro d hd
  obtain ⟨-, -, hdigit, hhex, hmem, -⟩ := isSeparator_spec (h d hd)
  refine ⟨hdigit, hhex, fun hd' => hmem ?_⟩
  simp only [List.mem_cons, List.not_mem_nil, or_false] at hd' ⊢
  rcases hd' with h | h | h | h | h <;> simp [h]

theorem decimalChars_append (hfollow : EndsNumber follow) (text : List Char) :
    decimalChars (decimalChars text ++ follow) = decimalChars text := by
  set whole := text.takeWhile isDigit with hwhole
  set fraction := fractionChars (text.drop whole.length) with hfraction
  set exponent := exponentChars (text.drop (whole.length + fraction.length)) with hexponent
  have hparts : decimalChars text = whole ++ (fraction ++ exponent) := by
    rw [decimalChars, ← List.append_assoc]
  -- no part can go on into the next one, and each may be empty
  have hletter : ∀ d ∈ (exponent ++ follow).head?, isDigit d = false ∧ d ≠ '.' := by
    refine forall_head?_append (fun d hd => ?_) fun d hd => ?_
    · rcases head?_exponentChars _ d hd with rfl | rfl <;> decide
    · obtain ⟨hdigit, -, hmem⟩ := hfollow d hd
      exact ⟨hdigit, fun h => hmem (by simp [h])⟩
  have hpoint : ∀ d ∈ (fraction ++ (exponent ++ follow)).head?, isDigit d = false := by
    refine forall_head?_append (fun d hd => ?_) fun d hd => (hletter d hd).1
    rw [head?_fractionChars _ d hd]
    decide
  have hwhole' : (whole ++ (fraction ++ (exponent ++ follow))).takeWhile isDigit = whole :=
    takeWhile_append_of_head hpoint text
  have hfraction' : fractionChars (fraction ++ (exponent ++ follow)) = fraction :=
    fractionChars_append (fun d hd => (hletter d hd).1) (fun hd => (hletter _ hd).2 rfl) _
  have hexponent' : exponentChars (exponent ++ follow) = exponent := by
    refine exponentChars_append (fun d hd => (hfollow d hd).1) (fun d hd he => ?_) _
    obtain ⟨-, -, hmem⟩ := hfollow d hd
    exact hmem (by rcases he with rfl | rfl <;> simp)
  rw [hparts, List.append_assoc, List.append_assoc, decimalChars, hwhole', List.drop_left,
    hfraction', ← List.drop_drop, List.drop_left, List.drop_left, hexponent', List.append_assoc]

/-! #### A number is a part of its text -/

theorem prefix_fractionChars (text : List Char) : fractionChars text <+: text := by
  unfold fractionChars
  split
  · exact List.cons_prefix_cons.2 ⟨rfl, List.takeWhile_prefix _⟩
  · exact List.nil_prefix

theorem prefix_exponentChars (text : List Char) : exponentChars text <+: text := by
  unfold exponentChars
  split
  · next e sign more =>
      have hdigits : e :: sign :: more.takeWhile isDigit <+: e :: sign :: more :=
        List.cons_prefix_cons.2
          ⟨rfl, List.cons_prefix_cons.2 ⟨rfl, List.takeWhile_prefix _⟩⟩
      split
      · split
        · exact hdigits
        split
        · split
          · exact List.nil_prefix
          · exact hdigits
        · exact List.nil_prefix
      · exact List.nil_prefix
  · exact List.nil_prefix

/-- A part of a text and a part of what is behind it are a part of the text together. -/
theorem append_prefix_of_drop {front back : List Char} (hfront : front <+: text)
    (hback : back <+: text.drop front.length) : front ++ back <+: text := by
  obtain ⟨rest, rfl⟩ := hfront
  rw [List.drop_left] at hback
  exact (List.prefix_append_right_inj front).2 hback

theorem prefix_decimalChars (text : List Char) : decimalChars text <+: text := by
  refine append_prefix_of_drop (append_prefix_of_drop (List.takeWhile_prefix _)
    (prefix_fractionChars _)) ?_
  rw [List.length_append]
  exact prefix_exponentChars _

/-- The text starts with the mark of a hexadecimal number. -/
def HexMarked (text : List Char) : Prop :=
  ∃ x more, text = '0' :: x :: more ∧ (x = 'x' ∨ x = 'X')

theorem numberChars_of_not_hexMarked (h : ¬HexMarked text) :
    numberChars text = decimalChars text := by
  unfold numberChars
  split
  · next x more => exact if_neg fun hx => h ⟨x, more, rfl, hx⟩
  · rfl

theorem numberChars_hex {x : Char} (hx : x = 'x' ∨ x = 'X') (more : List Char) :
    numberChars ('0' :: x :: more) = '0' :: x :: more.takeWhile isHexDigit :=
  if_pos hx

theorem prefix_numberChars (text : List Char) : numberChars text <+: text := by
  by_cases h : HexMarked text
  · obtain ⟨x, more, rfl, hx⟩ := h
    rw [numberChars_hex hx]
    exact List.cons_prefix_cons.2 ⟨rfl, List.cons_prefix_cons.2 ⟨rfl, List.takeWhile_prefix _⟩⟩
  · rw [numberChars_of_not_hexMarked h]
    exact prefix_decimalChars text

/-- **A number is read again** before a text that cannot continue it. -/
theorem numberChars_append (hstart : startsNumber text = true) (hfollow : EndsNumber follow) :
    numberChars (numberChars text ++ follow) = numberChars text := by
  by_cases h : HexMarked text
  · obtain ⟨x, more, rfl, hx⟩ := h
    rw [numberChars_hex hx, List.cons_append, List.cons_append, numberChars_hex hx,
      takeWhile_append_of_head fun d hd => (hfollow d hd).2.1]
  · have hfront := prefix_decimalChars text
    have hne := decimalChars_ne_nil hstart
    rw [numberChars_of_not_hexMarked h]
    -- a mark would be there already, or the `x` of one would come from what follows
    have hunmarked : ¬HexMarked (decimalChars text ++ follow) := by
      rintro ⟨x, more, heq, hx⟩
      match hnumber : decimalChars text with
      | [] => exact hne hnumber
      | [c] =>
          rw [hnumber] at heq
          obtain ⟨-, rfl⟩ := List.cons.inj heq
          obtain ⟨-, -, hmem⟩ := hfollow x rfl
          exact hmem (by rcases hx with rfl | rfl <;> simp)
      | c :: d :: number =>
          rw [hnumber] at heq hfront
          obtain ⟨rest, rfl⟩ := hfront
          obtain ⟨rfl, htail⟩ := List.cons.inj heq
          obtain ⟨rfl, -⟩ := List.cons.inj htail
          exact h ⟨d, number ++ rest, rfl, hx⟩
    rw [numberChars_of_not_hexMarked hunmarked, decimalChars_append hfollow]

theorem startsNumber_of_isDigit {c : Char} (h : isDigit c = true) (more : List Char) :
    startsNumber (c :: more) = true := by
  have hc : c ≠ '.' := by rintro rfl; exact absurd h (by decide)
  unfold startsNumber
  split <;> simp_all

/-- A number starts with a digit, or with a point and a digit. -/
theorem startsNumber_cases (h : startsNumber text = true) :
    (∃ c more, text = c :: more ∧ isDigit c = true) ∨
      ∃ d more, text = '.' :: d :: more ∧ isDigit d = true := by
  unfold startsNumber at h
  split at h
  · next d more => exact .inr ⟨d, more, rfl, h⟩
  · next c more _ => exact .inl ⟨c, more, rfl, h⟩
  · exact absurd h (by decide)

/-- What was read as a number starts one. -/
theorem startsNumber_numberChars_append (hstart : startsNumber text = true) (follow : List Char) :
    startsNumber (numberChars text ++ follow) = true := by
  have hfront := prefix_numberChars text
  have hne := numberChars_ne_nil hstart
  rcases startsNumber_cases hstart with ⟨c, more, rfl, hc⟩ | ⟨d, more, rfl, hd⟩
  · match hnumber : numberChars (c :: more) with
    | [] => exact absurd hnumber hne
    | first :: number =>
        rw [hnumber] at hfront
        obtain ⟨rfl, -⟩ := List.cons_prefix_cons.1 hfront
        exact startsNumber_of_isDigit hc _
  · have hunmarked : ¬HexMarked ('.' :: d :: more) := by
      rintro ⟨x, rest, heq, -⟩
      exact absurd (List.cons.inj heq).1 (by decide)
    have hpoint : isDigit '.' = false := by decide
    rw [numberChars_of_not_hexMarked hunmarked, decimalChars,
      List.takeWhile_cons_of_neg (by simp [hpoint]), List.length_nil, List.drop_zero,
      fractionChars_point, List.takeWhile_cons_of_pos hd]
    simpa [startsNumber] using hd

end Numbers

/-! ### Strings and regular expressions -/

section Bodies

variable {text body follow : List Char} {quote : Char} {inClass : Bool}

/-- **The characters that a string with this quote can hold**: pairs of a backslash and any
character, and single characters other than the backslash, the quote and the newline. -/
inductive StringUnits (quote : Char) : List Char → Prop where
  | nil : StringUnits quote []
  | pair (c : Char) {more : List Char} (h : StringUnits quote more) :
      StringUnits quote ('\\' :: c :: more)
  | plain {c : Char} {more : List Char} (hescape : c ≠ '\\') (hquote : c ≠ quote)
      (hline : c ≠ '\n') (h : StringUnits quote more) : StringUnits quote (c :: more)

theorem stringUnits_of_stringBody (h : stringBody quote text = (true, body)) :
    StringUnits quote body ∧ ∃ rest, text = body ++ quote :: rest := by
  fun_induction stringBody quote text generalizing body with
  | case1 => simp at h
  | case2 =>
      rename_i c more r ih
      obtain ⟨hclosed, rfl⟩ := Prod.mk.inj h
      obtain ⟨hunits, rest, hrest⟩ := ih (Prod.ext hclosed rfl)
      exact ⟨.pair c hunits, rest, by rw [List.cons_append, List.cons_append, ← hrest]⟩
  | case3 => simp at h
  | case4 more =>
      obtain ⟨-, rfl⟩ := Prod.mk.inj h
      exact ⟨.nil, more, rfl⟩
  | case5 => simp at h
  | case6 =>
      rename_i c more _ hescape hquote hline r ih
      obtain ⟨hclosed, rfl⟩ := Prod.mk.inj h
      obtain ⟨hunits, rest, hrest⟩ := ih (Prod.ext hclosed rfl)
      exact ⟨.plain hescape hquote hline hunits, rest, by rw [List.cons_append, ← hrest]⟩

/-- **A string ends at its quote**, whatever stands behind it. -/
theorem StringUnits.stringBody_append (h : StringUnits quote body) (hquote : quote ≠ '\\')
    (follow : List Char) : stringBody quote (body ++ quote :: follow) = (true, body) := by
  induction h with
  | nil => simp [stringBody, hquote]
  | pair c h ih => simp [stringBody, ih]
  | plain hescape hne hline h ih => simp [stringBody, hescape, hne, hline, ih]

/-- The class flag behind a character. -/
def classAfter (c : Char) (inClass : Bool) : Bool :=
  if c = '[' then true else if c = ']' then false else inClass

theorem regexBody_pair (c : Char) (more : List Char) :
    regexBody inClass ('\\' :: c :: more) =
      ((regexBody inClass more).1, '\\' :: c :: (regexBody inClass more).2) := rfl

theorem regexBody_slash (more : List Char) :
    regexBody false ('/' :: more) = (true, ['/']) := by
  simp [regexBody]

theorem regexBody_plain {c : Char} (hescape : c ≠ '\\') (hline : c ≠ '\n')
    (hslash : ¬(c = '/' ∧ inClass = false)) (more : List Char) :
    regexBody inClass (c :: more) =
      ((regexBody (classAfter c inClass) more).1,
        c :: (regexBody (classAfter c inClass) more).2) := by
  rw [regexBody, if_neg hescape, if_neg hline, if_neg hslash]
  · rfl
  · exact fun _ _ h _ => hescape h

/-- **A regular expression ends at its slash**, whatever stands behind it. -/
theorem regexBody_append (h : regexBody inClass text = (true, body)) :
    body <+: text ∧ ∀ follow, regexBody inClass (body ++ follow) = (true, body) := by
  fun_induction regexBody inClass text generalizing body with
  | case1 => simp at h
  | case2 =>
      rename_i inClass c more r ih
      obtain ⟨hclosed, rfl⟩ := Prod.mk.inj h
      obtain ⟨hfront, hread⟩ := ih (Prod.ext hclosed rfl)
      refine ⟨List.cons_prefix_cons.2 ⟨rfl, List.cons_prefix_cons.2 ⟨rfl, hfront⟩⟩, ?_⟩
      intro follow
      rw [List.cons_append, List.cons_append, regexBody_pair, hread follow]
  | case3 => simp at h
  | case4 => simp at h
  | case5 inClass c more _ hescape hline hslash =>
      obtain ⟨-, rfl⟩ := Prod.mk.inj h
      obtain ⟨rfl, rfl⟩ := hslash
      exact ⟨List.cons_prefix_cons.2 ⟨rfl, List.nil_prefix⟩, regexBody_slash⟩
  | case6 =>
      rename_i inClass c more _ hescape hline hslash r ih
      obtain ⟨hclosed, rfl⟩ := Prod.mk.inj h
      obtain ⟨hfront, hread⟩ := ih (Prod.ext hclosed rfl)
      refine ⟨List.cons_prefix_cons.2 ⟨rfl, hfront⟩, fun follow => ?_⟩
      rw [List.cons_append, regexBody_plain hescape hline hslash]
      exact congrArg (fun read : Bool × List Char => (read.1, c :: read.2)) (hread follow)

end Bodies

/-! ### Operators -/

section Operators

variable {c : Char} {more follow p q : List Char}

/-- The operators as lists of characters, longer ones before shorter ones. -/
def punctuatorChars : List (List Char) :=
  punctuators.map String.toList

theorem mem_punctuatorChars_ne_nil (h : p ∈ punctuatorChars) : p ≠ [] := by
  have hall : ∀ p ∈ punctuatorChars, p ≠ [] := by decide
  exact hall p h

theorem find?_punctuatorChars_self (h : p ∈ punctuatorChars) :
    punctuatorChars.find? (·.isPrefixOf p) = some p := by
  have hall : ∀ p ∈ punctuatorChars, punctuatorChars.find? (·.isPrefixOf p) = some p := by
    decide
  exact hall p h

/-- No operator goes on with a separator. -/
theorem prefix_of_prefix_append (hfollow : Separates follow) (hp : p ∈ punctuatorChars)
    (hq : q ≠ []) (h : p <+: q ++ follow) : p <+: q := by
  rcases List.prefix_or_prefix_of_prefix h (List.prefix_append q follow) with hpq | ⟨rest, rfl⟩
  · exact hpq
  · cases rest with
    | nil => simp
    | cons d rest =>
        obtain ⟨c, q, rfl⟩ := List.exists_cons_of_ne_nil hq
        have hd : isSeparator d = true := by
          obtain ⟨behind, hbehind⟩ := (List.prefix_append_right_inj _).1 h
          exact hfollow d (by rw [← hbehind]; rfl)
        obtain ⟨word, hword, hchars⟩ := List.mem_map.1 hp
        have hmem := (isSeparator_spec hd).2.2.2.2.2 word hword
        rw [hchars] at hmem
        exact absurd (by simp) hmem

theorem punctChars_of_find? (h : punctuatorChars.find? (·.isPrefixOf (c :: more)) = some p) :
    punctChars c more = p := by
  unfold punctChars
  rw [← punctuatorChars, h, Option.getD_some]

theorem punctChars_of_find?_eq_none
    (h : punctuatorChars.find? (·.isPrefixOf (c :: more)) = none) : punctChars c more = [c] := by
  unfold punctChars
  rw [← punctuatorChars, h, Option.getD_none]

/-- **An operator is read again** before what separates. -/
theorem punctChars_append (c : Char) (more : List Char) (hfollow : Separates follow) :
    ∃ rest, punctChars c more = c :: rest ∧ c :: rest <+: c :: more ∧
      punctChars c (rest ++ follow) = c :: rest := by
  cases hfind : punctuatorChars.find? (·.isPrefixOf (c :: more)) with
  | some p =>
      have hmem := List.mem_of_find?_eq_some hfind
      have hfront : p <+: c :: more := by
        simpa using List.find?_some hfind
      obtain ⟨d, rest, rfl⟩ := List.exists_cons_of_ne_nil (mem_punctuatorChars_ne_nil hmem)
      obtain ⟨rfl, -⟩ := List.cons_prefix_cons.1 hfront
      refine ⟨rest, punctChars_of_find? hfind, hfront, punctChars_of_find? ?_⟩
      rw [← find?_punctuatorChars_self hmem]
      refine List.find?_congr fun q hq => Bool.eq_iff_iff.2 ?_
      rw [List.isPrefixOf_iff_prefix, List.isPrefixOf_iff_prefix]
      exact ⟨prefix_of_prefix_append hfollow hq (List.cons_ne_nil d rest),
        fun h => h.trans (List.prefix_append (d :: rest) follow)⟩
  | none =>
      refine ⟨[], punctChars_of_find?_eq_none hfind, by simp, punctChars_of_find?_eq_none ?_⟩
      rw [List.find?_eq_none] at hfind ⊢
      intro q hq hqc
      refine hfind q hq (List.isPrefixOf_iff_prefix.2 ?_)
      have hshort := prefix_of_prefix_append hfollow hq (List.cons_ne_nil c [])
        (List.isPrefixOf_iff_prefix.1 hqc)
      exact hshort.trans (List.cons_prefix_cons.2 ⟨rfl, List.nil_prefix⟩)

end Operators

end DocComments
