import DocComments.Literal.Source
import DocComments.Proofs.Comments
import DocComments.Proofs.LexemeReading

/-!
# How tokens are written

Two forms of a token.  `WrittenAs kind text written` is the form in which it stood in a source,
with the quotes or the comment marks that its text leaves out.  `printed kind text` is the form
in which it is written anew: only the quotes of a string may change, and they are chosen by
`Literal.quote`.

`Lexeme.Found.spells` is the main statement: whatever was found in one place is read again
from its printed form in any other place, as long as what follows separates.  For strings this
rests on `meetsBare_eq`: the quote chooser looks for a double quote that no backslash precedes,
anywhere in the text, and the lexer walks over the text in pairs; both find the same.
-/

namespace DocComments

open Text

/-! ### Bare quotes -/

section Quotes

open Literal

/-- A double quote stands in the text where no backslash takes it along. -/
def meetsBare : List Char → Bool
  | [] => false
  | '\\' :: _ :: more => meetsBare more
  | c :: more => c = '"' || meetsBare more

theorem hasBareQuoteFrom_false (text : List Char) :
    hasBareQuoteFrom false text = (startsPairsAndQuote text || hasBareQuoteFrom true text) := by
  cases text with
  | nil => rfl
  | cons c more => simp [hasBareQuoteFrom]

/-- **Looking behind and walking in pairs find the same quotes.** -/
theorem meetsBare_eq (text : List Char) :
    (startsPairsAndQuote text || hasBareQuoteFrom true text) = meetsBare text := by
  fun_induction meetsBare text with
  | case1 => rfl
  | case2 c more ih =>
      by_cases hc : c = '\\'
      · subst hc
        simpa [startsPairsAndQuote, hasBareQuoteFrom] using ih
      · have hpairs : startsPairsAndQuote ('\\' :: c :: more) = false := by
          unfold startsPairsAndQuote
          split <;> simp_all
        simp only [hasBareQuoteFrom, hpairs, hc]
        simpa [hasBareQuoteFrom_false] using ih
  | case3 c more hpair ih =>
      by_cases hc : c = '\\'
      · subst hc
        cases more with
        | nil => rfl
        | cons d more => exact absurd rfl (hpair d more rfl)
      · have hpairs : startsPairsAndQuote (c :: more) = decide (c = '"') := by
          unfold startsPairsAndQuote
          split <;> simp_all
        rw [hpairs, ← ih, ← hasBareQuoteFrom_false]
        simp [hasBareQuoteFrom, hc]

theorem hasBareQuote_eq (text : List Char) : hasBareQuote text = meetsBare text := by
  rw [hasBareQuote, hasBareQuoteFrom_false, meetsBare_eq]

variable {quote : Char} {text : List Char}

theorem meetsBare_of_stringUnits (h : StringUnits '"' text) : meetsBare text = false := by
  generalize hquote : '"' = quote at h
  induction h with
  | nil => rfl
  | pair c h ih => exact ih
  | plain hescape hne hline h ih =>
      subst hquote
      rw [meetsBare]
      · simp [hne, ih]
      · exact fun _ _ hc _ => hescape hc

/-- A text without a bare quote can stand between double quotes. -/
theorem stringUnits_double (h : StringUnits quote text) (hbare : meetsBare text = false) :
    StringUnits '"' text := by
  induction h with
  | nil => exact .nil
  | pair c h ih => exact .pair c (ih hbare)
  | plain hescape hne hline h ih =>
      rw [meetsBare, Bool.or_eq_false_iff] at hbare
      · exact .plain hescape (by simpa using hbare.1) hline (ih hbare.2)
      · exact fun _ _ hc _ => hescape hc

/-- **The quote that is chosen fits the text**, whichever of the two it was read from. -/
theorem exists_quote (hquote : quote = '"' ∨ quote = '\'')
    (h : StringUnits quote text) :
    ∃ quote', (quote' = '"' ∨ quote' = '\'') ∧ StringUnits quote' text ∧
      (Literal.quote (String.ofList text)).toList = quote' :: (text ++ [quote']) := by
  cases hbare : meetsBare text with
  | false =>
      refine ⟨'"', .inl rfl, stringUnits_double h hbare, ?_⟩
      simp [Literal.quote, hasBareQuote_eq, hbare]
  | true =>
      have hsingle : quote = '\'' := by
        refine hquote.resolve_left fun hdouble => ?_
        rw [hdouble] at h
        simp [meetsBare_of_stringUnits h] at hbare
      refine ⟨'\'', .inr rfl, hsingle ▸ h, ?_⟩
      simp [Literal.quote, hasBareQuote_eq, hbare]

end Quotes

/-! ### The form in a source -/

/-- **The form in which a token stands in a source**: its text, for a string between two quotes
and for a doc-comment between the marks of one. -/
inductive WrittenAs : TokenKind → List Char → List Char → Prop where
  | plain {kind : TokenKind} {text : List Char} (hstring : kind ≠ .string)
      (hdoc : kind ≠ .docComment) : WrittenAs kind text text
  | string {quote : Char} {text : List Char} (hquote : quote = '"' ∨ quote = '\'') :
      WrittenAs .string text (quote :: text ++ [quote])
  | docComment {text : List Char} :
      WrittenAs .docComment text ('/' :: '*' :: '*' :: text ++ ['*', '/'])

namespace Lexeme

variable {allowed : Bool} {c : Char} {more text : List Char} {kind : TokenKind} {width : Nat}

theorem nameKind_cases (name : List Char) : nameKind name = .keyword ∨ nameKind name = .ident := by
  unfold nameKind
  split
  · exact .inl rfl
  · exact .inr rfl

/-- The body of a doc-comment starts with the second star of its mark. -/
theorem body_of_docComment {rest body : List Char} (hbody : commentBody? rest = some body)
    (hplain : plainCommentLength ('/' :: '*' :: rest) = 0) :
    ∃ text behind, body = '*' :: text ∧ rest = '*' :: text ++ '*' :: '/' :: behind ∧
      NoEnd text ∧ text.head? ≠ some '/' := by
  obtain ⟨hend, behind, rfl⟩ := eq_append_of_commentBody? hbody
  have hstar : body.head? = some '*' := by
    by_contra hstar
    rw [plainCommentLength_block hend hstar] at hplain
    omega
  obtain ⟨text, rfl⟩ := List.head?_eq_some_iff.1 hstar
  obtain ⟨hfirst, hend⟩ := noEnd_cons.1 hend
  refine ⟨text, behind, rfl, rfl, hend, fun hslash => hfirst ?_⟩
  obtain ⟨text, rfl⟩ := List.head?_eq_some_iff.1 hslash
  exact ⟨text, rfl⟩

/-- **What was read stood there**: the width is that of the form in which the token was written. -/
theorem Found.exists_written (h : Found allowed c more kind text width)
    (hplain : plainCommentLength (c :: more) = 0) :
    ∃ written rest, c :: more = written ++ rest ∧ width = written.length ∧
      WrittenAs kind text written := by
  cases h with
  | comment rest body hc hmore hbody =>
      subst hc hmore
      obtain ⟨text, behind, rfl, rfl, -, -⟩ := body_of_docComment hbody hplain
      exact ⟨'/' :: '*' :: '*' :: text ++ ['*', '/'], behind, by simp, by simp, .docComment⟩
  | name hname =>
      refine ⟨_, more.dropWhile isNamePart, ?_, rfl, .plain ?_ ?_⟩
      · rw [List.cons_append, List.takeWhile_append_dropWhile]
      all_goals rcases nameKind_cases (c :: more.takeWhile isNamePart) with h | h <;> simp [h]
  | number hname hnumber =>
      obtain ⟨rest, hrest⟩ := prefix_numberChars (c :: more)
      exact ⟨_, rest, hrest.symm, rfl, .plain (by simp) (by simp)⟩
  | string body hname hnumber hquote hbody =>
      obtain ⟨-, rest, rfl⟩ := stringUnits_of_stringBody hbody
      exact ⟨c :: text ++ [c], rest, by simp, by simp, .string hquote⟩
  | regex body hc hstar hallowed hbody =>
      obtain ⟨⟨rest, rfl⟩, -⟩ := regexBody_append hbody
      refine ⟨_, rest.dropWhile isLetter, ?_, ?_, .plain (by simp) (by simp)⟩
      · rw [List.drop_left, hc, List.append_assoc, List.takeWhile_append_dropWhile,
          List.cons_append]
      · simp only [List.length_append, List.length_cons]
        omega
  | punct hname hnumber hquote hslash =>
      obtain ⟨tail, heq, ⟨rest, hrest⟩, -⟩ := punctChars_append c more separates_nil
      exact ⟨_, rest, by rw [heq, hrest], rfl, .plain (by simp) (by simp)⟩

end Lexeme

/-! ### The form in which it is written anew -/

/-- **The form in which a token is written anew**: a string in the quotes that `Literal.quote`
chooses, everything else as its text. -/
def printed (kind : TokenKind) (text : List Char) : List Char :=
  if kind = .string then (Literal.quote (String.ofList text)).toList else text

/-- **The characters are read as the token**, with no gap before it, wherever something that
separates follows them. -/
def Spells (allowed : Bool) (written : List Char) (kind : TokenKind) (text : List Char) : Prop :=
  ∀ follow, Separates follow →
    ∃ c more, written ++ follow = c :: more ∧ isBlank c = false ∧
      plainCommentLength (c :: more) = 0 ∧
      Lexeme.read allowed c more = .token kind text written.length

section Reading

variable {allowed : Bool} {c : Char} {more text follow : List Char}

theorem plainCommentLength_of_ne (h : c ≠ '/') : plainCommentLength (c :: more) = 0 := by
  unfold plainCommentLength
  split <;> simp_all

theorem plainCommentLength_of_head? (hline : more.head? ≠ some '/')
    (hblock : more.head? ≠ some '*') : plainCommentLength (c :: more) = 0 := by
  unfold plainCommentLength
  split <;> simp_all

theorem isNameStart_slash : isNameStart '/' = false := by decide

/-- No name starts like a comment. -/
theorem ne_slash_of_isNameStart (h : isNameStart c = true) : c ≠ '/' := by
  rintro rfl
  simp [isNameStart_slash] at h

namespace Lexeme

theorem read_name (h : isNameStart c = true) :
    read allowed c more =
      .token (nameKind (c :: more.takeWhile isNamePart)) (c :: more.takeWhile isNamePart)
        (c :: more.takeWhile isNamePart).length := by
  rw [read, if_neg (fun hcomment => ne_slash_of_isNameStart h hcomment.1), if_pos h]

theorem startsNumber_eq_false (hdigit : isDigit c = false) (hpoint : c ≠ '.') :
    startsNumber (c :: more) = false := by
  unfold startsNumber
  split <;> simp_all

theorem startsNumber_slash : startsNumber ('/' :: more) = false :=
  startsNumber_eq_false (by decide) (by decide)

/-- No number starts like a comment. -/
theorem ne_slash_of_startsNumber (h : startsNumber (c :: more) = true) : c ≠ '/' := by
  rintro rfl
  simp [startsNumber_slash] at h

theorem read_number (hname : isNameStart c = false) (h : startsNumber (c :: more) = true) :
    read allowed c more =
      .token .number (numberChars (c :: more)) (numberChars (c :: more)).length := by
  have hc := ne_slash_of_startsNumber h
  rw [read, if_neg (fun hcomment => hc hcomment.1), hname, if_neg Bool.false_ne_true, if_pos h]

/-- A quote opens a string. -/
theorem read_quote (hquote : c = '"' ∨ c = '\'') :
    read allowed c more = string c more := by
  have hchar : c ≠ '/' ∧ isNameStart c = false ∧ startsNumber (c :: more) = false := by
    rcases hquote with rfl | rfl
    all_goals
      exact ⟨by decide, by decide, startsNumber_eq_false (by decide) (by decide)⟩
  rw [read, if_neg (fun hcomment => hchar.1 hcomment.1), hchar.2.1, if_neg Bool.false_ne_true,
    hchar.2.2, if_neg Bool.false_ne_true, if_pos hquote]

/-- Where a regular expression may start, a slash opens one that opens no comment. -/
theorem read_slash (hstar : more.head? ≠ some '*') : read true '/' more = regex more := by
  rw [read, if_neg (fun hcomment => hstar hcomment.2), isNameStart_slash,
    if_neg Bool.false_ne_true, startsNumber_slash, if_neg Bool.false_ne_true,
    if_neg (by decide), if_pos ⟨rfl, rfl⟩]

theorem read_string {body : List Char} (hquote : c = '"' ∨ c = '\'')
    (hbody : stringBody c more = (true, body)) :
    read allowed c more = .token .string body (body.length + 2) := by
  rw [read_quote hquote, string, hbody]

theorem read_regex {body : List Char} (hstar : more.head? ≠ some '*')
    (hbody : regexBody false more = (true, body)) :
    read true '/' more =
      .token .regex ('/' :: body ++ (more.drop body.length).takeWhile isLetter)
        (body.length + ((more.drop body.length).takeWhile isLetter).length + 1) := by
  rw [read_slash hstar, regex, hbody]

theorem read_punct (hname : isNameStart c = false) (hnumber : startsNumber (c :: more) = false)
    (hquote : ¬(c = '"' ∨ c = '\''))
    (hslash : c = '/' → allowed = false ∧ more.head? ≠ some '*') :
    read allowed c more = .token .punct (punctChars c more) (punctChars c more).length := by
  have hregex : ¬(c = '/' ∧ allowed = true) := fun ⟨hc, hallowed⟩ => by
    simp [(hslash hc).1] at hallowed
  rw [read, if_neg (fun hcomment => (hslash hcomment.1).2 hcomment.2), hname,
    if_neg Bool.false_ne_true, hnumber, if_neg Bool.false_ne_true, if_neg hquote, if_neg hregex]

/-- **What is found is read.** -/
theorem Found.read_eq {kind : TokenKind} {width : Nat} (h : Found allowed c more kind text width) :
    read allowed c more = .token kind text width := by
  cases h with
  | comment rest body hc hmore hbody =>
      subst hc hmore
      rw [read, if_pos ⟨rfl, rfl⟩, Lexeme.comment, List.tail_cons, hbody]
  | name hname => exact read_name hname
  | number hname hstart => exact read_number hname hstart
  | string body hname hstart hquote hbody => exact read_string hquote hbody
  | regex body hc hstar hallowed hbody =>
      subst hc hallowed
      exact read_regex hstar hbody
  | punct hname hstart hquote hslash => exact read_punct hname hstart hquote hslash

end Lexeme

/-! #### One class of token after the other -/

theorem printed_of_ne {kind : TokenKind} (h : kind ≠ .string) : printed kind text = text :=
  if_neg h

theorem spells_name (hblank : isBlank c = false) (h : isNameStart c = true) :
    Spells allowed (c :: more.takeWhile isNamePart) (nameKind (c :: more.takeWhile isNamePart))
      (c :: more.takeWhile isNamePart) := by
  intro follow hfollow
  have hname : (more.takeWhile isNamePart ++ follow).takeWhile isNamePart =
      more.takeWhile isNamePart :=
    takeWhile_append_of_head (fun d hd => (isSeparator_spec (hfollow d hd)).1) more
  refine ⟨c, more.takeWhile isNamePart ++ follow, rfl, hblank,
    plainCommentLength_of_ne (ne_slash_of_isNameStart h), ?_⟩
  rw [Lexeme.read_name h, hname]

theorem spells_number (hblank : isBlank c = false) (hname : isNameStart c = false)
    (h : startsNumber (c :: more) = true) :
    Spells allowed (numberChars (c :: more)) .number (numberChars (c :: more)) := by
  intro follow hfollow
  obtain ⟨d, digits, hd⟩ := List.exists_cons_of_ne_nil (numberChars_ne_nil h)
  have hfront := prefix_numberChars (c :: more)
  have hstart := startsNumber_numberChars_append h follow
  have hread := numberChars_append h hfollow.endsNumber
  rw [hd] at hfront hstart hread ⊢
  obtain ⟨rfl, -⟩ := List.cons_prefix_cons.1 hfront
  have hc := Lexeme.ne_slash_of_startsNumber h
  refine ⟨d, digits ++ follow, rfl, hblank, plainCommentLength_of_ne hc, ?_⟩
  rw [List.cons_append] at hstart hread
  rw [Lexeme.read_number hname hstart, hread]

theorem spells_string {quote : Char} (hquote : quote = '"' ∨ quote = '\'')
    (h : StringUnits quote text) : Spells allowed (printed .string text) .string text := by
  intro follow hfollow
  obtain ⟨quote', hquote', hunits, hprinted⟩ := exists_quote hquote h
  have hchar : isBlank quote' = false ∧ quote' ≠ '/' ∧ quote' ≠ '\\' := by
    rcases hquote' with rfl | rfl <;> decide
  rw [printed, if_pos rfl, hprinted]
  refine ⟨quote', text ++ quote' :: follow, by simp, hchar.1,
    plainCommentLength_of_ne hchar.2.1, ?_⟩
  rw [Lexeme.read_string hquote' (hunits.stringBody_append hchar.2.2 follow)]
  simp

theorem spells_regex {body flags : List Char} (hstar : more.head? ≠ some '*')
    (hslash : more.head? ≠ some '/') (hbody : regexBody false more = (true, body)) :
    Spells true ('/' :: body ++ flags.takeWhile isLetter) .regex
      ('/' :: body ++ flags.takeWhile isLetter) := by
  intro follow hfollow
  obtain ⟨hfront, hread⟩ := regexBody_append hbody
  have hflags : (flags.takeWhile isLetter ++ follow).takeWhile isLetter =
      flags.takeWhile isLetter :=
    takeWhile_append_of_head (fun d hd => (isSeparator_spec (hfollow d hd)).2.1) flags
  have hhead : ∀ behind, (body ++ behind).head? = more.head? := by
    intro behind
    cases body with
    | nil => exact absurd (hread []) (by simp [regexBody])
    | cons d body =>
        obtain ⟨rest, rfl⟩ := hfront
        rfl
  refine ⟨'/', body ++ (flags.takeWhile isLetter ++ follow), by simp, by decide,
    plainCommentLength_of_head? (by rwa [hhead]) (by rwa [hhead]), ?_⟩
  rw [Lexeme.read_regex (by rwa [hhead]) (hread _), List.drop_left, hflags]
  simp

/-- What stands behind the first character of an operator stood there before, or separates. -/
theorem head?_operator {rest : List Char} (hfront : c :: rest <+: c :: more)
    (hfollow : Separates follow) {d : Char} (hd : (rest ++ follow).head? = some d) :
    more.head? = some d ∨ isSeparator d = true := by
  cases rest with
  | nil => exact .inr (hfollow d hd)
  | cons e rest =>
      obtain ⟨-, behind, rfl⟩ := List.cons_prefix_cons.1 hfront
      exact .inl hd

theorem spells_punct (hblank : isBlank c = false) (hplain : plainCommentLength (c :: more) = 0)
    (hname : isNameStart c = false) (hnumber : startsNumber (c :: more) = false)
    (hquote : ¬(c = '"' ∨ c = '\''))
    (hslash : c = '/' → allowed = false ∧ more.head? ≠ some '*') :
    Spells allowed (punctChars c more) .punct (punctChars c more) := by
  intro follow hfollow
  obtain ⟨rest, hpunct, hfront, hread⟩ := punctChars_append c more hfollow
  have hhead : ∀ d, (rest ++ follow).head? = some d → more.head? = some d ∨ isSeparator d = true :=
    fun d => head?_operator hfront hfollow
  have hnext : ∀ d, more.head? ≠ some d → isSeparator d = false →
      (rest ++ follow).head? ≠ some d := by
    intro d hd hseparator heq
    rcases hhead d heq with h | h
    · exact hd h
    · simp [hseparator] at h
  -- with something else behind it the operator still opens no comment
  have hplain' : plainCommentLength (c :: (rest ++ follow)) = 0 := by
    by_cases hc : c = '/'
    · subst hc
      refine plainCommentLength_of_head? (hnext _ (fun h => ?_) (by decide))
        (hnext _ (hslash rfl).2 (by decide))
      obtain ⟨more, rfl⟩ := List.head?_eq_some_iff.1 h
      simp [plainCommentLength] at hplain
    · exact plainCommentLength_of_ne hc
  -- and a point still starts no number
  have hnumber' : startsNumber (c :: (rest ++ follow)) = false := by
    by_contra hstart
    rw [Bool.not_eq_false] at hstart
    rcases startsNumber_cases hstart with ⟨d, behind, heq, hd⟩ | ⟨d, behind, heq, hd⟩
    · obtain ⟨rfl, -⟩ := List.cons.inj heq
      simp [startsNumber_of_isDigit hd] at hnumber
    · obtain ⟨rfl, hrest⟩ := List.cons.inj heq
      rcases hhead d (by rw [hrest, List.head?_cons]) with h | h
      · obtain ⟨more, rfl⟩ := List.head?_eq_some_iff.1 h
        simp [startsNumber, hd] at hnumber
      · simp [(isSeparator_spec h).2.2.1] at hd
  rw [hpunct]
  refine ⟨c, rest ++ follow, rfl, hblank, hplain', ?_⟩
  rw [Lexeme.read_punct hname hnumber' hquote fun hc =>
    ⟨(hslash hc).1, hnext _ (hslash hc).2 (by decide)⟩, hread]

/-- **What was found in one place is read again in any other**, from its printed form. -/
theorem Lexeme.Found.spells {kind : TokenKind} {width : Nat}
    (h : Lexeme.Found allowed c more kind text width) (hblank : isBlank c = false)
    (hplain : plainCommentLength (c :: more) = 0) (hdoc : kind ≠ .docComment) :
    Spells allowed (printed kind text) kind text := by
  cases h with
  | comment => exact absurd rfl hdoc
  | name hname =>
      rw [printed_of_ne]
      · exact spells_name hblank hname
      · rcases Lexeme.nameKind_cases (c :: more.takeWhile isNamePart) with h | h <;> simp [h]
  | number hname hnumber => exact spells_number hblank hname hnumber
  | string body hname hnumber hquote hbody =>
      exact spells_string hquote (stringUnits_of_stringBody hbody).1
  | regex body hc hstar hallowed hbody =>
      subst hc hallowed
      refine spells_regex hstar (fun hslash => ?_) hbody
      obtain ⟨more, rfl⟩ := List.head?_eq_some_iff.1 hslash
      simp [plainCommentLength] at hplain
  | punct hname hnumber hquote hslash =>
      exact spells_punct hblank hplain hname hnumber hquote hslash

/-- Only operators depend on whether a regular expression may start. -/
theorem Lexeme.Found.of_allowed {kind : TokenKind} {width : Nat}
    (h : Lexeme.Found allowed c more kind text width) (hpunct : kind ≠ .punct) :
    Lexeme.Found true c more kind text width := by
  cases h with
  | comment rest body hc hmore hbody => exact .comment rest body hc hmore hbody
  | name hname => exact .name hname
  | number hname hnumber => exact .number hname hnumber
  | string _ hname hnumber hquote hbody => exact .string _ hname hnumber hquote hbody
  | regex body hc hstar hallowed hbody => exact .regex body hc hstar rfl hbody
  | punct => exact absurd rfl hpunct

end Reading

end DocComments
