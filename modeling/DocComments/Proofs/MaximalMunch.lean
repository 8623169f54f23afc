import DocComments.Proofs.Layout

/-!
# Tokens reach as far as they can

What a name, a number and an operator may be is said here without a reader: a run of characters
(`IsRun`), parts that stand in a fixed order and may be missing (`IsNumber`), an entry of a table.
Each such token is the longest of its class that starts where it does (`Longest`).

A number is read part by part, and each part takes all it can.  That this makes the whole as long as
possible is because no part can go on with what the next one starts with: a beginning of the text
that is made of a run and something behind it ends within the longest run, or has all of it
(`prefix_run_cases`).  So any number that starts at a place is caught up with part by part
(`length_le_decimalChars`).
-/

namespace DocComments

open Text

/-! ### Classes of texts -/

/-- The text is a run of characters of one class, at least one. -/
structure IsRun (p : Char → Bool) (text : List Char) : Prop where
  nonempty : text ≠ []
  all : ∀ c ∈ text, p c = true

/-- **A fraction**: nothing, or a point and any number of digits. -/
inductive IsFraction : List Char → Prop
  | absent : IsFraction []
  | point {digits : List Char} (hdigits : ∀ d ∈ digits, isDigit d = true) :
      IsFraction ('.' :: digits)

/-- **An exponent**: nothing, or a letter, a sign or none, and at least one digit. -/
inductive IsExponent : List Char → Prop
  | absent : IsExponent []
  | plain {e : Char} {digits : List Char} (he : e = 'e' ∨ e = 'E')
      (hdigits : IsRun isDigit digits) : IsExponent (e :: digits)
  | signed {e sign : Char} {digits : List Char} (he : e = 'e' ∨ e = 'E')
      (hsign : sign = '+' ∨ sign = '-') (hdigits : IsRun isDigit digits) :
      IsExponent (e :: sign :: digits)

/-- **A number**: hexadecimal, with or without digits behind its mark; digits with or without a
fraction and an exponent; or a point and digits with or without an exponent. -/
inductive IsNumber : List Char → Prop
  | hexadecimal {x : Char} {digits : List Char} (hx : x = 'x' ∨ x = 'X')
      (hdigits : ∀ d ∈ digits, isHexDigit d = true) : IsNumber ('0' :: x :: digits)
  | whole {digits fraction exponent : List Char} (hdigits : IsRun isDigit digits)
      (hfraction : IsFraction fraction) (hexponent : IsExponent exponent) :
      IsNumber (digits ++ (fraction ++ exponent))
  | point {digits exponent : List Char} (hdigits : IsRun isDigit digits)
      (hexponent : IsExponent exponent) : IsNumber ('.' :: digits ++ exponent)

/-- **The longest beginning of a text** in a class. -/
structure Longest (admits : List Char → Prop) (text found : List Char) : Prop where
  admitted : admits found
  starts : found <+: text
  length_le : ∀ {other}, admits other → other <+: text → other.length ≤ found.length

/-- **The token is the longest of its class** at the start of a text: a name is a run of letters,
numeric characters, underscores and dollars, and an operator an entry of the table, or a single
character where none starts. -/
structure Token.Reaches (t : Token) (text : List Char) : Prop where
  name : t.kind = .ident ∨ t.kind = .keyword → Longest (IsRun isNamePart) text t.text.toList
  number : t.kind = .number → Longest IsNumber text t.text.toList
  operator : t.kind = .punct → Longest (· ∈ punctuatorChars) text t.text.toList ∨
    (∀ p ∈ punctuatorChars, ¬p <+: text) ∧ ∃ c, t.text.toList = [c] ∧ [c] <+: text

/-! ### Runs -/

section Runs

variable {p : Char → Bool} {run behind text : List Char}

/-- **A run at the start of a text** is part of the longest, and if something else follows it is the
longest. -/
theorem prefix_run_cases (hrun : ∀ c ∈ run, p c = true) (hbehind : ∀ c ∈ behind.head?, p c = false)
    (h : run ++ behind <+: text) :
    behind = [] ∧ run.length ≤ (text.takeWhile p).length ∨
      run = text.takeWhile p ∧ behind <+: text.drop (text.takeWhile p).length := by
  obtain ⟨rest, rfl⟩ := h
  rw [List.append_assoc, List.takeWhile_append_of_pos hrun]
  cases behind with
  | nil => exact .inl ⟨rfl, by simp⟩
  | cons c behind =>
      refine .inr ?_
      rw [List.cons_append, List.takeWhile_cons_of_neg (by simp [hbehind c rfl]), List.append_nil,
        List.drop_left]
      exact ⟨rfl, List.cons_prefix_cons.2 ⟨rfl, List.prefix_append _ _⟩⟩

theorem length_le_takeWhile (hrun : ∀ c ∈ run, p c = true) (h : run <+: text) :
    run.length ≤ (text.takeWhile p).length := by
  rw [← List.append_nil run] at h
  rcases prefix_run_cases hrun (by simp) h with ⟨-, hlen⟩ | ⟨hall, -⟩
  · exact hlen
  · exact (congrArg List.length hall).le

/-- A run that goes as far as it can is the longest. -/
theorem longest_takeWhile {c : Char} (hc : p c = true) (more : List Char) :
    Longest (IsRun p) (c :: more) (c :: more.takeWhile p) := by
  have htaken : (c :: more).takeWhile p = c :: more.takeWhile p := List.takeWhile_cons_of_pos hc
  rw [← htaken]
  refine ⟨⟨by simp [htaken], fun d hd => List.mem_takeWhile_imp hd⟩, List.takeWhile_prefix p, ?_⟩
  exact fun hother hstarts => length_le_takeWhile hother.all hstarts

end Runs

/-! ### Numbers -/

section Numbers

variable {text fraction exponent : List Char}

theorem IsFraction.head?_eq (h : IsFraction fraction) : ∀ c ∈ fraction.head?, c = '.' := by
  cases h <;> simp

theorem IsExponent.head?_eq (h : IsExponent exponent) :
    ∀ c ∈ exponent.head?, c = 'e' ∨ c = 'E' := by
  cases h with
  | absent => simp
  | plain he => simpa using he
  | signed he => simpa using he

theorem IsExponent.head?_not_isDigit (h : IsExponent exponent) :
    ∀ c ∈ exponent.head?, isDigit c = false := by
  intro c hc
  rcases h.head?_eq c hc with rfl | rfl <;> decide

/-- What may follow the digits starts with a point or with the letter of an exponent. -/
theorem IsFraction.head?_append (hfraction : IsFraction fraction)
    (hexponent : IsExponent exponent) :
    ∀ c ∈ (fraction ++ exponent).head?, c ∈ ['.', 'e', 'E'] := by
  refine forall_head?_append (fun c hc => ?_) fun c hc => ?_
  · simp [hfraction.head?_eq c hc]
  · rcases hexponent.head?_eq c hc with rfl | rfl <;> simp

theorem IsFraction.head?_append_not_isDigit (hfraction : IsFraction fraction)
    (hexponent : IsExponent exponent) :
    ∀ c ∈ (fraction ++ exponent).head?, isDigit c = false := by
  intro c hc
  have hfirst := hfraction.head?_append hexponent c hc
  simp only [List.mem_cons, List.not_mem_nil, or_false] at hfirst
  rcases hfirst with rfl | rfl | rfl <;> decide

theorem isFraction_fractionChars (text : List Char) : IsFraction (fractionChars text) := by
  unfold fractionChars
  split
  · exact .point fun d hd => List.mem_takeWhile_imp hd
  · exact .absent

theorem isExponent_exponentChars (text : List Char) : IsExponent (exponentChars text) := by
  have form := exponentForm text
  generalize exponentChars text = exponent at form ⊢
  cases form with
  | digits e d more he hd =>
      refine .plain he ⟨by simp, ?_⟩
      exact List.forall_mem_cons.2 ⟨hd, fun d hd => List.mem_takeWhile_imp hd⟩
  | signed e sign more he hsign hdigits =>
      exact .signed he hsign ⟨hdigits, fun d hd => List.mem_takeWhile_imp hd⟩
  | absent => exact .absent

/-- **An exponent is read to its end.** -/
theorem length_le_exponentChars (h : IsExponent exponent) (hstarts : exponent <+: text) :
    exponent.length ≤ (exponentChars text).length := by
  cases h with
  | absent => exact Nat.zero_le _
  | @plain e digits he hdigits =>
      obtain ⟨d, digits, rfl⟩ := List.exists_cons_of_ne_nil hdigits.nonempty
      obtain ⟨hd, hmore⟩ := List.forall_mem_cons.1 hdigits.all
      obtain ⟨rest, rfl⟩ := hstarts
      rw [List.cons_append, List.cons_append, exponentChars, if_pos he, if_pos hd]
      have hlen := length_le_takeWhile hmore (List.prefix_append digits rest)
      simpa using hlen
  | @signed e sign digits he hsign hdigits =>
      have hsign' : isDigit sign = false := by rcases hsign with rfl | rfl <;> decide
      obtain ⟨rest, rfl⟩ := hstarts
      have hlen := length_le_takeWhile hdigits.all (List.prefix_append digits rest)
      have hpos := List.length_pos_iff.2 hdigits.nonempty
      rw [List.cons_append, List.cons_append, exponentChars, if_pos he, hsign',
        if_neg Bool.false_ne_true, if_pos hsign]
      split
      · next hnone =>
          rw [hnone, List.length_nil] at hlen
          omega
      · simpa using hlen

/-- **A fraction and an exponent are read to their end.** -/
theorem length_le_fraction_exponent (hfraction : IsFraction fraction)
    (hexponent : IsExponent exponent) (hstarts : fraction ++ exponent <+: text) :
    (fraction ++ exponent).length ≤
      (fractionChars text ++ exponentChars (text.drop (fractionChars text).length)).length := by
  cases hfraction with
  | absent =>
      cases exponent with
      | nil => exact Nat.zero_le _
      | cons e exponent =>
          have hnone : fractionChars text = [] := by
            refine fractionChars_of_ne fun hpoint => ?_
            obtain ⟨rest, rfl⟩ := hstarts
            obtain rfl : e = '.' := Option.some.inj hpoint
            exact absurd (hexponent.head?_eq '.' rfl) (by decide)
          rw [hnone]
          exact length_le_exponentChars hexponent hstarts
  | @point digits hdigits =>
      obtain ⟨more, rfl, hmore⟩ : ∃ more, text = '.' :: more ∧ digits ++ exponent <+: more := by
        obtain ⟨rest, rfl⟩ := hstarts
        exact ⟨digits ++ exponent ++ rest, rfl, List.prefix_append _ _⟩
      rw [fractionChars_point]
      simp only [List.length_append, List.length_cons, List.drop_succ_cons]
      rcases prefix_run_cases hdigits hexponent.head?_not_isDigit hmore with
        ⟨rfl, hlen⟩ | ⟨rfl, hbehind⟩
      · simp only [List.length_nil]
        omega
      · have hlen := length_le_exponentChars hexponent hbehind
        omega

/-- **A decimal number is read to its end.** -/
theorem length_le_decimalChars {digits : List Char} (hdigits : ∀ d ∈ digits, isDigit d = true)
    (hfraction : IsFraction fraction) (hexponent : IsExponent exponent)
    (hstarts : digits ++ (fraction ++ exponent) <+: text) :
    (digits ++ (fraction ++ exponent)).length ≤ (decimalChars text).length := by
  have hhead := hfraction.head?_append_not_isDigit hexponent
  rw [decimalChars, List.append_assoc, ← List.drop_drop]
  rcases prefix_run_cases hdigits hhead hstarts with ⟨hnone, hlen⟩ | ⟨rfl, hbehind⟩
  · rw [hnone, List.append_nil, List.length_append]
    omega
  · have hlen := length_le_fraction_exponent hfraction hexponent hbehind
    simp only [List.length_append] at hlen ⊢
    omega

theorem isNumber_numberChars (h : startsNumber text = true) : IsNumber (numberChars text) := by
  by_cases hhex : HexMarked text
  · obtain ⟨x, more, rfl, hx⟩ := hhex
    rw [numberChars_hex hx]
    exact .hexadecimal hx fun d hd => List.mem_takeWhile_imp hd
  rw [numberChars_of_not_hexMarked hhex, decimalChars, List.append_assoc]
  have hexponent := isExponent_exponentChars
  rcases startsNumber_cases h with ⟨c, more, rfl, hc⟩ | ⟨d, more, rfl, hd⟩
  · refine .whole ⟨?_, fun d hd => List.mem_takeWhile_imp hd⟩ (isFraction_fractionChars _)
      (hexponent _)
    rw [List.takeWhile_cons_of_pos hc]
    exact List.cons_ne_nil _ _
  · have hpoint : isDigit '.' = false := by decide
    rw [List.takeWhile_cons_of_neg (by simp [hpoint]), List.nil_append, List.length_nil,
      List.drop_zero, fractionChars_point]
    refine .point ⟨?_, fun d hd => List.mem_takeWhile_imp hd⟩ (hexponent _)
    rw [List.takeWhile_cons_of_pos hd]
    exact List.cons_ne_nil _ _

/-- A decimal number ends before the mark of a hexadecimal one. -/
theorem length_le_one_of_mark {x : Char} (hx : x = 'x' ∨ x = 'X') {digits more : List Char}
    (hdigits : ∀ d ∈ digits, isDigit d = true) (hfraction : IsFraction fraction)
    (hexponent : IsExponent exponent)
    (hstarts : digits ++ (fraction ++ exponent) <+: '0' :: x :: more) :
    (digits ++ (fraction ++ exponent)).length ≤ 1 := by
  have hx' : isDigit x = false ∧ x ∉ ['.', 'e', 'E'] := by rcases hx with rfl | rfl <;> decide
  have htaken : ('0' :: x :: more).takeWhile isDigit = ['0'] := by
    rw [List.takeWhile_cons_of_pos (by decide), List.takeWhile_cons_of_neg (by simp [hx'.1])]
  have hhead := hfraction.head?_append_not_isDigit hexponent
  have hfirst := hfraction.head?_append hexponent
  generalize fraction ++ exponent = behind at hstarts hhead hfirst ⊢
  rcases prefix_run_cases hdigits hhead hstarts with ⟨rfl, hlen⟩ | ⟨rfl, hbehind⟩
  · rw [htaken] at hlen
    rwa [List.append_nil]
  · rw [htaken] at hbehind ⊢
    cases behind with
    | nil => exact Nat.le_refl 1
    | cons c behind =>
        -- it would have to start with the mark
        obtain ⟨rfl, -⟩ := List.cons_prefix_cons.1 hbehind
        exact absurd (hfirst c rfl) hx'.2

/-- Behind the mark of a hexadecimal number only that can go on. -/
theorem length_le_hexadecimal {x : Char} (hx : x = 'x' ∨ x = 'X') {more other : List Char}
    (hother : IsNumber other) (hstarts : other <+: '0' :: x :: more) :
    other.length ≤ ('0' :: x :: more.takeWhile isHexDigit).length := by
  cases hother with
  | @hexadecimal y digits hy hdigits =>
      obtain ⟨-, hmark⟩ := List.cons_prefix_cons.1 hstarts
      obtain ⟨-, hmore⟩ := List.cons_prefix_cons.1 hmark
      have hlen := length_le_takeWhile hdigits hmore
      simp only [List.length_cons]
      omega
  | whole hdigits hfraction hexponent =>
      have hlen := length_le_one_of_mark hx hdigits.all hfraction hexponent hstarts
      exact hlen.trans (by simp)
  | point hdigits hexponent =>
      exact absurd (List.cons_prefix_cons.1 hstarts).1 (by decide)

/-- **A number is read to its end.** -/
theorem longest_numberChars (h : startsNumber text = true) :
    Longest IsNumber text (numberChars text) := by
  refine ⟨isNumber_numberChars h, prefix_numberChars text, fun {other} hother hstarts => ?_⟩
  by_cases hhex : HexMarked text
  · obtain ⟨x, more, rfl, hx⟩ := hhex
    rw [numberChars_hex hx]
    exact length_le_hexadecimal hx hother hstarts
  · rw [numberChars_of_not_hexMarked hhex]
    cases hother with
    | @hexadecimal x digits hx hdigits =>
        obtain ⟨rest, rfl⟩ := hstarts
        exact absurd ⟨x, digits ++ rest, rfl, hx⟩ hhex
    | whole hdigits hfraction hexponent =>
        exact length_le_decimalChars hdigits.all hfraction hexponent hstarts
    | point hdigits hexponent =>
        exact length_le_decimalChars (List.forall_mem_nil _) (.point hdigits.all) hexponent hstarts

end Numbers

/-! ### Operators -/

/-- The first operator of the table that starts a text is the longest that does. -/
theorem longest_of_find? {text p : List Char}
    (h : punctuatorChars.find? (·.isPrefixOf text) = some p) :
    Longest (· ∈ punctuatorChars) text p := by
  obtain ⟨hstarts, before, behind, hsplit, hbefore⟩ := List.find?_eq_some_iff_append.1 h
  have hlonger : punctuatorChars.Pairwise fun a b => b.length ≤ a.length := by decide
  refine ⟨?_, List.isPrefixOf_iff_prefix.1 hstarts, fun {q} hq hstarts => ?_⟩
  · rw [hsplit]
    simp
  · rw [hsplit, List.pairwise_append] at hlonger
    rw [hsplit, List.mem_append, List.mem_cons] at hq
    rcases hq with hq | rfl | hq
    · have hnot := hbefore q hq
      rw [List.isPrefixOf_iff_prefix.2 hstarts] at hnot
      cases hnot
    · exact Nat.le_refl _
    · exact (List.pairwise_cons.1 hlonger.2.1).1 q hq

/-! ### Tokens -/

theorem isNamePart_of_isNameStart {c : Char} (h : isNameStart c = true) : isNamePart c = true := by
  simp only [isNameStart, isNamePart, Bool.or_eq_true] at h ⊢
  tauto

/-- Of a token of another kind nothing is asked. -/
theorem Token.reaches_of_kind {t : Token} (h : t.kind ∉ [.ident, .keyword, .number, .punct])
    (text : List Char) : t.Reaches text := by
  simp only [List.mem_cons, List.not_mem_nil, or_false, not_or] at h
  obtain ⟨hident, hkeyword, hnumber, hpunct⟩ := h
  exact ⟨fun hkind => (hkind.elim hident hkeyword).elim, fun hkind => absurd hkind hnumber,
    fun hkind => absurd hkind hpunct⟩

/-- **What is found reaches as far as it can.** -/
theorem Lexeme.Found.reaches {allowed : Bool} {c : Char} {more text : List Char} {kind : TokenKind}
    {width : Nat} (h : Lexeme.Found allowed c more kind text width) (line column : Int) :
    (⟨kind, String.ofList text, line, column⟩ : Token).Reaches (c :: more) := by
  cases h with
  | comment | string | regex => exact Token.reaches_of_kind (by simp) _
  | name hstart =>
      have hkind := nameKind_cases (c :: more.takeWhile isNamePart)
      refine ⟨fun _ => ?_, fun hnumber => ?_, fun hpunct => ?_⟩
      · rw [String.toList_ofList]
        exact longest_takeWhile (isNamePart_of_isNameStart hstart) more
      · rcases hkind with hkind | hkind <;> cases hkind.symm.trans hnumber
      · rcases hkind with hkind | hkind <;> cases hkind.symm.trans hpunct
  | number _ hstart =>
      refine ⟨fun hname => ?_, fun _ => ?_, fun hpunct => by cases hpunct⟩
      · rcases hname with hname | hname <;> cases hname
      · rw [String.toList_ofList]
        exact longest_numberChars hstart
  | punct =>
      refine ⟨fun hname => ?_, (fun hnumber => by cases hnumber), fun _ => ?_⟩
      · rcases hname with hname | hname <;> cases hname
      rw [String.toList_ofList]
      cases hfound : punctuatorChars.find? (·.isPrefixOf (c :: more)) with
      | some p =>
          rw [punctChars_of_find? hfound]
          exact .inl (longest_of_find? hfound)
      | none =>
          rw [punctChars_of_find?_eq_none hfound]
          refine .inr ⟨fun p hp hstarts => ?_, c, rfl, List.prefix_append [c] more⟩
          exact List.find?_eq_none.1 hfound p hp (List.isPrefixOf_iff_prefix.2 hstarts)

/-- **Each token of a run** reaches as far as it can at the place where it stands. -/
theorem Lexer.Reads.reaches {l : Lexer} {tokens : List Token} (h : l.Reads tokens)
    (hplaced : l.cursor.Placed) :
    ∀ t ∈ tokens, ∃ before text, l.cursor.source = before ++ text ∧
      t.line = lineBehind before ∧ t.column = columnBehind before ∧ t.Reaches text := by
  induction h with
  | finished hrest => exact List.forall_mem_nil _
  | blank hrest hblank _ ih =>
      have hmore := ih (hplaced.skip 1)
      rwa [Lexer.skip, Cursor.source_skip] at hmore
  | comment hrest hblank hcomment _ ih =>
      have hmore := ih (hplaced.skip _)
      rwa [Lexer.skip, Cursor.source_skip] at hmore
  | token hrest hblank hplain hread _ ih =>
      have hmore := ih (hplaced.skip _)
      rw [Lexer.behind, Cursor.source_skip] at hmore
      refine List.forall_mem_cons.2 ⟨?_, hmore⟩
      refine ⟨_, _, rfl, hplaced.1, hplaced.2, ?_⟩
      rw [hrest]
      exact (Lexeme.found_of_read hread).reaches _ _

/-- **Maximal munch**: in a source that can be read to its end, every token that is a name, a number
or an operator is the longest of its class that starts at its line and column. -/
theorem tokenize_reaches {source : String} {tokens : List Token}
    (h : tokenize source = .ok tokens) :
    ∀ t ∈ tokens, ∃ before text, source.toList = before ++ text ∧
      t.line = lineBehind before ∧ t.column = columnBehind before ∧ t.Reaches text := by
  have hreaches := (Lexer.tokenize_eq_ok_iff.1 h).reaches (Cursor.placed_start source.toList)
  rwa [Lexer.start, Cursor.source_start] at hreaches

/-- A point without digits, an exponent without digits, a mark without digits, and an operator that
is one character too long. -/
theorem tokenize_reaches_cut :
    let source := "1..5e+;0xg>>>>=#"
    let tokens : List Token :=
      [⟨.number, "1.", 1, 1⟩, ⟨.number, ".5", 1, 3⟩, ⟨.ident, "e", 1, 5⟩, ⟨.punct, "+", 1, 6⟩,
        ⟨.punct, ";", 1, 7⟩, ⟨.number, "0x", 1, 8⟩, ⟨.ident, "g", 1, 10⟩, ⟨.punct, ">>>", 1, 11⟩,
        ⟨.punct, ">=", 1, 14⟩, ⟨.punct, "#", 1, 16⟩]
    tokenize source = .ok tokens ∧
      ∀ t ∈ tokens, ∃ before text, source.toList = before ++ text ∧
        t.line = lineBehind before ∧ t.column = columnBehind before ∧ t.Reaches text := by
  intro source tokens
  have h : tokenize source = .ok tokens := by decide +kernel
  exact ⟨h, tokenize_reaches h⟩

end DocComments
