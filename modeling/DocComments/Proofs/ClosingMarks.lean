import DocComments.Proofs.LexerProgress

/-!
# Where strings and regular expressions end

The readers of strings and of regular expressions go over a text once, with a flag for character
classes.  What they accept is said here without a scan: a string and a regular expression are made
of *units*, each a backslash with the character that it takes or a single character, and the mark
that closes them is the first one that is no part of a unit or of a class (`StringAt`, `RegexAt`).

What carries the second of them is that the flag is a property of the units read so far
(`inClass_concat_plain`).  `Lexer.reads_up_to_closing` puts a reader at any place of a source: it
succeeds where the construct is closed and only there, and everywhere else it reports the place
where the construct opens.
-/

namespace DocComments

open Text

/-! ### Units -/

/-- **A unit of a string or of a regular expression.** -/
inductive EscapeUnit where
  /-- A backslash with the character that it takes, whatever that is. -/
  | pair (c : Char)
  /-- A character that no backslash takes. -/
  | plain (c : Char)
  deriving DecidableEq, Repr

namespace EscapeUnit

/-- The characters of a unit. -/
def chars : EscapeUnit → List Char
  | pair c => ['\\', c]
  | plain c => [c]

/-- The characters of some units, one after another. -/
def spelled (units : List EscapeUnit) : List Char :=
  units.flatMap chars

@[simp] theorem spelled_nil : spelled [] = [] := rfl

@[simp] theorem spelled_pair (c : Char) (units : List EscapeUnit) :
    spelled (pair c :: units) = '\\' :: c :: spelled units := rfl

@[simp] theorem spelled_plain (c : Char) (units : List EscapeUnit) :
    spelled (plain c :: units) = c :: spelled units := rfl

end EscapeUnit

open EscapeUnit

variable {quote : Char} {more value rest : List Char} {units before : List EscapeUnit}

/-! ### Strings -/

/-- **The units that can stand between quotes**: pairs, and characters other than the backslash, the
newline and the quote. -/
def IsStringBody (quote : Char) (units : List EscapeUnit) : Prop :=
  ∀ c, .plain c ∈ units → c ≠ '\\' ∧ c ≠ '\n' ∧ c ≠ quote

/-- **What stands behind an opening quote starts with a string**: its units, the quote that closes
them, and the rest. -/
structure StringAt (quote : Char) (more value rest : List Char) : Prop where
  /-- The value is made of units. -/
  units : ∃ units, IsStringBody quote units ∧ value = spelled units
  /-- It stands in front of a quote. -/
  text : more = value ++ quote :: rest

theorem isStringBody_pair_iff {c : Char} :
    IsStringBody quote (.pair c :: units) ↔ IsStringBody quote units := by
  simp [IsStringBody]

theorem isStringBody_plain_iff {c : Char} :
    IsStringBody quote (.plain c :: units) ↔
      (c ≠ '\\' ∧ c ≠ '\n' ∧ c ≠ quote) ∧ IsStringBody quote units := by
  simp only [IsStringBody, List.mem_cons, EscapeUnit.plain.injEq, forall_eq_or_imp]

/-- **The characters that a string can hold are those of its units.** -/
theorem stringUnits_iff :
    StringUnits quote value ↔ ∃ units, IsStringBody quote units ∧ value = spelled units := by
  constructor
  · intro h
    induction h with
    | nil => exact ⟨[], by simp [IsStringBody], rfl⟩
    | pair c h ih =>
        obtain ⟨units, hunits, rfl⟩ := ih
        exact ⟨.pair c :: units, isStringBody_pair_iff.2 hunits, rfl⟩
    | @plain c more hescape hquote hline h ih =>
        obtain ⟨units, hunits, rfl⟩ := ih
        exact ⟨.plain c :: units, isStringBody_plain_iff.2 ⟨⟨hescape, hline, hquote⟩, hunits⟩, rfl⟩
  · rintro ⟨units, hunits, rfl⟩
    induction units with
    | nil => exact .nil
    | cons u units ih =>
        cases u with
        | pair c => exact .pair c (ih (isStringBody_pair_iff.1 hunits))
        | plain c =>
            obtain ⟨⟨hescape, hline, hquote⟩, hunits⟩ := isStringBody_plain_iff.1 hunits
            exact .plain hescape hquote hline (ih hunits)

/-- **The reader of strings finds the strings.** -/
theorem stringBody_eq_iff (hquote : quote ≠ '\\') :
    stringBody quote more = (true, value) ↔ ∃ rest, StringAt quote more value rest := by
  constructor
  · intro h
    obtain ⟨hunits, rest, htext⟩ := stringUnits_of_stringBody h
    exact ⟨rest, stringUnits_iff.1 hunits, htext⟩
  · rintro ⟨rest, hunits, rfl⟩
    exact (stringUnits_iff.2 hunits).stringBody_append hquote rest

/-! ### Regular expressions -/

/-- **A character class is open behind these units**: a bracket opened it that no backslash takes,
and no such bracket has closed it since. -/
def InClass (units : List EscapeUnit) : Prop :=
  ∃ front inside, units = front ++ .plain '[' :: inside ∧ .plain ']' ∉ inside

theorem not_inClass_nil : ¬InClass [] := by
  rintro ⟨front, inside, h, -⟩
  exact absurd h (by simp)

/-- What the last unit does to a class. -/
theorem inClass_concat {u : EscapeUnit} :
    InClass (before ++ [u]) ↔ u = .plain '[' ∨ u ≠ .plain ']' ∧ InClass before := by
  constructor
  · rintro ⟨front, inside, h, hopen⟩
    rcases List.eq_nil_or_concat' inside with rfl | ⟨inside, u', rfl⟩
    · obtain ⟨-, hu⟩ := List.append_inj' h rfl
      exact .inl (List.cons.inj hu).1
    · rw [← List.cons_append, ← List.append_assoc] at h
      obtain ⟨rfl, hu⟩ := List.append_inj' h rfl
      obtain rfl := (List.cons.inj hu).1
      rw [List.mem_append, List.mem_singleton, not_or] at hopen
      exact .inr ⟨Ne.symm hopen.2, front, inside, rfl, hopen.1⟩
  · rintro (rfl | ⟨hu, front, inside, rfl, hopen⟩)
    · exact ⟨before, [], rfl, List.not_mem_nil⟩
    · refine ⟨front, inside ++ [u], by simp, ?_⟩
      rw [List.mem_append, List.mem_singleton, not_or]
      exact ⟨hopen, Ne.symm hu⟩

theorem inClass_concat_pair {c : Char} : InClass (before ++ [.pair c]) ↔ InClass before := by
  simp [inClass_concat]

/-- **The flag of the reader is kept by a character.** -/
theorem inClass_concat_plain {c : Char} {inClass : Bool} (h : inClass = true ↔ InClass before) :
    classAfter c inClass = true ↔ InClass (before ++ [.plain c]) := by
  rw [inClass_concat, classAfter, ← h]
  by_cases hopen : c = '['
  · simp [hopen]
  · by_cases hclose : c = ']' <;> simp [hopen, hclose]

/-- **The units between the slashes of a regular expression**, with some units in front of them: a
slash that no backslash takes stands in a class, and the last class is closed. -/
structure IsRegexBody (before units : List EscapeUnit) : Prop where
  /-- The characters of pairs apart, there is no backslash and no newline. -/
  plain : ∀ c, .plain c ∈ units → c ≠ '\\' ∧ c ≠ '\n'
  /-- A slash stands in a class. -/
  slash : ∀ front behind, units = front ++ .plain '/' :: behind → InClass (before ++ front)
  /-- No class is open at the end. -/
  outside : ¬InClass (before ++ units)

/-- **What stands behind an opening slash starts with a regular expression**: its units, a slash,
as many letters as there are, and the rest.  The value has both slashes and the letters. -/
structure RegexAt (more value rest : List Char) : Prop where
  /-- The value is made of units and of letters. -/
  parts : ∃ units flags, IsRegexBody [] units ∧ (∀ c ∈ flags, isLetter c = true) ∧
    value = '/' :: (spelled units ++ '/' :: flags) ∧ more = spelled units ++ '/' :: (flags ++ rest)
  /-- No letter stands behind it. -/
  longest : ∀ c ∈ rest.head?, isLetter c = false

theorem isRegexBody_nil_iff : IsRegexBody before [] ↔ ¬InClass before := by
  constructor
  · intro h
    simpa using h.outside
  · intro h
    exact ⟨by simp, fun front behind heq => absurd heq (by simp), by simpa using h⟩

/-- The units behind the first one are judged with it in front. -/
theorem isRegexBody_cons_iff {u : EscapeUnit} :
    IsRegexBody before (u :: units) ↔
      (∀ c, u = .plain c → c ≠ '\\' ∧ c ≠ '\n') ∧ (u = .plain '/' → InClass before) ∧
        IsRegexBody (before ++ [u]) units := by
  constructor
  · intro h
    refine ⟨fun c hc => h.plain c (hc ▸ List.mem_cons_self), fun hu => ?_, ?_, ?_, ?_⟩
    · have hslash := h.slash [] units (by rw [hu, List.nil_append])
      rwa [List.append_nil] at hslash
    · exact fun c hc => h.plain c (List.mem_cons_of_mem _ hc)
    · intro front behind heq
      have hslash := h.slash (u :: front) behind (by rw [heq, List.cons_append])
      rwa [List.append_cons] at hslash
    · have houtside := h.outside
      rwa [List.append_cons] at houtside
  · rintro ⟨hplain, hslash, h⟩
    refine ⟨fun c hc => ?_, fun front behind heq => ?_, ?_⟩
    · rcases List.mem_cons.1 hc with hu | hc
      · exact hplain c hu.symm
      · exact h.plain c hc
    · cases front with
      | nil =>
          rw [List.append_nil]
          exact hslash (List.cons.inj heq).1
      | cons u' front =>
          obtain ⟨rfl, hunits⟩ := List.cons.inj heq
          rw [List.append_cons]
          exact h.slash front behind hunits
    · rw [List.append_cons]
      exact h.outside

/-- **The reader goes up to the slash behind the units**, when its flag says whether a class is open
behind what it has read. -/
theorem IsRegexBody.regexBody_eq (h : IsRegexBody before units) {inClass : Bool}
    (hclass : inClass = true ↔ InClass before) (behind : List Char) :
    regexBody inClass (spelled units ++ '/' :: behind) = (true, spelled units ++ ['/']) := by
  induction units generalizing before inClass with
  | nil =>
      have hflag : inClass = false := by
        rw [← Bool.not_eq_true, hclass]
        exact isRegexBody_nil_iff.1 h
      rw [hflag]
      exact regexBody_slash behind
  | cons u units ih =>
      obtain ⟨hplain, hslash, hunits⟩ := isRegexBody_cons_iff.1 h
      cases u with
      | pair c =>
          rw [spelled_pair, List.cons_append, List.cons_append, regexBody_pair,
            ih hunits (hclass.trans inClass_concat_pair.symm)]
          rfl
      | plain c =>
          have hinside : ¬(c = '/' ∧ inClass = false) := by
            rintro ⟨rfl, hflag⟩
            rw [hclass.2 (hslash rfl)] at hflag
            exact absurd hflag (by decide)
          rw [spelled_plain, List.cons_append, regexBody_plain (hplain c rfl).1 (hplain c rfl).2
            hinside, ih hunits (inClass_concat_plain hclass)]
          rfl

/-- **What the reader goes over are units and a slash.** -/
theorem isRegexBody_of_regexBody {inClass : Bool} (hclass : inClass = true ↔ InClass before)
    (h : regexBody inClass more = (true, value)) :
    ∃ units behind, IsRegexBody before units ∧ value = spelled units ++ ['/'] ∧
      more = spelled units ++ '/' :: behind := by
  fun_induction regexBody inClass more generalizing value before with
  | case1 => simp at h
  | case2 =>
      rename_i inClass c more r ih
      obtain ⟨hclosed, rfl⟩ := Prod.mk.inj h
      obtain ⟨units, behind, hunits, hvalue, rfl⟩ :=
        ih (hclass.trans inClass_concat_pair.symm) (Prod.ext hclosed rfl)
      refine ⟨.pair c :: units, behind, ?_, congrArg ('\\' :: c :: ·) hvalue, rfl⟩
      exact isRegexBody_cons_iff.2 ⟨by simp, by simp, hunits⟩
  | case3 => simp at h
  | case4 => simp at h
  | case5 inClass c more _ hescape hline hslash =>
      obtain ⟨-, rfl⟩ := Prod.mk.inj h
      obtain ⟨rfl, rfl⟩ := hslash
      refine ⟨[], more, isRegexBody_nil_iff.2 fun hopen => ?_, rfl, rfl⟩
      exact absurd (hclass.2 hopen) (by decide)
  | case6 =>
      rename_i inClass c more _ hescape hline hslash r ih
      obtain ⟨hclosed, rfl⟩ := Prod.mk.inj h
      obtain ⟨units, behind, hunits, hvalue, rfl⟩ :=
        ih (inClass_concat_plain hclass) (Prod.ext hclosed rfl)
      refine ⟨.plain c :: units, behind, ?_, congrArg (c :: ·) hvalue, rfl⟩
      refine isRegexBody_cons_iff.2 ⟨?_, fun hc => ?_, hunits⟩
      · rintro c' hc'
        obtain rfl := EscapeUnit.plain.inj hc'
        exact ⟨hescape, hline⟩
      · obtain rfl := EscapeUnit.plain.inj hc
        by_contra hopen
        exact hslash ⟨rfl, by rwa [← hclass, Bool.not_eq_true] at hopen⟩

/-! ### The lexemes -/

namespace Lexeme

/-- **A lexeme is exact about a construct**: it is a token of that kind where the construct has its
form, as wide as what the form takes, and is left open where it has none. -/
structure Exact (what : Construct) (kind : TokenKind) (text : List Char)
    (Form : List Char → List Char → Prop) (lexeme : Lexeme) : Prop where
  /-- A construct in its form is read. -/
  closed : ∀ value rest, Form value rest →
    ∃ width, lexeme = .token kind value width ∧ text.drop width = rest
  /-- Without one nothing is read. -/
  left_open : (¬∃ value rest, Form value rest) → ∃ width, lexeme = .unterminated what width

theorem exact_string (hquote : quote ≠ '\\') :
    Exact .string .string (quote :: more) (StringAt quote more) (string quote more) := by
  constructor
  · intro value rest h
    have hbody := (stringBody_eq_iff hquote).2 ⟨rest, h⟩
    refine ⟨value.length + 2, by rw [string, hbody], ?_⟩
    rw [h.text, List.drop_succ_cons, List.drop_length_add_append, List.drop_one, List.tail_cons]
  · intro hopen
    cases hbody : stringBody quote more with
    | mk closed body =>
        cases closed with
        | true =>
            obtain ⟨rest, h⟩ := (stringBody_eq_iff hquote).1 hbody
            exact absurd ⟨body, rest, h⟩ hopen
        | false => exact ⟨_, by rw [string, hbody]⟩

theorem exact_regex : Exact .regex .regex ('/' :: more) (RegexAt more) (regex more) := by
  have hclass : false = true ↔ InClass [] := by simp [not_inClass_nil]
  constructor
  · rintro value rest ⟨⟨units, flags, hunits, hflags, rfl, rfl⟩, hlongest⟩
    have hbody := hunits.regexBody_eq hclass (flags ++ rest)
    have hbehind : (spelled units ++ '/' :: (flags ++ rest)).drop (spelled units ++ ['/']).length =
        flags ++ rest := by
      rw [List.append_cons (spelled units) '/' (flags ++ rest), List.drop_left]
    refine ⟨(spelled units ++ ['/']).length + flags.length + 1, ?_, ?_⟩
    · rw [regex, hbody]
      dsimp only
      rw [hbehind, takeWhile_run hflags hlongest, List.cons_append, List.append_assoc,
        List.singleton_append]
    · rw [List.drop_succ_cons, ← List.drop_drop, hbehind, List.drop_left]
  · intro hopen
    cases hbody : regexBody false more with
    | mk closed body =>
        cases closed with
        | true =>
            obtain ⟨units, behind, hunits, -, rfl⟩ := isRegexBody_of_regexBody hclass hbody
            refine absurd ⟨_, behind.dropWhile isLetter, ⟨units, behind.takeWhile isLetter, hunits,
              fun c hc => List.mem_takeWhile_imp hc, rfl, ?_⟩, ?_⟩ hopen
            · rw [List.takeWhile_append_dropWhile]
            · intro c hc
              have hfirst := List.head?_dropWhile_not isLetter behind
              rwa [Option.mem_def.1 hc] at hfirst
        | false => exact ⟨_, by rw [regex, hbody]⟩

end Lexeme

/-! ### At a place of a source -/

namespace Lexer

/-- **A lexer takes the lexeme in front of it**: it answers with the token, or with the construct
left open, at the place where it stands, and moves over the lexeme. -/
def accept (l : Lexer) : Lexeme → Except Unterminated Token × Lexer
  | .token kind text width =>
      (.ok ⟨kind, String.ofList text, l.cursor.line, l.cursor.column⟩, l.behind kind text width)
  | .unterminated what width => (.error ⟨what, l.cursor.line, l.cursor.column⟩, l.skip width)

/-- Every lexeme is taken so. -/
theorem take_eq_accept (l : Lexer) (c : Char) (more : List Char) :
    l.take c more = l.accept (Lexeme.read (regexMayFollow l.last) c more) := by
  rw [take]
  cases Lexeme.read (regexMayFollow l.last) c more <;> rfl

/-- **A construct is read up to the mark that closes it.**  `read` is what a lexer comes to that
takes the construct behind the first `p` characters of `source`, and `Form value rest` says that the
construct has a form there, with this value and with `rest` behind it. -/
structure ReadsUpToClosing (source : List Char) (p : Nat) (what : Construct) (kind : TokenKind)
    (Form : List Char → List Char → Prop) (read : Except Unterminated Token × Lexer) : Prop where
  /-- The reading succeeds where there is a form, and only there. -/
  succeeds_iff : (∃ t, read.1 = .ok t) ↔ ∃ value rest, Form value rest
  /-- The token has the value and stands at the place, and the lexer is just behind it. -/
  closed : ∀ value rest, Form value rest →
    read.1 = .ok ⟨kind, String.ofList value, lineBehind (source.take p),
      columnBehind (source.take p)⟩ ∧
    read.2.cursor.source = source ∧ read.2.cursor.rest = rest ∧ read.2.cursor.Placed
  /-- In every other case the construct is left open, and it is the place that is reported. -/
  left_open : (¬∃ value rest, Form value rest) →
    ∃ e, read.1 = .error e ∧ e.what = what ∧ e.OpensAt source p

/-- **A lexer takes an exact lexeme up to the mark that closes it.** -/
theorem readsUpToClosing {source : List Char} {p : Nat} {what : Construct} {kind : TokenKind}
    {Form : List Char → List Char → Prop} {lexeme : Lexeme}
    (h : lexeme.Exact what kind (source.drop p) Form)
    (hopening : ∃ mark ∈ what.openings, mark <+: source.drop p) (last : Option Token) :
    ReadsUpToClosing source p what kind Form
      (accept ⟨(Cursor.start source).skip p, last⟩ lexeme) := by
  have hplaced : ((Cursor.start source).skip p).Placed := (Cursor.placed_start source).skip p
  have hpassed : ((Cursor.start source).skip p).passed.reverse = source.take p := by
    rw [Cursor.passed_skip]
    rfl
  obtain ⟨hline, hcolumn⟩ := hplaced
  rw [hpassed] at hline hcolumn
  refine ⟨⟨fun ⟨t, ht⟩ => ?_, fun ⟨value, rest, hform⟩ => ?_⟩, fun value rest hform => ?_,
    fun hopen => ?_⟩
  · by_contra hopen
    obtain ⟨width, rfl⟩ := h.left_open hopen
    cases ht
  · obtain ⟨width, rfl, -⟩ := h.closed value rest hform
    exact ⟨_, rfl⟩
  · obtain ⟨width, rfl, hrest⟩ := h.closed value rest hform
    refine ⟨?_, ?_, ?_, ((Cursor.placed_start source).skip p).skip width⟩
    · rw [accept, hline, hcolumn]
    · rw [accept, behind, Cursor.source_skip, Cursor.source_skip, Cursor.source_start]
    · rw [accept, behind, Cursor.rest_skip, Cursor.rest_skip, Cursor.rest_start, hrest]
  · obtain ⟨width, rfl⟩ := h.left_open hopen
    refine ⟨⟨what, lineBehind (source.take p), columnBehind (source.take p)⟩, ?_, rfl,
      hopening, rfl, rfl, rfl⟩
    rw [accept, hline, hcolumn]

/-- **Strings and regular expressions are read where they are closed, and only there.**  Behind an
opening quote a lexer reads a string, whatever its last token is.  Behind a slash that opens a
regular expression it reads that; a slash opens one unless a star follows it or the last token makes
it a division. -/
theorem reads_up_to_closing (source : String) (p : Nat) (last : Option Token) (more : List Char) :
    let l : Lexer := ⟨(Cursor.start source.toList).skip p, last⟩
    (∀ quote, quote = '"' ∨ quote = '\'' → source.toList.drop p = quote :: more →
      ReadsUpToClosing source.toList p .string .string (StringAt quote more)
        (l.take quote more)) ∧
    (source.toList.drop p = '/' :: more →
      ReadsUpToClosing source.toList p .regex .regex (RegexAt more) (l.accept (.regex more)) ∧
      (regexMayFollow last = true → more.head? ≠ some '*' →
        l.take '/' more = l.accept (.regex more))) := by
  intro l
  refine ⟨fun quote hquote htext => ?_, fun htext => ⟨?_, fun hallowed hstar => ?_⟩⟩
  · have hopening : ∃ mark ∈ Construct.string.openings, mark <+: source.toList.drop p := by
      refine ⟨[quote], by rcases hquote with rfl | rfl <;> decide, ?_⟩
      rw [htext]
      exact List.cons_prefix_cons.2 ⟨rfl, List.nil_prefix⟩
    have hescape : quote ≠ '\\' := by rcases hquote with rfl | rfl <;> decide
    rw [take_eq_accept, Lexeme.read_quote hquote]
    exact readsUpToClosing (htext ▸ Lexeme.exact_string hescape) hopening last
  · have hopening : ∃ mark ∈ Construct.regex.openings, mark <+: source.toList.drop p := by
      refine ⟨['/'], by decide, ?_⟩
      rw [htext]
      exact List.cons_prefix_cons.2 ⟨rfl, List.nil_prefix⟩
    exact readsUpToClosing (htext ▸ Lexeme.exact_regex) hopening last
  · rw [take_eq_accept, hallowed, Lexeme.read_slash hstar]

/-- A quote that a backslash takes, a slash in a class, and a string that a newline leaves open. -/
theorem reads_up_to_closing_mixed :
    let source := "'a\\'b' = /[/]\\//g 'c\nd'"
    let lexer (p : Nat) : Lexer := ⟨(Cursor.start source.toList).skip p, none⟩
    ((lexer 0).take '\'' (source.toList.drop 1)).1 = .ok ⟨.string, "a\\'b", 1, 1⟩ ∧
      ((lexer 9).accept (.regex (source.toList.drop 10))).1 = .ok ⟨.regex, "/[/]\\//g", 1, 10⟩ ∧
      ((lexer 18).take '\'' (source.toList.drop 19)).1 = .error ⟨.string, 1, 19⟩ := by
  intro source lexer
  refine ⟨?_, ?_, ?_⟩
  · have hbody : IsStringBody '\'' [.plain 'a', .pair '\'', .plain 'b'] := by simp [IsStringBody]
    have hform : StringAt '\'' (source.toList.drop 1) "a\\'b".toList (source.toList.drop 6) :=
      ⟨⟨_, hbody, by decide⟩, by decide⟩
    exact (((reads_up_to_closing source 0 none _).1 '\'' (.inr rfl) (by decide)).closed _ _ hform).1
  · have hbody : IsRegexBody [] [.plain '[', .plain '/', .plain ']', .pair '/'] := by
      simp only [isRegexBody_cons_iff, isRegexBody_nil_iff, inClass_concat, not_inClass_nil]
      simp
    have hflags : ∀ c ∈ ['g'], isLetter c = true :=
      List.forall_mem_singleton.2 (by decide)
    have hlongest : ∀ c ∈ (source.toList.drop 17).head?, isLetter c = false := by
      have hhead : (source.toList.drop 17).head? = some ' ' := by decide
      rw [hhead]
      rintro c ⟨⟩
      decide
    have hform : RegexAt (source.toList.drop 10) "/[/]\\//g".toList (source.toList.drop 17) :=
      ⟨⟨_, _, hbody, hflags, by decide, by decide⟩, hlongest⟩
    have hplace : lineBehind (source.toList.take 9) = 1 ∧
        columnBehind (source.toList.take 9) = 10 := by
      decide
    have hread := (((reads_up_to_closing source 9 none _).2 (by decide)).1.closed _ _ hform).1
    rwa [hplace.1, hplace.2] at hread
  · have hopen : ¬∃ value rest, StringAt '\'' (source.toList.drop 19) value rest := by
      rintro ⟨value, hform⟩
      have hbody := (stringBody_eq_iff (by decide)).2 hform
      have hopen : (stringBody '\'' (source.toList.drop 19)).1 = false := by decide
      rw [hbody] at hopen
      exact Bool.noConfusion hopen
    have hplace : lineBehind (source.toList.take 18) = 1 ∧
        columnBehind (source.toList.take 18) = 19 := by
      decide
    obtain ⟨⟨what, line, column⟩, he, rfl, hopens⟩ :=
      ((reads_up_to_closing source 18 none _).1 '\'' (.inr rfl) (by decide)).left_open hopen
    obtain rfl : line = 1 := hopens.line.trans hplace.1
    obtain rfl : column = 19 := hopens.column.trans hplace.2
    exact he

end Lexer

end DocComments
