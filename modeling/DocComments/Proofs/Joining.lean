import DocComments.Proofs.Followed
import DocComments.Proofs.LexerProgress

/-!
# Sources joined at a line end

A source with a newline and another source behind it is lexed in two parts: the tokens of the
first one, and then what a lexer finds in the second one that remembers the last token of the
first.  The second part stands as many lines further down as the first one has.  This is
`tokenize_joined`.

Both parts come from one relation between lexers.  `Lexer.Below follow lines l m` says that `m`
stands `lines` lines below `l`, with `follow` behind the text that `l` has before it.  The lexer of
the joined source is below that of the first one, with everything from the newline on behind it,
until the first one has ended (`Lexer.Below.reads`).  From then on it is below the lexer of the
second one, and nothing is behind it, so that the two go on alike also where they fail
(`Lexer.Below.run`).
-/

namespace DocComments

open Text

/-! ### Some lines further down -/

/-- The token, some lines further down. -/
def Token.below (lines : Int) (t : Token) : Token :=
  { t with line := t.line + lines }

/-- The construct left open, some lines further down. -/
def Unterminated.below (lines : Int) (e : Unterminated) : Unterminated :=
  { e with line := e.line + lines }

@[simp] theorem Token.below_zero (t : Token) : t.below 0 = t := by
  simp [Token.below]

/-- What a lexer finds, some lines further down. -/
def resultBelow (lines : Int) : Except Unterminated Token → Except Unterminated Token
  | .ok t => .ok (t.below lines)
  | .error e => .error (e.below lines)

@[simp] theorem resultBelow_ok (lines : Int) (t : Token) :
    resultBelow lines (.ok t) = .ok (t.below lines) := rfl

@[simp] theorem resultBelow_error (lines : Int) (e : Unterminated) :
    resultBelow lines (.error e) = .error (e.below lines) := rfl

/-! ### One cursor below another -/

/-- **The second cursor is some lines below the first**, with the same text before it and `follow`
behind that. -/
structure Text.Cursor.Below (follow : List Char) (lines : Int) (c d : Cursor) : Prop where
  /-- The text. -/
  rest : d.rest = c.rest ++ follow
  /-- The line. -/
  line : d.line = c.line + lines
  /-- The column. -/
  column : d.column = c.column

namespace Text.Cursor.Below

variable {follow : List Char} {lines : Int} {c d : Cursor}

theorem forward (h : Below follow lines c d) (hinside : c.rest ≠ [] ∨ follow = []) :
    Below follow lines c.forward d.forward := by
  obtain ⟨hrest, hline, hcolumn⟩ := h
  cases hc : c.rest with
  | nil =>
      obtain rfl := hinside.resolve_left (· hc)
      have hd : d.rest = [] := by rw [hrest, hc, List.nil_append]
      have hstays : c.forward = c := by simp only [Cursor.forward, hc]
      have hstays' : d.forward = d := by simp only [Cursor.forward, hd]
      rw [hstays, hstays']
      exact ⟨hrest, hline, hcolumn⟩
  | cons ch more =>
      have hd : d.rest = ch :: (more ++ follow) := by rw [hrest, hc, List.cons_append]
      refine ⟨?_, ?_, ?_⟩
      · rw [rest_forward, rest_forward, hc, hd, List.tail_cons, List.tail_cons]
      · by_cases hch : ch = '\n' <;> simp [Cursor.forward, hc, hd, hch, hline]
        omega
      · by_cases hch : ch = '\n' <;> simp [Cursor.forward, hc, hd, hch, hcolumn]

/-- **Both move alike**, as long as the first does not meet the end of its text before the other
does. -/
theorem skip {n : Nat} (h : Below follow lines c d) (hinside : n ≤ c.rest.length ∨ follow = []) :
    Below follow lines (c.skip n) (d.skip n) := by
  induction n generalizing c d with
  | zero => exact h
  | succ n ih =>
      refine ih (h.forward ?_) ?_
      · exact hinside.imp_left fun hlen => List.length_pos_iff.1 (Nat.zero_lt_of_lt hlen)
      · refine hinside.imp_left fun hlen => ?_
        rw [rest_forward, List.length_tail]
        omega

end Text.Cursor.Below

/-! ### One lexer below another -/

/-- The last token other than a doc-comment, where `last` came before the tokens. -/
def lastSignificant (last : Option Token) (tokens : List Token) : Option Token :=
  tokens.foldl (fun last t => if t.kind = .docComment then last else some t) last

namespace Lexer

/-- **The second lexer is some lines below the first**, and a regular expression may follow in both
or in neither. -/
structure Below (follow : List Char) (lines : Int) (l m : Lexer) : Prop where
  /-- The place. -/
  cursor : l.cursor.Below follow lines m.cursor
  /-- What may follow. -/
  allowed : regexMayFollow m.last = regexMayFollow l.last

variable {follow : List Char} {lines : Int} {l m : Lexer}

namespace Below

theorem skip {n : Nat} (h : Below follow lines l m)
    (hinside : n ≤ l.cursor.rest.length ∨ follow = []) :
    Below follow lines (l.skip n) (m.skip n) :=
  ⟨h.cursor.skip hinside, h.allowed⟩

theorem behind {n : Nat} (h : Below follow lines l m)
    (hinside : n ≤ l.cursor.rest.length ∨ follow = []) (kind : TokenKind) (text : List Char) :
    Below follow lines (l.behind kind text n) (m.behind kind text n) := by
  refine ⟨h.cursor.skip hinside, ?_⟩
  unfold Lexer.behind
  split
  · exact h.allowed
  · -- the two tokens are the same but for their places, which do not matter here
    rfl

/-- The token that both read, where each of them stands. -/
theorem token_eq (h : Below follow lines l m) (kind : TokenKind) (text : List Char) :
    (⟨kind, String.ofList text, m.cursor.line, m.cursor.column⟩ : Token) =
      Token.below lines ⟨kind, String.ofList text, l.cursor.line, l.cursor.column⟩ := by
  rw [h.cursor.line, h.cursor.column, Token.below]

/-! ### The end of both is the same -/

theorem take (h : Below [] lines l m) (c : Char) (more : List Char) :
    (m.take c more).1 = resultBelow lines (l.take c more).1 ∧
      Below [] lines (l.take c more).2 (m.take c more).2 := by
  cases hread : Lexeme.read (regexMayFollow l.last) c more with
  | token kind text width =>
      rw [take_of_read hread, take_of_read (h.allowed ▸ hread), h.token_eq]
      exact ⟨rfl, h.behind (.inr rfl) kind text⟩
  | unterminated what width =>
      simp only [Lexer.take, hread, h.allowed]
      refine ⟨?_, h.skip (.inr rfl)⟩
      rw [h.cursor.line, h.cursor.column, resultBelow_error, Unterminated.below]

/-- **One step of two lexers in front of the same text** finds the same, some lines apart. -/
theorem next (h : Below [] lines l m) :
    m.next.1 = l.next.1.map (resultBelow lines) ∧ Below [] lines l.next.2 m.next.2 := by
  have hsame : m.cursor.rest = l.cursor.rest := h.cursor.rest.trans (List.append_nil _)
  have hsettle : Below [] lines l.settle m.settle := by
    rw [settle, settle, hsame]
    exact h.skip (.inr rfl)
  have hrest : m.settle.cursor.rest = l.settle.cursor.rest :=
    hsettle.cursor.rest.trans (List.append_nil _)
  unfold Lexer.next
  rw [hrest]
  cases l.settle.cursor.rest with
  | nil => exact ⟨rfl, hsettle⟩
  | cons c more =>
      obtain ⟨hresult, hbehind⟩ := hsettle.take c more
      exact ⟨congrArg some hresult, hbehind⟩

/-- **Two lexers in front of the same text run alike**, some lines apart, whatever fails. -/
theorem run (h : Below [] lines l m) :
    m.run.1.map (·.result) = (l.run.1.map (·.result)).map (resultBelow lines) ∧
      m.run.2.line = l.run.2.line + lines ∧ m.run.2.column = l.run.2.column := by
  fun_induction Lexer.run l generalizing m with
  | case1 l l' hnext =>
      obtain ⟨hresult, hbehind⟩ := h.next
      rw [hnext] at hresult hbehind
      rw [run_of_next_eq_none (Prod.ext hresult rfl)]
      exact ⟨rfl, hbehind.cursor.line, hbehind.cursor.column⟩
  | case2 l result l' hnext r =>
      rename_i ih
      obtain ⟨hresult, hbehind⟩ := h.next
      rw [hnext] at hresult hbehind
      rw [run_of_next_eq_some (Prod.ext hresult rfl)]
      obtain ⟨hmore, hend⟩ := ih hbehind
      refine ⟨?_, hend⟩
      rw [List.map_cons, List.map_cons, List.map_cons, hmore]

/-! ### The first lexer ends and the second goes on -/

theorem rest_cons {c : Char} {rest : List Char} (h : Below follow lines l m)
    (hrest : l.cursor.rest = c :: rest) : m.cursor.rest = c :: (rest ++ follow) := by
  rw [h.cursor.rest, hrest, List.cons_append]

/-- **A lexer with more text behind a line end reads its own tokens first.**  It is then at the
line end, and a regular expression may follow there if it may at the end of the text of the
other one. -/
theorem reads {tokens : List Token} {more : List Char} (hreads : l.Reads tokens)
    (hplaced : l.cursor.Placed) (h : Below ('\n' :: more) lines l m) :
    ∃ m' : Lexer, m'.cursor.rest = '\n' :: more ∧
      m'.cursor.line = lineBehind l.cursor.source + lines ∧
      regexMayFollow m'.last = regexMayFollow (lastSignificant l.last tokens) ∧
      m.run.1.map (·.result) =
        tokens.map (fun t => .ok (t.below lines)) ++ m'.run.1.map (·.result) ∧
      m.run.2 = m'.run.2 := by
  induction hreads generalizing m with
  | @finished l hrest =>
      refine ⟨m, ?_, ?_, h.allowed, rfl, rfl⟩
      · rw [h.cursor.rest, hrest, List.nil_append]
      · rw [h.cursor.line, hplaced.1, Cursor.source, hrest, List.append_nil]
  | @blank l c rest tokens hrest hblank _ ih =>
      have hmore := ih (hplaced.skip 1) (h.skip (.inl (by simp [hrest])))
      rw [Lexer.skip, Cursor.source_skip] at hmore
      rw [run_blank (h.rest_cons hrest) hblank]
      exact hmore
  | @comment l c rest tokens hrest hblank hcomment _ ih =>
      have hlen : plainCommentLength (c :: (rest ++ '\n' :: more)) =
          plainCommentLength (c :: rest) := plainCommentLength_append_newline hcomment more
      have hmore := ih (hplaced.skip _)
        (h.skip (.inl (by rw [hrest]; exact plainCommentLength_le _)))
      rw [Lexer.skip, Cursor.source_skip] at hmore
      rw [run_comment (h.rest_cons hrest) hblank (by rwa [hlen]), hlen]
      exact hmore
  | @token l c rest text kind width tokens hrest hblank hplain hread _ ih =>
      have hnewline : Separates ('\n' :: more) := separates_cons (by decide) more
      have hfound := Lexeme.found_of_read hread
      have hgap : gapLength (c :: (rest ++ '\n' :: more)) = 0 :=
        gapLength_token hblank (hfound.plainCommentLength_append hplain hnewline)
      have hread' : Lexeme.read (regexMayFollow m.last) c (rest ++ '\n' :: more) =
          .token kind text width := h.allowed ▸ (hfound.append hnewline).read_eq
      have hnext := next_of_no_gap (h.rest_cons hrest) hgap
      rw [take_of_read hread', h.token_eq] at hnext
      obtain ⟨written, behind, heq, rfl, -⟩ := hfound.exists_written hplain
      obtain ⟨m', hrest', hline, hallowed, hresults, hend⟩ :=
        ih (hplaced.skip _) (h.behind (.inl (by simp [hrest, heq])) kind text)
      rw [Lexer.behind, Cursor.source_skip] at hline
      rw [run_of_next_eq_some hnext]
      exact ⟨m', hrest', hline, hallowed, congrArg (_ :: ·) hresults, hend⟩

end Below

/-! ### What a source leaves -/

theorem last_next {t : Token} {l' : Lexer} (h : l.next = (some (.ok t), l')) :
    l'.last = lastSignificant l.last [t] := by
  have hmoves := l.moves_next
  rw [h] at hmoves
  cases hmoves with
  | token => rfl

/-- **A lexer that has come to its end** remembers the last of its tokens, doc-comments apart. -/
theorem last_iterate_advance {tokens : List Token} {n : Nat} (h : l.tokens = .ok tokens)
    (hlen : l.cursor.rest.length ≤ n) :
    (advance^[n] l).last = lastSignificant l.last tokens := by
  induction n generalizing l tokens with
  | zero =>
      rw [tokens_nil (List.length_eq_zero_iff.1 (Nat.le_zero.1 hlen))] at h
      obtain rfl := Except.ok.inj h
      rfl
  | succ n ih =>
      cases hnext : l.next with
      | mk result l' =>
          have hadvance : l.advance = l' := by rw [advance, hnext]
          rw [Function.iterate_succ_apply, hadvance]
          cases result with
          | none =>
              obtain ⟨rfl, hrest⟩ := eq_settle_of_ended hnext
              rw [Lexer.tokens, run_of_next_eq_none hnext] at h
              obtain rfl := Except.ok.inj h
              rw [iterate_advance_nil hrest]
              rfl
          | some result =>
              have hlt := rest_next_lt hnext
              obtain ⟨t, others, rfl, hothers, rfl⟩ := exists_of_tokens_eq_ok hnext h
              rw [ih hothers (by omega), last_next hnext]
              rfl

/-! ### Tokens and failures -/

theorem tokens_eq_mapM (l : Lexer) : l.tokens = (l.run.1.map (·.result)).mapM id := by
  rw [List.mapM_map]
  rfl

end Lexer

theorem mapM_ok_append (tokens : List Token) (u : Upcoming) :
    (tokens.map Except.ok ++ u).mapM id = (tokens ++ ·) <$> u.mapM id := by
  induction tokens with
  | nil => simp
  | cons t tokens ih =>
      rw [List.map_cons, List.cons_append, List.mapM_cons, ih]
      cases u.mapM id <;> rfl

theorem mapM_resultBelow (lines : Int) (u : Upcoming) :
    (u.map (resultBelow lines)).mapM id =
      match u.mapM id with
      | .ok tokens => .ok (tokens.map (Token.below lines))
      | .error e => .error (e.below lines) := by
  induction u with
  | nil => rfl
  | cons result u ih =>
      rw [List.map_cons, List.mapM_cons, List.mapM_cons, ih]
      cases result with
      | error e => rfl
      | ok t => cases u.mapM id <;> rfl

open Lexer

/-- **Lexing is compositional at line ends.**  Where a source has tokens, the source with a newline
and any other text behind it has these tokens first, and then whatever a lexer finds in the other
text that remembers the last token of the source: as many lines further down as the source has, in
the same columns, and failing where that lexer fails. -/
theorem tokenize_joined {source : String} {tokens : List Token} (h : tokenize source = .ok tokens)
    (other : String) :
    let left := advance^[source.length] (start source)
    let behind : Lexer := ⟨Cursor.start other.toList, left.last⟩
    let joined := start (source ++ "\n" ++ other)
    let lines : Int := source.toList.count '\n' + 1
    left.next.1 = none ∧ left.last = lastSignificant none tokens ∧
      joined.run.1.map (·.result) =
        tokens.map .ok ++ (behind.run.1.map (·.result)).map (resultBelow lines) ∧
      joined.run.2.line = behind.run.2.line + lines ∧
      joined.run.2.column = behind.run.2.column ∧
      tokenize (source ++ "\n" ++ other) =
        match behind.tokens with
        | .ok more => .ok (tokens ++ more.map (Token.below lines))
        | .error e => .error (e.below lines) := by
  intro left behind joined lines
  have hlen : (start source).cursor.rest.length ≤ source.length := by
    rw [start, Cursor.rest_start, String.length_toList]
  have hlast : left.last = lastSignificant none tokens := last_iterate_advance h hlen
  have habove : Below ('\n' :: other.toList) 0 (start source) joined :=
    ⟨⟨by simp [joined, start], rfl, rfl⟩, rfl⟩
  obtain ⟨m, hrest, hline, hallowed, hresults, hend⟩ :=
    habove.reads (tokenize_eq_ok_iff.1 h) (Cursor.placed_start _)
  rw [start, Cursor.source_start, lineBehind, Int.add_zero] at hline
  -- over the newline the lexer comes to the start of the other text
  have hbelow : Below [] lines behind (m.skip 1) := by
    refine ⟨⟨?_, ?_, ?_⟩, ?_⟩
    · simp [behind, Lexer.skip, hrest]
    · simp [behind, Lexer.skip, Cursor.skip, Cursor.forward, hrest, hline, Cursor.start, lines,
        Int.add_assoc]
    · simp [behind, Lexer.skip, Cursor.skip, Cursor.forward, hrest, Cursor.start]
    · exact hallowed.trans (congrArg regexMayFollow hlast.symm)
  rw [run_blank hrest isBlank_newline] at hresults hend
  obtain ⟨hbehind, hendline, hendcolumn⟩ := hbelow.run
  have hall : joined.run.1.map (·.result) =
      tokens.map .ok ++ (behind.run.1.map (·.result)).map (resultBelow lines) := by
    simpa [hbehind] using hresults
  refine ⟨next_fst_of_length_le hlen, hlast, hall, ?_, ?_, ?_⟩
  · rw [hend, hendline]
  · rw [hend, hendcolumn]
  · have hjoined : tokenize (source ++ "\n" ++ other) = joined.tokens := rfl
    rw [hjoined, tokens_eq_mapM, hall, mapM_ok_append, mapM_resultBelow, tokens_eq_mapM]
    cases (behind.run.1.map (·.result)).mapM id <;> rfl

/-- A line comment is cut, `1e` and `+5` make no number, and the slash behind a name divides as it
would on the same line. -/
theorem tokenize_joined_division :
    let source := "/* a\n*/ x = 1e // b"
    let other := "+5 /c/g 'd"
    let tokens : List Token :=
      [⟨.ident, "x", 2, 4⟩, ⟨.punct, "=", 2, 6⟩, ⟨.number, "1", 2, 8⟩, ⟨.ident, "e", 2, 9⟩]
    tokenize source = .ok tokens ∧
      (start (source ++ "\n" ++ other)).run.1.map (·.result) = tokens.map .ok ++
        [.ok ⟨.punct, "+", 3, 1⟩, .ok ⟨.number, "5", 3, 2⟩, .ok ⟨.punct, "/", 3, 4⟩,
          .ok ⟨.ident, "c", 3, 5⟩, .ok ⟨.punct, "/", 3, 6⟩, .ok ⟨.ident, "g", 3, 7⟩,
          .error ⟨.string, 3, 9⟩] ∧
      tokenize (source ++ "\n" ++ other) = .error ⟨.string, 3, 9⟩ := by
  intro source other tokens
  have h : tokenize source = .ok tokens := by decide +kernel
  obtain ⟨-, -, hresults, -, -, hjoined⟩ := tokenize_joined h other
  exact ⟨h, hresults.trans (by decide +kernel), hjoined.trans (by decide +kernel)⟩

end DocComments
