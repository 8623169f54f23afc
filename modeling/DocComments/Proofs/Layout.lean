import DocComments.Proofs.LexerRun
import DocComments.Proofs.Written

/-!
# Where the tokens of a source stand

Lexing loses nothing: the source is made of the written forms of its tokens with gaps between
them, and each token knows its line and column.  `Layout before tokens rest` says this of the
text `rest` with the text `before` in front of it; `tokenize_layout` is the statement about a
whole source.

The proof is an induction on the moves of the lexer (`Lexer.Reads`).  The invariant is
`Cursor.Placed`: the line and column of a cursor are those that the text passed accounts for.
That the places of tokens increase is a property of layouts alone (`Layout.pairwise_comesBefore`),
as a token is at least one character wide.
-/

namespace DocComments

open Text

/-! ### Places -/

/-- The line behind some text. -/
def lineBehind (before : List Char) : Int :=
  1 + before.count '\n'

/-- The column behind some text: one more than the characters after its last newline. -/
def columnBehind (before : List Char) : Int :=
  1 + (before.reverse.takeWhile (· ≠ '\n')).length

/-- **The cursor is where its text says.** -/
def Text.Cursor.Placed (c : Cursor) : Prop :=
  c.line = lineBehind c.passed.reverse ∧ c.column = columnBehind c.passed.reverse

namespace Text.Cursor

theorem placed_start (source : List Char) : (start source).Placed := ⟨rfl, rfl⟩

theorem Placed.forward {c : Cursor} (h : c.Placed) : c.forward.Placed := by
  obtain ⟨hline, hcolumn⟩ := h
  unfold Cursor.forward
  split
  · exact ⟨hline, hcolumn⟩
  · next ch rest _ =>
      by_cases hch : ch = '\n'
      · subst hch
        simp [Placed, lineBehind, columnBehind, hline, List.count_append]
        omega
      · simp [Placed, lineBehind, columnBehind, hline, hcolumn, hch, List.count_append]
        omega

theorem Placed.skip {c : Cursor} (h : c.Placed) (n : Nat) : (c.skip n).Placed := by
  induction n generalizing c with
  | zero => exact h
  | succ n ih => exact ih h.forward

theorem passed_skip (c : Cursor) (n : Nat) :
    (c.skip n).passed.reverse = c.passed.reverse ++ c.rest.take n := by
  have hsource : (c.skip n).passed.reverse ++ c.rest.drop n =
      c.passed.reverse ++ c.rest.take n ++ c.rest.drop n := by
    rw [List.append_assoc, List.take_append_drop, ← rest_skip]
    exact c.source_skip n
  exact List.append_cancel_right hsource

end Text.Cursor

/-! ### Layouts -/

/-- **The text `rest` behind `before`** is made of gaps and of the tokens between them, each in the
form in which it is written and with the line and column of the place where it starts. -/
inductive Layout : List Char → List Token → List Char → Prop where
  | finish {before gap : List Char} (hgap : Gap gap []) : Layout before [] gap
  | token {before gap written rest : List Char} {t : Token} {tokens : List Token}
      (hgap : Gap gap (written ++ rest)) (hwritten : WrittenAs t.kind t.text.toList written)
      (hnonempty : written ≠ []) (hline : t.line = lineBehind (before ++ gap))
      (hcolumn : t.column = columnBehind (before ++ gap))
      (h : Layout (before ++ gap ++ written) tokens rest) :
      Layout before (t :: tokens) (gap ++ (written ++ rest))

/-- A layout may start with more of a gap. -/
theorem Layout.prepend {before piece rest : List Char} {tokens : List Token}
    (h : Layout (before ++ piece) tokens rest)
    (hpiece : ∀ gap behind, rest = gap ++ behind → Gap gap behind → Gap (piece ++ gap) behind) :
    Layout before tokens (piece ++ rest) := by
  cases h with
  | finish hgap => exact .finish (hpiece rest [] (by simp) hgap)
  | token hgap hwritten hnonempty hline hcolumn h =>
      rw [← List.append_assoc]
      refine .token (hpiece _ _ rfl hgap) hwritten hnonempty ?_ ?_ ?_
      all_goals rwa [← List.append_assoc]

/-- **A lexer that stands where its text says reads a layout.** -/
theorem Lexer.Reads.layout {l : Lexer} {tokens : List Token} (h : l.Reads tokens)
    (hplaced : l.cursor.Placed) :
    Layout l.cursor.passed.reverse tokens l.cursor.rest := by
  induction h with
  | finished hrest =>
      rw [hrest]
      exact .finish .nil
  | @blank l c more tokens hrest hblank _ ih =>
      have hmore := ih (hplaced.skip 1)
      simp only [Lexer.skip, Cursor.passed_skip, Cursor.rest_skip, hrest] at hmore
      rw [hrest]
      exact hmore.prepend fun gap behind _ hgap => .blank hblank hgap
  | @comment l c more tokens hrest hblank hcomment _ ih =>
      obtain ⟨comment, rest, heq, hlen, hplain⟩ := plainComment_of_length hcomment
      have hmore := ih (hplaced.skip _)
      simp only [Lexer.skip, Cursor.passed_skip, Cursor.rest_skip, hrest, hlen] at hmore
      rw [heq, List.take_left, List.drop_left] at hmore
      rw [hrest, heq]
      exact hmore.prepend fun gap behind hrest hgap => .comment (hrest ▸ hplain) hgap
  | @token l c more text kind width tokens hrest hblank hplain hread _ ih =>
      -- the width that the lexer moves by is the length of what is written
      obtain ⟨written, rest, heq, rfl, hwritten⟩ :=
        (Lexeme.found_of_read hread).exists_written hplain
      have hmore := ih (hplaced.skip _)
      simp only [Lexer.behind, Cursor.passed_skip, Cursor.rest_skip, hrest, heq, List.take_left,
        List.drop_left] at hmore
      have hpos := Lexeme.width_read_pos (regexMayFollow l.last) c more
      rw [hread] at hpos
      rw [hrest, heq, ← List.nil_append (written ++ rest)]
      refine .token .nil ?_ (List.length_pos_iff.1 hpos) ?_ ?_ ?_
      · rwa [String.toList_ofList]
      · rw [List.append_nil]
        exact hplaced.1
      · rw [List.append_nil]
        exact hplaced.2
      · rwa [List.append_nil]

/-! ### Places increase -/

/-- The token stands before the other one. -/
def Token.ComesBefore (t t' : Token) : Prop :=
  t.line < t'.line ∨ (t.line = t'.line ∧ t.column < t'.column)

/-- Behind more text the place is a later one. -/
theorem place_append (before extra : List Char) (hextra : extra ≠ []) :
    lineBehind before < lineBehind (before ++ extra) ∨
      (lineBehind before = lineBehind (before ++ extra) ∧
        columnBehind before < columnBehind (before ++ extra)) := by
  by_cases hline : '\n' ∈ extra
  · -- a newline leads to a later line, whatever the columns are
    have hpos := List.count_pos_iff.2 hline
    refine .inl ?_
    simp only [lineBehind, List.count_append]
    omega
  · have hcount := List.count_eq_zero.2 hline
    have hlen := List.length_pos_iff.2 hextra
    refine .inr ⟨?_, ?_⟩
    · simp only [lineBehind, List.count_append]
      omega
    · have hall : ∀ c ∈ extra.reverse, decide (c ≠ '\n') = true := fun c hc => by
        simpa using fun h : c = '\n' => hline (h ▸ List.mem_reverse.1 hc)
      rw [columnBehind, columnBehind, List.reverse_append, List.takeWhile_append_of_pos hall,
        List.length_append, List.length_reverse]
      omega

/-- Each token of a layout stands behind the text before it. -/
theorem Layout.exists_place {before rest : List Char} {tokens : List Token}
    (h : Layout before tokens rest) :
    ∀ t ∈ tokens, ∃ front, t.line = lineBehind (before ++ front) ∧
      t.column = columnBehind (before ++ front) := by
  induction h with
  | finish => simp
  | @token before gap written rest t tokens hgap hwritten hnonempty hline hcolumn _ ih =>
      intro t' ht'
      rcases List.mem_cons.1 ht' with rfl | ht'
      · exact ⟨gap, hline, hcolumn⟩
      · obtain ⟨front, hline, hcolumn⟩ := ih t' ht'
        refine ⟨gap ++ written ++ front, ?_⟩
        rw [← List.append_assoc, ← List.append_assoc]
        exact ⟨hline, hcolumn⟩

theorem Layout.pairwise_comesBefore {before rest : List Char} {tokens : List Token}
    (h : Layout before tokens rest) : tokens.Pairwise Token.ComesBefore := by
  induction h with
  | finish => exact .nil
  | @token before gap written rest t tokens hgap hwritten hnonempty hline hcolumn h ih =>
      refine .cons (fun t' ht' => ?_) ih
      obtain ⟨front, hline', hcolumn'⟩ := h.exists_place t' ht'
      have hlater := place_append (before ++ gap) (written ++ front) (by simp [hnonempty])
      rw [Token.ComesBefore, hline, hcolumn, hline', hcolumn', List.append_assoc]
      exact hlater

/-- **Lexing loses nothing and places every token exactly.** -/
theorem tokenize_layout {source : String} {tokens : List Token}
    (h : tokenize source = .ok tokens) :
    Layout [] tokens source.toList ∧ tokens.Pairwise Token.ComesBefore := by
  have hlayout : Layout [] tokens source.toList :=
    (Lexer.tokenize_eq_ok_iff.1 h).layout (Cursor.placed_start source.toList)
  exact ⟨hlayout, hlayout.pairwise_comesBefore⟩

/-- Each sort of gap and most sorts of token, on several lines. -/
theorem tokenize_layout_mixed :
    let source := "/* a\n*/ x = // b\n /[/]\\//g;\n/** c\n d */ 'e\\\nf'"
    let tokens : List Token :=
      [⟨.ident, "x", 2, 4⟩, ⟨.punct, "=", 2, 6⟩, ⟨.regex, "/[/]\\//g", 3, 2⟩, ⟨.punct, ";", 3, 10⟩,
        ⟨.docComment, " c\n d ", 4, 1⟩, ⟨.string, "e\\\nf", 5, 7⟩]
    tokenize source = .ok tokens ∧ Layout [] tokens source.toList ∧
      tokens.Pairwise Token.ComesBefore := by
  intro source tokens
  have h : tokenize source = .ok tokens := by decide +kernel
  exact ⟨h, tokenize_layout h⟩

end DocComments
