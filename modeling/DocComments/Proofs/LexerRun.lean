import DocComments.Proofs.Comments
import DocComments.Proofs.LexemeReading
import DocComments.Proofs.Lookahead

/-!
# The run of a lexer, one character or token at a time

`Lexer.run` is defined by what the lexer does next, and so jumps over whole gaps.  Everything
proved about the tokens of a source goes by smaller moves: over one blank, over one plain
comment, or over one token.  `Lexer.Reads l tokens` is the relation that makes these moves, and
`Lexer.reads_iff` says that it is the run of the lexer.

What carries the equivalence is that a lexer inside a gap has the same future as one at its end
(`Lexer.run_eq_of_settle_eq`).

Where the run fails, `Reads` says nothing; then `Lexer.found_of_mem_run` still tells from which
characters each single token was read.
-/

namespace DocComments

open Text

namespace Lexer

/-- A lexer some characters further, with the same last token. -/
def skip (l : Lexer) (n : Nat) : Lexer :=
  { l with cursor := l.cursor.skip n }

/-- The lexer behind a token of `kind` with this text and width. -/
def behind (l : Lexer) (kind : TokenKind) (text : List Char) (width : Nat) : Lexer where
  cursor := l.cursor.skip width
  last :=
    if kind = .docComment then l.last
    else some ⟨kind, String.ofList text, l.cursor.line, l.cursor.column⟩

/-- The tokens that a lexer reads to the end, or the first construct left open. -/
def tokens (l : Lexer) : Except Unterminated (List Token) :=
  l.run.1.mapM (·.result)

variable {l l' : Lexer} {c : Char} {more : List Char}

theorem rest_skip (l : Lexer) (n : Nat) : (l.skip n).cursor.rest = l.cursor.rest.drop n :=
  Cursor.rest_skip l.cursor n

/-! ### Moves -/

/-- **A lexer inside a gap has the same future as one at its end.** -/
theorem run_eq_of_settle_eq (h : l.settle = l'.settle) : l.run = l'.run := by
  have hnext : l.next = l'.next := by
    unfold next
    rw [h]
  cases hl : l.next with
  | mk result after =>
      cases result with
      | none => rw [run_of_next_eq_none hl, run_of_next_eq_none (hnext.symm.trans hl)]
      | some result => rw [run_of_next_eq_some hl, run_of_next_eq_some (hnext.symm.trans hl)]

theorem settle_skip {n : Nat}
    (h : gapLength l.cursor.rest = n + gapLength (l.cursor.rest.drop n)) :
    (l.skip n).settle = l.settle := by
  rw [settle, settle, rest_skip, h]
  simp only [skip, Cursor.skip_add]

theorem run_blank (hrest : l.cursor.rest = c :: more) (hblank : isBlank c = true) :
    l.run = (l.skip 1).run := by
  refine run_eq_of_settle_eq (settle_skip ?_).symm
  rw [hrest]
  exact gapLength_blank hblank

theorem run_comment (hrest : l.cursor.rest = c :: more) (hblank : isBlank c = false)
    (hcomment : plainCommentLength (c :: more) ≠ 0) :
    l.run = (l.skip (plainCommentLength (c :: more))).run := by
  refine run_eq_of_settle_eq (settle_skip ?_).symm
  rw [hrest]
  exact gapLength_comment hblank hcomment

theorem next_of_no_gap (hrest : l.cursor.rest = c :: more) (hgap : gapLength (c :: more) = 0) :
    l.next = (some (l.take c more).1, (l.take c more).2) := by
  have hsettle : l.settle = l := by
    rw [settle, hrest, hgap, Cursor.skip_zero]
  rw [next, hsettle, hrest]

theorem next_nil (hrest : l.cursor.rest = []) : l.next = (none, l) := by
  have hsettle : l.settle = l := by
    rw [settle, hrest, gapLength, Cursor.skip_zero]
  rw [next, hsettle, hrest]

theorem take_of_read {kind : TokenKind} {text : List Char} {width : Nat}
    (hread : Lexeme.read (regexMayFollow l.last) c more = .token kind text width) :
    l.take c more =
      (.ok ⟨kind, String.ofList text, l.cursor.line, l.cursor.column⟩,
        l.behind kind text width) := by
  rw [take, hread, behind]

/-! ### The run as a relation -/

/-- **The lexer reads these tokens** up to the end of the source: it moves over a blank, over a
plain comment, or over a token where neither starts. -/
inductive Reads : Lexer → List Token → Prop where
  | finished {l : Lexer} (hrest : l.cursor.rest = []) : Reads l []
  | blank {l : Lexer} {c : Char} {more : List Char} {tokens : List Token}
      (hrest : l.cursor.rest = c :: more) (hblank : isBlank c = true)
      (h : Reads (l.skip 1) tokens) : Reads l tokens
  | comment {l : Lexer} {c : Char} {more : List Char} {tokens : List Token}
      (hrest : l.cursor.rest = c :: more) (hblank : isBlank c = false)
      (hcomment : plainCommentLength (c :: more) ≠ 0)
      (h : Reads (l.skip (plainCommentLength (c :: more))) tokens) : Reads l tokens
  | token {l : Lexer} {c : Char} {more text : List Char} {kind : TokenKind} {width : Nat}
      {tokens : List Token} (hrest : l.cursor.rest = c :: more) (hblank : isBlank c = false)
      (hplain : plainCommentLength (c :: more) = 0)
      (hread : Lexeme.read (regexMayFollow l.last) c more = .token kind text width)
      (h : Reads (l.behind kind text width) tokens) :
      Reads l (⟨kind, String.ofList text, l.cursor.line, l.cursor.column⟩ :: tokens)

theorem tokens_nil (hrest : l.cursor.rest = []) : l.tokens = .ok [] := by
  rw [tokens, run_of_next_eq_none (next_nil hrest)]
  rfl

/-- The first step decides. -/
theorem tokens_of_next {result : Except Unterminated Token} (h : l.next = (some result, l')) :
    l.tokens = result >>= fun t => (t :: ·) <$> l'.tokens := by
  rw [tokens, run_of_next_eq_some h, List.mapM_cons]
  rfl

theorem Reads.tokens_eq {tokens : List Token} (h : Reads l tokens) : l.tokens = .ok tokens := by
  induction h with
  | finished hrest => exact tokens_nil hrest
  | blank hrest hblank _ ih =>
      rw [Lexer.tokens, run_blank hrest hblank]
      exact ih
  | comment hrest hblank hcomment _ ih =>
      rw [Lexer.tokens, run_comment hrest hblank hcomment]
      exact ih
  | token hrest hblank hplain hread _ ih =>
      rw [tokens_of_next (next_of_no_gap hrest (gapLength_token hblank hplain)),
        take_of_read hread, ih]
      rfl

/-- Where all is read, the first step finds the first token. -/
theorem exists_of_tokens_eq_ok {result : Except Unterminated Token} {tokens : List Token}
    (hnext : l.next = (some result, l')) (h : l.tokens = .ok tokens) :
    ∃ t others, result = .ok t ∧ l'.tokens = .ok others ∧ tokens = t :: others := by
  rw [tokens_of_next hnext] at h
  cases result with
  | error e => simp [bind, Except.bind] at h
  | ok t =>
      cases hothers : l'.tokens with
      | error e => simp [hothers, bind, Except.bind, Functor.map, Except.map] at h
      | ok others =>
          simp only [hothers, bind, Except.bind, Functor.map, Except.map] at h
          exact ⟨t, others, rfl, rfl, (Except.ok.inj h).symm⟩

/-- **The relation is the run.** -/
theorem reads_iff {tokens : List Token} : Reads l tokens ↔ l.tokens = .ok tokens := by
  refine ⟨Reads.tokens_eq, fun h => ?_⟩
  -- on the length of what is left, because a token may be of any width
  induction hn : l.cursor.rest.length using Nat.strong_induction_on generalizing l tokens with
  | _ n ih =>
    cases hrest : l.cursor.rest with
    | nil =>
        rw [tokens_nil hrest] at h
        obtain rfl := Except.ok.inj h
        exact .finished hrest
    | cons c more =>
        have hskip : ∀ k, 0 < k → (l.skip k).cursor.rest.length < n := by
          intro k hk
          rw [rest_skip, List.length_drop, ← hn, hrest, List.length_cons]
          omega
        cases hblank : isBlank c with
        | true =>
            refine .blank hrest hblank (ih _ (hskip 1 Nat.one_pos) ?_ rfl)
            rw [← h, Lexer.tokens, Lexer.tokens, run_blank hrest hblank]
        | false =>
            by_cases hplain : plainCommentLength (c :: more) = 0
            · obtain ⟨t, others, hresult, hothers, rfl⟩ :=
                exists_of_tokens_eq_ok (next_of_no_gap hrest (gapLength_token hblank hplain)) h
              cases hread : Lexeme.read (regexMayFollow l.last) c more with
              | unterminated what width => simp [take, hread] at hresult
              | token kind text width =>
                  rw [take_of_read hread] at hresult hothers
                  have hpos := Lexeme.width_read_pos (regexMayFollow l.last) c more
                  rw [hread] at hpos
                  obtain rfl := Except.ok.inj hresult
                  exact .token hrest hblank hplain hread (ih _ (hskip width hpos) hothers rfl)
            · refine .comment hrest hblank hplain
                (ih _ (hskip _ (Nat.pos_of_ne_zero hplain)) ?_ rfl)
              rw [← h, Lexer.tokens, Lexer.tokens, run_comment hrest hblank hplain]

theorem tokenize_eq_ok_iff {source : String} {tokens : List Token} :
    tokenize source = .ok tokens ↔ (start source).Reads tokens :=
  reads_iff.symm

/-! ### Single tokens -/

/-- **Every token of a run was found somewhere**, where no gap starts. -/
theorem found_of_mem_run (l : Lexer) :
    ∀ step ∈ l.run.1, ∀ t, step.result = .ok t →
      ∃ allowed c more width, isBlank c = false ∧ plainCommentLength (c :: more) = 0 ∧
        Lexeme.Found allowed c more t.kind t.text.toList width := by
  fun_induction run l with
  | case1 => simp
  | case2 l result l' h r ih =>
      intro step hstep t ht
      rcases List.mem_cons.1 hstep with rfl | hstep
      · obtain rfl : result = .ok t := ht
        unfold next at h
        split at h
        · simp at h
        · next c more hrest =>
            obtain ⟨hresult, -⟩ := Prod.mk.inj h
            unfold take at hresult
            split at hresult
            · simp at hresult
            · next kind text width hread =>
                obtain rfl := Except.ok.inj (Option.some.inj hresult)
                obtain ⟨hblank, hplain⟩ := gap_ends ((rest_settle l).symm.trans hrest)
                refine ⟨regexMayFollow l.settle.last, c, more, width, hblank, hplain, ?_⟩
                rw [String.toList_ofList]
                exact Lexeme.found_of_read hread
      · exact ih step hstep t ht

end Lexer

open TokenSource

/-! ### The tokens of a source -/

theorem upcoming_ofString (source : String) :
    (ofString source).upcoming = (Lexer.start source).run.1.map (·.result) := by
  simp [ofString, upcoming]

/-- **The tokens of a source are what is to come in it**, up to the first failure. -/
theorem tokenize_view (source : String) :
    match tokenize source with
    | .ok tokens => (ofString source).upcoming = tokens.map .ok
    | .error e => ∃ (tokens : List Token) (more : Upcoming),
        (ofString source).upcoming = tokens.map .ok ++ .error e :: more := by
  rw [upcoming_ofString, tokenize]
  induction (Lexer.start source).run.1 with
  | nil => rfl
  | cons step steps ih =>
      rw [List.mapM_cons, List.map_cons]
      cases hresult : step.result with
      | error e => exact ⟨[], _, rfl⟩
      | ok t =>
          generalize steps.mapM (·.result) = rest at ih ⊢
          cases rest with
          | ok tokens => exact congrArg (.ok t :: ·) ih
          | error e =>
              obtain ⟨tokens, more, hmore⟩ := ih
              exact ⟨t :: tokens, more, by rw [hmore]; rfl⟩

theorem upcoming_of_tokenize {source : String} {tokens : List Token}
    (h : tokenize source = .ok tokens) : (ofString source).upcoming = tokens.map .ok := by
  have hview := tokenize_view source
  rwa [h] at hview

theorem found_of_mem_upcoming {source : String} {t : Token}
    (h : .ok t ∈ (ofString source).upcoming) :
    ∃ allowed c more width, isBlank c = false ∧ plainCommentLength (c :: more) = 0 ∧
      Lexeme.Found allowed c more t.kind t.text.toList width := by
  rw [upcoming_ofString] at h
  obtain ⟨step, hstep, ht⟩ := List.mem_map.1 h
  exact Lexer.found_of_mem_run _ step hstep t ht

/-- The end of a source is not one of its tokens. -/
theorem kind_ne_endOfInput_of_mem_upcoming {source : String} {t : Token}
    (h : .ok t ∈ (ofString source).upcoming) : t.kind ≠ .endOfInput := by
  obtain ⟨allowed, c, more, width, -, -, hfound⟩ := found_of_mem_upcoming h
  exact hfound.kind_ne_endOfInput

theorem kind_ne_endOfInput_of_tokenize {source : String} {tokens : List Token}
    (h : tokenize source = .ok tokens) : ∀ t ∈ tokens, t.kind ≠ .endOfInput := fun _ ht =>
  kind_ne_endOfInput_of_mem_upcoming (upcoming_of_tokenize h ▸ List.mem_map_of_mem ht)

/-! ### Kinds that the text tells -/

/-- The kind of a word or of an operator. -/
def kindOfText (text : List Char) : TokenKind :=
  if text.head?.any isNameStart then nameKind text else .punct

/-- **The text tells the kind** of a token that can be asked for by its text, numbers apart. -/
def Token.Kinded (t : Token) : Prop :=
  t.kind.hasPlainText = true → startsNumber t.text.toList = false →
    t.kind = kindOfText t.text.toList

instance (t : Token) : Decidable t.Kinded :=
  inferInstanceAs (Decidable (_ → _ → _))

theorem Token.Kinded.kind_eq {t : Token} (h : t.Kinded) {text : String}
    (hnumber : startsNumber text.toList = false) (hfits : TokenTest.fits (.text text) t = true) :
    t.kind = kindOfText text.toList := by
  rw [TokenTest.fits_text, Bool.and_eq_true, decide_eq_true_eq] at hfits
  obtain ⟨hplain, rfl⟩ := hfits
  exact h hplain hnumber

/-- A text of a known kind makes the token that fits it that word or operator. -/
theorem Token.Kinded.told {t : Token} (h : t.Kinded) {text : String} {kind : TokenKind}
    (htext : startsNumber text.toList = false ∧ kindOfText text.toList = kind)
    (hfits : TokenTest.fits (.text text) t = true) : t.kind = kind ∧ t.text = text := by
  refine ⟨(h.kind_eq htext.1 hfits).trans htext.2, ?_⟩
  rw [TokenTest.fits_text, Bool.and_eq_true, decide_eq_true_eq] at hfits
  exact hfits.2

/-- What is found with the text of a word is that word, and with that of an operator the
operator. -/
theorem Lexeme.Found.kind_eq {allowed : Bool} {c : Char} {more text : List Char}
    {kind : TokenKind} {width : Nat} (h : Found allowed c more kind text width)
    (hplain : kind.hasPlainText = true) (hnumber : startsNumber text = false) :
    kind = kindOfText text := by
  cases h with
  | name h => rw [kindOfText, List.head?_cons, Option.any_some, if_pos h]
  | number _ h =>
      have hstart := startsNumber_numberChars_append h []
      rw [List.append_nil, hnumber] at hstart
      exact absurd hstart (by decide)
  | punct hname =>
      obtain ⟨rest, hrest, -⟩ := punctChars_append c more separates_nil
      rw [hrest, kindOfText, List.head?_cons, Option.any_some, hname, if_neg Bool.false_ne_true]
  | comment => exact absurd hplain Bool.false_ne_true
  | string => exact absurd hplain Bool.false_ne_true
  | regex => exact absurd hplain Bool.false_ne_true

/-- **The tokens of a source are kinded.** -/
theorem kinded_of_mem_upcoming {source : String} {t : Token}
    (h : .ok t ∈ (ofString source).upcoming) : t.Kinded := by
  obtain ⟨allowed, c, more, width, -, -, hfound⟩ := found_of_mem_upcoming h
  exact hfound.kind_eq

end DocComments
