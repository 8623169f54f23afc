import DocComments.Proofs.LexerRun
import DocComments.Proofs.Written

/-!
# Which tokens a text has

`Lexes allowed text items` says that a lexer in front of `text` reads tokens with the kinds and
texts `items`, wherever it stands and whatever it has read, except that `allowed` tells whether
the last token lets a regular expression follow.  Texts that are put together from known pieces
are lexed piece by piece: each kind of piece has one lemma here, and lines and columns never
show up.

Only a token changes whether a regular expression may follow, and a doc-comment does not; that
is where `Lexes.token` and `Lexes.docComment` differ.
-/

namespace DocComments

open Text

/-- What of a token does not depend on its place. -/
def Token.content (t : Token) : TokenKind × List Char :=
  (t.kind, t.text.toList)

/-- A slash behind a token with this content opens a regular expression. -/
def regexAfter (kind : TokenKind) (text : List Char) : Bool :=
  regexMayFollow (some ⟨kind, String.ofList text, 1, 1⟩)

theorem regexMayFollow_some (t : Token) :
    regexMayFollow (some t) = regexAfter t.kind t.text.toList := by
  rw [regexAfter, String.ofList_toList]
  rfl

/-- **The text has these tokens**, read where `allowed` says whether a regular expression may
start. -/
def Lexes (allowed : Bool) (text : List Char) (items : List (TokenKind × List Char)) : Prop :=
  ∀ l : Lexer, l.cursor.rest = text → regexMayFollow l.last = allowed →
    ∃ tokens, l.Reads tokens ∧ tokens.map Token.content = items

variable {allowed : Bool} {items : List (TokenKind × List Char)}

theorem lexes_nil : Lexes allowed [] [] :=
  fun _ hrest _ => ⟨[], .finished hrest, rfl⟩

theorem Lexes.blank {c : Char} {more : List Char} (h : Lexes allowed more items)
    (hblank : isBlank c = true) : Lexes allowed (c :: more) items := by
  intro l hrest hallowed
  obtain ⟨tokens, hreads, hitems⟩ := h (l.skip 1) (by rw [Lexer.rest_skip, hrest]; rfl) hallowed
  exact ⟨tokens, .blank hrest hblank hreads, hitems⟩

theorem Lexes.comment {comment rest : List Char} (h : Lexes allowed rest items)
    (hcomment : PlainComment comment rest) : Lexes allowed (comment ++ rest) items := by
  have hlen := hcomment.length_eq
  -- a comment starts with a slash, which is no blank
  obtain ⟨more, rfl⟩ : ∃ more, comment = '/' :: more := by
    cases hcomment with
    | line => exact ⟨_, rfl⟩
    | block => exact ⟨_, rfl⟩
  intro l hrest hallowed
  have hskip : (l.skip (plainCommentLength ('/' :: (more ++ rest)))).cursor.rest = rest := by
    rw [Lexer.rest_skip, hrest]
    exact hlen ▸ List.drop_left
  obtain ⟨tokens, hreads, hitems⟩ := h _ hskip hallowed
  have hcomment : plainCommentLength ('/' :: (more ++ rest)) ≠ 0 := by
    rw [← List.cons_append, hlen]
    exact Nat.succ_ne_zero _
  exact ⟨tokens, .comment hrest (by decide) hcomment hreads, hitems⟩

/-- One token that is read, with any kind. -/
theorem Lexes.of_read {c : Char} {more text rest : List Char} {kind : TokenKind} {width : Nat}
    (hblank : isBlank c = false) (hplain : plainCommentLength (c :: more) = 0)
    (hread : Lexeme.read allowed c more = .token kind text width)
    (hrest : (c :: more).drop width = rest)
    (h : Lexes (if kind = .docComment then allowed else regexAfter kind text) rest items) :
    Lexes allowed (c :: more) ((kind, text) :: items) := by
  intro l hl hallowed
  obtain ⟨tokens, hreads, hitems⟩ := h (l.behind kind text width)
    (by rw [Lexer.behind, Cursor.rest_skip, hl, hrest])
    (by
      rw [Lexer.behind]
      split
      · exact hallowed
      · rfl)
  refine ⟨_, .token hl hblank hplain (hallowed ▸ hread) hreads, ?_⟩
  rw [List.map_cons, hitems, Token.content, String.toList_ofList]

/-- **A token that is spelled out**, before something that separates. -/
theorem Lexes.token {written text rest : List Char} {kind : TokenKind}
    (h : Lexes (regexAfter kind text) rest items) (hspells : Spells allowed written kind text)
    (hkind : kind ≠ .docComment) (hrest : Separates rest) :
    Lexes allowed (written ++ rest) ((kind, text) :: items) := by
  obtain ⟨c, more, heq, hblank, hplain, hread⟩ := hspells rest hrest
  rw [heq]
  refine Lexes.of_read hblank hplain hread ?_ (by rwa [if_neg hkind])
  rw [← heq, List.drop_left]

/-- A doc-comment, before anything. -/
theorem Lexes.docComment {body rest : List Char} (h : Lexes allowed rest items)
    (hbody : NoEnd body) (hslash : body.head? ≠ some '/') :
    Lexes allowed ('/' :: '*' :: '*' :: (body ++ '*' :: '/' :: rest))
      ((.docComment, body) :: items) := by
  -- the lexer takes the second star for part of the body
  have hend : NoEnd ('*' :: body) := by
    refine noEnd_cons.2 ⟨fun hfront => hslash ?_, hbody⟩
    obtain ⟨behind, hbehind⟩ := hfront
    obtain ⟨-, rfl⟩ := List.cons.inj hbehind
    rfl
  have hread : Lexeme.read allowed '/' ('*' :: '*' :: (body ++ '*' :: '/' :: rest)) =
      .token .docComment body (body.length + 5) := by
    rw [Lexeme.read, if_pos ⟨rfl, rfl⟩, Lexeme.comment, List.tail_cons, ← List.cons_append,
      commentBody?_append hend]
    rfl
  refine Lexes.of_read (by decide) (plainCommentLength_doc ?_) hread ?_ (by rwa [if_pos rfl])
  · cases body with
    | nil => simp
    | cons c body => simpa using hslash
  · simp only [List.drop_succ_cons]
    exact List.drop_length_add_append 2

theorem Lexes.tokenize {text : List Char} (h : Lexes true text items) :
    ∃ tokens, tokenize (String.ofList text) = .ok tokens ∧ tokens.map Token.content = items := by
  obtain ⟨tokens, hreads, hitems⟩ := h (.start (String.ofList text))
    (by simp [Lexer.start]) rfl
  exact ⟨tokens, Lexer.tokenize_eq_ok_iff.2 hreads, hitems⟩

end DocComments
