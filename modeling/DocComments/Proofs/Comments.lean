import DocComments.Token.Lexeme
import Mathlib.Data.List.Infix
import Mathlib.Data.List.TakeWhile

/-!
# Comments and gaps

`gapLength` and `plainCommentLength` are numbers.  What they count is described here:
`PlainComment comment rest` says that `comment` is a whole line or block comment where `rest`
follows, and `Gap gap rest` that `gap` is made of blanks and such comments.  A line comment needs
to know what follows it, since it ends only before a newline or at the end of the text.

The body of a block comment is told by what it does not contain (`NoEnd`).  A doc-comment is a
block comment with one more star; `plainCommentLength_doc` says that no plain one starts there,
and `plainCommentLength_block` where the two meet, at the empty comment `/**/`.
-/

namespace DocComments

open Text

/-! ### The bodies of block comments -/

/-- The text holds no mark that closes a comment. -/
def NoEnd (body : List Char) : Prop :=
  ¬['*', '/'] <:+: body

instance (body : List Char) : Decidable (NoEnd body) :=
  inferInstanceAs (Decidable (¬['*', '/'] <:+: body))

theorem noEnd_nil : NoEnd [] := by simp [NoEnd]

theorem noEnd_cons {c : Char} {body : List Char} :
    NoEnd (c :: body) ↔ ¬['*', '/'] <+: c :: body ∧ NoEnd body := by
  rw [NoEnd, NoEnd, List.infix_cons_iff, not_or]

section Bodies

variable {text body rest : List Char}

theorem commentBody?_cons {c : Char} (h : ¬['*', '/'] <+: c :: text) :
    commentBody? (c :: text) = (commentBody? text).map (c :: ·) := by
  rw [commentBody?]
  rintro more rfl rfl
  exact h ⟨more, rfl⟩

/-- **The body of a comment** goes up to the first mark that closes it. -/
theorem commentBody?_append (h : NoEnd body) :
    commentBody? (body ++ '*' :: '/' :: rest) = some body := by
  induction body with
  | nil => rfl
  | cons c body ih =>
      obtain ⟨hc, hbody⟩ := noEnd_cons.1 h
      rw [List.cons_append, commentBody?_cons, ih hbody, Option.map_some]
      intro hfront
      -- a mark across the end of the body would need the star to be a slash
      cases body with
      | nil =>
          have hslash := (List.cons_prefix_cons.1 (List.cons_prefix_cons.1 hfront).2).1
          exact absurd hslash (by decide)
      | cons d body =>
          obtain ⟨rfl, hd⟩ := List.cons_prefix_cons.1 hfront
          obtain ⟨rfl, -⟩ := List.cons_prefix_cons.1 hd
          exact hc ⟨body, rfl⟩

theorem eq_append_of_commentBody? (h : commentBody? text = some body) :
    NoEnd body ∧ ∃ rest, text = body ++ '*' :: '/' :: rest := by
  fun_induction commentBody? text generalizing body with
  | case1 => simp at h
  | case2 more =>
      obtain rfl := Option.some.inj h
      exact ⟨noEnd_nil, more, rfl⟩
  | case3 c more hmark ih =>
      obtain ⟨body, hbody, rfl⟩ := Option.map_eq_some_iff.1 h
      obtain ⟨hend, rest, rfl⟩ := ih hbody
      refine ⟨noEnd_cons.2 ⟨fun hfront => ?_, hend⟩, rest, rfl⟩
      obtain ⟨behind, hbehind⟩ := hfront
      obtain ⟨rfl, rfl⟩ := List.cons.inj hbehind
      exact hmark _ rfl rfl

end Bodies

/-! ### Plain comments -/

/-- **A plain comment** before `rest`: a line comment up to the end of its line or of the text, or
a block comment that is no doc-comment. -/
inductive PlainComment : List Char → List Char → Prop where
  | line {body rest : List Char} (hbody : '\n' ∉ body) (hend : ∀ c ∈ rest.head?, c = '\n') :
      PlainComment ('/' :: '/' :: body) rest
  | block {body rest : List Char} (hbody : NoEnd body) (hplain : body.head? ≠ some '*') :
      PlainComment ('/' :: '*' :: body ++ ['*', '/']) rest

section Plain

variable {text body comment rest : List Char}

theorem plainCommentLength_line (hbody : '\n' ∉ body) (hend : ∀ c ∈ rest.head?, c = '\n') :
    plainCommentLength ('/' :: '/' :: (body ++ rest)) = body.length + 2 := by
  have htake : (body ++ rest).takeWhile (· ≠ '\n') = body := by
    rw [List.takeWhile_append_of_pos fun c hc => by
      simpa using fun h : c = '\n' => hbody (h ▸ hc)]
    cases rest with
    | nil => simp
    | cons d rest => simp [hend d rfl]
  rw [plainCommentLength, htake]

theorem startsDocComment_of_head? (hplain : body.head? ≠ some '*') :
    startsDocComment ('/' :: '*' :: (body ++ '*' :: '/' :: rest)) = false := by
  cases body with
  | nil => rfl
  | cons c body =>
      have hc : c ≠ '*' := fun h => hplain (by rw [h, List.head?_cons])
      rw [List.cons_append]
      unfold startsDocComment
      split <;> simp_all

theorem startsDocComment_of_star (hbody : NoEnd body) (hstar : body.head? = some '*') :
    startsDocComment ('/' :: '*' :: (body ++ '*' :: '/' :: rest)) = true := by
  obtain ⟨body, rfl⟩ := List.head?_eq_some_iff.1 hstar
  cases body with
  | nil => rfl
  | cons c body =>
      have hc : c ≠ '/' := by
        rintro rfl
        exact (noEnd_cons.1 hbody).1 ⟨body, rfl⟩
      unfold startsDocComment
      split <;> simp_all

theorem plainCommentLength_block (hbody : NoEnd body) (hplain : body.head? ≠ some '*') :
    plainCommentLength ('/' :: '*' :: (body ++ '*' :: '/' :: rest)) = body.length + 4 := by
  rw [plainCommentLength, startsDocComment_of_head? hplain, commentBody?_append hbody]
  rfl

theorem plainCommentLength_doc (h : text.head? ≠ some '/') :
    plainCommentLength ('/' :: '*' :: '*' :: text) = 0 := by
  have hdoc : startsDocComment ('/' :: '*' :: '*' :: text) = true := by
    unfold startsDocComment
    split <;> simp_all
  rw [plainCommentLength, hdoc, if_pos rfl]

theorem PlainComment.length_eq (h : PlainComment comment rest) :
    plainCommentLength (comment ++ rest) = comment.length := by
  cases h with
  | line hbody hend => exact plainCommentLength_line hbody hend
  | block hbody hplain =>
      rw [List.append_assoc]
      exact (plainCommentLength_block hbody hplain).trans (by simp)

/-- **What `plainCommentLength` counts is a plain comment.** -/
theorem plainComment_of_length (h : plainCommentLength text ≠ 0) :
    ∃ comment rest, text = comment ++ rest ∧ plainCommentLength text = comment.length ∧
      PlainComment comment rest := by
  unfold plainCommentLength at h ⊢
  split at h
  · next more =>
      refine ⟨'/' :: '/' :: more.takeWhile (· ≠ '\n'), more.dropWhile (· ≠ '\n'), ?_, by simp,
        .line (fun hmem => ?_) fun c hc => ?_⟩
      · rw [List.cons_append, List.cons_append, List.takeWhile_append_dropWhile]
      · simpa using List.mem_takeWhile_imp hmem
      · have hfirst := List.head?_dropWhile_not (· ≠ '\n') more
        rw [hc] at hfirst
        simpa using hfirst
  · next more =>
      split at h
      · exact absurd rfl h
      · next hdoc =>
          split at h
          · next body hbody =>
              obtain ⟨hend, rest, rfl⟩ := eq_append_of_commentBody? hbody
              refine ⟨'/' :: '*' :: body ++ ['*', '/'], rest, by simp, ?_, .block hend ?_⟩
              · simp [hdoc]
              · exact fun hstar => hdoc (startsDocComment_of_star hend hstar)
          · exact absurd rfl h
  · exact absurd rfl h

end Plain

/-! ### Gaps -/

/-- **A gap** before `rest`: blanks and plain comments. -/
inductive Gap : List Char → List Char → Prop where
  | nil {rest : List Char} : Gap [] rest
  | blank {c : Char} {gap rest : List Char} (hblank : isBlank c = true) (h : Gap gap rest) :
      Gap (c :: gap) rest
  | comment {comment gap rest : List Char} (hcomment : PlainComment comment (gap ++ rest))
      (h : Gap gap rest) : Gap (comment ++ gap) rest

section Gaps

variable {c : Char} {more : List Char}

theorem gapLength_blank (hblank : isBlank c = true) :
    gapLength (c :: more) = 1 + gapLength more := by
  rw [gapLength, if_pos hblank, Nat.add_comm]

theorem gapLength_comment (hblank : isBlank c = false)
    (hcomment : plainCommentLength (c :: more) ≠ 0) :
    gapLength (c :: more) = plainCommentLength (c :: more) +
      gapLength ((c :: more).drop (plainCommentLength (c :: more))) := by
  have hdrop : (c :: more).drop (plainCommentLength (c :: more)) =
      more.drop (plainCommentLength (c :: more) - 1) := by
    obtain ⟨n, hn⟩ := Nat.exists_eq_succ_of_ne_zero hcomment
    rw [hn, Nat.succ_sub_one, List.drop_succ_cons]
  rw [gapLength, if_neg (by simp [hblank]), hdrop]
  exact if_neg hcomment

theorem gapLength_token (hblank : isBlank c = false) (hplain : plainCommentLength (c :: more) = 0) :
    gapLength (c :: more) = 0 := by
  rw [gapLength, if_neg (by simp [hblank])]
  exact if_pos hplain

/-- A gap ends where neither a blank nor a plain comment starts. -/
theorem gap_ends {text : List Char} (h : text.drop (gapLength text) = c :: more) :
    isBlank c = false ∧ plainCommentLength (c :: more) = 0 := by
  fun_induction gapLength text with
  | case1 => simp at h
  | case2 d behind hblank ih => exact ih (by simpa using h)
  | case3 d behind hblank n hn =>
      obtain ⟨rfl, rfl⟩ := List.cons.inj h
      exact ⟨by simpa using hblank, hn⟩
  | case4 d behind hblank n hn ih =>
      refine ih ?_
      obtain ⟨k, hk⟩ := Nat.exists_eq_succ_of_ne_zero hn
      rw [List.drop_drop]
      rw [hk, Nat.succ_add, List.drop_succ_cons] at h
      rw [hk]
      exact h

end Gaps

end DocComments
