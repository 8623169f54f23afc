import DocComments.Proofs.Lookahead
import DocComments.Proofs.Relexing

/-!
# Rules on tokens with the same contents

Two sources that are written differently can have tokens with the same kinds and texts.
`Alike L e r r'` says that no rule tells them apart: from states related by `L`, both `r` and
`r'` answer, with the same `e` of their answers, or both meet a mismatch with the same pattern
and a token of the same content, and what they leave is related again.  The map `e` keeps of an
answer what does not depend on places.

The sources that are related (`TokenSource.SameContent`) have no construct left open among what
is to come, and as many tokens.  So the bounds on repetition and depth are the same on both
sides, and every combinator has one lemma.
-/

namespace DocComments

variable {σ α β κ γ : Type}

/-! ### The judgement -/

/-- What of a mismatch does not depend on places: the pattern, and the content of the token. -/
def Mismatch.content (m : Mismatch) : List TokenTest × (TokenKind × List Char) :=
  (m.expected, m.actual.content)

/-- **Two outcomes that are the same but for places.** -/
inductive SameButPlaces (L : σ → σ → Prop) (e : α → κ) :
    EStateM.Result Failure σ α → EStateM.Result Failure σ α → Prop where
  | answer {a a' : α} {s s' : σ} (hleft : L s s') (h : e a = e a') :
      SameButPlaces L e (.ok a s) (.ok a' s')
  | mismatch {m m' : Mismatch} {s s' : σ} (hleft : L s s') (h : m.content = m'.content) :
      SameButPlaces L e (.error (.mismatch m) s) (.error (.mismatch m') s')

/-- **The computations differ in places only**, from all states that do. -/
def Alike (L : σ → σ → Prop) (e : α → κ) (r r' : EStateM Failure σ α) : Prop :=
  ∀ ⦃s s' : σ⦄, L s s' → SameButPlaces L e (r s) (r' s')

section Combinators

variable {L : σ → σ → Prop} {e : α → κ} {g : β → γ} {r r' : EStateM Failure σ α}
variable {f f' : α → EStateM Failure σ β}

theorem alike_pure {a a' : α} (h : e a = e a') : Alike L e (pure a) (pure a') :=
  fun _ _ hs => .answer hs h

theorem alike_throw {m m' : Mismatch} (h : m.content = m'.content) :
    Alike L e (throw (.mismatch m)) (throw (.mismatch m')) :=
  fun _ _ hs => .mismatch hs h

/-- **One computation after another.**  The second one learns of the first answer no more than
what does not depend on places. -/
theorem Alike.bind (h : Alike L e r r') (hf : ∀ a a', e a = e a' → Alike L g (f a) (f' a')) :
    Alike L g (r >>= f) (r' >>= f') := by
  intro s s' hs
  have hr := h hs
  change SameButPlaces L g (EStateM.bind r f s) (EStateM.bind r' f' s')
  simp only [EStateM.bind]
  generalize r s = x at hr ⊢
  generalize r' s' = x' at hr ⊢
  cases hr with
  | answer hleft ha => exact hf _ _ ha hleft
  | mismatch hleft hm => exact .mismatch hleft hm

/-- An answer that has no places in it is the same on both sides. -/
theorem Alike.bind_id (h : Alike L id r r') (hf : ∀ a, Alike L g (f a) (f' a)) :
    Alike L g (r >>= f) (r' >>= f') := by
  refine h.bind ?_
  rintro a _ rfl
  exact hf a

/-- An answer that may be absent is absent on both sides or on none. -/
theorem Alike.bind_option {r r' : EStateM Failure σ (Option α)}
    {f f' : Option α → EStateM Failure σ β} (h : Alike L (Option.map e) r r')
    (hnone : Alike L g (f none) (f' none))
    (hsome : ∀ a a', e a = e a' → Alike L g (f (some a)) (f' (some a'))) :
    Alike L g (r >>= f) (r' >>= f') := by
  refine h.bind fun found found' hfound => ?_
  cases found with
  | none =>
      cases found' with
      | none => exact hnone
      | some a' => exact absurd hfound (by simp)
  | some a =>
      cases found' with
      | none => exact absurd hfound (by simp)
      | some a' => exact hsome a a' (Option.some.inj hfound)

theorem Alike.map {k k' : α → β} (h : Alike L e r r')
    (hk : ∀ a a', e a = e a' → g (k a) = g (k' a')) : Alike L g (k <$> r) (k' <$> r') := by
  rw [map_eq_pure_bind, map_eq_pure_bind]
  exact h.bind fun a a' ha => alike_pure (hk a a' ha)

/-- A mismatch is handled without regard to places. -/
theorem Alike.tryCatch {handle handle' : Failure → EStateM Failure σ α} (h : Alike L e r r')
    (hhandle : ∀ m m', m.content = m'.content →
      Alike L e (handle (.mismatch m)) (handle' (.mismatch m'))) :
    Alike L e (tryCatch r handle) (tryCatch r' handle') := by
  intro s s' hs
  have hr := h hs
  change SameButPlaces L e (EStateM.tryCatch r handle s) (EStateM.tryCatch r' handle' s')
  simp only [EStateM.tryCatch]
  generalize r s = x at hr ⊢
  generalize r' s' = x' at hr ⊢
  cases hr with
  | answer hleft ha => exact .answer hleft ha
  | mismatch hleft hm => exact hhandle _ _ hm hleft

end Combinators

/-! ### Tokens -/

namespace Token

variable {t t' : Token}

theorem kind_eq_of_content (h : t.content = t'.content) : t.kind = t'.kind :=
  (Prod.mk.inj h).1

theorem text_eq_of_content (h : t.content = t'.content) : t.text = t'.text :=
  String.toList_injective (Prod.mk.inj h).2

end Token

/-- Tests see the content only. -/
theorem TokenTest.fits_eq_of_content (test : TokenTest) {t t' : Token}
    (h : t.content = t'.content) : test.fits t = test.fits t' := by
  cases test with
  | kind k => rw [TokenTest.fits, TokenTest.fits, Token.kind_eq_of_content h]
  | text s =>
      rw [TokenTest.fits, TokenTest.fits, Token.kind_eq_of_content h, Token.text_eq_of_content h]

namespace TokenSource

/-- **The sources have tokens with the same contents**, and no construct is left open. -/
def SameContent (s s' : TokenSource) : Prop :=
  ∃ tokens tokens' : List Token, s.upcoming = tokens.map .ok ∧ s'.upcoming = tokens'.map .ok ∧
    tokens.map Token.content = tokens'.map Token.content

/-- Where no construct is left open, a look is answered. -/
theorem peek_of_tokens {s : TokenSource} {tokens : List Token}
    (h : s.upcoming = tokens.map .ok) (n : Nat) :
    ∃ u, peek n s = .ok (tokens[n]?.getD s.endToken) u ∧ u.upcoming = tokens.map .ok ∧
      u.Reached n := by
  have hlook : lookAt s.endToken n s.upcoming = .ok (tokens[n]?.getD s.endToken) := by
    rw [h]
    rcases Nat.lt_or_ge n tokens.length with hlt | hge
    · rw [← List.append_nil (tokens.map Except.ok), lookAt_of_lt hlt,
        List.getElem?_eq_getElem hlt, Option.getD_some]
    · obtain ⟨k, rfl⟩ := Nat.exists_eq_add_of_le hge
      rw [← List.append_nil (tokens.map Except.ok), lookAt_map_ok_append, lookAt_nil,
        List.getElem?_eq_none hge, Option.getD_none]
  have hview := s.peek_view n
  rw [hlook, h] at hview
  exact hview

/-- The same place holds the same content, the places behind the last token included. -/
theorem content_getD {tokens tokens' : List Token}
    (h : tokens.map Token.content = tokens'.map Token.content) (n : Nat) (s s' : TokenSource) :
    (tokens[n]?.getD s.endToken).content = (tokens'[n]?.getD s'.endToken).content := by
  have hplace := congrArg (·[n]?) h
  simp only [List.getElem?_map] at hplace
  cases htoken : tokens[n]? with
  | none =>
      rw [htoken, Option.map_none, eq_comm, Option.map_eq_none_iff] at hplace
      rw [hplace]
      rfl
  | some t =>
      rw [htoken, Option.map_some, eq_comm, Option.map_eq_some_iff] at hplace
      obtain ⟨t', htoken', hcontent⟩ := hplace
      rw [htoken']
      exact hcontent.symm

/-- As many tokens are to come. -/
theorem SameContent.size_eq {s s' : TokenSource} (h : SameContent s s') : s.size = s'.size := by
  obtain ⟨tokens, tokens', hs, hs', hcontent⟩ := h
  have hlen := congrArg List.length hcontent
  simp only [List.length_map] at hlen
  rw [size_eq_length_upcoming, size_eq_length_upcoming, hs, hs', List.length_map, List.length_map,
    hlen]

end TokenSource

open TokenSource

namespace Rule

/-- **The rule does not depend on places**, up to what `e` leaves out of its answer. -/
abbrev IgnoresPlaces (e : α → κ) (r : Rule α) : Prop :=
  Alike SameContent e r r

/-! ### Looking and taking -/

variable {e : α → κ}

theorem alike_peek (n : Nat) : IgnoresPlaces Token.content (peek n) := by
  rintro s s' ⟨tokens, tokens', hs, hs', hcontent⟩
  obtain ⟨u, hpeek, hu, -⟩ := peek_of_tokens hs n
  obtain ⟨u', hpeek', hu', -⟩ := peek_of_tokens hs' n
  rw [hpeek, hpeek']
  exact .answer ⟨tokens, tokens', hu, hu', hcontent⟩ (content_getD hcontent n s s')

/-- A look at a place, and then taking everything up to it. -/
theorem alike_take (n : Nat) :
    IgnoresPlaces Token.content
      (do let t ← peek n; modify (TokenSource.drop (n + 1)); pure t) := by
  rintro s s' ⟨tokens, tokens', hs, hs', hcontent⟩
  obtain ⟨u, hpeek, hu, hreached⟩ := peek_of_tokens hs n
  obtain ⟨u', hpeek', hu', hreached'⟩ := peek_of_tokens hs' n
  rw [bind_ok hpeek, bind_ok hpeek']
  refine .answer ⟨tokens.drop (n + 1), tokens'.drop (n + 1), ?_, ?_, ?_⟩
    (content_getD hcontent n s s')
  · rw [upcoming_drop_of_reached hreached, hu, List.map_drop]
  · rw [upcoming_drop_of_reached hreached', hu', List.map_drop]
  · rw [List.map_drop, List.map_drop, hcontent]

theorem alike_lookFrom (pattern : List TokenTest) : ∀ offset : Nat,
    IgnoresPlaces id (lookFrom offset pattern) := by
  induction pattern with
  | nil => exact fun _ => alike_pure rfl
  | cons test pattern ih =>
      refine fun offset => (alike_peek offset).bind fun t t' ht => ?_
      rw [← test.fits_eq_of_content ht]
      cases test.fits t with
      | true => exact ih (offset + 1)
      | false => exact alike_pure rfl

theorem alike_look (pattern : List TokenTest) : IgnoresPlaces id (look pattern) :=
  alike_lookFrom pattern 0

theorem alike_lookAny (patterns : List (List TokenTest)) : IgnoresPlaces id (lookAny patterns) := by
  induction patterns with
  | nil => exact alike_pure rfl
  | cons pattern patterns ih =>
      refine (alike_look pattern).bind_id fun fits => ?_
      cases fits with
      | true => exact alike_pure rfl
      | false => exact ih

/-- A decision by a look. -/
theorem alike_ite_look {pattern : List TokenTest} {r q : Rule α} (hr : IgnoresPlaces e r)
    (hq : IgnoresPlaces e q) : IgnoresPlaces e (do if ← look pattern then r else q) := by
  refine (alike_look pattern).bind_id fun fits => ?_
  cases fits with
  | true => exact hr
  | false => exact hq

theorem alike_requireFrom (whole pattern : List TokenTest) : ∀ offset : Nat,
    IgnoresPlaces id (requireFrom whole offset pattern) := by
  induction pattern with
  | nil => exact fun _ => alike_pure rfl
  | cons test pattern ih =>
      refine fun offset => (alike_peek offset).bind fun t t' ht => ?_
      rw [← test.fits_eq_of_content ht]
      cases test.fits t with
      | true => exact ih (offset + 1)
      | false => exact alike_throw (congrArg (Prod.mk whole) ht)

theorem alike_expect (pattern : List TokenTest) {nonempty : pattern ≠ []} :
    IgnoresPlaces Token.content (expect pattern nonempty) := by
  have htake := alike_take (pattern.length - 1)
  rw [Nat.sub_add_cancel (List.length_pos_iff.2 nonempty)] at htake
  exact (alike_requireFrom pattern pattern 0).bind_id fun _ => htake

theorem alike_accept (pattern : List TokenTest) {nonempty : pattern ≠ []} :
    IgnoresPlaces (Option.map Token.content) (accept pattern nonempty) :=
  alike_ite_look ((alike_expect pattern).map fun _ _ h => congrArg some h) (alike_pure rfl)

theorem alike_next : IgnoresPlaces Token.content next :=
  alike_take 0

theorem alike_atEnd : IgnoresPlaces id atEnd :=
  (alike_peek 0).bind fun t t' ht => alike_pure (by rw [Token.kind_eq_of_content ht])

/-! ### Repetition -/

/-- A rule that is bounded by what is to come has the same bound on both sides. -/
theorem alike_size_bind {f : Nat → Rule α} (h : ∀ n, IgnoresPlaces e (f n)) :
    IgnoresPlaces e (do f (← get).size) := by
  intro s s' hs
  have hn := h s.size hs
  change SameButPlaces SameContent e (f s.size s) (f s'.size s')
  rw [← hs.size_eq]
  exact hn

theorem alike_manyUpTo {step : Rule (Option α)} (h : IgnoresPlaces (Option.map e) step)
    (rounds : Nat) : IgnoresPlaces (List.map e) (manyUpTo step rounds) := by
  induction rounds with
  | zero => exact alike_pure rfl
  | succ rounds ih =>
      refine h.bind_option (alike_pure rfl) fun a a' ha => ih.map fun found found' hfound => ?_
      rw [List.map_cons, List.map_cons, ha, hfound]

theorem alike_many {step : Rule (Option α)} (h : IgnoresPlaces (Option.map e) step) :
    IgnoresPlaces (List.map e) (many step) :=
  alike_size_bind fun n => alike_manyUpTo h (n + 1)

/-- What of a part does not depend on places. -/
def Part.map (e : α → κ) : Part α → Part κ
  | absent => .absent
  | broken => .broken
  | found a => .found (e a)

theorem alike_separatedUpTo {part : Rule (Part α)} (h : IgnoresPlaces (Part.map e) part)
    (rounds : Nat) : IgnoresPlaces (Option.map (List.map e)) (separatedUpTo part rounds) := by
  induction rounds with
  | zero => exact alike_pure rfl
  | succ rounds ih =>
      refine h.bind fun p p' hp => ?_
      match p, p', hp with
      | .absent, .absent, _ => exact alike_pure rfl
      | .broken, .broken, _ => exact alike_pure rfl
      | .found a, .found a', hp =>
          have ha : e a = e a' := Part.found.inj hp
          refine (alike_accept _).bind_option (alike_pure ?_) fun _ _ _ => ?_
          · rw [Option.map_some, Option.map_some, List.map_singleton, List.map_singleton, ha]
          refine ih.bind_option (alike_pure rfl) fun found found' hfound => alike_pure ?_
          rw [Option.map_some, Option.map_some, Option.map_some, Option.map_some, List.map_cons,
            List.map_cons, ha, hfound]

theorem alike_separated {part : Rule (Part α)} (h : IgnoresPlaces (Part.map e) part) :
    IgnoresPlaces (Option.map (List.map e)) (separated part) :=
  alike_size_bind fun n => alike_separatedUpTo h (n + 1)

end Rule

end DocComments
