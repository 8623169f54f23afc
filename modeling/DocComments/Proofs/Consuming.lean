import DocComments.Proofs.ReadSummaries
import DocComments.Proofs.StrictScanning

/-!
# What takes a token

A loop over tokens comes to its end because each of its rounds takes one.  This file collects what
takes a token: a pattern, a literal that is found, a field that is found, a part of a list with the
comma behind it, and a round of a scan that goes on.

`TokenSource.Consumed` is the order in which tokens are taken.  A rule that agrees with itself on
tokens cut off has been shown to take a token where it finds something (`Rule.Advances`), and
`Rule.consumed_of_advances` carries that over to any source.
-/

namespace DocComments

namespace TokenSource

variable {s s' s'' : TokenSource}

/-- **At least one token has been taken** between the two sources. -/
structure Consumed (s s' : TokenSource) : Prop where
  /-- The tokens left are the last ones. -/
  suffix : s'.tokens <:+ s.tokens
  /-- Nothing new is to come. -/
  sublist : s'.upcoming.Sublist s.upcoming
  /-- There are fewer of them. -/
  fewer : s'.tokens.length < s.tokens.length

theorem Consumed.of_upcoming {tokens rest : List Token} {tail : Upcoming} (h : MovesOn s s')
    (hs : s.upcoming = tokens.map .ok ++ tail) (hs' : s'.upcoming = rest.map .ok ++ tail)
    (hlt : rest.length < tokens.length) : Consumed s s' := by
  refine ⟨h.suffix, h.sublist, ?_⟩
  simp only [TokenSource.tokens, hs, hs', Upcoming.tokens_append, Upcoming.tokens_map_ok,
    List.length_append]
  omega

theorem Consumed.of_next {t : Token} (h : s.upcoming = .ok t :: s'.upcoming) : Consumed s s' := by
  have htokens : s.tokens = t :: s'.tokens := by
    rw [TokenSource.tokens, h, Upcoming.tokens_ok, TokenSource.tokens]
  refine ⟨?_, ?_, ?_⟩
  · rw [htokens]
    exact List.suffix_cons t _
  · rw [h]
    exact List.sublist_cons_self _ _
  · rw [htokens]
    exact Nat.lt_succ_self _

/-- What is taken later is taken. -/
theorem MovesOn.consumed (h : MovesOn s s') (h' : Consumed s' s'') : Consumed s s'' :=
  ⟨h'.suffix.trans h.suffix, h'.sublist.trans h.sublist,
    Nat.lt_of_lt_of_le h'.fewer h.suffix.length_le⟩

/-- What has been taken stays taken. -/
theorem Consumed.movesOn (h : Consumed s s') (h' : MovesOn s' s'') : Consumed s s'' :=
  ⟨h'.suffix.trans h.suffix, h'.sublist.trans h.sublist,
    Nat.lt_of_le_of_lt h'.suffix.length_le h.fewer⟩

/-- Less is to come than before, failures counted. -/
theorem Consumed.size_lt (h : Consumed s s') : s'.size < s.size := by
  rw [size_eq_length_upcoming, size_eq_length_upcoming]
  refine Nat.lt_of_le_of_ne h.sublist.length_le fun hlen => ?_
  have hfewer := h.fewer
  rw [TokenSource.tokens, TokenSource.tokens, h.sublist.eq_of_length hlen] at hfewer
  exact absurd hfewer (Nat.lt_irrefl _)

end TokenSource

namespace Rule

open TokenSource

variable {α : Type} {s s' : TokenSource} {pattern : List TokenTest}

/-! ### Patterns -/

/-- **A pattern that is insisted on is taken.** -/
theorem consumed_expect {nonempty : pattern ≠ []} {t : Token} (hinner : IsInnerPattern pattern)
    (h : expect pattern nonempty s = .ok t s') : Consumed s s' := by
  obtain ⟨front, hs, -, -⟩ := upcoming_expect hinner h
  have hs' : s'.upcoming = ([] : List Token).map .ok ++ s'.upcoming := rfl
  exact .of_upcoming ((yields_expect s nonempty).movesOn h) hs hs' (by simp)

/-- **What is found has taken a token**, where the rule takes one on any tokens cut off. -/
theorem consumed_of_advances {r : Rule (Option α)} {P : Option α → Prop} {a : α}
    (hadvances : ∀ tail : Upcoming, tail.Stops → Advances tail r) (hyields : Yields s r P)
    (h : r s = .ok (some a) s') : Consumed s s' := by
  obtain ⟨tokens, rest, tail, hs, hs', -, hlt⟩ :=
    exists_of_agree (fun tail tokens hstops => hadvances tail hstops tokens) h
  exact .of_upcoming (hyields.movesOn h) hs hs' (hlt rfl)

theorem consumed_accept {nonempty : pattern ≠ []} {t : Token} (hinner : IsInnerPattern pattern)
    (h : accept pattern nonempty s = .ok (some t) s') : Consumed s s' :=
  consumed_of_advances (fun _ hstops => advances_accept hstops hinner) (yields_accept s nonempty) h

/-! ### Literals and fields -/

theorem advances_literal {tail : Upcoming} (hstops : tail.Stops) : Advances tail literal :=
  fun tokens => (agree_literal hstops (fun _ _ => True) tokens).weaken
    (fun found rest _ hread hfound => by
      obtain ⟨l, rfl⟩ := Option.isSome_iff_exists.1 hfound
      exact (hread l rfl).1)
    fun _ _ _ h => h.elim

/-- **A literal that is found has taken a token.** -/
theorem consumed_literal {l : Literal} (h : literal s = .ok (some l) s') : Consumed s s' :=
  consumed_of_advances (fun _ hstops => advances_literal hstops) (yields_literal s) h

/-- **A field that is found has taken a token**, also where its literal is absent. -/
theorem consumed_configField {field : String × Value}
    (h : configField s = .ok (some field) s') : Consumed s s' :=
  consumed_of_advances (fun _ hstops => advances_configField hstops)
    (yields_configField (.refl s)) h

/-- The part of a rule for members that comes before the value takes the key and the colon. -/
theorem consumed_memberWith {inner : Rule (Option Literal)} {m : Literal × Literal}
    (hinner : ∀ u, Yields u inner fun _ => True)
    (h : memberWith inner s = .ok (.found m) s') : Consumed s s' := by
  obtain ⟨starts, u, hlook, h⟩ := exists_of_bind_ok h
  have hu := (yields_lookAny s _).movesOn hlook
  cases starts with
  | false => cases h
  | true =>
      obtain ⟨key, v, hkey, h⟩ := exists_of_bind_ok h
      have hv := (yields_next u).movesOn hkey
      obtain ⟨colon, w, hcolon, h⟩ := exists_of_bind_ok h
      have hw := consumed_expect (isInnerPattern_text ":") hcolon
      obtain ⟨found, x, hvalue, h⟩ := exists_of_bind_ok h
      have hx := (hinner w).movesOn hvalue
      cases found with
      | none => cases h
      | some value =>
          obtain ⟨-, rfl⟩ := EStateM.Result.ok.inj h
          exact (hu.trans hv).consumed (hw.movesOn hx)

end Rule

/-! ### Scans -/

namespace Scanner

open TokenSource

variable {s s' : Scanner} {mode : ScanMode} {t : Token}

/-- The record of a doc-comment leaves what the code block behind it leaves. -/
theorem source_of_recordComment {more : Bool} (h : recordComment mode t s = .ok more s') :
    s'.source = after Rule.codeBlock s.source := by
  obtain ⟨recover, readTags⟩ := mode
  cases hblock : Rule.codeBlock s.source with
  | ok code v =>
      rw [recordComment_of_answer _ hblock] at h
      obtain ⟨-, rfl⟩ := EStateM.Result.ok.inj h
      rw [after_ok hblock]
  | error f v =>
      cases f with
      | mismatch m =>
          cases recover with
          | true =>
              rw [recordComment_recovering hblock] at h
              obtain ⟨-, rfl⟩ := EStateM.Result.ok.inj h
              rw [after_error hblock]
          | false => exact absurd ((recordComment_strict hblock).symm.trans h) (by simp)
      | unterminated e =>
          exact absurd ((recordComment_unterminated _ hblock).symm.trans h) (by simp)

/-- **A round of a scan that goes on has taken a token**: a doc-comment and what the code block
takes behind it, or one other token. -/
theorem consumed_round (h : round mode s = .ok true s') : Consumed s.source s'.source := by
  match hs : s.source.upcoming with
  | [] =>
      obtain ⟨u, -, hround⟩ := round_nil hs
      exact absurd ((hround mode).symm.trans h) (by simp)
  | .error e :: more =>
      obtain ⟨u, hround⟩ := round_error hs
      exact absurd (hround.symm.trans h) (by simp)
  | .ok t :: more =>
      by_cases hend : t.kind = .endOfInput
      · obtain ⟨u, hatEnd, -⟩ := Rule.atEnd_cons hs
        rw [round, bind_ok (lift_ok hatEnd), decide_eq_true hend, if_pos rfl] at h
        cases h
      · obtain ⟨u, rfl, hround⟩ := round_cons hs hend
        rw [hround] at h
        have hu : Consumed s.source u := .of_next hs
        by_cases hdoc : t.kind = .docComment
        · rw [if_pos hdoc] at h
          rw [source_of_recordComment h]
          exact hu.movesOn (Rule.yields_codeBlock (.refl u)).moves
        · rw [if_neg hdoc] at h
          obtain ⟨-, rfl⟩ := EStateM.Result.ok.inj h
          exact hu

end Scanner

end DocComments
