import DocComments.Proofs.LiteralAgreement
import DocComments.Proofs.Taking

/-!
# The sentences of literals

`Literal.Sentence l tokens` says that `tokens` spell out the literal `l`: an array or object has
its parts between brackets with a comma between every two and perhaps one behind the last.
`Rule.takes_literal` is the completeness of the rule: in front of a sentence it answers with its
literal and leaves exactly what follows, whatever that is.

Arrays and objects differ in their parts only, so what repeats is settled once for parts of any
sort (`Rule.takes_separated`).  What ends it is that no part starts at the closing bracket.
-/

namespace DocComments

/-- The token is this operator. -/
def Token.IsPunct (t : Token) (text : String) : Prop :=
  t.kind = .punct ∧ t.text = text

theorem Token.IsPunct.fits_text {t : Token} {text : String} (h : t.IsPunct text) (s : String) :
    TokenTest.fits (.text s) t = decide (text = s) := by
  rw [TokenTest.fits_text, h.1, h.2]
  rfl

/-- **Groups of tokens with a comma between every two**, and perhaps one behind the last. -/
inductive Commas : List (List Token) → List Token → Prop where
  | nil : Commas [] []
  | last (part : List Token) : Commas [part] part
  | cons {part inside : List Token} {parts : List (List Token)} {comma : Token}
      (hcomma : comma.IsPunct ",") (h : Commas parts inside) :
      Commas (part :: parts) (part ++ comma :: inside)

/-- **The tokens of a member**: its key, the colon, and those of its value. -/
structure MemberTokens where
  /-- The key. -/
  key : Token
  /-- The colon. -/
  colon : Token
  /-- The value. -/
  value : Literal
  /-- The tokens of the value. -/
  tokens : List Token

namespace MemberTokens

/-- The key can be one, and a colon follows it. -/
def Fits (m : MemberTokens) : Prop :=
  (m.key.kind = .ident ∨ m.key.kind = .string) ∧ m.colon.IsPunct ":"

/-- The member that the tokens spell out. -/
def member (m : MemberTokens) : Literal × Literal :=
  (.scalar (if m.key.kind = .ident then .ident else .string) m.key.text m.key.line, m.value)

/-- All tokens of the member. -/
def all (m : MemberTokens) : List Token :=
  m.key :: m.colon :: m.tokens

end MemberTokens

/-- **The tokens spell out the literal.** -/
inductive Literal.Sentence : Literal → List Token → Prop where
  | scalar {t : Token} {kind : ScalarKind} (h : t.kind.scalarKind? = some kind) :
      Sentence (.scalar kind t.text t.line) [t]
  | array {opening closing : Token} {parts : List (Literal × List Token)} {inside : List Token}
      (hopen : opening.IsPunct "[") (hclose : closing.IsPunct "]")
      (hparts : ∀ part ∈ parts, Sentence part.1 part.2)
      (hinside : Commas (parts.map (·.2)) inside) :
      Sentence (.array (parts.map (·.1)) opening.line) (opening :: (inside ++ [closing]))
  | object {opening closing : Token} {parts : List MemberTokens} {inside : List Token}
      (hopen : opening.IsPunct "\x7b") (hclose : closing.IsPunct "\x7d")
      (hfits : ∀ part ∈ parts, part.Fits) (hparts : ∀ part ∈ parts, Sentence part.value part.tokens)
      (hinside : Commas (parts.map (·.all)) inside) :
      Sentence (.object (parts.map (·.member)) opening.line) (opening :: (inside ++ [closing]))

/-- A literal stands on the line of the first of its tokens. -/
theorem Literal.Sentence.exists_first {l : Literal} {tokens : List Token} (h : l.Sentence tokens) :
    ∃ first more, tokens = first :: more ∧ l.line = first.line := by
  cases h with
  | @scalar t kind _ => exact ⟨t, [], rfl, rfl⟩
  | @array opening _ _ _ => exact ⟨opening, _, rfl, rfl⟩
  | @object opening _ _ _ => exact ⟨opening, _, rfl, rfl⟩

namespace Rule

open TokenSource

variable {α : Type} {u v : Upcoming} {t : Token} {text : String}

theorem takes_expectOne_punct (ht : t.IsPunct text) (v : Upcoming) :
    Takes (.ok t :: v) (expectOne text) t v :=
  takes_expectOne (by simp [ht.fits_text]) v

theorem takes_acceptOne_punct (ht : t.IsPunct text) (v : Upcoming) :
    Takes (.ok t :: v) (acceptOne text) (some t) v :=
  takes_acceptOne (by simp [ht.fits_text]) v

/-! ### Lists with commas -/

section Separated

variable {part : Rule (Part α)} {bound : Nat}

/-- **The parts are found** if the rule finds each of them in front of anything, and none at what
stands behind the list. -/
theorem takes_separatedUpTo (hclose : v.Misses [","]) (habsent : Takes v part .absent v)
    {inside : List Token} {groups : List (List Token)} (hinside : Commas groups inside) :
    ∀ parts : List (α × List Token), parts.map (·.2) = groups →
      (∀ p ∈ parts, ∀ behind : Upcoming, p.2.length + behind.length ≤ bound →
        Takes (p.2.map .ok ++ behind) part (.found p.1) behind) →
      inside.length + v.length ≤ bound → ∀ rounds : Nat, inside.length < rounds →
        Takes (inside.map .ok ++ v) (separatedUpTo part rounds) (some (parts.map (·.1))) v := by
  -- each group takes one round, so the bound falls with the groups
  induction hinside with
  | nil =>
      intro parts hparts _ _ rounds hrounds
      obtain rfl := List.map_eq_nil_iff.1 hparts
      obtain ⟨rounds, rfl⟩ : ∃ k, rounds = k + 1 := ⟨rounds - 1, by omega⟩
      exact habsent.bind (takes_pure _ _)
  | last group =>
      intro parts hparts hpart hbound rounds hrounds
      obtain ⟨p, rfl, rfl⟩ := List.map_eq_singleton_iff.1 hparts
      obtain ⟨rounds, rfl⟩ : ∃ k, rounds = k + 1 := ⟨rounds - 1, by omega⟩
      refine (hpart p List.mem_cons_self v hbound).bind ?_
      exact (takes_accept_none (isInnerPattern_text ",") hclose).bind (takes_pure _ _)
  | @cons group inside groups comma hcomma _ ih =>
      intro parts hparts hpart hbound rounds hrounds
      obtain ⟨p, parts, rfl, rfl, hmore⟩ := List.map_eq_cons_iff.1 hparts
      obtain ⟨rounds, rfl⟩ : ∃ k, rounds = k + 1 := ⟨rounds - 1, by omega⟩
      rw [List.length_append, List.length_cons] at hbound hrounds
      rw [List.map_append, List.append_assoc]
      refine (hpart p List.mem_cons_self _ (by simp; omega)).bind ?_
      refine (takes_acceptOne_punct hcomma _).bind ?_
      have hrest := ih parts hmore (fun p' hp' => hpart p' (List.mem_cons_of_mem p hp'))
        (by omega) rounds (by omega)
      exact hrest.bind (takes_pure _ _)

theorem takes_separated (hclose : v.Misses [","]) (habsent : Takes v part .absent v)
    {inside : List Token} {parts : List (α × List Token)}
    (hinside : Commas (parts.map (·.2)) inside)
    (hpart : ∀ p ∈ parts, ∀ behind : Upcoming,
      p.2.length + behind.length ≤ inside.length + v.length →
        Takes (p.2.map .ok ++ behind) part (.found p.1) behind) :
    Takes (inside.map .ok ++ v) (separated part) (some (parts.map (·.1))) v :=
  takes_size_bind (f := fun n => separatedUpTo part (n + 1))
    (takes_separatedUpTo hclose habsent hinside parts rfl hpart (Nat.le_refl _) _
      (by rw [List.length_append, List.length_map]; omega))

end Separated

/-! ### Literals -/

variable {inner : Rule (Option Literal)}

/-- No literal starts at an operator other than the two that open one. -/
theorem takes_literalWith_absent (ht : t.IsPunct text) (harray : text ≠ "[")
    (hobject : text ≠ "\x7b") (v : Upcoming) :
    Takes (.ok t :: v) (literalWith inner) none (.ok t :: v) := by
  refine (takes_peek t v).bind ?_
  simp only [ht.1, TokenKind.scalarKind?, ht.fits_text, decide_eq_false harray,
    decide_eq_false hobject, Bool.false_eq_true, if_false]
  exact takes_pure _ _

theorem takes_arrayWith {opening closing : Token} {parts : List (Literal × List Token)}
    {inside : List Token} (hopen : opening.IsPunct "[") (hclose : closing.IsPunct "]")
    (hinside : Commas (parts.map (·.2)) inside)
    (habsent : Takes (.ok closing :: v) inner none (.ok closing :: v))
    (hparts : ∀ part ∈ parts, ∀ behind : Upcoming,
      part.2.length + behind.length ≤ inside.length + (v.length + 1) →
        Takes (part.2.map .ok ++ behind) inner (some part.1) behind) :
    Takes (.ok opening :: (inside.map .ok ++ .ok closing :: v)) (arrayWith inner)
      (some (.array (parts.map (·.1)) opening.line)) v := by
  unfold arrayWith
  refine (takes_expectOne_punct hopen _).bind ?_
  refine (takes_separated ?_ ?_ hinside fun part hpart behind hbehind => ?_).bind ?_
  · exact Upcoming.misses_cons (by simp [hclose.fits_text])
  · exact habsent.bind (takes_pure _ _)
  · exact (hparts part hpart behind hbehind).bind (takes_pure _ _)
  · exact (takes_acceptOne_punct hclose v).bind (takes_pure _ _)

/-- A member is found where its tokens stand. -/
theorem takes_memberWith_found {m : MemberTokens} (hm : m.Fits)
    (hvalue : Takes (m.tokens.map .ok ++ v) inner (some m.value) v) :
    Takes (m.all.map .ok ++ v) (memberWith inner) (.found m.member) v := by
  obtain ⟨hkey, hcolon⟩ := hm
  have hlook := takes_lookAny (v := m.tokens.map .ok ++ v) [m.key, m.colon] memberPatterns
    (by decide) fun pattern hpattern hmiss => Upcoming.misses_append (by
      rcases List.mem_pair.1 hpattern with rfl | rfl <;> rfl) hmiss _
  have hfit : memberPatterns.any (TokenTest.fitAll · [m.key, m.colon]) = true := by
    rcases hkey with hkey | hkey <;>
      simp [memberPatterns, TokenTest.fits_kind, hkey, hcolon.fits_text]
  rw [hfit] at hlook
  unfold memberWith
  refine hlook.bind ((takes_next m.key _).bind ((takes_expectOne_punct hcolon _).bind ?_))
  exact hvalue.bind (takes_pure _ _)

/-- No member starts at an operator. -/
theorem takes_memberWith_absent (ht : t.IsPunct text) (v : Upcoming) :
    Takes (.ok t :: v) (memberWith inner) .absent (.ok t :: v) := by
  have hmisses : ∀ pattern ∈ memberPatterns, TokenTest.fitAll pattern [t] = false →
      Upcoming.Misses pattern ([t].map .ok ++ v) := by
    intro pattern hpattern _
    rcases List.mem_pair.1 hpattern with rfl | rfl <;>
      exact Upcoming.misses_cons (by simp [TokenTest.fits_kind, ht.1])
  have hlook := takes_lookAny [t] memberPatterns (by decide) hmisses
  have hfit : memberPatterns.any (TokenTest.fitAll · [t]) = false := by
    simp [memberPatterns]
  rw [hfit] at hlook
  unfold memberWith
  exact hlook.bind (takes_pure _ _)

theorem takes_objectWith {opening closing : Token} {parts : List MemberTokens}
    {inside : List Token} (hopen : opening.IsPunct "\x7b") (hclose : closing.IsPunct "\x7d")
    (hfits : ∀ part ∈ parts, part.Fits) (hinside : Commas (parts.map (·.all)) inside)
    (hparts : ∀ part ∈ parts, ∀ behind : Upcoming,
      part.tokens.length + behind.length ≤ inside.length + (v.length + 1) →
        Takes (part.tokens.map .ok ++ behind) inner (some part.value) behind) :
    Takes (.ok opening :: (inside.map .ok ++ .ok closing :: v)) (objectWith inner)
      (some (.object (parts.map (·.member)) opening.line)) v := by
  have hmembers : Takes (inside.map .ok ++ .ok closing :: v) (separated (memberWith inner))
      (some ((parts.map fun m => (m.member, m.all)).map (·.1))) (.ok closing :: v) := by
    refine takes_separated (Upcoming.misses_cons (by simp [hclose.fits_text]))
      (takes_memberWith_absent hclose v) (by simpa [Function.comp_def] using hinside)
      fun p hp behind hbehind => ?_
    obtain ⟨m, hm, rfl⟩ := List.mem_map.1 hp
    refine takes_memberWith_found (hfits m hm) (hparts m hm behind ?_)
    simp only [MemberTokens.all, List.length_cons] at hbehind
    omega
  simp only [List.map_map, Function.comp_def] at hmembers
  unfold objectWith
  refine (takes_expectOne_punct hopen _).bind (hmembers.bind ?_)
  exact (takes_acceptOne_punct hclose v).bind (takes_pure _ _)

/-- **A sentence is read** at every depth that is enough for what is to come. -/
theorem takes_literalWithin {l : Literal} {tokens : List Token} (h : l.Sentence tokens) :
    ∀ (v : Upcoming) (depth : Nat), tokens.length + v.length < depth →
      Takes (tokens.map .ok ++ v) (literalWithin depth) (some l) v := by
  induction h with
  | @scalar t kind hkind =>
      intro v depth hdepth
      obtain ⟨depth, rfl⟩ : ∃ k, depth = k + 1 := ⟨depth - 1, by omega⟩
      refine (takes_peek t v).bind ?_
      simp only [hkind]
      have hscalar : Takes (.ok t :: v) (scalar kind) (.scalar kind t.text t.line) v :=
        (takes_next t v).bind (takes_pure _ _)
      exact hscalar.map some
  | @array opening closing parts inside hopen hclose _ hinside ih =>
      intro v depth hdepth
      simp only [List.length_cons, List.length_append, List.length_nil] at hdepth
      obtain ⟨depth, rfl⟩ : ∃ k, depth = k + 2 := ⟨depth - 2, by omega⟩
      rw [List.map_cons, List.map_append, List.cons_append, List.append_assoc, List.map_singleton,
        List.singleton_append]
      refine (takes_peek opening _).bind ?_
      simp only [hopen.1, TokenKind.scalarKind?, hopen.fits_text, decide_true, if_true]
      exact takes_arrayWith hopen hclose hinside
        (takes_literalWith_absent hclose (by decide) (by decide) v)
        fun part hpart behind hbehind => ih part hpart behind _ (by omega)
  | @object opening closing parts inside hopen hclose hfits _ hinside ih =>
      intro v depth hdepth
      simp only [List.length_cons, List.length_append, List.length_nil] at hdepth
      obtain ⟨depth, rfl⟩ : ∃ k, depth = k + 1 := ⟨depth - 1, by omega⟩
      rw [List.map_cons, List.map_append, List.cons_append, List.append_assoc, List.map_singleton,
        List.singleton_append]
      refine (takes_peek opening _).bind ?_
      have harray : TokenTest.fits "[" opening = false := by simp [hopen.fits_text]
      simp only [hopen.1, TokenKind.scalarKind?, harray, hopen.fits_text, decide_true, if_true,
        Bool.false_eq_true, if_false]
      exact takes_objectWith hopen hclose hfits hinside
        fun part hpart behind hbehind => ih part hpart behind _ (by omega)

/-- **Every sentence is read as its literal**, and exactly what follows it is left. -/
theorem takes_literal {l : Literal} {tokens : List Token} (h : l.Sentence tokens) (v : Upcoming) :
    Takes (tokens.map .ok ++ v) literal (some l) v :=
  takes_size_bind (f := fun n => literalWithin (n + 1))
    (takes_literalWithin h v _ (by simp))

/-- A sentence is read alike where the source is cut off. -/
theorem agree_sentence {tail : Upcoming} {E : List TokenTest → List Token → Prop} {l : Literal}
    {tokens : List Token} (h : l.Sentence tokens) (rest : List Token) :
    Agree tail (tokens ++ rest) literal literal (Answers (some l) rest) E := by
  refine Takes.agree (List.suffix_append tokens rest) fun v => ?_
  rw [List.map_append, List.append_assoc]
  exact takes_literal h _

/-- **Every sentence of the grammar is parsed to its literal**, in front of anything: with its items
and members in the order of the tokens, on the line of the first token, and leaving exactly what
follows. -/
theorem literal_of_sentence {s : TokenSource} {l : Literal} {tokens : List Token} {v : Upcoming}
    (hs : s.upcoming = tokens.map .ok ++ v) (h : l.Sentence tokens) :
    (∃ s', literal s = .ok (some l) s' ∧ s'.upcoming = v) ∧
      ∃ first more, tokens = first :: more ∧ l.line = first.line :=
  ⟨takes_literal h v hs, h.exists_first⟩

/-- Commas behind the last item and the last member, in front of a colon and a string left open. -/
theorem literal_of_sentence_nested :
    let tokens : List Token :=
      [⟨.punct, "[", 1, 1⟩, ⟨.number, "1", 1, 2⟩, ⟨.punct, ",", 1, 3⟩, ⟨.punct, "\x7b", 2, 1⟩,
        ⟨.string, "k", 2, 2⟩, ⟨.punct, ":", 2, 5⟩, ⟨.ident, "x", 2, 7⟩, ⟨.punct, ",", 2, 8⟩,
        ⟨.punct, "\x7d", 2, 9⟩, ⟨.punct, ",", 2, 10⟩, ⟨.punct, "]", 2, 11⟩]
    let l : Literal := .array [.scalar .number "1" 1,
      .object [(.scalar .string "k" 2, .scalar .ident "x" 2)] 2] 1
    let v : Upcoming := [.ok ⟨.punct, ":", 2, 12⟩, .error ⟨.string, 2, 14⟩]
    let source := ofString "[1,\n\x7b'k': x,\x7d,]: 'open"
    source.upcoming = tokens.map .ok ++ v ∧ l.Sentence tokens ∧
      (∃ s', literal source = .ok (some l) s' ∧ s'.upcoming = v) ∧
        ∃ first more, tokens = first :: more ∧ l.line = first.line := by
  intro tokens l v source
  have hs : source.upcoming = tokens.map .ok ++ v := by decide +kernel
  let m : MemberTokens :=
    ⟨⟨.string, "k", 2, 2⟩, ⟨.punct, ":", 2, 5⟩, .scalar .ident "x" 2, [⟨.ident, "x", 2, 7⟩]⟩
  have hpunct : ∀ (text : String) (line column : Int),
      Token.IsPunct ⟨.punct, text, line, column⟩ text := fun _ _ _ => ⟨rfl, rfl⟩
  have hfits : ∀ part ∈ [m], part.Fits := List.forall_mem_singleton.2 ⟨.inr rfl, rfl, rfl⟩
  have hmembers : ∀ part ∈ [m], part.value.Sentence part.tokens :=
    List.forall_mem_singleton.2 (@Literal.Sentence.scalar ⟨.ident, "x", 2, 7⟩ .ident rfl)
  have hobject := Literal.Sentence.object (hpunct "\x7b" 2 1) (hpunct "\x7d" 2 9) hfits hmembers
    (.cons (hpunct "," 2 8) .nil)
  have hnumber := @Literal.Sentence.scalar ⟨.number, "1", 1, 2⟩ .number rfl
  have hitems : ∀ part ∈ [(_, _), (_, _)], Literal.Sentence part.1 part.2 :=
    List.forall_mem_cons.2 ⟨hnumber, List.forall_mem_singleton.2 hobject⟩
  have hsentence : l.Sentence tokens := .array (hpunct "[" 1 1) (hpunct "]" 2 11) hitems
    (.cons (hpunct "," 1 3) (.cons (hpunct "," 2 10) .nil))
  exact ⟨hs, hsentence, literal_of_sentence hs hsentence⟩

end Rule

end DocComments
