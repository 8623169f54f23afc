import DocComments.Proofs.CodeBlockAgreement
import DocComments.Proofs.LiteralTaken

/-!
# What an answer about a literal means

The documented grammar says that a literal which is found stands for a sentence, and the
documentation of rules says that an absent one has taken nothing.  Both fail where a literal
breaks off, and this file says exactly where.

What an array may close over holds an open brace and never an open bracket
(`Reading.Takes.braces`).  So counting braces tells: a literal that was found stands for a
sentence exactly where the braces taken balance (`Rule.literal_sentence_iff`).  An absent literal,
and with it an absent expression, has left the tokens alone exactly where no bracket opens, and
else has taken the remains of one (`Rule.absent_untouched_iff`).
-/

namespace DocComments

open TokenSource

/-! ### Open braces -/

/-- How many braces a token opens: one less for one that it closes. -/
def Token.brace (t : Token) : Int :=
  if t.IsPunct "\x7b" then 1 else if t.IsPunct "\x7d" then -1 else 0

/-- **How many braces stay open** behind some tokens. -/
def openBraces : List Token → Int
  | [] => 0
  | t :: more => t.brace + openBraces more

@[simp] theorem openBraces_nil : openBraces [] = 0 := rfl

@[simp] theorem openBraces_cons (t : Token) (tokens : List Token) :
    openBraces (t :: tokens) = t.brace + openBraces tokens := rfl

@[simp] theorem openBraces_append (front back : List Token) :
    openBraces (front ++ back) = openBraces front + openBraces back := by
  induction front with
  | nil => simp
  | cons t front ih => rw [List.cons_append, openBraces_cons, openBraces_cons, ih, Int.add_assoc]

section Groups

variable {groups : List (List Token)}

theorem openBraces_flatten_nonneg (h : ∀ group ∈ groups, 0 ≤ openBraces group) :
    0 ≤ openBraces groups.flatten := by
  induction groups with
  | nil => simp
  | cons group groups ih =>
      have hgroup := h group List.mem_cons_self
      have hgroups := ih fun group hgroup => h group (List.mem_cons_of_mem _ hgroup)
      rw [List.flatten_cons, openBraces_append]
      omega

/-- Groups of which none closes more than it opens close together what they open only if each of
them does. -/
theorem openBraces_flatten_eq_zero_iff (h : ∀ group ∈ groups, 0 ≤ openBraces group) :
    openBraces groups.flatten = 0 ↔ ∀ group ∈ groups, openBraces group = 0 := by
  induction groups with
  | nil => simp
  | cons group groups ih =>
      have hmore := fun group hgroup => h group (List.mem_cons_of_mem _ hgroup)
      have hgroup := h group List.mem_cons_self
      have hgroups := openBraces_flatten_nonneg hmore
      rw [List.flatten_cons, openBraces_append, List.forall_mem_cons, ← ih hmore]
      omega

end Groups

theorem Token.IsPunct.brace {t : Token} {text : String} (h : t.IsPunct text) :
    t.brace = if text = "\x7b" then 1 else if text = "\x7d" then -1 else 0 := by
  obtain ⟨hkind, rfl⟩ := h
  simp [Token.brace, Token.IsPunct, hkind]

theorem Token.brace_of_kind_ne {t : Token} (h : t.kind ≠ .punct) : t.brace = 0 := by
  simp [Token.brace, Token.IsPunct, h]

theorem Token.brace_of_scalarKind? {t : Token} {kind : ScalarKind}
    (h : t.kind.scalarKind? = some kind) : t.brace = 0 :=
  Token.brace_of_kind_ne fun hkind => by simp [hkind, TokenKind.scalarKind?] at h

/-- Commas change nothing. -/
theorem Commas.openBraces_eq {groups : List (List Token)} {inside : List Token}
    (h : Commas groups inside) : openBraces inside = openBraces groups.flatten := by
  induction h with
  | nil => rfl
  | last part => simp
  | cons hcomma _ ih => simp [hcomma.brace, ih]

section Parts

variable {π : Type} {parts : List π} {spelled : π → List Token} {inside : List Token}

theorem Commas.openBraces_nonneg (h : Commas (parts.map spelled) inside)
    (hparts : ∀ part ∈ parts, 0 ≤ openBraces (spelled part)) : 0 ≤ openBraces inside := by
  rw [h.openBraces_eq]
  exact openBraces_flatten_nonneg (List.forall_mem_map.2 hparts)

/-- A list closes what it opens exactly if its parts do, where none closes more. -/
theorem Commas.openBraces_eq_zero_iff (h : Commas (parts.map spelled) inside)
    (hparts : ∀ part ∈ parts, 0 ≤ openBraces (spelled part)) :
    openBraces inside = 0 ↔ ∀ part ∈ parts, openBraces (spelled part) = 0 := by
  rw [h.openBraces_eq, openBraces_flatten_eq_zero_iff (List.forall_mem_map.2 hparts),
    List.forall_mem_map]

/-- Parts that close what they open make a list that does. -/
theorem Commas.openBraces_eq_zero (h : Commas (parts.map spelled) inside)
    (hparts : ∀ part ∈ parts, openBraces (spelled part) = 0) : openBraces inside = 0 :=
  (h.openBraces_eq_zero_iff fun part hpart => Int.le_of_eq (hparts part hpart).symm).2 hparts

end Parts

/-- A member opens as many braces as its value. -/
theorem MemberTokens.Fits.openBraces_all {m : MemberTokens} (h : m.Fits) :
    openBraces m.all = openBraces m.tokens := by
  simp [MemberTokens.all, Token.brace_of_scalarKind? (Rule.scalarKind?_of_isKey h.1), h.2.brace]

theorem Commas.openBraces_members_nonneg {parts : List MemberTokens} {inside : List Token}
    (h : Commas (parts.map (·.all)) inside) (hfits : ∀ part ∈ parts, part.Fits)
    (hparts : ∀ part ∈ parts, 0 ≤ openBraces part.tokens) : 0 ≤ openBraces inside :=
  h.openBraces_nonneg fun part hpart => by
    rw [(hfits part hpart).openBraces_all]
    exact hparts part hpart

/-- A sentence closes every brace that it opens. -/
theorem Literal.Sentence.openBraces_eq_zero {l : Literal} {tokens : List Token}
    (h : l.Sentence tokens) : openBraces tokens = 0 := by
  induction h with
  | scalar hkind => simp [Token.brace_of_scalarKind? hkind]
  | array hopen hclose _ hinside ih =>
      simp [hopen.brace, hclose.brace, hinside.openBraces_eq_zero ih]
  | object hopen hclose hfits _ hinside ih =>
      have hmembers := hinside.openBraces_eq_zero fun part hpart =>
        (hfits part hpart).openBraces_all.trans (ih part hpart)
      simp [hopen.brace, hclose.brace, hmembers]

/-- What the open braces say about a reading: a literal that is found is a sentence if none stays
open, and in front of a closing bracket nothing has been taken if none stays open. -/
def Reading.Braces : Reading → List Token → Prop
  | .found l, tokens => 0 ≤ openBraces tokens ∧ (openBraces tokens = 0 → l.Sentence tokens)
  | .absent true, tokens => 0 ≤ openBraces tokens ∧ (openBraces tokens = 0 → tokens = [])
  | .absent false, _ => True

/-- **Braces tell a sentence from what an array closes over.** -/
theorem Reading.Takes.braces {r : Reading} {tokens : List Token} (h : r.Takes tokens) :
    r.Braces tokens := by
  induction h with
  | scalar hkind => exact ⟨by simp [Token.brace_of_scalarKind? hkind], fun _ => .scalar hkind⟩
  | @array opening closing parts inside remains hopen hclose _ hinside _ _ ihparts ihremains =>
      have hnonneg := hinside.openBraces_nonneg fun part hpart => (ihparts part hpart).1
      have hsum : openBraces (opening :: (inside ++ remains ++ [closing])) =
          openBraces inside + openBraces remains := by
        simp [hopen.brace, hclose.brace]
      have hremains := ihremains.1
      rw [Reading.Braces, hsum]
      refine ⟨by omega, fun hzero => ?_⟩
      -- neither sum is negative, so both are zero, and no remains are left
      obtain rfl := ihremains.2 (by omega)
      have hparts := (hinside.openBraces_eq_zero_iff fun part hpart => (ihparts part hpart).1).1
        (by omega)
      rw [List.append_nil]
      exact .array hopen hclose (fun part hpart => (ihparts part hpart).2 (hparts part hpart))
        hinside
  | @object opening closing parts inside hopen hclose hfits _ hinside ihparts =>
      have hsum : openBraces (opening :: (inside ++ [closing])) = openBraces inside := by
        rw [openBraces_cons, openBraces_append, openBraces_cons, openBraces_nil, hopen.brace,
          hclose.brace, if_pos rfl, if_neg (by decide), if_pos rfl]
        omega
      have hmember : ∀ part ∈ parts, openBraces part.all = openBraces part.tokens :=
        fun part hpart => (hfits part hpart).openBraces_all
      rw [Reading.Braces, hsum]
      refine ⟨hinside.openBraces_members_nonneg hfits fun part hpart => (ihparts part hpart).1,
        fun hzero => .object hopen hclose hfits (fun part hpart => ?_) hinside⟩
      have hmembers : ∀ part ∈ parts, 0 ≤ openBraces part.all := fun part hpart => by
        rw [hmember part hpart]
        exact (ihparts part hpart).1
      have hpartZero := (hinside.openBraces_eq_zero_iff hmembers).1 hzero part hpart
      exact (ihparts part hpart).2 ((hmember part hpart).symm.trans hpartZero)
  | @nothing closing =>
      cases closing with
      | true => exact ⟨by simp, fun _ => rfl⟩
      | false => trivial
  | brokenArray => trivial
  | @brokenObject closing opening parts inside hopen hfits _ hinside ihparts =>
      cases closing with
      | false => trivial
      | true =>
          have hnonneg := hinside.openBraces_members_nonneg hfits
            fun part hpart => (ihparts part hpart).1
          have hsum : openBraces (opening :: inside) = 1 + openBraces inside := by
            simp [hopen.brace]
          rw [Reading.Braces, hsum]
          exact ⟨by omega, fun hzero => by omega⟩
  | @brokenMember closing opening key colon parts inside remains hopen hfits _ hinside _ hkey
      hcolon _ ihparts ihremains =>
      cases closing with
      | false => trivial
      | true =>
          have hnonneg := hinside.openBraces_members_nonneg hfits
            fun part hpart => (ihparts part hpart).1
          have hremains := ihremains.1
          have hsum : openBraces (opening :: (inside ++ key :: colon :: remains)) =
              1 + openBraces inside + openBraces remains := by
            simp [hopen.brace, hcolon.brace,
              Token.brace_of_scalarKind? (Rule.scalarKind?_of_isKey hkey), Int.add_assoc]
          rw [Reading.Braces, hsum]
          exact ⟨by omega, fun hzero => by omega⟩

namespace Rule

variable {s s' : TokenSource} {tail : Upcoming}

/-! ### Literals that are found -/

/-- **A literal that was found stands for a sentence exactly where the braces taken balance.**  All
tokens that are gone belong to it or to what its arrays have closed over. -/
theorem literal_sentence_iff {l : Literal} (hpunct : ∀ t, .ok t ∈ s.upcoming → t.Punctuates)
    (h : literal s = .ok (some l) s') :
    ∃ taken, s.upcoming = taken.map .ok ++ s'.upcoming ∧ (Reading.found l).Takes taken ∧
      (l.Sentence taken ↔ openBraces taken = 0) := by
  obtain ⟨tokens, rest, tail, hs, hs', -, htakes⟩ := exists_of_agree
    (fun tail tokens hstops => (agree_literal_takes hstops tokens).weaken (fun _ _ _ h => h)
      fun _ _ _ _ => trivial) h
  obtain ⟨taken, rfl, htaken, -⟩ := htakes fun t ht => hpunct t (by simp [hs, ht])
  refine ⟨taken, by simp [hs, hs'], htaken, fun hsentence => hsentence.openBraces_eq_zero,
    htaken.braces.2⟩

/-- An array that closes over a member whose value is missing, inside an object that broke off. -/
theorem literal_sentence_iff_open :
    let source := "[1, [2,], \x7ba: \x7bb: 3, c: ] rest"
    ∃ l s', literal (ofString source) = .ok (some l) s' ∧ l.render = "[1, [2]]" ∧
      ∃ taken, (ofString source).upcoming = taken.map .ok ++ s'.upcoming ∧
        (Reading.found l).Takes taken ∧ (l.Sentence taken ↔ openBraces taken = 0) := by
  intro source
  have hrun : answersWith (fun found _ => found.any (·.render = "[1, [2]]"))
      (literal (ofString source)) = true := by decide +kernel
  obtain ⟨found, s', hliteral, hfound⟩ := exists_of_answersWith hrun
  obtain ⟨l, rfl, hrender⟩ := (Option.any_eq_true _ _).1 hfound
  exact ⟨l, s', hliteral, of_decide_eq_true hrender,
    literal_sentence_iff (fun t => punctuates_of_mem_upcoming) hliteral⟩

/-- **What is found need not be a sentence**: an array closes over an open brace. -/
theorem literal_not_sentence : ¬∀ (source : String) (l : Literal) (s' : TokenSource),
    literal (ofString source) = .ok (some l) s' →
    ∃ taken, (ofString source).upcoming = taken.map .ok ++ s'.upcoming ∧ l.Sentence taken := by
  intro h
  have hrun : answersWith (fun found s' => found.isSome && s'.upcoming.isEmpty)
      (literal (ofString "[\x7b]")) = true := by decide +kernel
  have hupcoming : (ofString "[\x7b]").upcoming =
      [⟨.punct, "[", 1, 1⟩, ⟨.punct, "\x7b", 1, 2⟩, ⟨.punct, "]", 1, 3⟩].map .ok := by
    decide +kernel
  obtain ⟨found, s', hliteral, hfound⟩ := exists_of_answersWith hrun
  rw [Bool.and_eq_true, Option.isSome_iff_exists, List.isEmpty_iff] at hfound
  obtain ⟨⟨l, rfl⟩, hnil⟩ := hfound
  obtain ⟨taken, htaken, hsentence⟩ := h _ l s' hliteral
  rw [hnil, hupcoming, List.append_nil] at htaken
  obtain rfl := (List.map_inj_right fun _ _ => Except.ok.inj).1 htaken
  exact absurd hsentence.openBraces_eq_zero (by decide)

/-! ### Absent literals and expressions -/

/-- The next token is this operator. -/
def NextIs (u : Upcoming) (text : String) : Prop :=
  ∃ t more, u = .ok t :: more ∧ t.IsPunct text

/-- **What an absent answer leaves.**  The tokens taken are the remains of an array or object, and
there are none exactly where no bracket opens. -/
def LeavesRemains (s s' : TokenSource) : Prop :=
  (∃ taken closing, s.upcoming = taken.map .ok ++ s'.upcoming ∧
    (Reading.absent closing).Takes taken ∧ (closing = true ↔ NextIs s'.upcoming "]")) ∧
  (s'.upcoming = s.upcoming ↔ ¬(NextIs s.upcoming "[" ∨ NextIs s.upcoming "\x7b"))

/-- Before a place where rules stop, the next token is one of those before it. -/
theorem nextIs_iff (hstops : Upcoming.Stops tail) (tokens : List Token) (text : String) :
    NextIs (tokens.map .ok ++ tail) text ↔ ∃ t ∈ tokens.head?, t.IsPunct text := by
  cases tokens with
  | nil =>
      refine iff_of_false ?_ (by simp)
      rintro ⟨t, more, htail, hkind, -⟩
      have hdoc := hstops t more htail
      rw [hkind] at hdoc
      exact absurd hdoc (by decide)
  | cons t tokens =>
      refine ⟨fun ⟨u, more, hu, hispunct⟩ => ⟨t, rfl, ?_⟩, fun ⟨u, hu, hispunct⟩ => ?_⟩
      · obtain rfl := Except.ok.inj (List.cons.inj hu).1
        exact hispunct
      · obtain rfl : t = u := by simpa using hu
        exact ⟨t, _, rfl, hispunct⟩

theorem leavesRemains_of_takes (hpunct : ∀ t, .ok t ∈ s.upcoming → t.Punctuates)
    {tokens rest : List Token} (hs : s.upcoming = tokens.map .ok ++ tail)
    (hs' : s'.upcoming = rest.map .ok ++ tail) (hstops : Upcoming.Stops tail)
    (h : LiteralTakes tokens none rest) : LeavesRemains s s' := by
  have htokens : ∀ t ∈ tokens, t.Punctuates := fun t ht => hpunct t (by simp [hs, ht])
  obtain ⟨taken, rfl, htaken, hnothing⟩ := h htokens
  constructor
  · refine ⟨taken, TokenTest.fitAll ["]"] rest, by simp [hs, hs'], htaken, ?_⟩
    rw [hs', nextIs_iff hstops]
    cases rest with
    | nil => simp
    | cons t rest =>
        have hfits : TokenTest.fitAll ["]"] (t :: rest) = TokenTest.fits "]" t := by simp
        rw [hfits]
        refine ⟨fun hfits => ⟨t, rfl, htokens t (by simp) "]" (by decide) hfits⟩, ?_⟩
        rintro ⟨u, hu, hispunct⟩
        obtain rfl : t = u := by simpa using hu
        simp [hispunct.fits_text]
  · rw [hs, hs', nextIs_iff hstops, nextIs_iff hstops]
    have hopens : (∃ t ∈ (taken ++ rest).head?, t.IsPunct "[") ∨
        (∃ t ∈ (taken ++ rest).head?, t.IsPunct "\x7b") ↔ OpensBracket (taken ++ rest) := by
      simp only [OpensBracket, and_or_left, exists_or]
    rw [hopens, ← hnothing rfl]
    simp

/-- An expression is absent where its literal is, and then has taken the same. -/
theorem agree_expression_takes (hstops : Upcoming.Stops tail) (tokens : List Token) :
    Agree tail tokens expression expression
      (fun found rest => found = none → LiteralTakes tokens none rest) fun _ _ => True := by
  have hsome : ∀ {r : Rule Summary} (rest : List Token), Local tail r →
      Agree tail rest (some <$> r) (some <$> r)
        (fun found left => found = none → LiteralTakes tokens none left) fun _ _ => True :=
    fun rest hr => Agree.map ((hr rest).weaken (fun _ _ _ _ h => absurd h (by simp))
      fun _ _ _ h => h)
  refine Agree.bind (P := fun _ rest => rest = tokens) (agree_look hstops (by decide) rfl) ?_
  rintro isFunction rest - rfl
  cases isFunction with
  | true => exact hsome rest (local_function hstops)
  | false =>
      refine Agree.bind (P := fun _ left => left = rest) (agree_look hstops (by decide) rfl) ?_
      rintro isExtension left - rfl
      cases isExtension with
      | true => exact hsome left (local_extension hstops)
      | false =>
          refine Agree.bind ((agree_literal_takes hstops left).weaken (fun _ _ _ h => h)
            fun _ _ _ _ => trivial) fun found after _ htakes => ?_
          refine agree_pure fun hnone => ?_
          obtain rfl := Option.map_eq_none_iff.1 hnone
          exact htakes

/-- **An absent literal or expression has taken nothing exactly where no bracket opens**, and else
the remains of an array or object that broke off. -/
theorem absent_untouched_iff (hpunct : ∀ t, .ok t ∈ s.upcoming → t.Punctuates) :
    (literal s = .ok none s' → LeavesRemains s s') ∧
      (expression s = .ok none s' → LeavesRemains s s') := by
  constructor
  · intro h
    obtain ⟨tokens, rest, tail, hs, hs', hstops, htakes⟩ := exists_of_agree
      (fun tail tokens hstops => (agree_literal_takes hstops tokens).weaken (fun _ _ _ h => h)
        fun _ _ _ _ => trivial) h
    exact leavesRemains_of_takes hpunct hs hs' hstops htakes
  · intro h
    obtain ⟨tokens, rest, tail, hs, hs', hstops, htakes⟩ :=
      exists_of_agree (fun tail tokens hstops => agree_expression_takes hstops tokens) h
    exact leavesRemains_of_takes hpunct hs hs' hstops (htakes rfl)

/-- An array whose item breaks off, and in front of a call an expression that takes nothing. -/
theorem absent_untouched_iff_broken :
    (∃ s', literal (ofString "[1, \x7ba: [2] 3") = .ok none s' ∧
      LeavesRemains (ofString "[1, \x7ba: [2] 3") s') ∧
    ∃ s', expression (ofString "(1)") = .ok none s' ∧ LeavesRemains (ofString "(1)") s' := by
  have hliteral : answersWith (fun found _ => found.isNone)
      (literal (ofString "[1, \x7ba: [2] 3")) = true := by decide +kernel
  have hexpression : answersWith (fun found _ => found.isNone)
      (expression (ofString "(1)")) = true := by decide +kernel
  constructor
  · obtain ⟨found, s', h, hnone⟩ := exists_of_answersWith hliteral
    obtain rfl := Option.isNone_iff_eq_none.1 hnone
    exact ⟨s', h, (absent_untouched_iff fun t => punctuates_of_mem_upcoming).1 h⟩
  · obtain ⟨found, s', h, hnone⟩ := exists_of_answersWith hexpression
    obtain rfl := Option.isNone_iff_eq_none.1 hnone
    exact ⟨s', h, (absent_untouched_iff fun t => punctuates_of_mem_upcoming).2 h⟩

/-- **An absent literal need not leave the tokens alone**, nor need an absent expression. -/
theorem absent_not_untouched :
    (¬∀ (source : String) (s' : TokenSource), literal (ofString source) = .ok none s' →
      s'.upcoming = (ofString source).upcoming) ∧
    ¬∀ (source : String) (s' : TokenSource), expression (ofString source) = .ok none s' →
      s'.upcoming = (ofString source).upcoming := by
  have hupcoming : (ofString "[1").upcoming ≠ [] := by decide +kernel
  have hliteral : answersWith (fun found s' => found.isNone && s'.upcoming.isEmpty)
      (literal (ofString "[1")) = true := by decide +kernel
  have hexpression : answersWith (fun found s' => found.isNone && s'.upcoming.isEmpty)
      (expression (ofString "[1")) = true := by decide +kernel
  constructor
  · intro h
    obtain ⟨found, s', hrun, hfound⟩ := exists_of_answersWith hliteral
    rw [Bool.and_eq_true, Option.isNone_iff_eq_none, List.isEmpty_iff] at hfound
    obtain ⟨rfl, hnil⟩ := hfound
    exact hupcoming ((h _ s' hrun).symm.trans hnil)
  · intro h
    obtain ⟨found, s', hrun, hfound⟩ := exists_of_answersWith hexpression
    rw [Bool.and_eq_true, Option.isNone_iff_eq_none, List.isEmpty_iff] at hfound
    obtain ⟨rfl, hnil⟩ := hfound
    exact hupcoming ((h _ s' hrun).symm.trans hnil)

end Rule

end DocComments
