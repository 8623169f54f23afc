import DocComments.Literal.Grammar
import DocComments.Proofs.Agreement
import Mathlib.Data.List.Basic

/-!
# Literals on a source that is cut off

`Rule.agree_literal` is the one fact about the grammar of literals that the other grammars need:
a literal is read alike on a source and on the source cut off at a stop, it never meets a
mismatch, and where one is found it is made of the scalars that stand in the tokens
(`Literal.BuiltFrom`).

The depth is bounded by what is to come, so the two sides read with different bounds.  The
induction is on the first bound, and what carries it is that a bracket has been taken before
the inner literals are read.
-/

namespace DocComments

open TokenSource

/-! ### The scalars of a literal -/

/-- The kinds of scalar that can be the key of a member. -/
def ScalarKind.IsKey (kind : ScalarKind) : Prop :=
  kind = .ident ∨ kind = .string

/-- The literal can be the key of a member, with a text that satisfies `p`. -/
def Literal.IsKey (p : ScalarKind → String → Prop) (key : Literal) : Prop :=
  ∃ kind text line, key = .scalar kind text line ∧ kind.IsKey ∧ p kind text

/-- **All scalars of the literal satisfy `p`**, and the keys of its objects are names and
strings. -/
inductive Literal.BuiltFrom (p : ScalarKind → String → Prop) : Literal → Prop where
  | scalar {kind : ScalarKind} {text : String} (line : Int) (h : p kind text) :
      BuiltFrom p (.scalar kind text line)
  | array {items : List Literal} (line : Int) (h : ∀ item ∈ items, BuiltFrom p item) :
      BuiltFrom p (.array items line)
  | object {members : List (Literal × Literal)} (line : Int)
      (hkey : ∀ m ∈ members, Literal.IsKey p m.1) (h : ∀ m ∈ members, BuiltFrom p m.2) :
      BuiltFrom p (.object members line)

/-- The tokens that stand for scalars satisfy `p`. -/
def SuppliesScalars (p : ScalarKind → String → Prop) (tokens : List Token) : Prop :=
  ∀ t ∈ tokens, ∀ kind, t.kind.scalarKind? = some kind → p kind t.text

theorem SuppliesScalars.of_suffix {p : ScalarKind → String → Prop} {tokens rest : List Token}
    (h : SuppliesScalars p tokens) (hsuffix : rest <:+ tokens) : SuppliesScalars p rest :=
  fun t ht => h t (hsuffix.subset ht)

namespace Rule

variable {tail : Upcoming} {tokens : List Token} {p : ScalarKind → String → Prop}
variable {inner inner' : Rule (Option Literal)}

/-- **What is known of a literal that was read**: it took a token, and is made of the scalars
that stood in the tokens. -/
def LiteralRead (p : ScalarKind → String → Prop) (tokens : List Token) (found : Option Literal)
    (rest : List Token) : Prop :=
  ∀ l, found = some l → rest.length < tokens.length ∧ (SuppliesScalars p tokens → l.BuiltFrom p)

/-- The rules for the literals inside agree on no more than `bound` tokens. -/
def AgreeInside (tail : Upcoming) (p : ScalarKind → String → Prop) (bound : Nat)
    (inner inner' : Rule (Option Literal)) : Prop :=
  ∀ tokens : List Token, tokens.length ≤ bound →
    Agree tail tokens inner inner' (LiteralRead p tokens) fun _ _ => False

/-- The parts found in tokens that supply scalars satisfy `G`. -/
def PartsFrom {α : Type} (p : ScalarKind → String → Prop) (G : α → Prop) (tokens : List Token)
    (found : Option (List α)) (_rest : List Token) : Prop :=
  ∀ parts, found = some parts → SuppliesScalars p tokens → ∀ a ∈ parts, G a

theorem partFits_absent {α : Type} {G : α → Prop} (rest : List Token) :
    PartFits (PartsFrom p G) tokens .absent rest := by
  intro parts hparts _
  obtain rfl := Option.some.inj hparts
  simp

theorem partFits_broken {α : Type} {G : α → Prop} (rest : List Token) :
    PartFits (PartsFrom p G) tokens .broken rest :=
  fun parts hparts => absurd hparts (by simp)

theorem partFits_found {α : Type} {G : α → Prop} {a : α} {rest : List Token}
    (hsuffix : rest <:+ tokens) (hlt : rest.length < tokens.length)
    (ha : SuppliesScalars p tokens → G a) : PartFits (PartsFrom p G) tokens (.found a) rest := by
  refine ⟨hlt, fun _ parts hparts hsupplies => ?_, fun _ found final h parts hparts hsupplies => ?_⟩
  · obtain rfl := Option.some.inj hparts
    simpa using ha hsupplies
  · obtain ⟨others, rfl, rfl⟩ := Option.map_eq_some_iff.1 hparts
    have hothers := h others rfl (hsupplies.of_suffix ((List.drop_suffix 1 rest).trans hsuffix))
    simpa using ⟨ha hsupplies, hothers⟩

/-! ### Arrays and objects -/

theorem agree_arrayWith (hstops : Upcoming.Stops tail) {t : Token} {more : List Token}
    (hopen : TokenTest.fits "[" t = true) (hinner : AgreeInside tail p more.length inner inner') :
    Agree tail (t :: more) (arrayWith inner) (arrayWith inner') (LiteralRead p (t :: more))
      fun _ _ => False := by
  unfold arrayWith
  refine Agree.bind (P := fun _ rest => rest = more)
    (agree_expect hstops (by decide) (fun _ => rfl) fun hmiss => ?_) ?_
  · simp [hopen] at hmiss
  rintro opening rest - rfl
  refine Agree.bind (P := PartsFrom p (Literal.BuiltFrom p) rest)
    (agree_separated hstops fun left hleft => ?_) fun items after hsuffix hitems => ?_
  · refine (hinner left hleft).bind fun found after hsuffix hfound => ?_
    cases found with
    | none => exact agree_pure (partFits_absent after)
    | some item =>
        obtain ⟨hlt, hitem⟩ := hfound item rfl
        exact agree_pure (partFits_found hsuffix hlt hitem)
  · refine Agree.bind (P := fun _ _ => True)
      (agree_accept hstops (by decide) (fun _ => trivial) fun _ => trivial) ?_
    intro closing final hfinal _
    cases items with
    | none => exact agree_pure fun l hl => absurd hl (by simp)
    | some items =>
        cases closing with
        | none => exact agree_pure fun l hl => absurd hl (by simp)
        | some closing =>
            refine agree_pure fun l hl => ?_
            obtain rfl := Option.some.inj hl
            refine ⟨Nat.lt_succ_of_le (hfinal.trans hsuffix).length_le, fun hsupplies => ?_⟩
            exact .array _ (hitems items rfl (hsupplies.of_suffix (List.suffix_cons _ _)))

/-- A token that can be a key is a scalar, of the kind that the key becomes. -/
theorem scalarKind?_of_isKey {t : Token} (h : t.kind = .ident ∨ t.kind = .string) :
    t.kind.scalarKind? = some (if t.kind = .ident then .ident else .string) := by
  rcases h with h | h <;> simp [h, TokenKind.scalarKind?]

/-- The patterns that open a member. -/
def memberPatterns : List (List TokenTest) :=
  [[TokenKind.ident, ":"], [TokenKind.string, ":"]]

/-- Where a member starts, a token that can be a key comes first and a colon second. -/
theorem exists_key_of_any (h : memberPatterns.any (TokenTest.fitAll · tokens) = true) :
    ∃ key colon more, tokens = key :: colon :: more ∧
      (key.kind = .ident ∨ key.kind = .string) ∧ TokenTest.fits ":" colon = true := by
  obtain ⟨pattern, hmem, hfit⟩ := List.any_eq_true.1 h
  obtain ⟨kind, rfl, hkind⟩ : ∃ kind : TokenKind, pattern = [.kind kind, .text ":"] ∧
      (kind = .ident ∨ kind = .string) := by
    rcases List.mem_pair.1 hmem with rfl | rfl
    · exact ⟨_, rfl, .inl rfl⟩
    · exact ⟨_, rfl, .inr rfl⟩
  match tokens, hfit with
  | [], hfit => simp at hfit
  | [key], hfit => simp at hfit
  | key :: colon :: more, hfit =>
      simp only [TokenTest.fitAll_cons_cons, TokenTest.fitAll_nil, Bool.and_true, Bool.and_eq_true,
        TokenTest.fits_kind, decide_eq_true_eq] at hfit
      exact ⟨key, colon, more, rfl, hfit.1 ▸ hkind, hfit.2⟩

theorem agree_memberWith (hstops : Upcoming.Stops tail)
    (hinner : AgreeInside tail p tokens.length inner inner') :
    Agree tail tokens (memberWith inner) (memberWith inner')
      (PartFits (PartsFrom p fun m => Literal.IsKey p m.1 ∧ m.2.BuiltFrom p) tokens)
      fun _ _ => False := by
  unfold memberWith
  refine Agree.bind (agree_lookAny memberPatterns
    (Q := fun b rest => rest = tokens ∧ b = memberPatterns.any (TokenTest.fitAll · tokens))
    hstops (by decide) ⟨rfl, rfl⟩) ?_
  rintro b rest - ⟨rfl, hb⟩
  cases b with
  | false => exact agree_pure (partFits_absent rest)
  | true =>
      obtain ⟨key, colon, more, rfl, hkey, hcolon⟩ := exists_key_of_any hb.symm
      refine Agree.bind (agree_next (Q := fun t left => t = key ∧ left = colon :: more) hstops
        ⟨rfl, rfl⟩) ?_
      rintro t left - ⟨rfl, rfl⟩
      refine Agree.bind (agree_expect (Q := fun _ left => left = more) hstops (by decide)
        (fun _ => rfl) fun hmiss => ?_) ?_
      · simp [hcolon] at hmiss
      rintro _ left - rfl
      refine Agree.bind (hinner left (by simp; omega)) fun found after hsuffix hfound => ?_
      cases found with
      | none => exact agree_pure (partFits_broken after)
      | some value =>
          obtain ⟨hlt, hvalue⟩ := hfound value rfl
          have hleft : left <:+ t :: colon :: left := ⟨[t, colon], rfl⟩
          refine agree_pure (partFits_found (hsuffix.trans hleft) ?_ fun hsupplies => ⟨?_, ?_⟩)
          · simp only [List.length_cons]
            omega
          · refine ⟨_, _, _, rfl, ?_, hsupplies t List.mem_cons_self _ (scalarKind?_of_isKey hkey)⟩
            unfold ScalarKind.IsKey
            split <;> simp
          · exact hvalue (hsupplies.of_suffix hleft)

theorem agree_objectWith (hstops : Upcoming.Stops tail) {t : Token} {more : List Token}
    (hopen : TokenTest.fits "\x7b" t = true)
    (hinner : AgreeInside tail p more.length inner inner') :
    Agree tail (t :: more) (objectWith inner) (objectWith inner') (LiteralRead p (t :: more))
      fun _ _ => False := by
  unfold objectWith
  refine Agree.bind (P := fun _ rest => rest = more)
    (agree_expect hstops (by decide) (fun _ => rfl) fun hmiss => ?_) ?_
  · simp [hopen] at hmiss
  rintro opening rest - rfl
  refine Agree.bind (agree_separated hstops fun left hleft => agree_memberWith hstops
    fun inside hinside => hinner inside (Nat.le_trans hinside hleft)) ?_
  intro members after hsuffix hmembers
  cases members with
  | none => exact agree_pure fun l hl => absurd hl (by simp)
  | some members =>
      refine Agree.bind (P := fun _ _ => True)
        (agree_accept hstops (by decide) (fun _ => trivial) fun _ => trivial) ?_
      intro closing final hfinal _
      cases closing with
      | none => exact agree_pure fun l hl => absurd hl (by simp)
      | some closing =>
          refine agree_pure fun l hl => ?_
          obtain rfl := Option.some.inj hl
          refine ⟨Nat.lt_succ_of_le (hfinal.trans hsuffix).length_le, fun hsupplies => ?_⟩
          have hall := hmembers members rfl (hsupplies.of_suffix (List.suffix_cons _ _))
          exact .object _ (fun m hm => (hall m hm).1) fun m hm => (hall m hm).2

/-! ### Literals -/

/-- No literal starts at a token at which rules stop. -/
theorem scalarKind?_of_isStop {t : Token} (ht : t.IsStop) : t.kind.scalarKind? = none := by
  rcases ht with ht | ht <;> simp [ht, TokenKind.scalarKind?]

theorem agree_literalWith (hstops : Upcoming.Stops tail)
    (hinner : ∀ left : List Token, left.length < tokens.length →
      Agree tail left inner inner' (LiteralRead p left) fun _ _ => False) :
    Agree tail tokens (literalWith inner) (literalWith inner') (LiteralRead p tokens)
      fun _ _ => False := by
  refine agree_peek_bind hstops (Nat.zero_le _) (fun t ht => ?_) fun _ t t' ht ht' => ?_
  · cases tokens with
    | nil => simp at ht
    | cons first more =>
        obtain rfl : first = t := by simpa using ht
        have hinside : AgreeInside tail p more.length inner inner' :=
          fun left hleft => hinner left (Nat.lt_succ_of_le hleft)
        cases hkind : first.kind.scalarKind? with
        | some kind =>
            refine Agree.map (Agree.bind (P := fun t rest => t = first ∧ rest = more)
              (agree_next hstops ⟨rfl, rfl⟩) ?_)
            rintro t rest - ⟨rfl, rfl⟩
            refine agree_pure fun l hl => ?_
            obtain rfl := Option.some.inj hl
            exact ⟨Nat.lt_succ_self _, fun hsupplies =>
              .scalar _ (hsupplies t List.mem_cons_self kind hkind)⟩
        | none =>
            simp only
            split
            · next hopen => exact agree_arrayWith hstops hopen hinside
            split
            · next hopen => exact agree_objectWith hstops hopen hinside
            · exact agree_pure fun l hl => absurd hl (by simp)
  · -- neither source is at a token that opens a literal
    have hopen : ∀ {t : Token}, t.IsStop →
        TokenTest.fits "[" t = false ∧ TokenTest.fits "\x7b" t = false := fun ht =>
      ⟨TokenTest.IsInner.fits_eq_false (by decide) ht,
        TokenTest.IsInner.fits_eq_false (by decide) ht⟩
    simp only [scalarKind?_of_isStop ht, scalarKind?_of_isStop ht', hopen ht, hopen ht',
      Bool.false_eq_true, if_false]
    exact agree_pure fun l hl => absurd hl (by simp)

theorem agree_literalWithin (hstops : Upcoming.Stops tail) (p : ScalarKind → String → Prop) :
    ∀ (depth depth' : Nat) (tokens : List Token), tokens.length < depth →
      tokens.length < depth' →
      Agree tail tokens (literalWithin depth) (literalWithin depth') (LiteralRead p tokens)
        fun _ _ => False := by
  intro depth
  induction depth with
  | zero => exact fun _ _ h => absurd h (Nat.not_lt_zero _)
  | succ depth ih =>
      intro depth' tokens hdepth hdepth'
      obtain ⟨depth', rfl⟩ : ∃ k, depth' = k + 1 := ⟨depth' - 1, by omega⟩
      exact agree_literalWith hstops fun left hleft => ih depth' left (by omega) (by omega)

/-- **A literal is read alike** on a source and on the source cut off, and never meets a
mismatch. -/
theorem agree_literal (hstops : Upcoming.Stops tail) (p : ScalarKind → String → Prop)
    (tokens : List Token) :
    Agree tail tokens literal literal (LiteralRead p tokens) fun _ _ => False :=
  agree_size_bind fun n n' hn hn' => agree_literalWithin hstops p (n + 1) (n' + 1) tokens
    (Nat.lt_succ_of_le hn) (Nat.lt_succ_of_le hn')

theorem local_literal (hstops : Upcoming.Stops tail) : Local tail literal :=
  fun tokens => (agree_literal hstops (fun _ _ => True) tokens).weaken (fun _ _ _ _ => trivial)
    fun _ _ _ _ => trivial

end Rule

end DocComments
