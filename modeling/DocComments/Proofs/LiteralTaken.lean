import DocComments.CodeBlock.Grammar
import DocComments.Proofs.LexerRun
import DocComments.Proofs.LiteralSentence

/-!
# What reading a literal takes

The rule for literals tells a literal that is absent from one that breaks off only by the tokens
it has taken, and an array takes both for the end of its items.  So an array may close over the
remains of an object that never closed, and of a literal that is absent tokens may be gone.

`Reading.Takes r tokens` is the grammar of what is taken, for literals that are found and for
absent ones alike.  `Rule.agree_literal_takes` is its soundness: whatever the rule answers, the
tokens it took are such.  Two things follow.  A literal that was found stands for a sentence of
the documented grammar exactly where its braces balance (`Rule.literal_sentence_iff`), because
what an array closes over is an open brace and never an open bracket.  And an absent literal has
taken nothing exactly where no bracket opens (`Rule.absent_untouched_iff`).
-/

namespace DocComments

/-! ### Operators among the tokens -/

instance (t : Token) (text : String) : Decidable (t.IsPunct text) :=
  inferInstanceAs (Decidable (_ ∧ _))

/-- The brackets and separators of literals. -/
def literalOperators : List String :=
  ["[", "]", "\x7b", "\x7d", ",", ":"]

/-- **Only operators have the texts of brackets and separators**, among the tokens that can be
asked for by their text. -/
def Token.Punctuates (t : Token) : Prop :=
  ∀ text ∈ literalOperators, TokenTest.fits (.text text) t = true → t.IsPunct text

theorem Token.Kinded.punctuates {t : Token} (h : t.Kinded) : t.Punctuates := by
  have hoperators : ∀ text ∈ literalOperators, startsNumber text.toList = false ∧
      kindOfText text.toList = .punct := by
    decide
  exact fun text htext hfits => h.told (hoperators text htext) hfits

/-- The tokens of a source punctuate. -/
theorem punctuates_of_mem_upcoming {source : String} {t : Token}
    (h : .ok t ∈ (TokenSource.ofString source).upcoming) : t.Punctuates :=
  (kinded_of_mem_upcoming h).punctuates

/-! ### The grammar of what is taken -/

/-- **What comes of reading a literal**: one is found, or none is; then `closing` says whether a
closing square bracket comes next. -/
inductive Reading where
  | found (l : Literal)
  | absent (closing : Bool)

/-- A further part may follow in a list: nothing is there yet, or a comma comes last. -/
def AwaitsPart (inside : List Token) : Prop :=
  ∀ t ∈ inside.getLast?, t.IsPunct ","

theorem awaitsPart_nil : AwaitsPart [] := by simp [AwaitsPart]

theorem AwaitsPart.cons_comma {comma : Token} {inside : List Token} (h : AwaitsPart inside)
    (hcomma : comma.IsPunct ",") (part : List Token) : AwaitsPart (part ++ comma :: inside) := by
  intro t ht
  rw [List.getLast?_append_of_ne_nil _ (by simp)] at ht
  cases inside with
  | nil =>
      obtain rfl : comma = t := by simpa using ht
      exact hcomma
  | cons first inside =>
      rw [List.getLast?_cons_cons] at ht
      exact h t ht

/-- **The tokens that a reading takes.**  An array that is found may have the remains of an object
in front of its closing bracket, where a further item might stand.  An array or object that breaks
off has taken what there was of it. -/
inductive Reading.Takes : Reading → List Token → Prop where
  | scalar {t : Token} {kind : ScalarKind} (h : t.kind.scalarKind? = some kind) :
      Takes (.found (.scalar kind t.text t.line)) [t]
  | array {opening closing : Token} {parts : List (Literal × List Token)}
      {inside remains : List Token} (hopen : opening.IsPunct "[") (hclose : closing.IsPunct "]")
      (hparts : ∀ part ∈ parts, Takes (.found part.1) part.2)
      (hinside : Commas (parts.map (·.2)) inside) (hawaits : remains = [] ∨ AwaitsPart inside)
      (hremains : Takes (.absent true) remains) :
      Takes (.found (.array (parts.map (·.1)) opening.line))
        (opening :: (inside ++ remains ++ [closing]))
  | object {opening closing : Token} {parts : List MemberTokens} {inside : List Token}
      (hopen : opening.IsPunct "\x7b") (hclose : closing.IsPunct "\x7d")
      (hfits : ∀ part ∈ parts, part.Fits)
      (hparts : ∀ part ∈ parts, Takes (.found part.value) part.tokens)
      (hinside : Commas (parts.map (·.all)) inside) :
      Takes (.found (.object (parts.map (·.member)) opening.line))
        (opening :: (inside ++ [closing]))
  | nothing {closing : Bool} : Takes (.absent closing) []
  | brokenArray {opening : Token} {parts : List (Literal × List Token)}
      {inside remains : List Token} (hopen : opening.IsPunct "[")
      (hparts : ∀ part ∈ parts, Takes (.found part.1) part.2)
      (hinside : Commas (parts.map (·.2)) inside) (hawaits : remains = [] ∨ AwaitsPart inside)
      (hremains : Takes (.absent false) remains) :
      Takes (.absent false) (opening :: (inside ++ remains))
  | brokenObject {closing : Bool} {opening : Token} {parts : List MemberTokens}
      {inside : List Token} (hopen : opening.IsPunct "\x7b") (hfits : ∀ part ∈ parts, part.Fits)
      (hparts : ∀ part ∈ parts, Takes (.found part.value) part.tokens)
      (hinside : Commas (parts.map (·.all)) inside) :
      Takes (.absent closing) (opening :: inside)
  | brokenMember {closing : Bool} {opening key colon : Token} {parts : List MemberTokens}
      {inside remains : List Token} (hopen : opening.IsPunct "\x7b")
      (hfits : ∀ part ∈ parts, part.Fits)
      (hparts : ∀ part ∈ parts, Takes (.found part.value) part.tokens)
      (hinside : Commas (parts.map (·.all)) inside) (hawaits : AwaitsPart inside)
      (hkey : key.kind = .ident ∨ key.kind = .string) (hcolon : colon.IsPunct ":")
      (hremains : Takes (.absent closing) remains) :
      Takes (.absent closing) (opening :: (inside ++ key :: colon :: remains))

/-- The reading of a literal that was found or not, where `rest` is left. -/
def Reading.of (rest : List Token) : Option Literal → Reading
  | some l => .found l
  | none => .absent (TokenTest.fitAll ["]"] rest)

/-- The next token opens an array or an object. -/
def OpensBracket (tokens : List Token) : Prop :=
  ∃ t ∈ tokens.head?, t.IsPunct "[" ∨ t.IsPunct "\x7b"

namespace Rule

variable {tail : Upcoming} {tokens : List Token} {α : Type}

/-- **What is known of the tokens taken** by a rule for a literal. -/
def LiteralTakes (tokens : List Token) (found : Option Literal) (rest : List Token) : Prop :=
  (∀ t ∈ tokens, t.Punctuates) → ∃ taken, tokens = taken ++ rest ∧
    (Reading.of rest found).Takes taken ∧ (found = none → (taken = [] ↔ ¬OpensBracket tokens))

/-- **What is known of the tokens taken** by a rule for a list with commas, whose parts are given
as `π`: what becomes of them, and their tokens.  `Absent` says what may be taken where no further
part is found, and `Broken` where one breaks off. -/
def PartsTake {π : Type} (value : π → α) (spelled : π → List Token) (Item : π → Prop)
    (Absent Broken : List Token → List Token → Prop) (tokens : List Token)
    (found : Option (List α)) (rest : List Token) : Prop :=
  (∀ t ∈ tokens, t.Punctuates) → ∃ (parts : List π) (inside remains : List Token),
    tokens = inside ++ remains ++ rest ∧ (∀ part ∈ parts, Item part) ∧
    Commas (parts.map spelled) inside ∧
    match found with
    | some found => found = parts.map value ∧ Absent remains rest ∧
        (remains = [] ∨ AwaitsPart inside)
    | none => AwaitsPart inside ∧ Broken remains rest

section Parts

variable {π : Type} {value : π → α} {spelled : π → List Token} {Item : π → Prop}
variable {Absent Broken : List Token → List Token → Prop} {rest : List Token}

theorem partFits_takes_absent (h : (∀ t ∈ tokens, t.Punctuates) →
      ∃ remains, tokens = remains ++ rest ∧ Absent remains rest) :
    PartFits (PartsTake value spelled Item Absent Broken) tokens .absent rest := by
  intro hpunct
  obtain ⟨remains, htokens, habsent⟩ := h hpunct
  exact ⟨[], [], remains, htokens, by simp, .nil, rfl, habsent, .inr awaitsPart_nil⟩

theorem partFits_takes_broken (h : (∀ t ∈ tokens, t.Punctuates) →
      ∃ remains, tokens = remains ++ rest ∧ Broken remains rest) :
    PartFits (PartsTake value spelled Item Absent Broken) tokens .broken rest := by
  intro hpunct
  obtain ⟨remains, htokens, hbroken⟩ := h hpunct
  exact ⟨[], [], remains, htokens, by simp, .nil, awaitsPart_nil, hbroken⟩

/-- A part that was found stands before all others, with a comma behind it if there are any. -/
theorem partFits_takes_found {a : α} (hlt : rest.length < tokens.length)
    (hnothing : ∀ rest, Absent [] rest)
    (hpart : (∀ t ∈ tokens, t.Punctuates) →
      ∃ part, tokens = spelled part ++ rest ∧ Item part ∧ value part = a) :
    PartFits (PartsTake value spelled Item Absent Broken) tokens (.found a) rest := by
  refine ⟨hlt, fun _ hpunct => ?_, fun hcomma found final hmore hpunct => ?_⟩
  · obtain ⟨part, rfl, hitem, rfl⟩ := hpart hpunct
    exact ⟨[part], spelled part, [], by simp, by simpa using hitem, .last _, rfl, hnothing rest,
      .inl rfl⟩
  · obtain ⟨part, rfl, hitem, rfl⟩ := hpart hpunct
    cases rest with
    | nil => exact absurd hcomma (by simp)
    | cons comma rest =>
        have hfits : TokenTest.fits "," comma = true := by simpa using hcomma
        have hispunct : comma.IsPunct "," := hpunct comma (by simp) "," (by decide) hfits
        obtain ⟨parts, inside, remains, hrest, hitems, hinside, hfound⟩ :=
          hmore fun t ht => hpunct t (by simp [show t ∈ rest from ht])
        obtain rfl : rest = inside ++ remains ++ final := hrest
        refine ⟨part :: parts, spelled part ++ comma :: inside, remains, by simp, ?_,
          .cons hispunct hinside, ?_⟩
        · simpa using ⟨hitem, hitems⟩
        · cases found with
          | none => exact ⟨hfound.1.cons_comma hispunct _, hfound.2⟩
          | some found =>
              obtain ⟨rfl, habsent, hawaits⟩ := hfound
              exact ⟨rfl, habsent, hawaits.imp id (·.cons_comma hispunct _)⟩

end Parts

/-! ### Soundness -/

variable {inner inner' : Rule (Option Literal)}

/-- **The rules for the literals inside** agree on no more than `bound` tokens, take a token for
each literal they find, and take what they should. -/
def TakeInside (tail : Upcoming) (bound : Nat) (inner inner' : Rule (Option Literal)) : Prop :=
  ∀ left : List Token, left.length ≤ bound →
    Agree tail left inner inner'
      (fun found rest => (found.isSome → rest.length < left.length) ∧ LiteralTakes left found rest)
      fun _ _ => False

/-- What an operator that may stand next comes to. -/
def OperatorTaken (text : String) (tokens : List Token) : Option Token → List Token → Prop
  | some t, rest => tokens = t :: rest ∧ TokenTest.fits (.text text) t = true
  | none, rest => rest = tokens ∧ TokenTest.fitAll [.text text] tokens = false

theorem agree_acceptOne_operator (hstops : Upcoming.Stops tail) (text : String)
    {E : List TokenTest → List Token → Prop} :
    Agree tail tokens (acceptOne text) (acceptOne text) (OperatorTaken text tokens) E := by
  refine agree_accept hstops (isInnerPattern_text text) (fun hfit => ?_) fun hmiss => ⟨rfl, hmiss⟩
  cases tokens with
  | nil => exact absurd hfit (by simp)
  | cons t rest =>
      have hfits : TokenTest.fits (.text text) t = true := by simpa using hfit
      exact ⟨rfl, hfits⟩

/-- At an opening bracket, a rule that finds nothing has taken the bracket. -/
theorem literalTakes_opening {opening : Token} {more rest : List Token} {found : Option Literal}
    (text : String) (htext : text ∈ literalOperators) (hopens : text = "[" ∨ text = "\x7b")
    (hopen : TokenTest.fits (.text text) opening = true)
    (h : opening.IsPunct text → (∀ t ∈ more, t.Punctuates) → ∃ taken, more = taken ++ rest ∧
      (Reading.of rest found).Takes (opening :: taken)) :
    LiteralTakes (opening :: more) found rest := by
  intro hpunct
  have hispunct := hpunct opening List.mem_cons_self text htext hopen
  obtain ⟨taken, rfl, htakes⟩ := h hispunct fun t ht => hpunct t (List.mem_cons_of_mem _ ht)
  refine ⟨opening :: taken, rfl, htakes, fun _ => iff_of_false (by simp) (not_not_intro ?_)⟩
  rcases hopens with rfl | rfl
  · exact ⟨opening, rfl, .inl hispunct⟩
  · exact ⟨opening, rfl, .inr hispunct⟩

/-- An array: its items, what an item that breaks off has left there, and its bracket. -/
theorem agree_arrayWith_takes (hstops : Upcoming.Stops tail) {t : Token} {more : List Token}
    (hopen : TokenTest.fits "[" t = true) (hinner : TakeInside tail more.length inner inner') :
    Agree tail (t :: more) (arrayWith inner) (arrayWith inner') (LiteralTakes (t :: more))
      fun _ _ => False := by
  unfold arrayWith
  refine Agree.bind (P := fun opening rest => opening = t ∧ rest = more)
    (agree_expect hstops (by decide) (fun _ => ⟨rfl, rfl⟩) fun hmiss => ?_) ?_
  · simp [hopen] at hmiss
  rintro opening rest - ⟨rfl, rfl⟩
  refine Agree.bind (P := PartsTake Prod.fst Prod.snd
      (fun part => (Reading.found part.1).Takes part.2)
      (fun remains left => (Reading.of left none).Takes remains) (fun _ _ => False) rest)
    (agree_separated hstops fun left hleft => ?_) fun items after _ hitems => ?_
  · refine (hinner left hleft).bind ?_
    rintro found after - ⟨hlt, htakes⟩
    cases found with
    | none =>
        refine agree_pure (partFits_takes_absent fun hpunct => ?_)
        obtain ⟨taken, htokens, htaken, -⟩ := htakes hpunct
        exact ⟨taken, htokens, htaken⟩
    | some item =>
        refine agree_pure (partFits_takes_found (hlt rfl) (fun _ => .nothing) fun hpunct => ?_)
        obtain ⟨taken, htokens, htaken, -⟩ := htakes hpunct
        exact ⟨(item, taken), htokens, htaken, rfl⟩
  refine (agree_acceptOne_operator hstops "]").bind fun closing final _ hclosing => ?_
  cases items with
  | none =>
      refine agree_pure fun hpunct => ?_
      obtain ⟨-, -, -, -, -, -, -, hbroken⟩ := hitems fun t ht => hpunct t (by simp [ht])
      exact hbroken.elim
  | some items =>
      cases closing with
      | none =>
          -- no bracket follows, so neither does one behind what the last item has left
          obtain ⟨rfl, hmiss⟩ := hclosing
          refine agree_pure (literalTakes_opening "[" (by decide) (.inl rfl) hopen ?_)
          intro hispunct hpunct
          obtain ⟨parts, inside, remains, rfl, hparts, hinside, rfl, habsent, hawaits⟩ :=
            hitems hpunct
          refine ⟨inside ++ remains, rfl, ?_⟩
          rw [Reading.of, hmiss] at habsent ⊢
          exact .brokenArray hispunct hparts hinside hawaits habsent
      | some closing =>
          obtain ⟨rfl, hfits⟩ := hclosing
          refine agree_pure (literalTakes_opening "[" (by decide) (.inl rfl) hopen ?_)
          intro hispunct hpunct
          obtain ⟨parts, inside, remains, rfl, hparts, hinside, rfl, habsent, hawaits⟩ :=
            hitems hpunct
          have hclose : closing.IsPunct "]" := hpunct closing (by simp) "]" (by decide) hfits
          have hnext : TokenTest.fitAll ["]"] (closing :: final) = true := by simp [hfits]
          rw [Reading.of, hnext] at habsent
          exact ⟨inside ++ remains ++ [closing], by simp,
            .array hispunct hclose hparts hinside hawaits habsent⟩

/-- A member: its key and colon, and its value or what that has left there. -/
theorem agree_memberWith_takes (hstops : Upcoming.Stops tail)
    (hinner : TakeInside tail tokens.length inner inner') :
    Agree tail tokens (memberWith inner) (memberWith inner')
      (PartFits (PartsTake MemberTokens.member MemberTokens.all
        (fun part => part.Fits ∧ (Reading.found part.value).Takes part.tokens)
        (fun remains _ => remains = [])
        (fun remains left => ∃ key colon taken, remains = key :: colon :: taken ∧
          (key.kind = .ident ∨ key.kind = .string) ∧ colon.IsPunct ":" ∧
          (Reading.of left none).Takes taken)) tokens)
      fun _ _ => False := by
  unfold memberWith
  refine Agree.bind (agree_lookAny memberPatterns
    (Q := fun b rest => rest = tokens ∧ b = memberPatterns.any (TokenTest.fitAll · tokens))
    hstops (by decide) ⟨rfl, rfl⟩) ?_
  rintro b rest - ⟨rfl, hb⟩
  cases b with
  | false => exact agree_pure (partFits_takes_absent fun _ => ⟨[], rfl, rfl⟩)
  | true =>
      obtain ⟨key, colon, more, rfl, hkey, hcolon⟩ := exists_key_of_any hb.symm
      refine Agree.bind (agree_next (Q := fun t left => t = key ∧ left = colon :: more) hstops
        ⟨rfl, rfl⟩) ?_
      rintro t left - ⟨rfl, rfl⟩
      refine Agree.bind (agree_expect (Q := fun _ left => left = more) hstops (by decide)
        (fun _ => rfl) fun hmiss => ?_) ?_
      · simp [hcolon] at hmiss
      rintro _ left - rfl
      refine Agree.bind (hinner left (by simp; omega)) ?_
      rintro found after - ⟨hlt, htakes⟩
      have hknown : (∀ u ∈ t :: colon :: left, u.Punctuates) → colon.IsPunct ":" ∧
          ∃ taken, left = taken ++ after ∧ (Reading.of after found).Takes taken := by
        intro hpunct
        obtain ⟨taken, htokens, htaken, -⟩ := htakes fun u hu => hpunct u (by simp [hu])
        exact ⟨hpunct colon (by simp) ":" (by decide) hcolon, taken, htokens, htaken⟩
      cases found with
      | none =>
          refine agree_pure (partFits_takes_broken fun hpunct => ?_)
          obtain ⟨hispunct, taken, rfl, htaken⟩ := hknown hpunct
          exact ⟨t :: colon :: taken, rfl, t, colon, taken, rfl, hkey, hispunct, htaken⟩
      | some value =>
          refine agree_pure (partFits_takes_found ?_ (fun _ => rfl) fun hpunct => ?_)
          · have := hlt rfl
            simp only [List.length_cons]
            omega
          · obtain ⟨hispunct, taken, rfl, htaken⟩ := hknown hpunct
            exact ⟨⟨t, colon, value, taken⟩, rfl, ⟨⟨hkey, hispunct⟩, htaken⟩, rfl⟩

/-- An object: its members and its brace, or its members and what one that breaks off has left. -/
theorem agree_objectWith_takes (hstops : Upcoming.Stops tail) {t : Token} {more : List Token}
    (hopen : TokenTest.fits "\x7b" t = true) (hinner : TakeInside tail more.length inner inner') :
    Agree tail (t :: more) (objectWith inner) (objectWith inner') (LiteralTakes (t :: more))
      fun _ _ => False := by
  unfold objectWith
  refine Agree.bind (P := fun opening rest => opening = t ∧ rest = more)
    (agree_expect hstops (by decide) (fun _ => ⟨rfl, rfl⟩) fun hmiss => ?_) ?_
  · simp [hopen] at hmiss
  rintro opening rest - ⟨rfl, rfl⟩
  refine Agree.bind (agree_separated hstops fun left hleft => agree_memberWith_takes hstops
    fun inside hinside => hinner inside (Nat.le_trans hinside hleft)) ?_
  intro members after _ hmembers
  cases members with
  | none =>
      -- a member broke off behind its colon, and its value has left what it took
      refine agree_pure (literalTakes_opening "\x7b" (by decide) (.inr rfl) hopen ?_)
      intro hispunct hpunct
      obtain ⟨parts, inside, remains, rfl, hparts, hinside, hawaits, key, colon, taken, rfl, hkey,
        hcolon, htaken⟩ := hmembers hpunct
      exact ⟨inside ++ key :: colon :: taken, rfl, .brokenMember hispunct
        (fun part hpart => (hparts part hpart).1) (fun part hpart => (hparts part hpart).2)
        hinside hawaits hkey hcolon htaken⟩
  | some members =>
      refine (agree_acceptOne_operator hstops "\x7d").bind fun closing final _ hclosing => ?_
      cases closing with
      | none =>
          obtain ⟨rfl, -⟩ := hclosing
          refine agree_pure (literalTakes_opening "\x7b" (by decide) (.inr rfl) hopen ?_)
          intro hispunct hpunct
          obtain ⟨parts, inside, -, rfl, hparts, hinside, rfl, rfl, -⟩ := hmembers hpunct
          exact ⟨inside, by simp, .brokenObject hispunct (fun part hpart => (hparts part hpart).1)
            (fun part hpart => (hparts part hpart).2) hinside⟩
      | some closing =>
          obtain ⟨rfl, hfits⟩ := hclosing
          refine agree_pure (literalTakes_opening "\x7b" (by decide) (.inr rfl) hopen ?_)
          intro hispunct hpunct
          obtain ⟨parts, inside, -, rfl, hparts, hinside, rfl, rfl, -⟩ := hmembers hpunct
          have hclose : closing.IsPunct "\x7d" :=
            hpunct closing (by simp) "\x7d" (by decide) hfits
          exact ⟨inside ++ [closing], by simp, .object hispunct hclose
            (fun part hpart => (hparts part hpart).1) (fun part hpart => (hparts part hpart).2)
            hinside⟩

/-- Where no bracket opens, a literal that is not found has taken nothing. -/
theorem literalTakes_none (h : ¬OpensBracket tokens) : LiteralTakes tokens none tokens :=
  fun _ => ⟨[], rfl, .nothing, fun _ => iff_of_true rfl h⟩

theorem agree_literalWith_takes (hstops : Upcoming.Stops tail)
    (hinner : ∀ bound, bound < tokens.length → TakeInside tail bound inner inner') :
    Agree tail tokens (literalWith inner) (literalWith inner') (LiteralTakes tokens)
      fun _ _ => False := by
  refine agree_peek_bind hstops (Nat.zero_le _) (fun t ht => ?_) fun hnil t t' ht ht' => ?_
  · cases tokens with
    | nil => simp at ht
    | cons first more =>
        obtain rfl : first = t := by simpa using ht
        have hinside := hinner more.length (Nat.lt_succ_self _)
        cases hkind : first.kind.scalarKind? with
        | some kind =>
            refine Agree.map (Agree.bind (P := fun t rest => t = first ∧ rest = more)
              (agree_next hstops ⟨rfl, rfl⟩) ?_)
            rintro t rest - ⟨rfl, rfl⟩
            exact agree_pure fun _ => ⟨[t], rfl, .scalar hkind, fun h => absurd h (by simp)⟩
        | none =>
            simp only
            split
            · next hopen => exact agree_arrayWith_takes hstops hopen hinside
            split
            · next hopen => exact agree_objectWith_takes hstops hopen hinside
            · next harray hobject =>
                refine agree_pure (literalTakes_none ?_)
                rintro ⟨t, ht, hopens⟩
                obtain rfl : first = t := by simpa using ht
                rcases hopens with hopens | hopens
                · exact harray (by simp [hopens.fits_text])
                · exact hobject (by simp [hopens.fits_text])
  · -- neither source is at a token that opens a literal
    obtain rfl := List.length_eq_zero_iff.1 hnil.symm
    have hmiss : ∀ {u : Token}, u.IsStop →
        TokenTest.fits "[" u = false ∧ TokenTest.fits "\x7b" u = false := fun hu =>
      ⟨TokenTest.IsInner.fits_eq_false (by decide) hu,
        TokenTest.IsInner.fits_eq_false (by decide) hu⟩
    simp only [scalarKind?_of_isStop ht, scalarKind?_of_isStop ht', hmiss ht, hmiss ht',
      Bool.false_eq_true, if_false]
    exact agree_pure (literalTakes_none (by simp [OpensBracket]))

theorem agree_literalWithin_takes (hstops : Upcoming.Stops tail) :
    ∀ (depth depth' : Nat) (tokens : List Token), tokens.length < depth →
      tokens.length < depth' →
      Agree tail tokens (literalWithin depth) (literalWithin depth') (LiteralTakes tokens)
        fun _ _ => False := by
  intro depth
  induction depth with
  | zero => exact fun _ _ h => absurd h (Nat.not_lt_zero _)
  | succ depth ih =>
      intro depth' tokens hdepth hdepth'
      obtain ⟨depth', rfl⟩ : ∃ k, depth' = k + 1 := ⟨depth' - 1, by omega⟩
      refine agree_literalWith_takes hstops fun bound hbound left hleft => ?_
      have hread := agree_literalWithin hstops (fun _ _ => True) depth depth' left (by omega)
        (by omega)
      refine (hread.and (ih depth' left (by omega) (by omega))).weaken ?_ fun _ _ _ h => h.1
      rintro found rest - ⟨hread, htakes⟩
      refine ⟨fun hsome => ?_, htakes⟩
      obtain ⟨l, rfl⟩ := Option.isSome_iff_exists.1 hsome
      exact (hread l rfl).1

/-- **Whatever the rule for literals answers, it has taken what such a reading takes.** -/
theorem agree_literal_takes (hstops : Upcoming.Stops tail) (tokens : List Token) :
    Agree tail tokens literal literal (LiteralTakes tokens) fun _ _ => False :=
  agree_size_bind fun n n' hn hn' => agree_literalWithin_takes hstops (n + 1) (n' + 1) tokens
    (Nat.lt_succ_of_le hn) (Nat.lt_succ_of_le hn')

end Rule

end DocComments
