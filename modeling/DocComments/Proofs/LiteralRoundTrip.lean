import DocComments.Literal.Source
import DocComments.Proofs.LiteralSentence
import DocComments.Proofs.Relexing
import Mathlib.Data.List.Forall2

/-!
# Rendering a literal and reading it again

A literal that was read can be rendered and read again: the text has exactly the tokens of the
literal (`Literal.contents`), these are a sentence of an equal literal, and the rule answers with
that.  The two halves meet in the tokens.  `lexes_render` goes from the text to them and uses that
each scalar spells itself where a regular expression may start; `exists_sentence` goes from them to
the literal and uses nothing of the sort.

That every scalar of a literal that was read spells itself is what `Rule.agree_literal` provides:
the literal is made of tokens of a source, and each of those was found somewhere.

Lines are not part of what a rendering says, so literals are compared by `Literal.bare`, which
forgets them.
-/

namespace DocComments

open Text

/-! ### Literals without their lines -/

namespace Literal

mutual

/-- The literal with all lines forgotten. -/
def bare : Literal → Literal
  | scalar kind text _ => scalar kind text 0
  | array items _ => array (bareItems items) 0
  | object members _ => object (bareMembers members) 0

/-- The items of an array with all lines forgotten. -/
def bareItems : List Literal → List Literal
  | [] => []
  | a :: more => bare a :: bareItems more

/-- The members of an object with all lines forgotten. -/
def bareMembers : List (Literal × Literal) → List (Literal × Literal)
  | [] => []
  | (k, a) :: more => (bare k, bare a) :: bareMembers more

end

mutual

/-- **Two literals have the same value** exactly where nothing but their lines differs. -/
theorem same_iff : ∀ a b : Literal, same a b = true ↔ bare a = bare b
  | scalar k s _, scalar k' s' _ => by simp [same, bare]
  | array as _, array bs _ => by simp [same, bare, sameItems_iff as bs]
  | object as _, object bs _ => by simp [same, bare, sameMembers_iff as bs]
  | scalar _ _ _, array _ _ => by simp [same, bare]
  | scalar _ _ _, object _ _ => by simp [same, bare]
  | array _ _, scalar _ _ _ => by simp [same, bare]
  | array _ _, object _ _ => by simp [same, bare]
  | object _ _, scalar _ _ _ => by simp [same, bare]
  | object _ _, array _ _ => by simp [same, bare]

theorem sameItems_iff : ∀ as bs : List Literal, sameItems as bs = true ↔ bareItems as = bareItems bs
  | [], [] => by simp [sameItems, bareItems]
  | [], b :: bs => by simp [sameItems, bareItems]
  | a :: as, [] => by simp [sameItems, bareItems]
  | a :: as, b :: bs => by simp [sameItems, bareItems, same_iff a b, sameItems_iff as bs]

theorem sameMembers_iff : ∀ as bs : List (Literal × Literal),
    sameMembers as bs = true ↔ bareMembers as = bareMembers bs
  | [], [] => by simp [sameMembers, bareMembers]
  | [], (_, _) :: bs => by simp [sameMembers, bareMembers]
  | (_, _) :: as, [] => by simp [sameMembers, bareMembers]
  | (k, a) :: as, (k', b) :: bs => by
      simp [sameMembers, bareMembers, same_iff k k', same_iff a b, sameMembers_iff as bs, and_assoc]

end

mutual

/-- The lines do not show in a rendering. -/
theorem render_bare : ∀ a : Literal, render (bare a) = render a
  | scalar kind text _ => by cases kind <;> simp [bare, render]
  | array items _ => by simp [bare, render, renderItems_bare items]
  | object members _ => by simp [bare, render, renderMembers_bare members]

theorem renderItems_bare : ∀ items : List Literal, renderItems (bareItems items) = renderItems items
  | [] => rfl
  | a :: more => by simp [bareItems, renderItems, render_bare a, renderItems_bare more]

theorem renderMembers_bare : ∀ members : List (Literal × Literal),
    renderMembers (bareMembers members) = renderMembers members
  | [] => rfl
  | (k, a) :: more => by
      simp [bareMembers, renderMembers, render_bare k, render_bare a, renderMembers_bare more]

end

theorem render_eq_of_bare_eq {a b : Literal} (h : bare a = bare b) : render a = render b := by
  rw [← render_bare a, h, render_bare b]

end Literal

/-! ### The tokens of a literal -/

/-- The kind of token that a kind of scalar is read from. -/
def ScalarKind.tokenKind : ScalarKind → TokenKind
  | .string => .string
  | .number => .number
  | .regex => .regex
  | .ident => .ident

@[simp] theorem ScalarKind.scalarKind?_tokenKind (kind : ScalarKind) :
    kind.tokenKind.scalarKind? = some kind := by
  cases kind <;> rfl

theorem tokenKind_of_scalarKind? {kind : TokenKind} {scalar : ScalarKind}
    (h : kind.scalarKind? = some scalar) : kind = scalar.tokenKind := by
  cases kind <;> simp [TokenKind.scalarKind?] at h <;> subst h <;> rfl

/-- The content of an operator of one character. -/
def operator (c : Char) : TokenKind × List Char :=
  (.punct, [c])

namespace Literal

mutual

/-- **The contents of the tokens** that a rendering has. -/
def contents : Literal → List (TokenKind × List Char)
  | scalar kind text _ => [(kind.tokenKind, text.toList)]
  | array items _ =>
      operator '[' :: ([operator ','].intercalate (contentsItems items) ++ [operator ']'])
  | object members _ =>
      operator '\x7b' :: ([operator ','].intercalate (contentsMembers members) ++ [operator '\x7d'])

/-- The contents of the tokens of each item. -/
def contentsItems : List Literal → List (List (TokenKind × List Char))
  | [] => []
  | a :: more => contents a :: contentsItems more

/-- The contents of the tokens of each member. -/
def contentsMembers : List (Literal × Literal) → List (List (TokenKind × List Char))
  | [] => []
  | (k, a) :: more => (contents k ++ operator ':' :: contents a) :: contentsMembers more

end

end Literal

/-! #### From the tokens to the literal -/

section Sentences

variable {tokens inside : List Token}

theorem eq_of_content {t : Token} {kind : TokenKind} {text : String}
    (h : t.content = (kind, text.toList)) : t.kind = kind ∧ t.text = text := by
  obtain ⟨hkind, htext⟩ := Prod.mk.inj h
  exact ⟨hkind, String.toList_injective htext⟩

theorem isPunct_of_content {t : Token} {c : Char} (h : t.content = operator c) :
    t.IsPunct (String.ofList [c]) := by
  obtain ⟨hkind, htext⟩ := Prod.mk.inj h
  exact ⟨hkind, by rw [← htext, String.ofList_toList]⟩

/-- Tokens with commas between their contents are groups with commas between them. -/
theorem exists_groups {contents : List (List (TokenKind × List Char))} :
    ∀ inside : List Token, inside.map Token.content = [operator ','].intercalate contents →
      ∃ groups, Commas groups inside ∧
        List.Forall₂ (fun group content => group.map Token.content = content) groups contents := by
  induction contents with
  | nil =>
      intro inside h
      obtain rfl := List.map_eq_nil_iff.1 h
      exact ⟨[], .nil, .nil⟩
  | cons content contents ih =>
      intro inside h
      cases contents with
      | nil =>
          rw [List.intercalate_singleton] at h
          exact ⟨[inside], .last inside, .cons h .nil⟩
      | cons next contents =>
          rw [List.intercalate_cons_cons, List.append_assoc] at h
          obtain ⟨group, behind, rfl, hgroup, hbehind⟩ := List.map_eq_append_iff.1 h
          obtain ⟨comma, more, rfl, hcomma, hmore⟩ := List.map_eq_cons_iff.1 hbehind
          obtain ⟨groups, hcommas, hgroups⟩ := ih more hmore
          exact ⟨group :: groups, .cons (isPunct_of_content hcomma) hcommas, .cons hgroup hgroups⟩

/-- Tokens with the contents of a bracketed list are groups with commas between brackets. -/
theorem exists_bracketed {opening closing : Char}
    {contents : List (List (TokenKind × List Char))}
    (h : tokens.map Token.content =
      operator opening :: ([operator ','].intercalate contents ++ [operator closing])) :
    ∃ first inside last groups, tokens = first :: (inside ++ [last]) ∧
      first.IsPunct (String.ofList [opening]) ∧ last.IsPunct (String.ofList [closing]) ∧
      Commas groups inside ∧
      List.Forall₂ (fun group content => group.map Token.content = content) groups contents := by
  obtain ⟨first, behind, rfl, hfirst, hbehind⟩ := List.map_eq_cons_iff.1 h
  obtain ⟨inside, ends, rfl, hinside, hend⟩ := List.map_eq_append_iff.1 hbehind
  obtain ⟨last, rfl, hlast⟩ := List.map_eq_singleton_iff.1 hend
  obtain ⟨groups, hcommas, hgroups⟩ := exists_groups inside hinside
  exact ⟨first, inside, last, groups, rfl, isPunct_of_content hfirst, isPunct_of_content hlast,
    hcommas, hgroups⟩

open Literal

/-- Some literal, equal up to lines, has the tokens as its sentence. -/
def HasSentence (l : Literal) : Prop :=
  ∀ tokens : List Token, tokens.map Token.content = l.contents →
    ∃ l' : Literal, l'.Sentence tokens ∧ l'.bare = l.bare

theorem exists_item_sentences {items : List Literal} (h : ∀ item ∈ items, HasSentence item) :
    ∀ groups : List (List Token),
      List.Forall₂ (fun group content => group.map Token.content = content) groups
        (contentsItems items) →
      ∃ parts : List (Literal × List Token), parts.map (·.2) = groups ∧
        (∀ part ∈ parts, part.1.Sentence part.2) ∧
        bareItems (parts.map (·.1)) = bareItems items := by
  induction items with
  | nil =>
      intro groups hgroups
      cases hgroups
      exact ⟨[], rfl, by simp, rfl⟩
  | cons item items ih =>
      intro groups hgroups
      cases hgroups with
      | cons hgroup hgroups =>
          obtain ⟨l, hl, hbare⟩ := h item List.mem_cons_self _ hgroup
          obtain ⟨parts, rfl, hparts, hbares⟩ :=
            ih (fun item' hitem' => h item' (List.mem_cons_of_mem item hitem')) _ hgroups
          refine ⟨(l, _) :: parts, rfl, ?_, ?_⟩
          · rintro part (_ | ⟨_, hpart⟩)
            · exact hl
            · exact hparts part hpart
          · rw [List.map_cons, bareItems, bareItems, hbare, hbares]

theorem exists_member_sentences {members : List (Literal × Literal)}
    {p : ScalarKind → String → Prop} (hkey : ∀ m ∈ members, Literal.IsKey p m.1)
    (h : ∀ m ∈ members, HasSentence m.2) :
    ∀ groups : List (List Token),
      List.Forall₂ (fun group content => group.map Token.content = content) groups
        (contentsMembers members) →
      ∃ parts : List MemberTokens, parts.map (·.all) = groups ∧ (∀ part ∈ parts, part.Fits) ∧
        (∀ part ∈ parts, part.value.Sentence part.tokens) ∧
        bareMembers (parts.map (·.member)) = bareMembers members := by
  induction members with
  | nil =>
      intro groups hgroups
      cases hgroups
      exact ⟨[], rfl, by simp, by simp, rfl⟩
  | cons member members ih =>
      intro groups hgroups
      obtain ⟨key, value⟩ := member
      obtain ⟨kind, text, line, rfl, hkind, -⟩ := hkey _ List.mem_cons_self
      cases hgroups with
      | @cons group _ groups _ hgroup hgroups =>
          rw [contents] at hgroup
          obtain ⟨keyToken, behind, rfl, hkeyToken, hbehind⟩ := List.map_eq_cons_iff.1 hgroup
          obtain ⟨colon, tokens, rfl, hcolon, htokens⟩ := List.map_eq_cons_iff.1 hbehind
          obtain ⟨l, hl, hbare⟩ := h _ List.mem_cons_self tokens htokens
          obtain ⟨parts, rfl, hfits, hparts, hbares⟩ :=
            ih (fun m hm => hkey m (List.mem_cons_of_mem _ hm))
              (fun m hm => h m (List.mem_cons_of_mem _ hm)) _ hgroups
          obtain ⟨htokenKind, htext⟩ := eq_of_content hkeyToken
          refine ⟨⟨keyToken, colon, l, tokens⟩ :: parts, rfl, ?_, ?_, ?_⟩
          · rintro part (_ | ⟨_, hpart⟩)
            · refine ⟨?_, isPunct_of_content hcolon⟩
              rcases hkind with rfl | rfl
              · exact .inl htokenKind
              · exact .inr htokenKind
            · exact hfits part hpart
          · rintro part (_ | ⟨_, hpart⟩)
            · exact hl
            · exact hparts part hpart
          · rw [List.map_cons, MemberTokens.member, bareMembers, bareMembers, hbares, bare, bare,
              htext, hbare, htokenKind]
            rcases hkind with rfl | rfl <;> rfl

/-- **Tokens with the contents of a literal are a sentence of it**, up to lines. -/
theorem Literal.BuiltFrom.hasSentence {p : ScalarKind → String → Prop} {l : Literal}
    (h : l.BuiltFrom p) : HasSentence l := by
  induction h with
  | @scalar kind text line _ =>
      intro tokens htokens
      obtain ⟨t, rfl, ht⟩ := List.map_eq_singleton_iff.1 htokens
      obtain ⟨hkind, htext⟩ := eq_of_content ht
      refine ⟨.scalar kind t.text t.line, .scalar (by rw [hkind, kind.scalarKind?_tokenKind]), ?_⟩
      rw [bare, bare, htext]
  | @array items line _ ih =>
      intro tokens htokens
      obtain ⟨opening, inside, closing, groups, rfl, hopen, hclose, hcommas, hgroups⟩ :=
        exists_bracketed htokens
      obtain ⟨parts, rfl, hparts, hbare⟩ := exists_item_sentences ih groups hgroups
      refine ⟨_, .array hopen hclose hparts hcommas, ?_⟩
      rw [bare, bare, hbare]
  | @object members line hkey _ ih =>
      intro tokens htokens
      obtain ⟨opening, inside, closing, groups, rfl, hopen, hclose, hcommas, hgroups⟩ :=
        exists_bracketed htokens
      obtain ⟨parts, rfl, hfits, hparts, hbare⟩ := exists_member_sentences hkey ih groups hgroups
      refine ⟨_, .object hopen hclose hfits hparts hcommas, ?_⟩
      rw [bare, bare, hbare]

end Sentences

/-! #### From the text to the tokens -/

section Texts

variable {allowed : Bool} {rest : List Char} {items : List (TokenKind × List Char)}

/-- The operators in the rendering of a literal. -/
def brackets : List Char :=
  ['[', ']', '\x7b', '\x7d', ',', ':']

/-- They are read alike before any text. -/
theorem punctChars_bracket {c : Char} (hc : c ∈ brackets) (more : List Char) :
    punctChars c more = [c] := by
  have hall : brackets.all (fun c => punctuatorChars.all fun p =>
      decide (p.head? = some c → p = [c])) = true := by
    decide
  cases hfind : punctuatorChars.find? (·.isPrefixOf (c :: more)) with
  | none => exact punctChars_of_find?_eq_none hfind
  | some p =>
      have hmem := List.mem_of_find?_eq_some hfind
      have hfront : p <+: c :: more := by simpa using List.find?_some hfind
      obtain ⟨d, tail, rfl⟩ := List.exists_cons_of_ne_nil (mem_punctuatorChars_ne_nil hmem)
      obtain ⟨rfl, -⟩ := List.cons_prefix_cons.1 hfront
      rw [punctChars_of_find? hfind]
      exact of_decide_eq_true (List.all_eq_true.1 (List.all_eq_true.1 hall d hc) _ hmem) rfl

theorem Lexes.operator {c : Char} (hc : c ∈ brackets)
    (h : Lexes (regexAfter .punct [c]) rest items) :
    Lexes allowed (c :: rest) (operator c :: items) := by
  have hall : brackets.all (fun c => decide
      (isBlank c = false ∧ c ≠ '/' ∧ isNameStart c = false ∧ isDigit c = false ∧ c ≠ '.' ∧
        ¬(c = '"' ∨ c = '\''))) = true := by
    decide
  obtain ⟨hblank, hslash, hname, hdigit, hpoint, hquote⟩ :=
    of_decide_eq_true (List.all_eq_true.1 hall c hc)
  have hread : Lexeme.read allowed c rest = .token .punct [c] 1 := by
    rw [Lexeme.read_punct hname (Lexeme.startsNumber_eq_false hdigit hpoint) hquote
      (fun h => absurd h hslash), punctChars_bracket hc, List.length_singleton]
  exact Lexes.of_read hblank (plainCommentLength_of_ne hslash) hread rfl
    (by rwa [if_neg (by decide)])

/-- **The text has these tokens** wherever a literal may stand: where a regular expression may
start and, behind it, something that separates. -/
def LexesAs (text : List Char) (content : List (TokenKind × List Char)) : Prop :=
  ∀ rest items, Separates rest → Lexes false rest items →
    Lexes true (text ++ rest) (content ++ items)

/-- Several such texts with commas between them, before a closing bracket. -/
theorem lexes_intercalate {texts : List (List Char)}
    {contents : List (List (TokenKind × List Char))} (h : List.Forall₂ LexesAs texts contents)
    (hseparates : Separates rest) (hrest : ∀ allowed, Lexes allowed rest items) :
    Lexes true ([',', ' '].intercalate texts ++ rest)
      ([DocComments.operator ','].intercalate contents ++ items) := by
  induction h with
  | nil => exact hrest true
  | @cons text content texts contents hfirst hmore ih =>
      cases hmore with
      | nil =>
          rw [List.intercalate_singleton, List.intercalate_singleton]
          exact hfirst rest items hseparates (hrest false)
      | @cons text' content' texts contents _ _ =>
          rw [List.intercalate_cons_cons, List.intercalate_cons_cons, List.append_assoc,
            List.append_assoc, List.append_assoc, List.append_assoc]
          -- a comma lets a regular expression start again
          refine hfirst _ _ (separates_cons (by decide) _) ?_
          exact Lexes.operator (by decide) (ih.blank (by decide))

/-- What a scalar must satisfy for its rendering to have its token. -/
def SpellsItself (kind : ScalarKind) (text : String) : Prop :=
  Spells true (printed kind.tokenKind text.toList) kind.tokenKind text.toList

theorem lexesAs_scalar {kind : ScalarKind} {text : String} {line : Int}
    (h : SpellsItself kind text) :
    LexesAs (Literal.scalar kind text line).render.toList
      (Literal.scalar kind text line).contents := by
  intro rest items hseparates hrest
  have hrender : (Literal.scalar kind text line).render.toList =
      printed kind.tokenKind text.toList := by
    cases kind <;> simp [Literal.render, printed, ScalarKind.tokenKind]
  have hafter : regexAfter kind.tokenKind text.toList = false := by cases kind <;> rfl
  rw [hrender, Literal.contents, List.singleton_append]
  exact Lexes.token (hafter ▸ hrest) h (by cases kind <;> decide) hseparates

/-- A bracketed list of parts. -/
theorem lexesAs_bracketed (opening closing : Char) {texts : List String}
    {contents : List (List (TokenKind × List Char))}
    (hopen : opening ∈ brackets) (hclose : closing ∈ brackets)
    (hafter : regexAfter .punct [opening] = true) (hbehind : regexAfter .punct [closing] = false)
    (hseparates : isSeparator closing = true)
    (h : List.Forall₂ LexesAs (texts.map String.toList) contents) :
    LexesAs (bracketed (String.singleton opening) (String.singleton closing) texts).toList
      (operator opening :: ([operator ','].intercalate contents ++ [operator closing])) := by
  intro rest items _ hrest
  have hclosing : ∀ allowed, Lexes allowed (closing :: rest) (operator closing :: items) :=
    fun allowed => Lexes.operator hclose (hbehind ▸ hrest)
  have hinside := lexes_intercalate h (separates_cons hseparates rest) hclosing
  have htext : (bracketed (String.singleton opening) (String.singleton closing) texts).toList =
      opening :: ([',', ' '].intercalate (texts.map String.toList) ++ [closing]) := by
    simp [bracketed, String.toList_intercalate]
  rw [htext]
  simpa using Lexes.operator hopen (hafter ▸ hinside)

theorem forall₂_items {items : List Literal}
    (h : ∀ item ∈ items, LexesAs item.render.toList item.contents) :
    List.Forall₂ LexesAs ((Literal.renderItems items).map String.toList)
      (Literal.contentsItems items) := by
  induction items with
  | nil => exact .nil
  | cons item items ih =>
      exact .cons (h item List.mem_cons_self)
        (ih fun item' hitem' => h item' (List.mem_cons_of_mem item hitem'))

theorem lexesAs_member {key value : Literal} (hkey : Literal.IsKey SpellsItself key)
    (hvalue : LexesAs value.render.toList value.contents) :
    LexesAs (key.render ++ ": " ++ value.render).toList
      (key.contents ++ operator ':' :: value.contents) := by
  obtain ⟨kind, text, line, rfl, -, hspells⟩ := hkey
  intro rest items hseparates hrest
  have hcolon : Lexes false (':' :: ' ' :: (value.render.toList ++ rest))
      (operator ':' :: (value.contents ++ items)) :=
    Lexes.operator (by decide) ((hvalue rest items hseparates hrest).blank (by decide))
  simpa using lexesAs_scalar hspells _ _ (separates_cons (by decide) _) hcolon

theorem forall₂_members {members : List (Literal × Literal)}
    (hkey : ∀ m ∈ members, Literal.IsKey SpellsItself m.1)
    (h : ∀ m ∈ members, LexesAs m.2.render.toList m.2.contents) :
    List.Forall₂ LexesAs ((Literal.renderMembers members).map String.toList)
      (Literal.contentsMembers members) := by
  induction members with
  | nil => exact .nil
  | cons member members ih =>
      obtain ⟨key, value⟩ := member
      exact .cons (lexesAs_member (hkey _ List.mem_cons_self) (h _ List.mem_cons_self))
        (ih (fun m hm => hkey m (List.mem_cons_of_mem _ hm))
          fun m hm => h m (List.mem_cons_of_mem _ hm))

/-- **The rendering of a literal has exactly its tokens.** -/
theorem lexes_render {l : Literal} (h : l.BuiltFrom SpellsItself) :
    LexesAs l.render.toList l.contents := by
  induction h with
  | scalar line hspells => exact lexesAs_scalar hspells
  | array line _ ih =>
      exact lexesAs_bracketed '[' ']' (by decide) (by decide) rfl rfl
        (by decide) (forall₂_items ih)
  | object line hkey _ ih =>
      exact lexesAs_bracketed '\x7b' '\x7d' (by decide) (by decide)
        rfl rfl (by decide) (forall₂_members hkey ih)

end Texts

/-! ### The round trip -/

open TokenSource

/-- The tokens of a source that stand for scalars spell themselves. -/
theorem spellsItself_of_mem_upcoming (source : String) {t : Token} {kind : ScalarKind}
    (h : .ok t ∈ (ofString source).upcoming) (hkind : t.kind.scalarKind? = some kind) :
    SpellsItself kind t.text := by
  obtain ⟨allowed, c, more, width, hblank, hplain, hfound⟩ := found_of_mem_upcoming h
  rw [tokenKind_of_scalarKind? hkind] at hfound
  have hpunct : kind.tokenKind ≠ .punct := by cases kind <;> decide
  have hdoc : kind.tokenKind ≠ .docComment := by cases kind <;> decide
  exact (hfound.of_allowed hpunct).spells hblank hplain hdoc

/-- **A literal that was read is made of scalars that spell themselves.** -/
theorem builtFrom_of_literal {source : String} {l : Literal} {s : TokenSource}
    (h : Rule.literal (ofString source) = .ok (some l) s) : l.BuiltFrom SpellsItself := by
  obtain ⟨tokens, tail, hcut, hstops⟩ := Upcoming.exists_cut (ofString source).upcoming
  have hagree := Rule.agree_literal hstops SpellsItself tokens
    (⟨hcut, upcoming_ofTokens tokens⟩ : CutBefore tail tokens (ofString source) (ofTokens tokens))
  rw [h] at hagree
  generalize Rule.literal (ofTokens tokens) = outcome at hagree
  cases hagree with
  | answer _ _ hread =>
      refine (hread l rfl).2 fun t ht kind hkind =>
        spellsItself_of_mem_upcoming source ?_ hkind
      rw [hcut]
      exact List.mem_append_left tail (List.mem_map_of_mem ht)

/-- The rendering of such a literal is read as an equal one, to its end. -/
theorem literal_render {l : Literal} (h : l.BuiltFrom SpellsItself) :
    ∃ tokens l' s', tokenize l.render = .ok tokens ∧
      Rule.literal (ofString l.render) = .ok (some l') s' ∧ l'.bare = l.bare ∧
      s'.upcoming = [] := by
  -- the rendering lexes to the contents of the literal, and tokens with them are a sentence
  have hlexes := lexes_render h [] [] separates_nil lexes_nil
  rw [List.append_nil, List.append_nil] at hlexes
  obtain ⟨tokens, htokens, hcontents⟩ := hlexes.tokenize
  rw [String.ofList_toList] at htokens
  obtain ⟨l', hsentence, hbare⟩ := h.hasSentence tokens hcontents
  have hread := Rule.takes_literal hsentence []
  rw [List.append_nil] at hread
  obtain ⟨s', hliteral, hnothing⟩ := hread (upcoming_of_tokenize htokens)
  exact ⟨tokens, l', s', htokens, hliteral, hbare, hnothing⟩

/-- **Rendering a literal and reading it again** gives an equal literal and leaves nothing behind;
so the rendering is stable, and it tells any two literals apart that were read and are not equal. -/
theorem literal_render_roundtrip {source : String} {l : Literal} {s : TokenSource}
    (h : Rule.literal (ofString source) = .ok (some l) s) :
    (∃ tokens l' s', tokenize l.render = .ok tokens ∧
      Rule.literal (ofString l.render) = .ok (some l') s' ∧ l'.same l = true ∧
      s'.upcoming = [] ∧ l'.render = l.render) ∧
    ∀ (source₂ : String) (l₂ : Literal) (s₂ : TokenSource),
      Rule.literal (ofString source₂) = .ok (some l₂) s₂ →
      (l.render = l₂.render ↔ l.same l₂ = true) := by
  have hbuilt := builtFrom_of_literal h
  obtain ⟨tokens, l', s', htokens, hread, hbare, hnothing⟩ := literal_render hbuilt
  refine ⟨⟨tokens, l', s', htokens, hread, (Literal.same_iff l' l).2 hbare, hnothing,
    Literal.render_eq_of_bare_eq hbare⟩,
    fun source₂ l₂ s₂ h₂ => ⟨fun hrender => ?_, fun hsame => ?_⟩⟩
  · -- both literals are read again from one text, so as one literal
    obtain ⟨_, l₂', _, _, hread₂, hbare₂, _⟩ := literal_render (builtFrom_of_literal h₂)
    rw [← hrender, hread] at hread₂
    obtain ⟨hfound, -⟩ := EStateM.Result.ok.inj hread₂
    obtain rfl := Option.some.inj hfound
    exact (Literal.same_iff l l₂).2 (hbare.symm.trans hbare₂)
  · exact Literal.render_eq_of_bare_eq ((Literal.same_iff l l₂).1 hsame)

/-- Both quotes, an escaped quote, a regular expression with a quote in it, and commas behind the
last part. -/
theorem literal_render_roundtrip_mixed :
    let source := "['a\"b', \x7bx: /[/]\\/\"/g, 'k': [.5e3, 0x1F,],\x7d, 'it\\'s'] rest 'open"
    let text := "['a\"b', \x7bx: /[/]\\/\"/g, \"k\": [.5e3, 0x1F]\x7d, \"it\\'s\"]"
    ∃ l s, Rule.literal (ofString source) = .ok (some l) s ∧ l.render = text ∧
      (∃ tokens l' s', tokenize l.render = .ok tokens ∧
        Rule.literal (ofString l.render) = .ok (some l') s' ∧ l'.same l = true ∧
        s'.upcoming = [] ∧ l'.render = l.render) ∧
      ∀ (source₂ : String) (l₂ : Literal) (s₂ : TokenSource),
        Rule.literal (ofString source₂) = .ok (some l₂) s₂ →
        (l.render = l₂.render ↔ l.same l₂ = true) := by
  intro source text
  have hread : (Rule.literal.run' (ofString source)).join.map Literal.render = some text := by
    decide +kernel
  obtain ⟨l, hl, hrender⟩ := Option.map_eq_some_iff.1 hread
  have hfound : Rule.literal.run' (ofString source) = some (some l) :=
    Option.join_eq_some_iff.1 hl
  delta EStateM.run' at hfound
  delta EStateM.run at hfound
  cases hrun : Rule.literal (ofString source) with
  | error e s =>
      rw [hrun] at hfound
      cases hfound
  | ok found s =>
      rw [hrun] at hfound
      cases hfound
      exact ⟨l, s, rfl, hrender, literal_render_roundtrip hrun⟩

end DocComments
