import DocComments.Proofs.Relexing

/-!
# Printing tokens and lexing them again

The tokens of a source, doc-comments apart, can be printed with other gaps between them and are
read again as they were.  The gaps are lists of fillers: blanks, comments of the three sorts, and
any number of each.  Doc-comments among the fillers become tokens of their own.

What carries the proof is `InTurn`: each token of a source was found where the token before it
decided whether a regular expression may start, and so it spells itself there (`Spells`).  Fillers
do not change that decision, whatever comments they hold (`Lexes.fillers`).
-/

namespace DocComments

open Text

/-! ### Fillers -/

/-- **What may stand between tokens.** -/
inductive Filler where
  /-- A blank. -/
  | blank (c : Char)
  /-- A line comment with the newline that ends it. -/
  | line (body : List Char)
  /-- A block comment. -/
  | block (body : List Char)
  /-- A doc-comment. -/
  | doc (body : List Char)

namespace Filler

/-- The filler as text. -/
def chars : Filler → List Char
  | blank c => [c]
  | line body => '/' :: '/' :: body ++ ['\n']
  | block body => '/' :: '*' :: body ++ ['*', '/']
  | doc body => '/' :: '*' :: '*' :: body ++ ['*', '/']

/-- **The filler is what it says**: no comment ends early, and no block comment opens like one of
the other sort. -/
def Valid : Filler → Prop
  | blank c => isBlank c = true
  | line body => '\n' ∉ body
  | block body => NoEnd body ∧ body.head? ≠ some '*'
  | doc body => NoEnd body ∧ body.head? ≠ some '/'

instance : (f : Filler) → Decidable f.Valid
  | blank c => inferInstanceAs (Decidable (isBlank c = true))
  | line body => inferInstanceAs (Decidable ('\n' ∉ body))
  | block body => inferInstanceAs (Decidable (NoEnd body ∧ body.head? ≠ some '*'))
  | doc body => inferInstanceAs (Decidable (NoEnd body ∧ body.head? ≠ some '/'))

/-- The text of a doc-comment. -/
def doc? : Filler → Option (List Char)
  | doc body => some body
  | _ => none

end Filler

/-- Several fillers, one after the other. -/
abbrev Fillers := List Filler

/-- The fillers as text. -/
def Fillers.chars (gap : Fillers) : List Char :=
  gap.flatMap Filler.chars

/-- The texts of the doc-comments among the fillers. -/
def Fillers.docs (gap : Fillers) : List (List Char) :=
  gap.filterMap Filler.doc?

/-- Every filler is valid. -/
def Fillers.Valid (gap : Fillers) : Prop :=
  ∀ f ∈ gap, f.Valid

instance (gap : Fillers) : Decidable gap.Valid :=
  inferInstanceAs (Decidable (∀ f ∈ gap, f.Valid))

/-- The first filler is a blank. -/
def Fillers.StartsBlank (gap : Fillers) : Prop :=
  ∃ c more, gap = .blank c :: more

theorem Fillers.separates {gap : Fillers} (hvalid : gap.Valid) (hblank : gap.StartsBlank)
    (rest : List Char) : Separates (gap.chars ++ rest) := by
  obtain ⟨c, more, rfl⟩ := hblank
  exact separates_cons (isSeparator_of_isBlank (hvalid _ List.mem_cons_self)) _

/-- **Fillers leave the tokens behind them alone** and add their doc-comments. -/
theorem Lexes.fillers {allowed : Bool} {rest : List Char} {items : List (TokenKind × List Char)}
    (h : Lexes allowed rest items) {gap : Fillers} (hvalid : gap.Valid) :
    Lexes allowed (gap.chars ++ rest) (gap.docs.map (TokenKind.docComment, ·) ++ items) := by
  induction gap with
  | nil => exact h
  | cons f gap ih =>
      have hmore := ih fun f' hf' => hvalid f' (List.mem_cons_of_mem f hf')
      have hf := hvalid f List.mem_cons_self
      rw [Fillers.chars, List.flatMap_cons, List.append_assoc, ← Fillers.chars]
      cases f with
      | blank c => exact hmore.blank hf
      | line body =>
          -- the newline is no part of the comment that it ends
          rw [Filler.chars, List.append_assoc, List.singleton_append]
          exact (hmore.blank isBlank_newline).comment (.line hf (by simp))
      | block body => exact hmore.comment (.block hf.1 hf.2)
      | doc body =>
          have hdoc := hmore.docComment hf.1 hf.2
          simpa [Filler.chars, Fillers.docs, Filler.doc?] using hdoc

/-! ### Printed tokens -/

/-- **The tokens in turn**: each can be printed where the one before it stands, the first where
`allowed` says whether a regular expression may start. -/
def InTurn (allowed : Bool) : List Token → Prop
  | [] => True
  | t :: more =>
      (t.kind ≠ .docComment ∧
        Spells allowed (printed t.kind t.text.toList) t.kind t.text.toList) ∧
        InTurn (regexAfter t.kind t.text.toList) more

/-- **The tokens of a source come in turn**, doc-comments apart. -/
theorem Lexer.Reads.inTurn {l : Lexer} {tokens : List Token} (h : l.Reads tokens) :
    InTurn (regexMayFollow l.last) (tokens.filter (·.kind ≠ .docComment)) := by
  induction h with
  | finished => trivial
  | blank _ _ _ ih => exact ih
  | comment _ _ _ _ ih => exact ih
  | @token l c more text kind width tokens hrest hblank hplain hread _ ih =>
      by_cases hdoc : kind = .docComment
      · -- a doc-comment does not change what may follow
        subst hdoc
        exact ih
      · rw [List.filter_cons_of_pos (by simpa using hdoc)]
        rw [Lexer.behind, if_neg hdoc, regexMayFollow_some] at ih
        refine ⟨⟨hdoc, ?_⟩, ih⟩
        rw [String.toList_ofList]
        exact (Lexeme.found_of_read hread).spells hblank hplain hdoc

/-- A token with the gap behind it. -/
abbrev Spaced := Token × Fillers

/-- **The tokens with the gaps behind them as text.** -/
def printing (items : List Spaced) : List Char :=
  items.flatMap fun item => printed item.1.kind item.1.text.toList ++ item.2.chars

/-- The gaps are valid and start with a blank; behind the last token there may be none. -/
def WellSpaced : List Spaced → Prop
  | [] => True
  | (_, gap) :: more =>
      gap.Valid ∧ (gap.StartsBlank ∨ (gap = [] ∧ more = [])) ∧ WellSpaced more

/-- What is read again: each token, and behind it the doc-comments of its gap. -/
def reread (items : List Spaced) : List (TokenKind × List Char) :=
  items.flatMap fun item => item.1.content :: item.2.docs.map (TokenKind.docComment, ·)

theorem lexes_printing {allowed : Bool} {items : List Spaced}
    (hturn : InTurn allowed (items.map (·.1))) (hspaced : WellSpaced items) :
    Lexes allowed (printing items) (reread items) := by
  induction items generalizing allowed with
  | nil => exact lexes_nil
  | cons item items ih =>
      obtain ⟨t, gap⟩ := item
      obtain ⟨⟨hkind, hspells⟩, hturn⟩ := hturn
      obtain ⟨hvalid, hgap, hspaced⟩ := hspaced
      have hmore := (ih hturn hspaced).fillers hvalid
      have hseparates : Separates (gap.chars ++ printing items) := by
        rcases hgap with hblank | ⟨rfl, rfl⟩
        · exact gap.separates hvalid hblank _
        · exact separates_nil
      have htoken := hmore.token hspells hkind hseparates
      simpa [printing, reread, Token.content] using htoken

/-! ### Doc-comments and the others apart -/

theorem filter_docs_other (docs : List (List Char)) :
    (docs.map (TokenKind.docComment, ·)).filter (·.1 ≠ .docComment) = [] := by
  rw [List.filter_eq_nil_iff]
  intro item hitem
  obtain ⟨body, -, rfl⟩ := List.mem_map.1 hitem
  simp

theorem filter_docs_doc (docs : List (List Char)) :
    ((docs.map (TokenKind.docComment, ·)).filter (·.1 = .docComment)).map (·.2) = docs := by
  rw [List.filter_eq_self.2]
  · rw [List.map_map]
    exact List.map_id docs
  · intro item hitem
    obtain ⟨body, -, rfl⟩ := List.mem_map.1 hitem
    simp

/-- The tokens that are read again, apart from the doc-comments of the gaps. -/
theorem filter_reread_other {items : List Spaced} (h : ∀ item ∈ items, item.1.kind ≠ .docComment) :
    (reread items).filter (·.1 ≠ .docComment) = items.map (·.1.content) := by
  induction items with
  | nil => rfl
  | cons item items ih =>
      have hitem : item.1.content.1 ≠ .docComment := h item List.mem_cons_self
      rw [reread, List.flatMap_cons, List.cons_append,
        List.filter_cons_of_pos (by simpa using hitem), List.filter_append, filter_docs_other,
        List.nil_append, List.map_cons, ← reread,
        ih fun item' hitem' => h item' (List.mem_cons_of_mem item hitem')]

/-- The doc-comments that are read again. -/
theorem filter_reread_doc {items : List Spaced} (h : ∀ item ∈ items, item.1.kind ≠ .docComment) :
    ((reread items).filter (·.1 = .docComment)).map (·.2) = items.flatMap (·.2.docs) := by
  induction items with
  | nil => rfl
  | cons item items ih =>
      have hitem : item.1.content.1 ≠ .docComment := h item List.mem_cons_self
      rw [reread, List.flatMap_cons, List.cons_append,
        List.filter_cons_of_neg (by simpa using hitem), List.filter_append, List.map_append,
        filter_docs_doc, List.flatMap_cons, ← reread,
        ih fun item' hitem' => h item' (List.mem_cons_of_mem item hitem')]

/-- **Printing the tokens of a source and lexing them again gives them back**, whatever stands
between them, and the doc-comments are those that were put there. -/
theorem tokenize_printing {source : String} {tokens : List Token}
    (h : tokenize source = .ok tokens) {first : Fillers} {items : List Spaced}
    (hitems : items.map (·.1) = tokens.filter (·.kind ≠ .docComment)) (hfirst : first.Valid)
    (hspaced : WellSpaced items) :
    ∃ tokens', tokenize (String.ofList (first.chars ++ printing items)) = .ok tokens' ∧
      (tokens'.filter (·.kind ≠ .docComment)).map Token.content =
        (tokens.filter (·.kind ≠ .docComment)).map Token.content ∧
      (tokens'.filter (·.kind = .docComment)).map (·.text.toList) =
        first.docs ++ items.flatMap (·.2.docs) := by
  have hturn : InTurn true (items.map (·.1)) := by
    rw [hitems]
    exact (Lexer.tokenize_eq_ok_iff.1 h).inTurn
  have hkinds : ∀ item ∈ items, item.1.kind ≠ .docComment := fun item hitem => by
    have hmem := List.mem_map_of_mem (f := (·.1)) hitem
    rw [hitems] at hmem
    simpa using (List.mem_filter.1 hmem).2
  obtain ⟨tokens', htokens', hcontent⟩ := ((lexes_printing hturn hspaced).fillers hfirst).tokenize
  refine ⟨tokens', htokens', ?_, ?_⟩
  · have hfilter := congrArg (List.filter (·.1 ≠ TokenKind.docComment)) hcontent
    rw [List.filter_map, List.filter_append, filter_docs_other, List.nil_append,
      filter_reread_other hkinds] at hfilter
    rw [← hitems, List.map_map]
    exact hfilter
  · have hfilter := congrArg
      (fun items => (List.filter (·.1 = TokenKind.docComment) items).map (·.2)) hcontent
    simp only [List.filter_append, List.map_append, filter_docs_doc,
      filter_reread_doc hkinds] at hfilter
    rw [← hfilter, List.filter_map, List.map_map]
    rfl

/-- A division before a regular expression, with every sort of filler. -/
theorem tokenize_printing_mixed :
    let a : Token := ⟨.ident, "a", 1, 1⟩
    let divide : Token := ⟨.punct, "/", 1, 12⟩
    let regex : Token := ⟨.regex, "/b/", 1, 14⟩
    let tokens : List Token := [a, ⟨.docComment, " c ", 1, 3⟩, divide, regex]
    let first : Fillers := [.doc ['d']]
    let items : List Spaced :=
      [(a, [.blank ' ', .line ['e']]), (divide, [.blank '\n', .block ['/']]),
        (regex, [.blank ' ', .doc []])]
    tokenize "a /** c */ / /b/" = .ok tokens ∧
      items.map (·.1) = tokens.filter (·.kind ≠ .docComment) ∧ first.Valid ∧ WellSpaced items ∧
      ∃ tokens', tokenize (String.ofList (first.chars ++ printing items)) = .ok tokens' ∧
        (tokens'.filter (·.kind ≠ .docComment)).map Token.content =
          (tokens.filter (·.kind ≠ .docComment)).map Token.content ∧
        (tokens'.filter (·.kind = .docComment)).map (·.text.toList) =
          first.docs ++ items.flatMap (·.2.docs) := by
  intro a divide regex tokens first items
  have htokens : tokenize "a /** c */ / /b/" = .ok tokens := by decide +kernel
  have hitems : items.map (·.1) = tokens.filter (·.kind ≠ .docComment) := by decide
  have hfirst : first.Valid := by decide
  have hspaced : WellSpaced items :=
    ⟨by decide, .inl ⟨_, _, rfl⟩, by decide, .inl ⟨_, _, rfl⟩, by decide, .inl ⟨_, _, rfl⟩, trivial⟩
  exact ⟨htokens, hitems, hfirst, hspaced, tokenize_printing htokens hitems hfirst hspaced⟩

end DocComments
