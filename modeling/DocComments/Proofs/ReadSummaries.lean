import DocComments.Proofs.ClassConfiguration
import DocComments.Proofs.Yields

/-!
# What summaries are read from

Every summary that a scan records was put together by the grammars, and this file says how: it is
one of the builders of `Summary`, and in a class definition each field of the configuration is one
of four sorts (`Rule.EntryRead`).  For the sorts that hold a literal it says where in the source the
literal was found (`TokenSource.ReadsField`): behind which word, at a moment of the run.

The word matters because two rules can give the same key.  A field whose word is `alias` is never
read by the rule for other fields, for the rule for names comes first; a field whose word is
`alternateClassNames` always is.

`Rule.yields_codeBlock` says it of the grammar, whatever comes of the run.
-/

namespace DocComments

open TokenSource

/-! ### Fields of configurations -/

/-- **A field was read from the source**: at a moment of the run its key `word` and a colon were to
come, and behind them the rule for literals found `found`. -/
inductive TokenSource.ReadsField (source : TokenSource) (word : String) (found : Option Literal) :
    Prop where
  | mk {u v v' : TokenSource} {name colon : Token} (hmoment : MovesOn source u)
      (hkey : u.upcoming = .ok name :: .ok colon :: v.upcoming)
      (hname : TokenTest.fits word name = true) (hcolon : TokenTest.fits ":" colon = true)
      (hvalue : Rule.literal v = .ok found v') : ReadsField source word found

namespace Rule

/-- The words of the fields that list names, and the keys under which the names are kept. -/
def namesWords : List (String × String) :=
  [("alternateClassName", "alternateClassNames"), ("alias", "alias")]

/-- **What a field of a configuration is kept as**, and where its literal was read. -/
inductive EntryRead (source : TokenSource) : String × Value → Prop where
  | extend (s : String) : EntryRead source ("extend", .text s)
  | mixins {l : Literal} (h : source.ReadsField "mixins" (some l)) :
      EntryRead source ("mixins", .list (memberContents l))
  | names {word key : String} {found : Option Literal} (hword : (word, key) ∈ namesWords)
      (h : source.ReadsField word found) : EntryRead source (key, .list (namesOfLiteral found))
  | other {key : String} {l : Literal} (hkey : ∀ e ∈ namesWords, key ≠ e.1)
      (h : source.ReadsField key (some l)) : EntryRead source (key, .literal l)

end Rule

/-! ### Summaries -/

namespace Summary

/-- **The value of an assignment** is a function, the extension of a class or a literal. -/
inductive IsValue : Summary → Prop where
  | function (name : Option String) (params : List String) : IsValue (.function name params)
  | extension (base : List String) : IsValue (.extension base)
  | literal (l : Literal) : IsValue (.literal l)

/-- **The summary was read from the source.** -/
inductive ReadFrom (source : TokenSource) : Summary → Prop where
  | unrecognised : ReadFrom source .unrecognised
  | function (name : Option String) (params : List String) : ReadFrom source (.function name params)
  | assignment (left : List String) {right : Option Summary} (h : ∀ value ∈ right, IsValue value) :
      ReadFrom source (.assignment left right)
  | classDefinition (name : String) {entries : List (String × Value)}
      (h : ∀ e ∈ entries, Rule.EntryRead source e) :
      ReadFrom source (.classDefinition name (OrderedMap.ofEntries entries))

end Summary

namespace Rule

variable {s source : TokenSource}

/-! ### Literals -/

section Literals

variable {inner : Rule (Option Literal)}

theorem yields_arrayWith (h : ∀ s, Yields s inner fun _ => True) (s : TokenSource) :
    Yields s (arrayWith inner) fun _ => True := by
  refine (yields_expect s _).bind fun opening s' _ => ?_
  refine (yields_separated fun s => ?_).bind fun items s' _ => ?_
  · refine (h s).bind fun found s' _ => ?_
    cases found <;> exact yields_pure trivial
  · refine (yields_accept s' _).bind fun closing s'' _ => ?_
    split <;> exact yields_pure trivial

theorem yields_memberWith (h : ∀ s, Yields s inner fun _ => True) (s : TokenSource) :
    Yields s (memberWith inner) fun _ => True := by
  refine (yields_lookAny s _).bind fun starts s' _ => ?_
  cases starts with
  | false => exact yields_pure trivial
  | true =>
      refine (yields_next s').bind fun key s' _ => ?_
      refine (yields_expect s' _).bind fun _ s' _ => ?_
      refine (h s').bind fun found s' _ => ?_
      cases found <;> exact yields_pure trivial

theorem yields_objectWith (h : ∀ s, Yields s inner fun _ => True) (s : TokenSource) :
    Yields s (objectWith inner) fun _ => True := by
  refine (yields_expect s _).bind fun opening s' _ => ?_
  refine (yields_separated (yields_memberWith h)).bind fun members s' _ => ?_
  cases members with
  | none => exact yields_pure trivial
  | some members =>
      refine (yields_accept s' _).bind fun closing s' _ => ?_
      cases closing <;> exact yields_pure trivial

theorem yields_literalWith (h : ∀ s, Yields s inner fun _ => True) (s : TokenSource) :
    Yields s (literalWith inner) fun _ => True := by
  refine (yields_peek s 0).bind fun first s' _ => ?_
  split
  · exact ((yields_next s').bind fun t s' _ => yields_pure trivial).map
  · split
    · exact yields_arrayWith h s'
    · split
      · exact yields_objectWith h s'
      · exact yields_pure trivial

theorem yields_literalWithin (depth : Nat) (s : TokenSource) :
    Yields s (literalWithin depth) fun _ => True := by
  induction depth generalizing s with
  | zero => exact yields_pure trivial
  | succ depth ih => exact yields_literalWith ih s

/-- A literal moves the source on. -/
theorem yields_literal (s : TokenSource) : Yields s literal fun _ => True :=
  yields_size_bind fun n => yields_literalWithin (n + 1) s

end Literals

/-! ### The key of a field -/

section Key

variable {pattern : List TokenTest} {t : Token} {s' : TokenSource}

/-- The tokens that fit a pattern come first. -/
theorem exists_tokens_of_fits {final : Token} (hfinal : final.IsStop)
    (hinner : IsInnerPattern pattern) {u : Upcoming}
    (h : Fits (fun n => lookAt final n u) pattern) :
    ∃ tokens v, u = tokens.map .ok ++ v ∧ tokens.length = pattern.length ∧
      TokenTest.fitAll pattern tokens = true := by
  induction pattern generalizing u with
  | nil => exact ⟨[], u, rfl, rfl, rfl⟩
  | cons test pattern ih =>
      obtain ⟨htest, hinner⟩ := List.forall_mem_cons.1 hinner
      obtain ⟨⟨t, ht, hfit⟩, hmore⟩ := fits_cons.1 h
      match u, ht with
      | [], ht =>
          obtain rfl := Except.ok.inj ((lookAt_nil final 0).symm.trans ht)
          exact absurd hfit (by simp [htest.fits_eq_false hfinal])
      | .ok first :: more, ht =>
          obtain rfl := Except.ok.inj ht
          obtain ⟨tokens, v, rfl, hlength, hfits⟩ := ih hinner hmore
          exact ⟨first :: tokens, v, rfl, congrArg (· + 1) hlength, by simp [hfit, hfits]⟩

/-- **What a pattern takes** comes first, and the answer is the last of it. -/
theorem upcoming_expect {nonempty : pattern ≠ []} (hinner : IsInnerPattern pattern)
    (h : expect pattern nonempty s = .ok t s') :
    ∃ front, s.upcoming = (front ++ [t]).map .ok ++ s'.upcoming ∧
      pattern.length = front.length + 1 ∧ TokenTest.fitAll pattern (front ++ [t]) = true := by
  have hfits := (exists_expect_ok_iff nonempty).1 ⟨t, s', h⟩
  have hend : s.endToken.IsStop := .inr rfl
  obtain ⟨tokens, v, hs, hlength, hfit⟩ := exists_tokens_of_fits hend hinner hfits
  obtain ⟨front, last, rfl⟩ : ∃ front last, tokens = front ++ [last] := by
    refine List.eq_nil_or_concat' tokens |>.resolve_left fun hnil => ?_
    exact nonempty (List.eq_nil_of_length_eq_zero (by rw [← hlength, hnil]; rfl))
  rw [List.length_append, List.length_singleton] at hlength
  obtain ⟨s'', hrun, hv⟩ := takes_expect front last hlength.symm hfit v hs
  obtain ⟨rfl, rfl⟩ := EStateM.Result.ok.inj (h.symm.trans hrun)
  exact ⟨front, by rw [hs, hv], hlength.symm, hfit⟩

/-- A key with its colon. -/
theorem upcoming_expect_key {word : String} (h : expect [word, ":"] (by simp) s = .ok t s') :
    ∃ name, s.upcoming = .ok name :: .ok t :: s'.upcoming ∧ TokenTest.fits word name = true ∧
      TokenTest.fits ":" t = true := by
  have hinner : IsInnerPattern [TokenTest.text word, ":"] := by
    simp [IsInnerPattern, TokenTest.IsInner]
  obtain ⟨front, hs, hlength, hfit⟩ := upcoming_expect hinner h
  obtain ⟨name, rfl⟩ := List.length_eq_one_iff.1 (Nat.succ.inj hlength).symm
  refine ⟨name, hs, ?_⟩
  simpa using hfit

/-- Behind a look that fails there is no such key. -/
theorem fits_eq_false_of_look {word : String} {name colon : Token} {more : Upcoming}
    (h : look [word, ":"] s = .ok false s')
    (hs : s.upcoming = .ok name :: .ok colon :: more) (hcolon : TokenTest.fits ":" colon = true) :
    TokenTest.fits word name = false := by
  by_contra hfits
  rw [Bool.not_eq_false] at hfits
  have hboth : TokenTest.fitAll [word, ":"] [name, colon] = true := by simp [hcolon, hfits]
  obtain ⟨s'', hlook, -⟩ := takes_look_true hboth more hs
  exact absurd (EStateM.Result.ok.inj (h.symm.trans hlook)).1 (by simp)

end Key

/-! ### Class definitions -/

theorem yields_extendField (s : TokenSource) : Yields s extendField (EntryRead source) :=
  (yields_expect s _).bind fun name _ _ => yields_pure (.extend name.text)

/-- A rule that reads the literal behind a word. -/
theorem yields_keyed {α : Type} {P : α → Prop} {word : String} {f : Option Literal → Rule α}
    (hs : MovesOn source s)
    (hf : ∀ found s', source.ReadsField word found → Yields s' (f found) P) :
    Yields s (do let _ ← expect [word, ":"]; let found ← literal; f found) P := by
  refine (yields_expect s _).bind_run fun colon u hkey _ => ?_
  refine (yields_literal u).bind_run fun found v hvalue _ => ?_
  obtain ⟨name, hup, hname, hcolon⟩ := upcoming_expect_key hkey
  exact hf found v (.mk hs hup hname hcolon hvalue)

theorem yields_mixinsField (hs : MovesOn source s) :
    Yields s mixinsField fun found => ∀ e ∈ found, EntryRead source e := by
  refine yields_keyed hs fun found s' hread => ?_
  cases found with
  | none => exact yields_pure (by simp)
  | some l => exact yields_pure (by simpa using .mixins hread)

theorem yields_namesField {word key : String} (hword : (word, key) ∈ namesWords)
    (hs : MovesOn source s) : Yields s (namesField word key) (EntryRead source) :=
  yields_keyed hs fun _ _ hread => yields_pure (.names hword hread)

/-- Any other field, where the rules for names have been tried. -/
theorem yields_otherField (hs : MovesOn source s)
    (htried : ∀ e ∈ namesWords, ∀ (name colon : Token) (more : Upcoming),
      s.upcoming = .ok name :: .ok colon :: more → TokenTest.fits ":" colon = true →
        TokenTest.fits e.1 name = false) :
    Yields s otherField fun found => ∀ e ∈ found, EntryRead source e := by
  have hinner : IsInnerPattern [TokenTest.kind .ident] := by decide
  refine (yields_expect s _).bind_run fun name u hname _ => ?_
  refine (yields_expect u _).bind_run fun colon v hcolon _ => ?_
  refine (yields_literal v).bind_run fun found v' hvalue _ => ?_
  obtain ⟨_, hs', hlength, hname⟩ := upcoming_expect hinner hname
  obtain rfl := List.eq_nil_of_length_eq_zero (Nat.succ.inj hlength).symm
  obtain ⟨_, hu, hlength, hcolon⟩ := upcoming_expect (isInnerPattern_text ":") hcolon
  obtain rfl := List.eq_nil_of_length_eq_zero (Nat.succ.inj hlength).symm
  have hup : s.upcoming = .ok name :: .ok colon :: v.upcoming := by rw [hs', hu]; rfl
  have hident : name.kind = .ident := by simpa [TokenTest.fits_kind] using hname
  have hcolon : TokenTest.fits ":" colon = true := by simpa using hcolon
  have hfits : ∀ word : String, TokenTest.fits word name = decide (name.text = word) := by
    intro word
    rw [TokenTest.fits_text, hident]
    rfl
  have hkey : ∀ e ∈ namesWords, name.text ≠ e.1 := by
    intro e he
    have hmiss := htried e he name colon _ hup hcolon
    rw [hfits] at hmiss
    exact of_decide_eq_false hmiss
  have hread : source.ReadsField name.text found :=
    .mk hs hup (by rw [hfits, decide_eq_true rfl]) hcolon hvalue
  cases found with
  | none => exact yields_pure (by simp)
  | some l => exact yields_pure (by simpa using .other hkey hread)

/-- A decision by a look, which leaves what is to come. -/
theorem yields_ite_look_run {α : Type} {P : α → Prop} {pattern : List TokenTest} {r q : Rule α}
    (hr : ∀ u, MovesOn s u → u.upcoming = s.upcoming → Yields u r P)
    (hq : ∀ u, MovesOn s u → u.upcoming = s.upcoming → look pattern s = .ok false u →
      Yields u q P) : Yields s (do if ← look pattern then r else q) P := by
  refine (yields_look s pattern).bind_run fun fits u hlook _ => ?_
  have hu := (yields_look s pattern).movesOn hlook
  cases fits with
  | true => exact hr u hu (upcoming_look hlook)
  | false => exact hq u hu (upcoming_look hlook) hlook

/-- **A field of a configuration**, if there is one. -/
theorem yields_configField (hs : MovesOn source s) :
    Yields s configField fun found => ∀ e ∈ found, EntryRead source e := by
  have hsome : ∀ {s' : TokenSource} {r : Rule (String × Value)},
      Yields s' r (EntryRead source) → Yields s' (some <$> r) fun found =>
        ∀ e ∈ found, EntryRead source e :=
    fun h => (h.weaken fun e he => by simpa using he).map
  refine yields_ite_look_run (fun u _ _ => hsome (yields_extendField u)) fun u hu hup _ => ?_
  refine yields_ite_look_run (fun v hv _ => yields_mixinsField ((hs.trans hu).trans hv))
    fun v hv hupv _ => ?_
  have hv := (hs.trans hu).trans hv
  refine yields_ite_look_run (fun w hw _ => hsome (yields_namesField (by decide) (hv.trans hw)))
    fun w hw hupw halternate => ?_
  have hw := hv.trans hw
  refine yields_ite_look_run (fun x hx _ => hsome (yields_namesField (by decide) (hw.trans hx)))
    fun x hx hupx halias => ?_
  have hx := hw.trans hx
  refine yields_ite_look_run (fun y hy hupy => ?_) fun _ _ _ _ => yields_pure (by simp)
  -- both looks for names have failed, and what is to come is still the same
  refine yields_otherField (hx.trans hy)
    (List.forall_mem_cons.2 ⟨?_, List.forall_mem_singleton.2 ?_⟩)
  · intro name colon more hmore hcolon
    rw [hupy, hupx, hupw] at hmore
    exact fits_eq_false_of_look halternate hmore hcolon
  · intro name colon more hmore hcolon
    rw [hupy, hupx] at hmore
    exact fits_eq_false_of_look halias hmore hcolon

theorem yields_classConfig (hs : MovesOn source s) :
    Yields s classConfig fun entries => ∀ e ∈ entries, EntryRead source e := by
  refine (yields_expect s _).bind_run fun _ u hbrace _ => ?_
  have hu := hs.trans ((yields_expect s _).movesOn hbrace)
  refine yields_many (P := EntryRead source) fun u' hu' => ?_
  refine (yields_configField (hu.trans hu')).bind fun found v hfound => ?_
  cases found with
  | none => exact yields_pure (by simp)
  | some e => exact (yields_accept v _).bind fun _ _ _ => yields_pure hfound

theorem yields_definitionConfig (hs : MovesOn source s) :
    Yields s definitionConfig fun entries => ∀ e ∈ entries, EntryRead source e := by
  refine (yields_look s _).bind_run fun configured u hlook _ => ?_
  have hu := hs.trans ((yields_look s _).movesOn hlook)
  refine (yields_look u _).bind_run fun continued v hlook _ => ?_
  have hv := hu.trans ((yields_look u _).movesOn hlook)
  cases configured with
  | true =>
      refine (yields_expect v _).bind_run fun _ w hcomma _ => ?_
      exact yields_classConfig (hv.trans ((yields_expect v _).movesOn hcomma))
  | false =>
      cases continued with
      | true => exact yields_pure (by simp)
      | false => exact (yields_expect v _).bind fun _ _ _ => yields_pure (by simp)

/-- **A class definition** has the entries of its fields. -/
theorem yields_classDefinition (hs : MovesOn source s) :
    Yields s classDefinition (Summary.ReadFrom source) := by
  have hhead : Yields s definitionHead fun _ => True := by
    refine (yields_expect s _).bind fun _ u _ => ?_
    exact yields_ite_look
      (fun u => (yields_expect u _).bind fun _ u' _ => yields_expect u' _)
      (fun u => (yields_expect u _).bind fun _ u' _ => yields_expect u' _)
  rw [classDefinition_eq]
  refine hhead.bind_run fun name u hname _ => ?_
  refine (yields_definitionConfig (hs.trans (hhead.movesOn hname))).bind fun entries _ he => ?_
  exact yields_pure (.classDefinition name.text he)

/-! ### Functions, chains and values -/

theorem yields_parameters (s : TokenSource) : Yields s parameters fun _ => True := by
  have hclose : ∀ (names : List String) (s : TokenSource),
      Yields s (do let _ ← expectOne ")"; pure names) fun _ => True :=
    fun names s => (yields_expect s _).bind fun _ _ _ => yields_pure trivial
  refine (yields_expect s _).bind fun _ s _ => ?_
  refine (yields_accept s _).bind fun first s _ => ?_
  cases first with
  | none => exact hclose [] s
  | some first =>
      refine Yields.bind (P := fun _ => True) ?_ fun more s _ => hclose _ s
      refine (yields_many (P := fun _ => True) fun s' _ => ?_).weaken fun _ _ => trivial
      exact (yields_accept s' _).weaken fun _ _ _ _ => trivial

theorem yields_chain (s : TokenSource) : Yields s chain fun _ => True := by
  have hnames : ∀ (test : TokenTest) (s : TokenSource), Yields s (do
      let first ← expectOne test
      let more ← many (accept [".", TokenKind.ident])
      pure (first.text :: more.map (·.text))) fun _ => True := by
    intro test s
    refine (yields_expect s _).bind fun first s _ => ?_
    refine (yields_many (P := fun _ => True) fun s' _ => ?_).bind
      fun more _ _ => yields_pure trivial
    exact (yields_accept s' _).weaken fun _ _ _ _ => trivial
  exact yields_ite_look (hnames _) (hnames _)

theorem yields_function (s : TokenSource) :
    Yields s function fun f => ∃ name params, f = .function name params := by
  refine (yields_expect s _).bind fun _ s _ => ?_
  refine (yields_accept s _).bind fun name s _ => ?_
  refine (yields_parameters s).bind fun params s _ => ?_
  exact (yields_expect s _).bind fun _ _ _ => yields_pure ⟨_, params, rfl⟩

theorem yields_extension (s : TokenSource) : Yields s extension Summary.IsValue := by
  refine (yields_expect s _).bind fun _ s _ => ?_
  exact ((yields_chain s).weaken fun base _ => .extension base).map

theorem yields_literalExpression (s : TokenSource) :
    Yields s literalExpression fun found => ∀ value ∈ found, Summary.IsValue value := by
  refine (yields_literal s).bind fun found _ _ => yields_pure ?_
  intro value hvalue
  obtain ⟨l, -, rfl⟩ := Option.map_eq_some_iff.1 hvalue
  exact .literal l

/-- **A value**, if there is one. -/
theorem yields_expression (s : TokenSource) :
    Yields s expression fun found => ∀ value ∈ found, Summary.IsValue value := by
  refine yields_ite_look (fun s => ?_) fun s => yields_ite_look (fun s => ?_)
    yields_literalExpression
  · refine ((yields_function s).weaken fun f hf => ?_).map
    obtain ⟨name, params, rfl⟩ := hf
    simpa using Summary.IsValue.function name params
  · exact ((yields_extension s).weaken fun f hf => by simpa using hf).map

/-! ### Code blocks -/

theorem yields_assignmentValue (left : List String) (s : TokenSource) :
    Yields s (Summary.assignment left <$> expression) (Summary.ReadFrom source) :=
  ((yields_expression s).weaken fun _ hvalue => .assignment left hvalue).map

theorem yields_assignment (s : TokenSource) :
    Yields s assignment (Summary.ReadFrom source) := by
  refine (yields_chain s).bind fun left s _ => ?_
  refine (yields_accept s _).bind fun equals s _ => ?_
  cases equals with
  | none => exact yields_pure (.assignment left (by simp))
  | some _ => exact yields_assignmentValue left s

theorem yields_property (s : TokenSource) : Yields s property (Summary.ReadFrom source) := by
  refine (yields_next s).bind fun key s _ => ?_
  exact (yields_expect s _).bind fun _ s _ => yields_assignmentValue [key.text] s

theorem yields_of_mem_alternatives {patterns : List (List TokenTest)} {rule : Rule Summary}
    (hmem : (patterns, rule) ∈ alternatives) (hs : MovesOn source s) :
    Yields s rule (Summary.ReadFrom source) := by
  simp only [alternatives, List.mem_cons, List.not_mem_nil, or_false, Prod.mk.injEq] at hmem
  obtain ⟨-, rfl⟩ | ⟨-, rfl⟩ | ⟨-, rfl⟩ | ⟨-, rfl⟩ | ⟨-, rfl⟩ | ⟨-, rfl⟩ | ⟨-, rfl⟩ := hmem
  · refine (yields_function s).weaken fun f hf => ?_
    obtain ⟨name, params, rfl⟩ := hf
    exact .function name params
  · exact (yields_expect s _).bind fun _ s _ => yields_assignment s
  · exact yields_classDefinition hs
  · exact yields_property s
  · exact (yields_expect s _).bind fun _ s _ => yields_property s
  · exact yields_assignment s
  · exact (yields_expect s _).bind fun t _ _ => yields_pure (.assignment [t.text] (by simp))

theorem yields_firstAlternative {choices : List (List (List TokenTest) × Rule Summary)}
    (h : ∀ choice ∈ choices, ∀ s, MovesOn source s →
      Yields s choice.2 (Summary.ReadFrom source)) (hs : MovesOn source s) :
    Yields s (firstAlternative choices) (Summary.ReadFrom source) := by
  induction choices generalizing s with
  | nil => exact yields_pure .unrecognised
  | cons choice choices ih =>
      obtain ⟨hfirst, hothers⟩ := List.forall_mem_cons.1 h
      refine (yields_lookAny s _).bind_run fun fits u hlook _ => ?_
      have hu := hs.trans ((yields_lookAny s _).movesOn hlook)
      cases fits with
      | true => exact hfirst u hu
      | false => exact ih hothers hu

/-- **A code block is summed up from the source.** -/
theorem yields_codeBlock (hs : MovesOn source s) :
    Yields s codeBlock (Summary.ReadFrom source) :=
  yields_firstAlternative (fun _ hmem _ hs => yields_of_mem_alternatives hmem hs) hs

end Rule

end DocComments
