import DocComments.Proofs.CodeBlockFailure
import DocComments.Proofs.LiteralOutcome

/-!
# A class definition keeps its name and its closing brace

Whatever a configuration holds, the summary of a class definition goes by the tag and the name of
the call, and the closing brace of the configuration is not taken
(`Rule.classDefinition_keeps_identity`).  That is so of configurations that are cut short or
malformed too: a field goes on behind the remains of an array or object that broke off, at any
depth.

What is load-bearing is `ClosesOwn`: every brace that is closed among some tokens was opened among
them.  It is kept when tokens are put behind one another, so it holds of all that is taken for a
literal, found or not (`Reading.Takes.closesOwn`), and of all that a rule takes if it holds of its
parts (`Rule.TakesOwn`).
-/

namespace DocComments

/-! ### Tokens that close their own braces -/

/-- **Every brace that is closed among the tokens was opened among them**: no beginning closes
more than it opens. -/
def ClosesOwn (tokens : List Token) : Prop :=
  ∀ before, before <+: tokens → 0 ≤ openBraces before

namespace ClosesOwn

variable {t : Token} {tokens front back : List Token}

theorem nonneg (h : ClosesOwn tokens) : 0 ≤ openBraces tokens :=
  h tokens (List.prefix_refl tokens)

theorem nil : ClosesOwn [] := by
  intro before hbefore
  rw [List.prefix_nil.1 hbefore, openBraces_nil]

theorem cons (ht : 0 ≤ t.brace) (h : ClosesOwn tokens) : ClosesOwn (t :: tokens) := by
  intro before hbefore
  rcases List.prefix_cons_iff.1 hbefore with rfl | ⟨before, rfl, hmore⟩
  · exact Int.le_refl 0
  · have hrest := h before hmore
    rw [openBraces_cons]
    omega

theorem append (hfront : ClosesOwn front) (hback : ClosesOwn back) :
    ClosesOwn (front ++ back) := by
  intro before hbefore
  rcases List.prefix_or_prefix_of_prefix hbefore (List.prefix_append front back) with
    hwithin | ⟨more, rfl⟩
  · exact hfront before hwithin
  · have hopen := hfront.nonneg
    have hrest := hback more ((List.prefix_append_right_inj front).1 hbefore)
    rw [openBraces_append]
    omega

/-- A brace may be closed behind tokens that leave one open. -/
theorem concat (h : ClosesOwn tokens) (ht : 0 ≤ openBraces tokens + t.brace) :
    ClosesOwn (tokens ++ [t]) := by
  intro before hbefore
  rcases List.prefix_concat_iff.1 hbefore with rfl | hwithin
  · rw [openBraces_append, openBraces_cons, openBraces_nil]
    omega
  · exact h before hwithin

end ClosesOwn

/-- **A brace that closes what was opened before such tokens is not among them**, nor is anything
behind it. -/
theorem ClosesOwn.suffix_of_closes {tokens before after rest : List Token} {closing : Token}
    (h : ClosesOwn tokens) (hclose : closing.IsPunct "\x7d") (hbefore : openBraces before = 0)
    (heq : tokens ++ rest = before ++ closing :: after) : closing :: after <:+ rest := by
  rcases List.append_eq_append_iff.1 heq with ⟨between, -, rfl⟩ | ⟨between, rfl, hbehind⟩
  · exact List.suffix_append between _
  · cases between with
    | nil =>
        obtain rfl : closing :: after = rest := hbehind
        exact List.suffix_refl _
    | cons first between =>
        -- else the brace would be among the tokens, and close more than they open
        obtain rfl : closing = first := (List.cons.inj hbehind).1
        have hclosed := h (before ++ [closing]) ⟨between, by simp⟩
        rw [openBraces_append, hbefore, openBraces_cons, openBraces_nil, hclose.brace] at hclosed
        exact absurd hclosed (by decide)

/-- A list closes its own braces if its parts do. -/
theorem Commas.closesOwn {groups : List (List Token)} {inside : List Token}
    (h : Commas groups inside) (hgroups : ∀ group ∈ groups, ClosesOwn group) :
    ClosesOwn inside := by
  induction h with
  | nil => exact .nil
  | last part => exact hgroups part List.mem_cons_self
  | cons hcomma _ ih =>
      obtain ⟨hpart, hmore⟩ := List.forall_mem_cons.1 hgroups
      exact hpart.append (.cons (by simp [hcomma.brace]) (ih hmore))

theorem MemberTokens.Fits.closesOwn_all {m : MemberTokens} (h : m.Fits)
    (htokens : ClosesOwn m.tokens) : ClosesOwn m.all :=
  .cons (by simp [Token.brace_of_scalarKind? (Rule.scalarKind?_of_isKey h.1)])
    (.cons (by simp [h.2.brace]) htokens)

theorem Commas.closesOwn_members {parts : List MemberTokens} {inside : List Token}
    (h : Commas (parts.map (·.all)) inside) (hfits : ∀ part ∈ parts, part.Fits)
    (hparts : ∀ part ∈ parts, ClosesOwn part.tokens) : ClosesOwn inside :=
  h.closesOwn (List.forall_mem_map.2 fun part hpart =>
    (hfits part hpart).closesOwn_all (hparts part hpart))

/-- **What is taken for a literal closes its own braces**, whether the literal is found or breaks
off. -/
theorem Reading.Takes.closesOwn {r : Reading} {tokens : List Token} (h : r.Takes tokens) :
    ClosesOwn tokens := by
  induction h with
  | scalar hkind => exact .cons (by simp [Token.brace_of_scalarKind? hkind]) .nil
  | array hopen hclose _ hinside _ _ ihparts ihremains =>
      have hitems := hinside.closesOwn (List.forall_mem_map.2 ihparts)
      refine .cons (by simp [hopen.brace]) ((hitems.append ihremains).append ?_)
      exact .cons (by simp [hclose.brace]) .nil
  | @object opening closing parts inside hopen hclose hfits _ hinside ihparts =>
      -- the brace that is closed last is the one that was opened first
      have hmembers := hinside.closesOwn_members hfits ihparts
      have hopened : ClosesOwn (opening :: inside) := .cons (by simp [hopen.brace]) hmembers
      refine hopened.concat ?_
      have hnonneg := hmembers.nonneg
      rw [openBraces_cons, hopen.brace, hclose.brace, if_pos rfl, if_neg (by decide), if_pos rfl]
      omega
  | nothing => exact .nil
  | brokenArray hopen _ hinside _ _ ihparts ihremains =>
      have hitems := hinside.closesOwn (List.forall_mem_map.2 ihparts)
      exact .cons (by simp [hopen.brace]) (hitems.append ihremains)
  | brokenObject hopen hfits _ hinside ihparts =>
      exact .cons (by simp [hopen.brace]) (hinside.closesOwn_members hfits ihparts)
  | brokenMember hopen hfits _ hinside _ hkey hcolon _ ihparts ihremains =>
      have hmembers := hinside.closesOwn_members hfits ihparts
      refine .cons (by simp [hopen.brace]) (hmembers.append (.cons ?_ (.cons ?_ ihremains)))
      · simp [Token.brace_of_scalarKind? (Rule.scalarKind?_of_isKey hkey)]
      · simp [hcolon.brace]

/-- No closing brace fits the test. -/
def TokenTest.SparesBrace (test : TokenTest) : Prop :=
  test ≠ .text "\x7d" ∧ test ≠ .kind .punct

instance (test : TokenTest) : Decidable test.SparesBrace :=
  inferInstanceAs (Decidable (_ ∧ _))

theorem TokenTest.SparesBrace.brace_nonneg {test : TokenTest} (h : test.SparesBrace) {t : Token}
    (hfits : test.fits t = true) : 0 ≤ t.brace := by
  by_cases hclose : t.IsPunct "\x7d"
  · obtain ⟨hkind, htext⟩ := hclose
    cases test with
    | kind k => exact absurd (by simpa [TokenTest.fits_kind, hkind, eq_comm] using hfits) h.2
    | text s =>
        rw [TokenTest.fits_text, hkind, htext] at hfits
        exact absurd (by simpa [TokenKind.hasPlainText, eq_comm] using hfits) h.1
  · rw [Token.brace, if_neg hclose]
    split <;> decide

/-- Tokens that were asked for by tests which no closing brace fits close none. -/
theorem TokenTest.closesOwn_of_fitAll {pattern : List TokenTest}
    (hpattern : ∀ test ∈ pattern, test.SparesBrace) {tokens : List Token}
    (hfit : fitAll pattern tokens = true) :
    ∃ front, tokens = front ++ tokens.drop pattern.length ∧ ClosesOwn front := by
  induction pattern generalizing tokens with
  | nil => exact ⟨[], rfl, .nil⟩
  | cons test pattern ih =>
      obtain ⟨t, more, rfl, ht, hmore⟩ := exists_of_fitAll_cons hfit
      obtain ⟨htest, hothers⟩ := List.forall_mem_cons.1 hpattern
      obtain ⟨front, heq, hfront⟩ := ih hothers hmore
      exact ⟨t :: front, congrArg (t :: ·) heq, .cons (htest.brace_nonneg ht) hfront⟩

/-! ### The tag and the name of a summary -/

/-- The member of an object with a given key. -/
def Json.member? (key : String) : Json → Option Json
  | .object members => OrderedMap.get? (key : Text.LooseString) members
  | _ => none

theorem Value.keys_fieldsToJson (fields : List (String × Value)) :
    OrderedMap.keys (fieldsToJson fields) =
      (OrderedMap.keys fields).map Text.LooseString.ofString := by
  induction fields with
  | nil => rfl
  | cons field fields ih =>
      rw [fieldsToJson, OrderedMap.keys, List.map_cons]
      exact congrArg (_ :: ·) ih

theorem Value.get?_fieldsToJson {key : String} {fields : List (String × Value)}
    (h : key ∉ OrderedMap.keys fields) :
    OrderedMap.get? (key : Text.LooseString) (fieldsToJson fields).reverse = none := by
  refine OrderedMap.get?_eq_none fun hmem => h ?_
  rw [OrderedMap.keys, List.map_reverse, List.mem_reverse] at hmem
  change _ ∈ OrderedMap.keys (fieldsToJson fields) at hmem
  rw [Value.keys_fieldsToJson] at hmem
  obtain ⟨other, hother, heq⟩ := List.mem_map.1 hmem
  rwa [← Text.LooseString.ofString_injective heq]

/-- **No key of a configuration hides the tag or the name.** -/
theorem Summary.classDefinition_toJson (name : String) (config : OrderedMap String Value) :
    (Summary.classDefinition name config).toJson.member? "type" = some (.string "ext_define") ∧
      (Summary.classDefinition name config).toJson.member? "name" = some (.string name) := by
  let kept : OrderedMap String Value := config.filter fun e => !reservedKeys.contains e.1
  have hreserved : ∀ key ∈ reservedKeys,
      OrderedMap.get? (key : Text.LooseString) (Value.fieldsToJson kept).reverse = none := by
    intro key hkey
    refine Value.get?_fieldsToJson fun hmem => ?_
    obtain ⟨e, he, rfl⟩ := List.mem_map.1 hmem
    have hfree := (List.mem_filter.1 he).2
    simp [hkey] at hfree
  let ofCall : OrderedMap Text.LooseString Json :=
    [("name", .string name), ("type", .string "ext_define")]
  -- the last entry of a key tells its value, and no other than those of the call are left
  have hmember : ∀ key ∈ reservedKeys,
      (Summary.classDefinition name config).toJson.member? key =
        OrderedMap.get? (key : Text.LooseString) ofCall := by
    intro key hkey
    change OrderedMap.get? _ (OrderedMap.ofEntries (ofCall.reverse ++ Value.fieldsToJson kept)) = _
    rw [OrderedMap.get?_ofEntries, List.reverse_append, List.reverse_reverse,
      OrderedMap.get?_append, hreserved key hkey, Option.none_or]
  have hne : ("name" : Text.LooseString) ≠ "type" :=
    fun h => absurd (Text.LooseString.ofString_injective h) (by decide)
  rw [hmember "type" (by decide), hmember "name" (by decide)]
  exact ⟨by simp [ofCall, OrderedMap.get?, hne], by simp [ofCall, OrderedMap.get?]⟩

namespace Rule

open TokenSource

variable {α β : Type} {tail : Upcoming} {tokens rest : List Token}

/-! ### Rules that close no brace of others -/

/-- What was taken closes its own braces. -/
def OwnTaken (tokens rest : List Token) : Prop :=
  (∀ t ∈ tokens, t.Punctuates) → ∃ taken, tokens = taken ++ rest ∧ ClosesOwn taken

theorem OwnTaken.refl (tokens : List Token) : OwnTaken tokens tokens :=
  fun _ => ⟨[], rfl, .nil⟩

theorem OwnTaken.trans {final : List Token} (h : OwnTaken tokens rest)
    (h' : OwnTaken rest final) : OwnTaken tokens final := by
  intro hpunct
  obtain ⟨taken, rfl, htaken⟩ := h hpunct
  obtain ⟨more, rfl, hmore⟩ := h' fun t ht => hpunct t (List.mem_append_right _ ht)
  exact ⟨taken ++ more, (List.append_assoc ..).symm, htaken.append hmore⟩

/-- **The rule closes only braces that it has opened**, whatever the tokens are. -/
def TakesOwn (tail : Upcoming) (r : Rule α) : Prop :=
  ∀ tokens : List Token, Agree tail tokens r r (fun _ rest => OwnTaken tokens rest) fun _ _ => True

theorem takesOwn_pure (a : α) : TakesOwn tail (pure a) :=
  fun tokens => agree_pure (.refl tokens)

theorem TakesOwn.bind {r : Rule α} {f : α → Rule β} (hr : TakesOwn tail r)
    (hf : ∀ a, TakesOwn tail (f a)) : TakesOwn tail (r >>= f) :=
  fun tokens => (hr tokens).bind fun a rest _ hrest =>
    (hf a rest).weaken_answer fun _ _ _ hfinal => hrest.trans hfinal

theorem TakesOwn.map {r : Rule α} (g : α → β) (hr : TakesOwn tail r) : TakesOwn tail (g <$> r) :=
  fun tokens => Agree.map (hr tokens)

section Blocks

variable {pattern : List TokenTest}

theorem takesOwn_look (hstops : Upcoming.Stops tail) (hinner : IsInnerPattern pattern) :
    TakesOwn tail (look pattern) :=
  fun tokens => agree_look hstops hinner (.refl tokens)

theorem takesOwn_ite_look {r q : Rule α} (hstops : Upcoming.Stops tail)
    (hinner : IsInnerPattern pattern) (hr : TakesOwn tail r) (hq : TakesOwn tail q) :
    TakesOwn tail (do if ← look pattern then r else q) := by
  refine (takesOwn_look hstops hinner).bind fun fits => ?_
  cases fits with
  | true => exact hr
  | false => exact hq

theorem ownTaken_of_fitAll (hspares : ∀ test ∈ pattern, test.SparesBrace)
    (hfit : TokenTest.fitAll pattern tokens = true) :
    OwnTaken tokens (tokens.drop pattern.length) :=
  fun _ => TokenTest.closesOwn_of_fitAll hspares hfit

theorem takesOwn_expect {nonempty : pattern ≠ []} (hstops : Upcoming.Stops tail)
    (hinner : IsInnerPattern pattern) (hspares : ∀ test ∈ pattern, test.SparesBrace) :
    TakesOwn tail (expect pattern nonempty) :=
  fun _ => agree_expect hstops hinner (fun hfit => ownTaken_of_fitAll hspares hfit)
    fun _ => trivial

theorem takesOwn_accept {nonempty : pattern ≠ []} (hstops : Upcoming.Stops tail)
    (hinner : IsInnerPattern pattern) (hspares : ∀ test ∈ pattern, test.SparesBrace) :
    TakesOwn tail (accept pattern nonempty) :=
  fun tokens => agree_accept hstops hinner (fun hfit => ownTaken_of_fitAll hspares hfit)
    fun _ => .refl tokens

end Blocks

theorem takesOwn_literal (hstops : Upcoming.Stops tail) : TakesOwn tail literal := by
  refine fun tokens => (agree_literal_takes hstops tokens).weaken (fun found rest _ htakes => ?_)
    fun _ _ _ _ => trivial
  intro hpunct
  obtain ⟨taken, htokens, htaken, -⟩ := htakes hpunct
  exact ⟨taken, htokens, htaken.closesOwn⟩

/-- Rounds close no brace of others if each of them closes none. -/
theorem TakesOwn.many {step : Rule (Option α)} (hstep : TakesOwn tail step)
    (hadvances : Advances tail step) : TakesOwn tail (many step) := by
  intro tokens
  refine agree_many (R := fun tokens _ rest => OwnTaken tokens rest) fun tokens => ?_
  refine ((hstep tokens).and (hadvances tokens)).weaken (fun found rest _ h => ?_)
    fun _ _ _ _ => trivial
  cases found with
  | none => exact h.1
  | some a => exact ⟨h.2 rfl, fun _ _ hfinal => h.1.trans hfinal⟩

/-! ### The fields of a configuration -/

theorem takesOwn_namesField (hstops : Upcoming.Stops tail) {word : String} (key : String)
    (hinner : IsInnerPattern [.text word, ":"])
    (hspares : ∀ test ∈ [TokenTest.text word, ":"], test.SparesBrace) :
    TakesOwn tail (namesField word key) :=
  (takesOwn_expect hstops hinner hspares).bind fun _ =>
    (takesOwn_literal hstops).bind fun _ => takesOwn_pure _

theorem takesOwn_mixinsField (hstops : Upcoming.Stops tail) : TakesOwn tail mixinsField := by
  refine (takesOwn_expect hstops (by decide) (by decide)).bind fun _ => ?_
  refine (takesOwn_literal hstops).bind fun found => ?_
  cases found with
  | none => exact takesOwn_pure _
  | some l => exact takesOwn_pure _

theorem takesOwn_otherField (hstops : Upcoming.Stops tail) : TakesOwn tail otherField := by
  refine (takesOwn_expect hstops (by decide) (by decide)).bind fun _ => ?_
  refine (takesOwn_expect hstops (by decide) (by decide)).bind fun _ => ?_
  refine (takesOwn_literal hstops).bind fun found => ?_
  cases found with
  | none => exact takesOwn_pure _
  | some l => exact takesOwn_pure _

/-- **A field closes no brace of the configuration**, whichever of the rules takes it. -/
theorem takesOwn_configField (hstops : Upcoming.Stops tail) : TakesOwn tail configField := by
  refine takesOwn_ite_look hstops (by decide) (.map some ?_) ?_
  · exact (takesOwn_expect hstops (by decide) (by decide)).bind fun _ => takesOwn_pure _
  refine takesOwn_ite_look hstops (by decide) (takesOwn_mixinsField hstops) ?_
  refine takesOwn_ite_look hstops (by decide)
    (.map some (takesOwn_namesField hstops _ (by decide) (by decide))) ?_
  refine takesOwn_ite_look hstops (by decide)
    (.map some (takesOwn_namesField hstops _ (by decide) (by decide))) ?_
  exact takesOwn_ite_look hstops (by decide) (takesOwn_otherField hstops) (takesOwn_pure none)

theorem takesOwn_configRound (hstops : Upcoming.Stops tail) : TakesOwn tail configRound := by
  refine (takesOwn_configField hstops).bind fun field => ?_
  cases field with
  | none => exact takesOwn_pure none
  | some field =>
      exact (takesOwn_accept hstops (by decide) (by decide)).bind fun _ => takesOwn_pure _

/-! ### Class definitions -/

/-- The patterns that open a class definition. -/
def definitionStarts : List (List TokenTest) :=
  [["Ext", ".", "define", "(", TokenKind.string],
    ["Ext", ".", "ClassManager", ".", "create", "(", TokenKind.string]]

theorem definitionStarts_mem_alternatives : (definitionStarts, classDefinition) ∈ alternatives := by
  simp [alternatives, definitionStarts]

/-- **What is taken behind the class name**, where `rest` is left: nothing in front of a comma
without a configuration, the closing parenthesis, or a configuration without its closing brace. -/
inductive ConfigTaken (rest : List Token) : List Token → Prop where
  | nothing (hcomma : TokenTest.fitAll [","] rest = true)
      (hbrace : TokenTest.fitAll [",", "\x7b"] rest = false) : ConfigTaken rest []
  | closed {closing : Token} (hclose : closing.IsPunct ")") : ConfigTaken rest [closing]
  | fields {comma brace : Token} {inside : List Token} (hcomma : comma.IsPunct ",")
      (hbrace : brace.IsPunct "\x7b") (hinside : ClosesOwn inside) :
      ConfigTaken rest (comma :: brace :: inside)

theorem agree_definitionConfig_taken (hstops : Upcoming.Stops tail)
    (hkinded : ∀ t ∈ tokens, t.Kinded) :
    Agree tail tokens definitionConfig definitionConfig
      (fun _ rest => ∃ taken, tokens = taken ++ rest ∧ ConfigTaken rest taken) fun _ _ => True := by
  refine agree_look_bind hstops (by decide) (agree_look_bind hstops (by decide) ?_)
  cases hconfigured : TokenTest.fitAll [",", "\x7b"] tokens with
  | true =>
      obtain ⟨comma, more, rfl, hcomma, hfit⟩ := TokenTest.exists_of_fitAll_cons hconfigured
      obtain ⟨brace, inside, rfl, hbrace, -⟩ := TokenTest.exists_of_fitAll_cons hfit
      simp only [List.forall_mem_cons] at hkinded
      obtain ⟨hcomma', hbrace', hinside⟩ := hkinded
      refine (agree_expectOne_fits hstops (by decide) hcomma).bind_answers ?_
      refine (agree_expectOne_fits hstops (by decide) hbrace).bind_answers ?_
      have hadvances : Advances tail configRound := (advances_configField hstops).bind rfl
        fun _ => (local_accept hstops (by decide)).bind fun _ => local_pure _
      refine ((takesOwn_configRound hstops).many hadvances inside).weaken_answer
        fun _ final _ htaken => ?_
      obtain ⟨taken, rfl, hown⟩ := htaken fun t ht => (hinside t ht).punctuates
      exact ⟨comma :: brace :: taken, rfl, .fields (hcomma'.told_code (by decide) hcomma)
        (hbrace'.told_code (by decide) hbrace) hown⟩
  | false =>
      cases hcontinued : TokenTest.fitAll [","] tokens with
      | true => exact agree_pure ⟨[], rfl, .nothing hcontinued hconfigured⟩
      | false =>
          refine ((agree_expectOne_outcome hstops (by decide)).weaken_mismatch
            fun _ _ _ _ => trivial).bind ?_
          rintro closing final - ⟨rfl, hclose⟩
          have hclosing : closing.Kinded := hkinded closing List.mem_cons_self
          exact agree_pure ⟨[closing], rfl, .closed (hclosing.told_code (by decide) hclose)⟩

theorem agree_classDefinition_taken {name : Token} {head rest : List Token}
    (hstops : Upcoming.Stops tail) (hkinded : ∀ t ∈ rest, t.Kinded)
    (hhead : DefinitionHead name head) :
    Agree tail (head ++ rest) classDefinition classDefinition
      (fun summary left => ∃ config taken, summary = .classDefinition name.text config ∧
        rest = taken ++ left ∧ ConfigTaken left taken) fun _ _ => True := by
  have hname : Agree tail (head ++ rest) definitionHead definitionHead (Answers name rest)
      fun _ _ => True := by
    refine Takes.agree (List.suffix_append head rest) fun v => ?_
    rw [List.map_append, List.append_assoc]
    exact takes_definitionHead hhead _
  rw [classDefinition_eq]
  refine hname.bind_answers ((agree_definitionConfig_taken hstops hkinded).bind ?_)
  rintro fields left - ⟨taken, hrest, htaken⟩
  exact agree_pure ⟨OrderedMap.ofEntries fields, taken, rfl, hrest, htaken⟩

/-- **A class definition keeps its name and its closing brace**, malformed configurations included.
The summary goes by the tag and by the name of the call.  What is taken behind the opening brace of
the configuration closes its own braces; so the brace that closes the configuration, and everything
behind it, is left.

That the tokens are kinded is no restriction: those of a source are (`kinded_of_mem_upcoming`). -/
theorem classDefinition_keeps_identity {s s' : TokenSource} {summary : Summary}
    (hs : s.upcoming = tokens.map .ok) (hkinded : ∀ t ∈ tokens, t.Kinded)
    (hstart : ∃ pattern ∈ definitionStarts, TokenTest.fitAll pattern tokens = true)
    (hrun : classDefinition s = .ok summary s') :
    ∃ (name : Token) (head taken rest : List Token), tokens = head ++ taken ++ rest ∧
      s'.upcoming = rest.map .ok ∧ DefinitionHead name head ∧ ConfigTaken rest taken ∧
      summary.toJson.member? "type" = some (.string "ext_define") ∧
      summary.toJson.member? "name" = some (.string name.text) ∧
      ∀ comma brace inside before closing after, taken = comma :: brace :: inside →
        closing.IsPunct "\x7d" → openBraces before = 0 →
        inside ++ rest = before ++ closing :: after → closing :: after <:+ rest := by
  have hfit : TokenTest.fitAll ["Ext", ".", "define", "(", TokenKind.string] tokens = true ∨
      TokenTest.fitAll ["Ext", ".", "ClassManager", ".", "create", "(", TokenKind.string] tokens =
        true := by
    simpa [definitionStarts] using hstart
  obtain ⟨name, head, behind, rfl, hhead⟩ := exists_definitionHead hkinded hfit
  have houtcome := agree_classDefinition_taken Upcoming.stops_nil
    (fun t ht => hkinded t (List.mem_append_right _ ht)) hhead
    ⟨hs.trans (List.append_nil _).symm, hs⟩
  rw [hrun] at houtcome
  cases houtcome with
  | answer hcut _ htaken =>
      obtain ⟨config, taken, rfl, rfl, htaken⟩ := htaken
      obtain ⟨htype, hname⟩ := Summary.classDefinition_toJson name.text config
      refine ⟨name, head, taken, _, (List.append_assoc ..).symm, hcut.cut, hhead, htaken, htype,
        hname, ?_⟩
      rintro comma brace inside before closing after rfl hclose hbefore heq
      cases htaken with
      | fields _ _ hinside => exact hinside.suffix_of_closes hclose hbefore heq

/-- An object breaks off inside a configuration, and a reserved key is read behind its remains. -/
theorem classDefinition_keeps_identity_broken :
    let punct (text : String) (column : Int) : Token := ⟨.punct, text, 1, column⟩
    let ident (text : String) (column : Int) : Token := ⟨.ident, text, 1, column⟩
    let tokens : List Token :=
      [ident "Ext" 1, punct "." 4, ident "define" 5, punct "(" 11, ⟨.string, "A", 1, 12⟩,
        punct "," 15, punct "\x7b" 17, ident "alias" 18, punct ":" 23, punct "\x7b" 25,
        ident "a" 26, punct ":" 27, punct "," 29, ident "type" 31, punct ":" 35, ident "t" 37,
        punct "\x7d" 38, punct "\x7d" 39, punct ")" 40]
    let source := ofString "Ext.define('A', \x7balias: \x7ba: , type: t\x7d\x7d)"
    source.upcoming = tokens.map .ok ∧ (∀ t ∈ tokens, t.Kinded) ∧
      (∃ pattern ∈ definitionStarts, TokenTest.fitAll pattern tokens = true) ∧
      ∃ summary s', classDefinition source = .ok summary s' ∧ s'.upcoming.length = 3 ∧
        ∃ (name : Token) (head taken rest : List Token), tokens = head ++ taken ++ rest ∧
          s'.upcoming = rest.map .ok ∧ DefinitionHead name head ∧ ConfigTaken rest taken ∧
          summary.toJson.member? "type" = some (.string "ext_define") ∧
          summary.toJson.member? "name" = some (.string name.text) ∧
          ∀ comma brace inside before closing after, taken = comma :: brace :: inside →
            closing.IsPunct "\x7d" → openBraces before = 0 →
            inside ++ rest = before ++ closing :: after → closing :: after <:+ rest := by
  intro punct ident tokens source
  have hs : source.upcoming = tokens.map .ok := by decide +kernel
  have hkinded : ∀ t ∈ tokens, t.Kinded := fun t ht =>
    kinded_of_mem_upcoming (hs ▸ List.mem_map_of_mem ht)
  have hstart : ∃ pattern ∈ definitionStarts, TokenTest.fitAll pattern tokens = true := by
    decide
  have hanswers : answersWith (fun _ s' => s'.upcoming.length == 3) (classDefinition source) =
      true := by
    decide +kernel
  obtain ⟨summary, s', hrun, hleft⟩ := exists_of_answersWith hanswers
  exact ⟨hs, hkinded, hstart, summary, s', hrun, by simpa using hleft,
    classDefinition_keeps_identity hs hkinded hstart hrun⟩

end Rule

end DocComments
