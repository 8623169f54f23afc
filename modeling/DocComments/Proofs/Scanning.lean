import DocComments.Proofs.CodeBlockAgreement
import DocComments.Proofs.LexerRun
import DocComments.Record

/-!
# What a recovering scan records

A scan mixes three things: it makes a record of each doc-comment, it lets a grammar take as many
tokens as it likes behind each, and it passes over the rest one by one.  `Scanner.documented`
says what comes of it without any of this: every doc-comment of the source, in order, with the
tokens between it and the next one.  `Scanner.scan_recovering` is the equation between the two.

The step is `Scanner.round_doc`: the round that finds a doc-comment makes the one record that
`Record.Describes` allows and leaves a part of the tokens before the next doc-comment, because
the code block is local (`Rule.local_codeBlock`).  What is left of them is passed over
(`Scanner.round_other`), so the run lemma is an induction on the tokens to come.
-/

namespace DocComments

open TokenSource

/-! ### The description -/

/-- **The doc-comments among some tokens**, in order, each with the tokens between it and the
next one. -/
def documented : List Token → List (Token × List Token)
  | [] => []
  | t :: more =>
      if t.kind = .docComment then
        (t, more.takeWhile (·.kind ≠ .docComment)) :: documented more
      else documented more

theorem documented_doc {t : Token} (h : t.kind = .docComment) (more : List Token) :
    documented (t :: more) = (t, more.takeWhile (·.kind ≠ .docComment)) :: documented more :=
  if_pos h

theorem documented_other {t : Token} (h : t.kind ≠ .docComment) (more : List Token) :
    documented (t :: more) = documented more :=
  if_neg h

/-- Tokens before the first doc-comment do not count. -/
theorem documented_append {front : List Token} (h : ∀ t ∈ front, t.kind ≠ .docComment)
    (back : List Token) : documented (front ++ back) = documented back := by
  induction front with
  | nil => rfl
  | cons t front ih =>
      rw [List.cons_append, documented_other (h t List.mem_cons_self)]
      exact ih fun t' ht' => h t' (List.mem_cons_of_mem t ht')

/-- What is left of the tokens before the first doc-comment holds none. -/
theorem documented_left {tokens rest : List Token}
    (h : rest <:+ tokens.takeWhile (·.kind ≠ .docComment)) :
    rest ++ tokens.dropWhile (·.kind ≠ .docComment) <:+ tokens ∧
      documented (rest ++ tokens.dropWhile (·.kind ≠ .docComment)) = documented tokens := by
  have hplain : ∀ t ∈ tokens.takeWhile (·.kind ≠ .docComment), t.kind ≠ .docComment :=
    fun t ht => by simpa using List.mem_takeWhile_imp ht
  have htokens : tokens.takeWhile (·.kind ≠ .docComment) ++
      tokens.dropWhile (·.kind ≠ .docComment) = tokens := List.takeWhile_append_dropWhile
  constructor
  · obtain ⟨front, hfront⟩ := h
    exact ⟨front, by rw [← List.append_assoc, hfront, htokens]⟩
  · rw [documented_append fun t ht => hplain t (h.subset ht), ← documented_append hplain, htokens]

/-- **The code block of some tokens alone**: what the rule answers on any source that has
`behind` to come and nothing else.  Where it is malformed, the code is unrecognised. -/
def SummarisedAs (behind : List Token) (code : Summary) : Prop :=
  ∀ u : TokenSource, u.upcoming = behind.map .ok →
    match Rule.codeBlock u with
    | .ok answer _ => code = answer
    | .error (.mismatch _) _ => code = .unrecognised
    | .error (.unterminated _) _ => False

/-- **The record that a doc-comment deserves**, where `behind` are the tokens up to the next
one: its own tags and line, and the code block of those tokens alone. -/
structure Record.Describes (readTags : String → List Tag) (comment : Token) (behind : List Token)
    (r : Record) : Prop where
  /-- The tags are those of the comment. -/
  tags : r.comment = readTags comment.text
  /-- The line is that of the comment. -/
  line : r.line = comment.line
  /-- The code is that of the tokens behind the comment. -/
  code : SummarisedAs behind r.code

/-- Tokens alone have one code block. -/
theorem SummarisedAs.unique {behind : List Token} {code code' : Summary}
    (h : SummarisedAs behind code) (h' : SummarisedAs behind code') : code = code' := by
  have hcode := h (ofTokens behind) (upcoming_ofTokens behind)
  have hcode' := h' (ofTokens behind) (upcoming_ofTokens behind)
  cases hblock : Rule.codeBlock (ofTokens behind) with
  | ok answer s =>
      rw [hblock] at hcode hcode'
      exact hcode.trans hcode'.symm
  | error e s =>
      rw [hblock] at hcode hcode'
      cases e with
      | mismatch m => exact hcode.trans hcode'.symm
      | unterminated e => exact hcode.elim

/-- A doc-comment deserves one record. -/
theorem Record.Describes.unique {readTags : String → List Tag} {comment : Token}
    {behind : List Token} {r r' : Record} (h : r.Describes readTags comment behind)
    (h' : r'.Describes readTags comment behind) : r = r' := by
  obtain ⟨comment, line, code⟩ := r
  obtain ⟨comment', line', code'⟩ := r'
  rw [Record.mk.injEq]
  exact ⟨h.tags.trans h'.tags.symm, h.line.trans h'.line.symm, h.code.unique h'.code⟩

/-! ### The next token -/

namespace Rule

variable {s : TokenSource} {t : Token} {e : Unterminated} {more : Upcoming}

theorem atEnd_nil (h : s.upcoming = []) : ∃ u, atEnd s = .ok true u ∧ u.upcoming = [] := by
  obtain ⟨u, hpeek, hu⟩ := peek_nil h
  exact ⟨u, bind_ok hpeek, hu⟩

theorem atEnd_error (h : s.upcoming = .error e :: more) :
    ∃ u, atEnd s = .error (.unterminated e) u := by
  obtain ⟨u, hpeek⟩ := peek_error h
  exact ⟨u, bind_error hpeek⟩

theorem atEnd_cons (h : s.upcoming = .ok t :: more) :
    ∃ u, atEnd s = .ok (decide (t.kind = .endOfInput)) u ∧ u.upcoming = .ok t :: more := by
  obtain ⟨u, hpeek, hu, -⟩ := peek_cons h
  exact ⟨u, bind_ok hpeek, hu⟩

/-- A look for a single token sees the next one. -/
theorem look_singleton (h : s.upcoming = .ok t :: more) (test : TokenTest) :
    ∃ u, look [test] s = .ok (test.fits t) u ∧ u.upcoming = .ok t :: more := by
  obtain ⟨u, hpeek, hu, -⟩ := peek_cons h
  refine ⟨u, ?_, hu⟩
  rw [look, lookFrom, bind_ok hpeek]
  cases test.fits t <;> rfl

theorem next_cons (h : s.upcoming = .ok t :: more) :
    ∃ u, next s = .ok t u ∧ u.upcoming = more := by
  obtain ⟨u, hpeek, hu, hlen⟩ := peek_cons h
  refine ⟨u.drop 1, bind_ok hpeek, ?_⟩
  rw [upcoming_drop hlen, hu]
  rfl

end Rule

/-! ### One round -/

namespace Scanner

variable {mode : ScanMode} {readTags : String → List Tag} {s : Scanner} {t : Token}
variable {e : Unterminated} {more : Upcoming}

section Lift

variable {α : Type} {rule : Rule α} {a : α} {f : Failure} {u : TokenSource}

theorem lift_ok (h : rule s.source = .ok a u) : lift rule s = .ok a { s with source := u } := by
  simp only [lift, h]

theorem lift_error (h : rule s.source = .error f u) :
    lift rule s = .error f { s with source := u } := by
  simp only [lift, h]

end Lift

theorem round_nil (h : s.source.upcoming = []) :
    ∃ u : TokenSource, u.upcoming = [] ∧
      ∀ mode, round mode s = .ok false { s with source := u } := by
  obtain ⟨u, hend, hu⟩ := Rule.atEnd_nil h
  exact ⟨u, hu, fun _ => bind_ok (lift_ok hend)⟩

theorem round_error (h : s.source.upcoming = .error e :: more) :
    ∃ s', round mode s = .error (.unterminated e) s' := by
  obtain ⟨u, hend⟩ := Rule.atEnd_error h
  exact ⟨_, bind_error (lift_error hend)⟩

/-- The part of a round behind a doc-comment: a record of it with the code block behind it. -/
def recordComment (mode : ScanMode) (t : Token) : Step Bool := do
  report (.found t.line)
  let code ← summarise mode
  let record : Record := ⟨mode.readTags t.text, t.line, code⟩
  modify fun s => { s with records := s.records ++ [record] }
  pure true

/-- A round takes the next token, and makes a record if it is a doc-comment. -/
theorem round_cons (h : s.source.upcoming = .ok t :: more) (ht : t.kind ≠ .endOfInput) :
    ∃ u : TokenSource, u.upcoming = more ∧ ∀ mode,
      round mode s =
        (if t.kind = .docComment then recordComment mode t else pure true)
          { s with source := u } := by
  obtain ⟨u, hend, hu⟩ := Rule.atEnd_cons h
  obtain ⟨v, hlook, hv⟩ := Rule.look_singleton hu (.kind .docComment)
  obtain ⟨w, hnext, hw⟩ := Rule.next_cons hv
  refine ⟨w, hw, fun mode => ?_⟩
  rw [round, bind_ok (lift_ok hend), decide_eq_false ht, if_neg Bool.false_ne_true,
    bind_ok (lift_ok hlook), TokenTest.fits_kind]
  by_cases hdoc : t.kind = .docComment
  · rw [decide_eq_true hdoc, if_pos rfl, if_pos hdoc, bind_ok (lift_ok hnext)]
    rfl
  · rw [decide_eq_false hdoc, if_neg Bool.false_ne_true, if_neg hdoc, bind_ok (lift_ok hnext)]

theorem round_other (h : s.source.upcoming = .ok t :: more) (ht : t.kind ≠ .endOfInput)
    (hother : t.kind ≠ .docComment) :
    ∃ u : TokenSource, u.upcoming = more ∧
      ∀ mode, round mode s = .ok true { s with source := u } := by
  obtain ⟨u, hu, hround⟩ := round_cons h ht
  simp only [if_neg hother] at hround
  exact ⟨u, hu, hround⟩

/-- **The code behind a doc-comment** is summed up from the tokens before the next one, and is
left or passed over within them.  Only a construct left open behind them stops the scan. -/
theorem summarise_recovering (readTags : String → List Tag) {behind : List Token} {tail : Upcoming}
    (hs : s.source.upcoming = behind.map .ok ++ tail) (hstops : Upcoming.Stops tail) :
    (∃ code s' rest, summarise ⟨true, readTags⟩ s = .ok code s' ∧ SummarisedAs behind code ∧
        s'.source.upcoming = rest.map .ok ++ tail ∧ rest <:+ behind ∧
        s'.records = s.records) ∨
      ∃ e more s', tail = .error e :: more ∧
        summarise ⟨true, readTags⟩ s = .error (.unterminated e) s' := by
  have hagree : ∀ u : TokenSource, u.upcoming = behind.map .ok →
      Rule.SameOutcome tail behind (fun _ _ => True) (fun _ _ => True)
        (Rule.codeBlock s.source) (Rule.codeBlock u) :=
    fun u hu => Rule.local_codeBlock hstops behind ⟨hs, hu⟩
  -- the rule on the tokens alone, whose answer is the code
  have hcut := hagree (ofTokens behind) (upcoming_ofTokens behind)
  change (∃ code s' rest, EStateM.tryCatch (lift Rule.codeBlock) _ s = _ ∧ _) ∨
    ∃ e more s', _ ∧ EStateM.tryCatch (lift Rule.codeBlock) _ s = _
  simp only [EStateM.tryCatch, lift]
  generalize Rule.codeBlock s.source = x at hagree hcut
  generalize Rule.codeBlock (ofTokens behind) = x' at hcut
  cases hcut with
  | answer hcut hsuffix _ =>
      refine .inl ⟨_, _, _, rfl, fun u hu => ?_, hcut.whole, hsuffix, rfl⟩
      have hsame := hagree u hu
      generalize Rule.codeBlock u = y at hsame ⊢
      cases hsame
      rfl
  | mismatch hcut hsuffix _ _ =>
      refine .inl ⟨.unrecognised, _, _, rfl, fun u hu => ?_, hcut.whole, hsuffix, rfl⟩
      have hsame := hagree u hu
      generalize Rule.codeBlock u = y at hsame ⊢
      cases hsame
      rfl
  | unterminated htail => exact .inr ⟨_, _, _, htail, rfl⟩

theorem report_eq (event : ScanEvent) :
    report event s = .ok () { s with events := s.events ++ [event] } := rfl

/-- **The round of a doc-comment** makes the one record that describes it and takes none of the
tokens from the next one on, unless a construct left open is met there. -/
theorem round_doc (readTags : String → List Tag) {behind : List Token} {tail : Upcoming}
    (h : s.source.upcoming = .ok t :: (behind.map .ok ++ tail)) (hdoc : t.kind = .docComment)
    (hstops : Upcoming.Stops tail) :
    (∃ r s' rest, round ⟨true, readTags⟩ s = .ok true s' ∧ r.Describes readTags t behind ∧
        s'.source.upcoming = rest.map .ok ++ tail ∧ rest <:+ behind ∧
        s'.records = s.records ++ [r]) ∨
      ∃ e more s', tail = .error e :: more ∧
        round ⟨true, readTags⟩ s = .error (.unterminated e) s' := by
  obtain ⟨u, hu, hround⟩ := round_cons h (by rw [hdoc]; decide)
  replace hround := hround ⟨true, readTags⟩
  rw [if_pos hdoc, recordComment, bind_ok (report_eq _)] at hround
  rcases summarise_recovering readTags
      (s := { s with source := u, events := s.events ++ [.found t.line] }) hu hstops with
    ⟨code, s', rest, hcode, hsummary, hs', hsuffix, hrecords⟩ | ⟨e, more, s', htail, hcode⟩
  · rw [bind_ok hcode] at hround
    refine .inl ⟨⟨readTags t.text, t.line, code⟩,
      { s' with records := s'.records ++ [⟨readTags t.text, t.line, code⟩] }, rest, hround,
      ⟨rfl, rfl, hsummary⟩, hs', hsuffix, ?_⟩
    rw [hrecords]
  · rw [bind_error hcode] at hround
    exact .inr ⟨e, more, s', htail, hround⟩

/-! ### The whole scan -/

/-- **The outcome of a scan** of the tokens `tokens`: at the end of the source a record of every
doc-comment among them, and in front of a construct left open the failure to read it. -/
inductive Outcome (readTags : String → List Tag) (tokens : List Token) (s : Scanner) :
    Upcoming → EStateM.Result Failure Scanner Unit → Prop where
  | finished {s' : Scanner} (records : List Record) (hrecords : s'.records = s.records ++ records)
      (h : List.Forall₂ (fun found r => Record.Describes readTags found.1 found.2 r)
        (documented tokens) records) :
      Outcome readTags tokens s [] (.ok () s')
  | stopped {e : Unterminated} {more : Upcoming} {s' : Scanner} :
      Outcome readTags tokens s (.error e :: more) (.error (.unterminated e) s')

/-- A round that changes neither the records nor the doc-comments to come changes nothing. -/
theorem Outcome.of_other {tokens tokens' : List Token} {s' : Scanner} {fin : Upcoming}
    {result : EStateM.Result Failure Scanner Unit} (h : Outcome readTags tokens' s' fin result)
    (htokens : documented tokens = documented tokens') (hrecords : s'.records = s.records) :
    Outcome readTags tokens s fin result := by
  cases h with
  | finished records hmade h => exact .finished records (hrecords ▸ hmade) (htokens ▸ h)
  | stopped => exact .stopped

/-- The record of the first doc-comment comes before the others. -/
theorem Outcome.of_doc {tokens tokens' behind : List Token} {s' : Scanner} {fin : Upcoming}
    {r : Record} {result : EStateM.Result Failure Scanner Unit}
    (h : Outcome readTags tokens' s' fin result)
    (htokens : documented tokens = (t, behind) :: documented tokens')
    (hrecords : s'.records = s.records ++ [r]) (hr : r.Describes readTags t behind) :
    Outcome readTags tokens s fin result := by
  cases h with
  | finished records hmade h =>
      refine .finished (r :: records) ?_ ?_
      · rw [hmade, hrecords, List.append_assoc, List.singleton_append]
      · rw [htokens]
        exact .cons hr h
  | stopped => exact .stopped

/-- From the first doc-comment on, the tokens are ones at which rules stop. -/
theorem stops_dropWhile {fin : Upcoming} (hfin : ∀ t more, fin ≠ .ok t :: more)
    (tokens : List Token) :
    Upcoming.Stops ((tokens.dropWhile (·.kind ≠ .docComment)).map .ok ++ fin) := by
  intro t more h
  have hfirst := List.head?_dropWhile_not (fun t : Token => decide (t.kind ≠ .docComment)) tokens
  cases hothers : tokens.dropWhile (·.kind ≠ .docComment) with
  | nil =>
      rw [hothers] at h
      exact absurd h (hfin t more)
  | cons d others =>
      rw [hothers] at h hfirst
      obtain rfl := Except.ok.inj (List.cons.inj h).1
      simpa using hfirst

/-- A failure that comes first comes before no token. -/
theorem eq_error_of_append {tokens : List Token} {fin : Upcoming}
    (h : tokens.map .ok ++ fin = .error e :: more) : fin = .error e :: more := by
  cases tokens with
  | nil => exact h
  | cons t tokens => exact absurd (List.cons.inj h).1 (by simp)

/-- The round of a doc-comment among `tokens` leaves the doc-comments behind it to come. -/
theorem round_documented (readTags : String → List Tag) {tokens : List Token} {fin : Upcoming}
    (hfin : ∀ t more, fin ≠ .ok t :: more)
    (h : s.source.upcoming = .ok t :: (tokens.map .ok ++ fin)) (hdoc : t.kind = .docComment) :
    (∃ r s' left, round ⟨true, readTags⟩ s = .ok true s' ∧
        r.Describes readTags t (tokens.takeWhile (·.kind ≠ .docComment)) ∧
        s'.source.upcoming = left.map .ok ++ fin ∧ left <:+ tokens ∧
        documented left = documented tokens ∧ s'.records = s.records ++ [r]) ∨
      ∃ e more s', fin = .error e :: more ∧
        round ⟨true, readTags⟩ s = .error (.unterminated e) s' := by
  have hsplit := h
  rw [← List.takeWhile_append_dropWhile (p := (·.kind ≠ .docComment)) (l := tokens),
    List.map_append, List.append_assoc] at hsplit
  rcases round_doc readTags hsplit hdoc (stops_dropWhile hfin tokens) with
    ⟨r, s', rest, hround, hr, hs', hsuffix, hrecords⟩ | ⟨e, more, s', htail, hround⟩
  · obtain ⟨hleft, hsame⟩ := documented_left hsuffix
    refine .inl ⟨r, s', _, hround, hr, ?_, hleft, hsame, hrecords⟩
    rw [hs', List.map_append, List.append_assoc]
  · exact .inr ⟨e, more, s', eq_error_of_append htail, hround⟩

/-- **The run**: from any scanner, and with as many rounds as there are tokens or more. -/
theorem outcome_scanUpTo {fin : Upcoming} (hfin : ∀ t more, fin ≠ .ok t :: more) :
    ∀ (rounds : Nat) (tokens : List Token) (s : Scanner),
      s.source.upcoming = tokens.map .ok ++ fin → (∀ t ∈ tokens, t.kind ≠ .endOfInput) →
      tokens.length < rounds →
      Outcome readTags tokens s fin (scanUpTo ⟨true, readTags⟩ rounds s) := by
  intro rounds
  induction rounds with
  | zero => exact fun _ _ _ _ h => absurd h (Nat.not_lt_zero _)
  | succ rounds ih =>
      intro tokens s hs hkind hlen
      rw [scanUpTo]
      cases tokens with
      | nil =>
          cases fin with
          | nil =>
              obtain ⟨u, -, hround⟩ := round_nil hs
              rw [bind_ok (hround _)]
              exact .finished [] (List.append_nil _).symm .nil
          | cons first more =>
              cases first with
              | ok t => exact absurd rfl (hfin t more)
              | error e =>
                  obtain ⟨s', hround⟩ := round_error hs
                  rw [bind_error hround]
                  exact .stopped
      | cons t tokens =>
          have ht := hkind t List.mem_cons_self
          have hkind' : ∀ t ∈ tokens, t.kind ≠ .endOfInput :=
            fun t' ht' => hkind t' (List.mem_cons_of_mem t ht')
          rw [List.length_cons] at hlen
          by_cases hdoc : t.kind = .docComment
          · rcases round_documented readTags hfin hs hdoc with
              ⟨r, s', left, hround, hr, hs', hleft, hsame, hrecords⟩ | ⟨e, more, s', rfl, hround⟩
            · rw [bind_ok hround]
              have hshort : left.length < rounds := by
                have := hleft.length_le
                omega
              refine (ih left s' hs' (fun t ht => hkind' t (hleft.subset ht)) hshort).of_doc ?_
                hrecords hr
              rw [documented_doc hdoc, hsame]
            · rw [bind_error hround]
              exact .stopped
          · obtain ⟨u, hu, hround⟩ := round_other hs ht hdoc
            rw [bind_ok (hround _)]
            exact (ih tokens _ hu hkind' (by omega)).of_other (documented_other hdoc tokens) rfl

/-- **A recovering scan is what the description says.**  Where the source can be split into
tokens, the scan reaches its end and has made one record of each doc-comment, in order, and each
describes its comment and the tokens up to the next one.  Where a construct is left open, the
scan fails with the same wording. -/
theorem scan_recovering (source : String) (readTags : String → List Tag) :
    match tokenize source with
    | .ok tokens => ∃ s, scan ⟨true, readTags⟩ (ofString source) = .ok () s ∧
        List.Forall₂ (fun found r => Record.Describes readTags found.1 found.2 r)
          (documented tokens) s.records
    | .error e => ∃ s, scan ⟨true, readTags⟩ (ofString source) = .error (.unterminated e) s ∧
        (Failure.unterminated e).message = e.message := by
  have hview := tokenize_view source
  -- `fin` is what stands behind the last token: nothing, or the construct left open
  have hscan : ∀ (tokens : List Token) (fin : Upcoming), (∀ t more, fin ≠ .ok t :: more) →
      (TokenSource.ofString source).upcoming = tokens.map .ok ++ fin →
      Outcome readTags tokens (ofString source) fin
        (scan ⟨true, readTags⟩ (ofString source)) := by
    intro tokens fin hfin hupcoming
    refine outcome_scanUpTo hfin _ tokens (ofString source) hupcoming (fun t ht => ?_) ?_
    · have hmem : .ok t ∈ (TokenSource.ofString source).upcoming := by
        rw [hupcoming]
        exact List.mem_append_left fin (List.mem_map_of_mem ht)
      obtain ⟨allowed, c, more, width, -, -, hfound⟩ := found_of_mem_upcoming hmem
      exact hfound.kind_ne_endOfInput
    · have hsize : (ofString source).source.size = tokens.length + fin.length := by
        rw [size_eq_length_upcoming, ofString, ofSource, hupcoming]
        simp
      change tokens.length < (ofString source).source.size + 1
      omega
  cases htokens : tokenize source with
  | ok tokens =>
      rw [htokens] at hview
      have houtcome := hscan tokens [] (by simp) (by rw [hview, List.append_nil])
      generalize scan ⟨true, readTags⟩ (ofString source) = result at houtcome
      cases houtcome with
      | finished records hrecords h => exact ⟨_, rfl, hrecords ▸ h⟩
  | error e =>
      rw [htokens] at hview
      obtain ⟨tokens, more, hview⟩ := hview
      have houtcome := hscan tokens (.error e :: more) (by simp) hview
      generalize scan ⟨true, readTags⟩ (ofString source) = result at houtcome
      cases houtcome with
      | stopped => exact ⟨_, rfl, rfl⟩

end Scanner

end DocComments
