import DocComments.Proofs.Scanning

/-!
# A strict and a recovering scan side by side

The two sorts of scan are the same but for malformed code: there the strict one stops, and the
recovering one records the block as unrecognised and goes on.  So they go through the same states
up to the first malformed block, and what the recovering one does afterwards only adds to what it
had.

Whether a block is malformed is a property of the tokens between its doc-comment and the next one
(`Malformed`), by the locality of the code block.  The step is `Scanner.codeBlock_behind`: one run
of the rule serves both scans.  `Scanner.SideBySide` is what two scans from the same state come to,
and the run lemma is an induction on the rounds in which both scans make the same round
(`Scanner.sideBySide_scanUpTo`).  That the later rounds only add is said of steps in general
(`Scanner.Grows`).
-/

namespace DocComments

open TokenSource

/-- **The code block of some tokens alone is malformed**: on any source that has `behind` to come
and nothing else, the rule meets a mismatch. -/
def Malformed (behind : List Token) : Prop :=
  ∀ u : TokenSource, u.upcoming = behind.map .ok →
    ∃ m u', Rule.codeBlock u = .error (.mismatch m) u'

/-- **The first malformed block** among some tokens is the one behind the doc-comment `t`; `front`
are the doc-comments before it. -/
structure FirstMalformed (tokens : List Token) (front : List (Token × List Token)) (t : Token)
    (behind : List Token) : Prop where
  /-- Where it stands. -/
  found : ∃ back, documented tokens = front ++ (t, behind) :: back
  /-- The blocks before it are well-formed. -/
  before : ∀ found ∈ front, ¬ Malformed found.2
  /-- It is malformed. -/
  malformed : Malformed behind

namespace Scanner

/-! ### Steps that only add -/

/-- **A step only adds** to the records and to what was reported, whether it succeeds or fails. -/
def Grows {α : Type} (step : Step α) : Prop :=
  ∀ s, s.records <+: (left (step s)).records ∧ s.events <+: (left (step s)).events

section Grows

variable {α β : Type} {step : Step α} {f : α → Step β}

theorem grows_pure (a : α) : Grows (pure a) :=
  fun _ => ⟨List.prefix_rfl, List.prefix_rfl⟩

theorem grows_throw (f : Failure) : Grows (throw f : Step α) :=
  fun _ => ⟨List.prefix_rfl, List.prefix_rfl⟩

theorem Grows.bind (h : Grows step) (hf : ∀ a, Grows (f a)) : Grows (step >>= f) := by
  intro s
  have hs := h s
  cases hstep : step s with
  | error e s' =>
      rw [hstep] at hs
      rw [bind_error hstep]
      exact hs
  | ok a s' =>
      rw [hstep] at hs
      rw [bind_ok hstep]
      exact ⟨hs.1.trans (hf a s').1, hs.2.trans (hf a s').2⟩

theorem Grows.tryCatch {handle : Failure → Step α} (h : Grows step)
    (hhandle : ∀ e, Grows (handle e)) : Grows (tryCatch step handle) := by
  intro s
  have hs := h s
  change _ <+: (left (EStateM.tryCatch step handle s)).records ∧
    _ <+: (left (EStateM.tryCatch step handle s)).events
  simp only [EStateM.tryCatch]
  cases hstep : step s with
  | ok a s' =>
      rw [hstep] at hs
      exact hs
  | error e s' =>
      rw [hstep] at hs
      exact ⟨hs.1.trans (hhandle e s').1, hs.2.trans (hhandle e s').2⟩

theorem grows_lift (rule : Rule α) : Grows (lift rule) := by
  intro s
  cases h : rule s.source with
  | ok a u => rw [lift_ok h]; exact ⟨List.prefix_rfl, List.prefix_rfl⟩
  | error f u => rw [lift_error h]; exact ⟨List.prefix_rfl, List.prefix_rfl⟩

theorem grows_report (event : ScanEvent) : Grows (report event) :=
  fun s => ⟨List.prefix_rfl, List.prefix_append s.events [event]⟩

end Grows

theorem grows_summarise (mode : ScanMode) : Grows (summarise mode) := by
  refine (grows_lift _).tryCatch fun e => ?_
  split
  · exact (grows_report _).bind fun _ => grows_pure _
  · exact grows_throw _

theorem grows_recordComment (mode : ScanMode) (t : Token) : Grows (recordComment mode t) := by
  refine (grows_report _).bind fun _ => (grows_summarise mode).bind fun code => ?_
  refine Grows.bind (fun s => ?_) fun _ => grows_pure _
  exact ⟨List.prefix_append s.records _, List.prefix_rfl⟩

theorem grows_round (mode : ScanMode) : Grows (round mode) := by
  refine (grows_lift _).bind fun ended => ?_
  split
  · exact grows_pure _
  · refine (grows_lift _).bind fun commented => ?_
    split
    · exact (grows_lift _).bind fun t => grows_recordComment mode t
    · exact (grows_lift _).bind fun _ => grows_pure _

theorem grows_scanUpTo (mode : ScanMode) (rounds : Nat) : Grows (scanUpTo mode rounds) := by
  induction rounds with
  | zero => exact grows_pure ()
  | succ rounds ih =>
      refine (grows_round mode).bind fun more => ?_
      split
      · exact ih
      · exact grows_pure ()

/-! ### The round of a doc-comment -/

variable {mode : ScanMode} {readTags : String → List Tag} {s : Scanner} {t : Token}

section CodeBlock

variable {code : Summary} {m : Mismatch} {v : TokenSource}

/-- **The code block behind a doc-comment** is malformed as a part of the source exactly if the
tokens before the next doc-comment are on their own, and else their summary; it takes some of those
tokens. -/
theorem codeBlock_behind {u : TokenSource} {behind others : List Token}
    (hu : u.upcoming = behind.map .ok ++ others.map .ok)
    (hstops : Upcoming.Stops (others.map .ok)) :
    ∃ rest v, rest <:+ behind ∧ v.upcoming = rest.map .ok ++ others.map .ok ∧
      ((∃ code, Rule.codeBlock u = .ok code v ∧ ¬ Malformed behind ∧ SummarisedAs behind code) ∨
        ∃ m, Rule.codeBlock u = .error (.mismatch m) v ∧ Malformed behind) := by
  have hagree : ∀ w : TokenSource, w.upcoming = behind.map .ok →
      Rule.SameOutcome (others.map .ok) behind (fun _ _ => True) (fun _ _ => True)
        (Rule.codeBlock u) (Rule.codeBlock w) :=
    fun w hw => Rule.local_codeBlock hstops behind ⟨hu, hw⟩
  have hcut := hagree (ofTokens behind) (upcoming_ofTokens behind)
  -- the run in the source decides, and the tokens alone have to follow it
  cases hrun : Rule.codeBlock u with
  | ok code v =>
      rw [hrun] at hcut
      generalize halone : Rule.codeBlock (ofTokens behind) = alone at hcut
      cases hcut with
      | answer hcut hsuffix _ =>
          refine ⟨_, v, hsuffix, hcut.whole, .inl ⟨code, rfl, fun hmalformed => ?_, fun w hw => ?_⟩⟩
          · obtain ⟨m, w, hm⟩ := hmalformed (ofTokens behind) (upcoming_ofTokens behind)
            exact absurd (halone.symm.trans hm) (by simp)
          · have hsame := hagree w hw
            rw [hrun] at hsame
            generalize Rule.codeBlock w = alone at hsame ⊢
            cases hsame
            rfl
  | error f v =>
      rw [hrun] at hcut
      generalize Rule.codeBlock (ofTokens behind) = alone at hcut
      cases hcut with
      | @mismatch m _ _ _ _ hcut hsuffix _ _ =>
          refine ⟨_, v, hsuffix, hcut.whole, .inr ⟨m, rfl, fun w hw => ?_⟩⟩
          have hsame := hagree w hw
          rw [hrun] at hsame
          generalize Rule.codeBlock w = alone at hsame
          cases hsame with
          | mismatch => exact ⟨_, _, rfl⟩
      | unterminated htail =>
          cases others with
          | nil => exact absurd htail (by simp)
          | cons t others => exact absurd (List.cons.inj htail).1 (by simp)

/-- **The round of a doc-comment** among `tokens` records what its code block comes to, and leaves
the doc-comments behind it to come. -/
theorem codeBlock_documented {tokens : List Token}
    (h : s.source.upcoming = (t :: tokens).map .ok) (hdoc : t.kind = .docComment) :
    ∃ u left v, (∀ mode, round mode s = recordComment mode t { s with source := u }) ∧
      left <:+ tokens ∧ documented left = documented tokens ∧ v.upcoming = left.map .ok ∧
      let behind := tokens.takeWhile (·.kind ≠ .docComment)
      ((∃ code, Rule.codeBlock u = .ok code v ∧ ¬ Malformed behind ∧ SummarisedAs behind code) ∨
        ∃ m, Rule.codeBlock u = .error (.mismatch m) v ∧ Malformed behind) := by
  obtain ⟨u, hu, hround⟩ := round_cons h (by rw [hdoc]; decide)
  simp only [if_pos hdoc] at hround
  have hstops : Upcoming.Stops ((tokens.dropWhile (·.kind ≠ .docComment)).map .ok ++ []) :=
    stops_dropWhile (by simp) tokens
  rw [List.append_nil] at hstops
  have hsplit : u.upcoming = (tokens.takeWhile (·.kind ≠ .docComment)).map .ok ++
      (tokens.dropWhile (·.kind ≠ .docComment)).map .ok := by
    rw [hu, ← List.map_append, List.takeWhile_append_dropWhile]
  obtain ⟨rest, v, hsuffix, hv, hblock⟩ := codeBlock_behind hsplit hstops
  obtain ⟨hleft, hsame⟩ := documented_left hsuffix
  exact ⟨u, _, v, hround, hleft, hsame, by rw [hv, List.map_append], hblock⟩

/-- A well-formed block is recorded alike in both sorts of scan. -/
theorem recordComment_of_answer (mode : ScanMode) (h : Rule.codeBlock s.source = .ok code v) :
    recordComment mode t s = .ok true
      { source := v, records := s.records ++ [⟨mode.readTags t.text, t.line, code⟩],
        events := s.events ++ [.found t.line] } := by
  have hcode : summarise mode { s with events := s.events ++ [.found t.line] } =
      .ok code { s with source := v, events := s.events ++ [.found t.line] } := by
    change EStateM.tryCatch (lift Rule.codeBlock) _ _ = _
    simp only [EStateM.tryCatch, lift, h]
  rw [recordComment, bind_ok (report_eq _), bind_ok hcode]
  rfl

/-- At a malformed block a strict scan stops. -/
theorem recordComment_strict (h : Rule.codeBlock s.source = .error (.mismatch m) v) :
    recordComment ⟨false, readTags⟩ t s = .error (.mismatch m)
      { s with source := v, events := s.events ++ [.found t.line] } := by
  have hcode : summarise ⟨false, readTags⟩ { s with events := s.events ++ [.found t.line] } =
      .error (.mismatch m) { s with source := v, events := s.events ++ [.found t.line] } := by
    change EStateM.tryCatch (lift Rule.codeBlock) _ _ = _
    simp only [EStateM.tryCatch, lift, h]
    rfl
  rw [recordComment, bind_ok (report_eq _), bind_error hcode]

/-- At a malformed block a recovering scan records it as unrecognised, and says so. -/
theorem recordComment_recovering (h : Rule.codeBlock s.source = .error (.mismatch m) v) :
    recordComment ⟨true, readTags⟩ t s = .ok true
      { source := v, records := s.records ++ [⟨readTags t.text, t.line, .unrecognised⟩],
        events := s.events ++ [.found t.line] ++ [.skipped m] } := by
  have hcode : summarise ⟨true, readTags⟩ { s with events := s.events ++ [.found t.line] } =
      .ok .unrecognised
        { s with source := v, events := s.events ++ [.found t.line] ++ [.skipped m] } := by
    change EStateM.tryCatch (lift Rule.codeBlock) _ _ = _
    simp only [EStateM.tryCatch, lift, h]
    rfl
  rw [recordComment, bind_ok (report_eq _), bind_ok hcode]
  rfl

/-- At a construct left open both sorts of scan stop. -/
theorem recordComment_unterminated (mode : ScanMode) {e : Unterminated}
    (h : Rule.codeBlock s.source = .error (.unterminated e) v) :
    recordComment mode t s = .error (.unterminated e)
      { s with source := v, events := s.events ++ [.found t.line] } := by
  have hcode : summarise mode { s with events := s.events ++ [.found t.line] } =
      .error (.unterminated e) { s with source := v, events := s.events ++ [.found t.line] } := by
    change EStateM.tryCatch (lift Rule.codeBlock) _ _ = _
    simp only [EStateM.tryCatch, lift, h]
    rfl
  rw [recordComment, bind_ok (report_eq _), bind_error hcode]

end CodeBlock

/-! ### The two scans -/

/-- What a scan reports of the doc-comments that it finds, while no block is malformed. -/
def foundEvents (found : List (Token × List Token)) : List ScanEvent :=
  found.map fun f => .found f.1.line

/-- **What a strict and a recovering scan of `tokens` come to** from the same scanner `s`. -/
inductive SideBySide (readTags : String → List Tag) (tokens : List Token) (s : Scanner) :
    EStateM.Result Failure Scanner Unit → EStateM.Result Failure Scanner Unit → Prop where
  /-- No block is malformed, and they end in the same state. -/
  | same {r : Scanner} (hformed : ∀ found ∈ documented tokens, ¬ Malformed found.2) :
      SideBySide readTags tokens s (.ok () r) (.ok () r)
  /-- The strict one stops at the first malformed block.  The recovering one is in the same state
  there, but for the record of the block and what it says of it, and goes on. -/
  | stopped {m : Mismatch} {strict recovering : Scanner} {front : List (Token × List Token)}
      {t : Token} {behind : List Token} (made later : List Record) (others : List ScanEvent)
      (hfirst : FirstMalformed tokens front t behind)
      (hstrict : strict.records = s.records ++ made) (hmade : made.length = front.length)
      (hrecovering : recovering.records =
        s.records ++ made ++ ⟨readTags t.text, t.line, .unrecognised⟩ :: later)
      (hevents : strict.events = s.events ++ foundEvents (front ++ [(t, behind)]))
      (hskipped : recovering.events = strict.events ++ .skipped m :: others) :
      SideBySide readTags tokens s (.error (.mismatch m) strict) (.ok () recovering)

/-- A round that both scans make alike and that makes no record. -/
theorem SideBySide.of_other {tokens tokens' : List Token} {u : TokenSource}
    {strict recovering : EStateM.Result Failure Scanner Unit}
    (h : SideBySide readTags tokens' { s with source := u } strict recovering)
    (htokens : documented tokens = documented tokens') :
    SideBySide readTags tokens s strict recovering := by
  cases h with
  | same hformed => exact .same (htokens ▸ hformed)
  | stopped made later others hfirst hstrict hmade hrecovering hevents hskipped =>
      exact .stopped made later others ⟨htokens ▸ hfirst.found, hfirst.before, hfirst.malformed⟩
        hstrict hmade hrecovering hevents hskipped

/-- A round that both scans make alike and that makes a record. -/
theorem SideBySide.of_formed {tokens tokens' behind : List Token} {u : TokenSource} {r : Record}
    {strict recovering : EStateM.Result Failure Scanner Unit}
    (h : SideBySide readTags tokens' ⟨u, s.records ++ [r], s.events ++ [.found t.line]⟩ strict
      recovering)
    (htokens : documented tokens = (t, behind) :: documented tokens')
    (hformed : ¬ Malformed behind) : SideBySide readTags tokens s strict recovering := by
  cases h with
  | same hothers =>
      refine .same fun found hfound => ?_
      rw [htokens] at hfound
      rcases List.mem_cons.1 hfound with rfl | hfound
      · exact hformed
      · exact hothers found hfound
  | stopped made later others hfirst hstrict hmade hrecovering hevents hskipped =>
      rename_i front t' behind'
      obtain ⟨back, hback⟩ := hfirst.found
      have hfirst' : FirstMalformed tokens ((t, behind) :: front) t' behind' := by
        refine ⟨⟨back, by rw [htokens, hback]; rfl⟩, fun found hfound => ?_, hfirst.malformed⟩
        rcases List.mem_cons.1 hfound with rfl | hfound
        · exact hformed
        · exact hfirst.before found hfound
      refine .stopped (r :: made) later others hfirst' ?_ (by simp [hmade]) ?_ ?_ hskipped
      · rw [hstrict, List.append_assoc, List.singleton_append]
      · rw [hrecovering]
        simp
      · rw [hevents]
        simp [foundEvents]

/-- A malformed block at which the strict scan stops.  The recovering one reaches the end, and only
adds to what it had. -/
theorem SideBySide.of_malformed {tokens rest behind : List Token} {m : Mismatch} {v : TokenSource}
    {rounds : Nat} (hv : v.upcoming = rest.map .ok) (hkinds : ∀ t ∈ rest, t.kind ≠ .endOfInput)
    (hrounds : rest.length < rounds)
    (htokens : documented tokens = (t, behind) :: documented rest) (hmalformed : Malformed behind) :
    SideBySide readTags tokens s
      (.error (.mismatch m) { s with source := v, events := s.events ++ [.found t.line] })
      (scanUpTo ⟨true, readTags⟩ rounds
        { source := v, records := s.records ++ [⟨readTags t.text, t.line, .unrecognised⟩],
          events := s.events ++ [.found t.line] ++ [.skipped m] }) := by
  have hfirst : FirstMalformed tokens [] t behind := ⟨⟨_, htokens⟩, by simp, hmalformed⟩
  -- where the recovering scan is when the strict one has stopped
  set onward : Scanner :=
    { source := v, records := s.records ++ [⟨readTags t.text, t.line, .unrecognised⟩],
      events := s.events ++ [.found t.line] ++ [.skipped m] } with honward
  have houtcome : Outcome readTags rest onward [] (scanUpTo ⟨true, readTags⟩ rounds onward) :=
    outcome_scanUpTo (by simp) rounds rest onward (by rw [List.append_nil]; exact hv) hkinds hrounds
  have hgrows := (grows_scanUpTo ⟨true, readTags⟩ rounds onward).2
  generalize scanUpTo ⟨true, readTags⟩ rounds onward = result at houtcome hgrows
  cases houtcome with
  | finished later hrecords _ =>
      obtain ⟨others, hothers⟩ := hgrows
      refine .stopped [] later others hfirst (List.append_nil _).symm rfl ?_ rfl ?_
      · rw [hrecords, honward, List.append_nil, List.append_assoc]
        rfl
      · rw [left] at hothers
        rw [← hothers, honward, List.append_assoc]
        rfl

/-- **The round of a doc-comment in both scans**, where from what it leaves both go on as they
should. -/
theorem sideBySide_doc {rounds : Nat} {tokens : List Token}
    (hs : s.source.upcoming = (t :: tokens).map .ok) (hdoc : t.kind = .docComment)
    (hkinds : ∀ t ∈ tokens, t.kind ≠ .endOfInput) (hrounds : tokens.length < rounds)
    (hmore : ∀ (rest : List Token) (s' : Scanner), s'.source.upcoming = rest.map .ok →
      rest <:+ tokens → SideBySide readTags rest s' (scanUpTo ⟨false, readTags⟩ rounds s')
        (scanUpTo ⟨true, readTags⟩ rounds s')) :
    SideBySide readTags (t :: tokens) s (scanUpTo ⟨false, readTags⟩ (rounds + 1) s)
      (scanUpTo ⟨true, readTags⟩ (rounds + 1) s) := by
  obtain ⟨u, left, v, hround, hleft, hsame, hv, hblock⟩ := codeBlock_documented hs hdoc
  rw [scanUpTo, scanUpTo]
  rcases hblock with ⟨code, hblock, hformed, -⟩ | ⟨m, hblock, hmalformed⟩
  · -- both scans make the same record
    rw [bind_ok ((hround _).trans (recordComment_of_answer _ hblock)),
      bind_ok ((hround _).trans (recordComment_of_answer _ hblock))]
    refine (hmore _ ⟨v, _, _⟩ hv hleft).of_formed ?_ hformed
    rw [documented_doc hdoc, hsame]
  · -- the strict scan ends here, and the other one goes on to the end
    rw [bind_error ((hround _).trans (recordComment_strict hblock)),
      bind_ok ((hround _).trans (recordComment_recovering hblock))]
    refine SideBySide.of_malformed hv (fun t ht => hkinds t (hleft.subset ht))
      (Nat.lt_of_le_of_lt hleft.length_le hrounds) ?_ hmalformed
    rw [documented_doc hdoc, hsame]

/-- **The run of both scans**: from any scanner, and with as many rounds as there are tokens or
more. -/
theorem sideBySide_scanUpTo (readTags : String → List Tag) :
    ∀ (rounds : Nat) (tokens : List Token) (s : Scanner),
      s.source.upcoming = tokens.map .ok → (∀ t ∈ tokens, t.kind ≠ .endOfInput) →
      tokens.length < rounds →
      SideBySide readTags tokens s (scanUpTo ⟨false, readTags⟩ rounds s)
        (scanUpTo ⟨true, readTags⟩ rounds s) := by
  intro rounds
  induction rounds with
  | zero => exact fun _ _ _ _ h => absurd h (Nat.not_lt_zero _)
  | succ rounds ih =>
      intro tokens s hs hkind hlen
      cases tokens with
      | nil =>
          obtain ⟨u, -, hround⟩ := round_nil hs
          rw [scanUpTo, scanUpTo, bind_ok (hround _), bind_ok (hround _)]
          exact .same (by simp [documented])
      | cons t tokens =>
          have hkind' : ∀ t ∈ tokens, t.kind ≠ .endOfInput :=
            fun t' ht' => hkind t' (List.mem_cons_of_mem t ht')
          rw [List.length_cons] at hlen
          by_cases hdoc : t.kind = .docComment
          · refine sideBySide_doc hs hdoc hkind' (by omega) fun rest s' hs' hrest => ?_
            have hle := hrest.length_le
            exact ih rest s' hs' (fun t ht => hkind' t (hrest.subset ht)) (by omega)
          · obtain ⟨u, hu, hround⟩ := round_other hs (hkind t List.mem_cons_self) hdoc
            rw [scanUpTo, scanUpTo, bind_ok (hround _), bind_ok (hround _)]
            exact (ih tokens _ hu hkind' (by omega)).of_other (documented_other hdoc tokens)

/-- **A strict and a recovering scan agree up to the first malformed block.** -/
theorem strict_agrees_to_malformed {source : String} {tokens : List Token}
    (readTags : String → List Tag) (h : tokenize source = .ok tokens) :
    ∃ r, scan ⟨true, readTags⟩ (ofString source) = .ok () r ∧
      ((∃ m s, scan ⟨false, readTags⟩ (ofString source) = .error (.mismatch m) s) ↔
        ∃ found ∈ documented tokens, Malformed found.2) ∧
      match scan ⟨false, readTags⟩ (ofString source) with
      | .ok _ s => s = r
      | .error f s => ∃ m front t behind, f = .mismatch m ∧
          FirstMalformed tokens front t behind ∧
          s.records = r.records.take front.length ∧ s.records.length = front.length ∧
          r.records[front.length]? = some ⟨readTags t.text, t.line, .unrecognised⟩ ∧
          s.events = foundEvents (front ++ [(t, behind)]) ∧
          (∃ later, r.events = s.events ++ .skipped m :: later) ∧
          (ScanEvent.skipped m).message =
            "skipping malformed code after doc-comment: " ++ f.message := by
  have hview := tokenize_view source
  rw [h] at hview
  have hkinds : ∀ t ∈ tokens, t.kind ≠ .endOfInput := fun t ht =>
    kind_ne_endOfInput_of_mem_upcoming (hview ▸ List.mem_map_of_mem ht)
  have hrounds : tokens.length < (ofString source).source.size + 1 := by
    rw [size_eq_length_upcoming, ofString, ofSource, hview, List.length_map]
    exact Nat.lt_succ_self _
  have hboth : SideBySide readTags tokens (ofString source)
      (scan ⟨false, readTags⟩ (ofString source)) (scan ⟨true, readTags⟩ (ofString source)) :=
    sideBySide_scanUpTo readTags _ tokens (ofString source) hview hkinds hrounds
  generalize scan ⟨false, readTags⟩ (ofString source) = strict at hboth ⊢
  generalize scan ⟨true, readTags⟩ (ofString source) = recovering at hboth ⊢
  cases hboth with
  | @same r hformed =>
      refine ⟨r, rfl, ⟨?_, ?_⟩, rfl⟩
      · rintro ⟨m, s, hm⟩
        exact absurd hm (by simp)
      · rintro ⟨found, hfound, hmalformed⟩
        exact absurd hmalformed (hformed found hfound)
  | @stopped m strict recovering front t behind made later others hfirst hstrict hmade hrecovering
      hevents hskipped =>
      replace hstrict : strict.records = made := hstrict
      replace hrecovering : recovering.records =
        made ++ ⟨readTags t.text, t.line, .unrecognised⟩ :: later := hrecovering
      refine ⟨recovering, rfl, ⟨fun _ => ?_, fun _ => ⟨m, strict, rfl⟩⟩,
        m, front, t, behind, rfl, hfirst, ?_, ?_, ?_, hevents, ⟨others, hskipped⟩, rfl⟩
      · obtain ⟨back, hback⟩ := hfirst.found
        exact ⟨(t, behind), by simp [hback], hfirst.malformed⟩
      · rw [hstrict, hrecovering, ← hmade, List.take_left]
      · rw [hstrict, hmade]
      · rw [hrecovering, ← hmade, List.getElem?_append_right (Nat.le_refl _), Nat.sub_self]
        rfl

/-- The second of three blocks is malformed. -/
theorem strict_agrees_to_malformed_second :
    let source := "/** a */ var x;\n/** b */ Ext.define('C' \x7b\n/** c */ y"
    let tokens : List Token :=
      [⟨.docComment, " a ", 1, 1⟩, ⟨.keyword, "var", 1, 10⟩, ⟨.ident, "x", 1, 14⟩,
        ⟨.punct, ";", 1, 15⟩, ⟨.docComment, " b ", 2, 1⟩, ⟨.ident, "Ext", 2, 10⟩,
        ⟨.punct, ".", 2, 13⟩, ⟨.ident, "define", 2, 14⟩, ⟨.punct, "(", 2, 20⟩,
        ⟨.string, "C", 2, 21⟩, ⟨.punct, "\x7b", 2, 25⟩, ⟨.docComment, " c ", 3, 1⟩,
        ⟨.ident, "y", 3, 10⟩]
    let readTags : String → List Tag := fun _ => []
    tokenize source = .ok tokens ∧
      ∃ m s r, scan ⟨false, readTags⟩ (ofString source) = .error (.mismatch m) s ∧
        scan ⟨true, readTags⟩ (ofString source) = .ok () r ∧ s.records.length = 1 ∧
          s.records = r.records.take 1 ∧ r.records[1]? = some ⟨[], 2, .unrecognised⟩ := by
  intro source tokens readTags
  have htokens : tokenize source = .ok tokens := by decide +kernel
  have hstops : (match scan ⟨false, readTags⟩ (ofString source) with
      | .ok _ _ => 0
      | .error (.unterminated _) _ => 0
      | .error (.mismatch _) s => s.records.length) = 1 := by decide +kernel
  obtain ⟨r, hr, -, hstrict⟩ := strict_agrees_to_malformed readTags htokens
  split at hstrict
  · next hs => rw [hs] at hstops; exact absurd hstops (by simp)
  · next f s hs =>
      rw [hs] at hstops
      obtain ⟨m, front, t, behind, rfl, hfirst, hrecords, hlength, hrecord, -⟩ := hstrict
      have hone : s.records.length = 1 := hstops
      rw [hone] at hlength
      rw [← hlength] at hrecords hrecord
      obtain ⟨back, hback⟩ := hfirst.found
      have hline : (documented tokens)[1]? = some (t, behind) := by
        rw [hback, hlength, List.getElem?_append_right (Nat.le_refl _), Nat.sub_self]
        rfl
      have hsecond : (documented tokens)[1]?.map Prod.fst = some ⟨.docComment, " b ", 2, 1⟩ := by
        decide
      rw [hline] at hsecond
      obtain rfl : t = ⟨.docComment, " b ", 2, 1⟩ := Option.some.inj hsecond
      exact ⟨htokens, m, s, r, hs, hr, hone, hrecords, hrecord⟩

end Scanner

end DocComments
