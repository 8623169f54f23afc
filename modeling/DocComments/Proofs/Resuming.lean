import DocComments.Proofs.StrictScanning
import Mathlib.Data.List.Zip

/-!
# Taking a strict scan up again

A strict scan stops at a malformed code block, and can be taken up again from where it stopped.
`Scanner.Resumed` is what comes of doing so until a scan reaches the end, and
`Scanner.resumed_scans` compares it with one recovering scan: there are as many stops as malformed
blocks, and what is recorded is what the recovering scan records, without the records of these
blocks.

What a scan leaves when it stops is load-bearing: the doc-comments behind the malformed block, all
of them and nothing else (`TokenSource.Awaits`).  One scan is described by the doc-comments that it
goes through (`Scanner.StrictOutcome`), and the scans together by an induction on those to come.
-/

namespace DocComments

open TokenSource

/-! ### Malformed blocks -/

/-- The run ends in a mismatch. -/
def Rule.endsInMismatch {α : Type} : EStateM.Result Failure TokenSource α → Bool
  | .error (.mismatch _) _ => true
  | _ => false

/-- One run on the tokens alone decides whether their block is malformed. -/
theorem malformed_iff {behind : List Token} :
    Malformed behind ↔ Rule.endsInMismatch (Rule.codeBlock (ofTokens behind)) = true := by
  constructor
  · intro h
    obtain ⟨m, u, hrun⟩ := h _ (upcoming_ofTokens behind)
    rw [hrun]
    rfl
  · intro h
    have hsplit : (ofTokens behind).upcoming = behind.map .ok ++ ([] : List Token).map .ok := by
      simp
    obtain ⟨_, _, -, -, ⟨code, hrun, -⟩ | ⟨_, -, hmalformed⟩⟩ :=
      Scanner.codeBlock_behind hsplit Upcoming.stops_nil
    · rw [hrun] at h
      exact absurd h Bool.false_ne_true
    · exact hmalformed

instance {behind : List Token} : Decidable (Malformed behind) :=
  decidable_of_iff' _ malformed_iff

/-- **The places of the malformed blocks** among some doc-comments. -/
def malformedPlaces (found : List (Token × List Token)) : List Nat :=
  (List.range found.length).filter fun i => found[i]?.any fun f => Malformed f.2

/-- **The records that are kept**: those of blocks that are not malformed. -/
def keptRecords (recorded : List ((Token × List Token) × Record)) : List Record :=
  (recorded.filter fun e => ¬ Malformed e.1.2).map (·.2)

section Places

variable {found : (Token × List Token)} {more : List (Token × List Token)}

theorem malformedPlaces_cons :
    malformedPlaces (found :: more) =
      (if Malformed found.2 then [0] else []) ++ (malformedPlaces more).map (· + 1) := by
  rw [malformedPlaces, List.length_cons, List.range_succ_eq_map, List.filter_cons,
    List.filter_map]
  by_cases h : Malformed found.2 <;> simp [h, malformedPlaces, Function.comp_def]

theorem length_malformedPlaces (found : List (Token × List Token)) :
    (malformedPlaces found).length = found.countP fun f => Malformed f.2 := by
  induction found with
  | nil => rfl
  | cons f more ih =>
      rw [malformedPlaces_cons, List.length_append, List.length_map, ih, List.countP_cons]
      by_cases h : Malformed f.2 <;> simp [h, Nat.add_comm]

end Places

/-- What is kept before each malformed block, behind the records `made`. -/
def keptBefore (made : List Record) : List ((Token × List Token) × Record) → List (List Record)
  | [] => []
  | (found, r) :: more =>
      if Malformed found.2 then made :: keptBefore made more else keptBefore (made ++ [r]) more

theorem keptBefore_eq (made : List Record) (recorded : List ((Token × List Token) × Record)) :
    keptBefore made recorded = (malformedPlaces (recorded.map (·.1))).map fun i =>
      made ++ keptRecords (recorded.take i) := by
  induction recorded generalizing made with
  | nil => rfl
  | cons e more ih =>
      obtain ⟨found, r⟩ := e
      rw [List.map_cons, malformedPlaces_cons, List.map_append, List.map_map]
      by_cases h : Malformed found.2
      · simp [keptBefore, keptRecords, h, ih, Function.comp_def]
      · simp [keptBefore, keptRecords, h, ih, Function.comp_def]

/-- **The doc-comments that a source has to come**, where no construct is left open. -/
def TokenSource.Awaits (u : TokenSource) (found : List (Token × List Token)) : Prop :=
  ∃ tokens, u.upcoming = tokens.map .ok ∧ (∀ t ∈ tokens, t.kind ≠ .endOfInput) ∧
    documented tokens = found

theorem awaits_ofString {source : String} {tokens : List Token} (h : tokenize source = .ok tokens) :
    (TokenSource.ofString source).Awaits (documented tokens) :=
  ⟨tokens, upcoming_of_tokenize h, kind_ne_endOfInput_of_tokenize h, rfl⟩

namespace Scanner

variable {readTags : String → List Tag} {s : Scanner} {t : Token}

/-! ### One strict scan -/

/-- **What a strict scan comes to**, with the doc-comments that it has to come and the records made
before: it goes through them up to the end, or up to the first malformed block, and leaves those
behind it. -/
inductive StrictOutcome (readTags : String → List Tag) :
    List (Token × List Token) → List Record → EStateM.Result Failure Scanner Unit → Prop where
  | finished {made : List Record} {v : TokenSource} {events : List ScanEvent}
      (hend : v.upcoming = []) : StrictOutcome readTags [] made (.ok () ⟨v, made, events⟩)
  | malformed {made : List Record} {v : TokenSource} {events : List ScanEvent} {m : Mismatch}
      {t : Token} {behind : List Token} {more : List (Token × List Token)}
      (hmalformed : Malformed behind) (hmore : v.Awaits more) :
      StrictOutcome readTags ((t, behind) :: more) made (.error (.mismatch m) ⟨v, made, events⟩)
  | formed {t : Token} {behind : List Token} {more : List (Token × List Token)}
      {made : List Record} {r : Record} {result : EStateM.Result Failure Scanner Unit}
      (hformed : ¬ Malformed behind) (hr : r.Describes readTags t behind)
      (h : StrictOutcome readTags more (made ++ [r]) result) :
      StrictOutcome readTags ((t, behind) :: more) made result

/-- **The round of a doc-comment in a strict scan** makes the record that describes it, or stops at
its malformed block; either way the doc-comments behind it are left. -/
theorem round_strict (readTags : String → List Tag) {tokens : List Token}
    (h : s.source.upcoming = (t :: tokens).map .ok) (hdoc : t.kind = .docComment) :
    ∃ left v, left <:+ tokens ∧ documented left = documented tokens ∧ v.upcoming = left.map .ok ∧
      ((¬ Malformed (tokens.takeWhile (·.kind ≠ .docComment)) ∧
          ∃ r events, r.Describes readTags t (tokens.takeWhile (·.kind ≠ .docComment)) ∧
            round ⟨false, readTags⟩ s = .ok true ⟨v, s.records ++ [r], events⟩) ∨
        (Malformed (tokens.takeWhile (·.kind ≠ .docComment)) ∧
          ∃ m events, round ⟨false, readTags⟩ s =
            .error (.mismatch m) ⟨v, s.records, events⟩)) := by
  obtain ⟨u, left, v, hround, hleft, hsame, hv, hblock⟩ := codeBlock_documented h hdoc
  refine ⟨left, v, hleft, hsame, hv, ?_⟩
  rcases hblock with ⟨code, hcode, hformed, hsummary⟩ | ⟨m, hcode, hmalformed⟩
  · exact .inl ⟨hformed, _, _, ⟨rfl, rfl, hsummary⟩,
      (hround _).trans (recordComment_of_answer _ hcode)⟩
  · exact .inr ⟨hmalformed, m, _, (hround _).trans (recordComment_strict hcode)⟩

/-- **The run of a strict scan**: from any scanner, and with as many rounds as there are tokens or
more. -/
theorem strictOutcome_scanUpTo (readTags : String → List Tag) :
    ∀ (rounds : Nat) (tokens : List Token) (s : Scanner),
      s.source.upcoming = tokens.map .ok → (∀ t ∈ tokens, t.kind ≠ .endOfInput) →
      tokens.length < rounds →
      StrictOutcome readTags (documented tokens) s.records
        (scanUpTo ⟨false, readTags⟩ rounds s) := by
  intro rounds
  induction rounds with
  | zero => exact fun _ _ _ _ h => absurd h (Nat.not_lt_zero _)
  | succ rounds ih =>
      intro tokens s hs hkind hlen
      rw [scanUpTo]
      cases tokens with
      | nil =>
          obtain ⟨u, hu, hround⟩ := round_nil hs
          rw [bind_ok (hround _)]
          exact .finished hu
      | cons t tokens =>
          have hkind' : ∀ t ∈ tokens, t.kind ≠ .endOfInput :=
            fun t' ht' => hkind t' (List.mem_cons_of_mem t ht')
          rw [List.length_cons] at hlen
          by_cases hdoc : t.kind = .docComment
          · obtain ⟨left, v, hleft, hsame, hv, hblock⟩ := round_strict readTags hs hdoc
            have hshort := hleft.length_le
            have hkinds : ∀ t ∈ left, t.kind ≠ .endOfInput := fun t ht => hkind' t (hleft.subset ht)
            rw [documented_doc hdoc, ← hsame]
            rcases hblock with ⟨hformed, r, events, hr, hround⟩ | ⟨hmalformed, m, events, hround⟩
            · rw [bind_ok hround]
              exact .formed hformed hr (ih left ⟨v, s.records ++ [r], events⟩ hv hkinds (by omega))
            · rw [bind_error hround]
              exact .malformed hmalformed ⟨left, hv, hkinds, rfl⟩
          · obtain ⟨u, hu, hround⟩ := round_other hs (hkind t List.mem_cons_self) hdoc
            rw [bind_ok (hround _), documented_other hdoc]
            exact ih tokens { s with source := u } hu hkind' (by omega)

theorem strictOutcome_scan (readTags : String → List Tag) {s : Scanner}
    {found : List (Token × List Token)} (h : s.source.Awaits found) :
    StrictOutcome readTags found s.records (scan ⟨false, readTags⟩ s) := by
  obtain ⟨tokens, hs, hkinds, rfl⟩ := h
  refine strictOutcome_scanUpTo readTags _ tokens s hs hkinds ?_
  rw [size_eq_length_upcoming, hs, List.length_map]
  exact Nat.lt_succ_self _

/-! ### Strict scans one after the other -/

/-- **A strict scan is taken up again** after each mismatch, until it reaches the end.  The list has
what each scan that stopped had recorded. -/
inductive Resumed (readTags : String → List Tag) :
    Scanner → List (List Record) → Scanner → Prop where
  | finished {s s' : Scanner} (h : scan ⟨false, readTags⟩ s = .ok () s') : Resumed readTags s [] s'
  | stopped {s s' final : Scanner} {m : Mismatch} {partials : List (List Record)}
      (h : scan ⟨false, readTags⟩ s = .error (.mismatch m) s')
      (hmore : Resumed readTags s' partials final) :
      Resumed readTags s (s'.records :: partials) final

/-- What is recorded of some doc-comments, one record for each. -/
abbrev Recorded (readTags : String → List Tag) (found : List (Token × List Token))
    (records : List Record) : Prop :=
  List.Forall₂ (fun f r => Record.Describes readTags f.1 f.2 r) found records

/-- **What one strict scan leaves to those after it.** -/
theorem StrictOutcome.left {found : List (Token × List Token)} {made recovered : List Record}
    {result : EStateM.Result Failure Scanner Unit} (h : StrictOutcome readTags found made result)
    (hrecovered : Recorded readTags found recovered) :
    match result with
    | .ok _ s' => s'.source.upcoming = [] ∧
        s'.records = made ++ keptRecords (found.zip recovered) ∧
        keptBefore made (found.zip recovered) = []
    | .error f s' => ∃ m more later, f = .mismatch m ∧ s'.source.Awaits more ∧
        Recorded readTags more later ∧ more.length < found.length ∧
        keptBefore made (found.zip recovered) =
          s'.records :: keptBefore s'.records (more.zip later) ∧
        made ++ keptRecords (found.zip recovered) =
          s'.records ++ keptRecords (more.zip later) := by
  induction h generalizing recovered with
  | finished hend =>
      cases hrecovered
      exact ⟨hend, (List.append_nil _).symm, rfl⟩
  | malformed hmalformed hmore =>
      cases hrecovered with
      | cons _ hlater =>
          refine ⟨_, _, _, rfl, hmore, hlater, Nat.lt_succ_self _, ?_, ?_⟩
          · simp [keptBefore, hmalformed]
          · simp [keptRecords, hmalformed]
  | @formed t behind more made r result hformed hr _ ih =>
      cases hrecovered with
      | @cons _ r' _ later hr' hlater =>
          obtain rfl := hr.unique hr'
          have hleft := ih hlater
          have hbefore : keptBefore made (((t, behind), r) :: more.zip later) =
              keptBefore (made ++ [r]) (more.zip later) := if_neg hformed
          have hkept : made ++ keptRecords (((t, behind), r) :: more.zip later) =
              made ++ [r] ++ keptRecords (more.zip later) := by
            simp [keptRecords, hformed]
          rw [List.zip_cons_cons, hbefore, hkept]
          split
          · exact hleft
          · next f s' =>
              obtain ⟨m, more', later', rfl, hawaits, hlater', hlt, hpartials, hrecords⟩ := hleft
              exact ⟨m, more', later', rfl, hawaits, hlater', Nat.lt_succ_of_lt hlt, hpartials,
                hrecords⟩

/-- **All scans together**: from any scanner, whatever was recorded before. -/
theorem exists_resumed {found : List (Token × List Token)} {recovered : List Record}
    (hrecovered : Recorded readTags found recovered) (hs : s.source.Awaits found) :
    ∃ partials final, Resumed readTags s partials final ∧ final.source.upcoming = [] ∧
      partials = keptBefore s.records (found.zip recovered) ∧
      final.records = s.records ++ keptRecords (found.zip recovered) := by
  -- on the number of doc-comments to come: a scan that stops has taken one
  obtain ⟨count, hcount⟩ : ∃ count, count = found.length := ⟨_, rfl⟩
  induction count using Nat.strongRecOn generalizing found recovered s with
  | ind count ih =>
  have houtcome := strictOutcome_scan readTags hs
  generalize hscan : scan ⟨false, readTags⟩ s = result at houtcome
  have hleft := houtcome.left hrecovered
  cases result with
  | ok _ s' =>
      obtain ⟨hend, hrecords, hpartials⟩ := hleft
      exact ⟨[], s', .finished hscan, hend, hpartials.symm, hrecords⟩
  | error f s' =>
      obtain ⟨m, more, later, rfl, hawaits, hlater, hlt, hpartials, hrecords⟩ := hleft
      obtain ⟨partials, final, hresumed, hend, rfl, hfinal⟩ :=
        ih more.length (hcount ▸ hlt) hlater hawaits rfl
      exact ⟨_, final, .stopped hscan hresumed, hend, hpartials.symm, hfinal.trans hrecords.symm⟩

/-- At the end a scan records nothing more. -/
theorem scan_end (mode : ScanMode) (hs : s.source.upcoming = []) :
    ∃ s', scan mode s = .ok () s' ∧ s'.records = s.records := by
  obtain ⟨u, -, hround⟩ := round_nil hs
  refine ⟨{ s with source := u }, ?_, rfl⟩
  change scanUpTo mode (s.source.size + 1) s = _
  rw [scanUpTo, bind_ok (hround mode)]
  rfl

/-- **A strict scan that is taken up again loses no record and repeats none.**  It stops once for
each malformed block.  With the records of a recovering scan, one for each doc-comment: what is
recorded in the end are those without the ones of malformed blocks, and at each stop those that
come before the block.  One scan more changes nothing. -/
theorem resumed_scans {source : String} {tokens : List Token} (readTags : String → List Tag)
    (h : tokenize source = .ok tokens) :
    ∃ partials final recovered, Resumed readTags (ofString source) partials final ∧
      scan ⟨true, readTags⟩ (ofString source) = .ok () recovered ∧
      recovered.records.length = (documented tokens).length ∧
      partials.length = (documented tokens).countP (fun found => Malformed found.2) ∧
      (partials = (malformedPlaces (documented tokens)).map fun i =>
        keptRecords (((documented tokens).zip recovered.records).take i)) ∧
      final.records = keptRecords ((documented tokens).zip recovered.records) ∧
      ∃ again, scan ⟨false, readTags⟩ final = .ok () again ∧ again.records = final.records := by
  have hscan := scan_recovering source readTags
  rw [h] at hscan
  obtain ⟨recovered, hrecovering, hrecovered⟩ := hscan
  obtain ⟨partials, final, hresumed, hend, hpartials, hfinal⟩ :=
    exists_resumed (s := ofString source) hrecovered (awaits_ofString h)
  have hlength := hrecovered.length_eq
  rw [keptBefore_eq, List.map_fst_zip (Nat.le_of_eq hlength)] at hpartials
  refine ⟨partials, final, recovered, hresumed, hrecovering, hlength.symm, ?_, hpartials, hfinal,
    scan_end _ hend⟩
  rw [hpartials, List.length_map, length_malformedPlaces]

/-- The first and the last of three blocks are malformed. -/
theorem resumed_scans_twice :
    let source := "/** a */ function\n/** b */ x /** c */ Ext.define('C'"
    let tokens : List Token :=
      [⟨.docComment, " a ", 1, 1⟩, ⟨.keyword, "function", 1, 10⟩, ⟨.docComment, " b ", 2, 1⟩,
        ⟨.ident, "x", 2, 10⟩, ⟨.docComment, " c ", 2, 12⟩, ⟨.ident, "Ext", 2, 21⟩,
        ⟨.punct, ".", 2, 24⟩, ⟨.ident, "define", 2, 25⟩, ⟨.punct, "(", 2, 31⟩,
        ⟨.string, "C", 2, 32⟩]
    let readTags : String → List Tag := fun _ => []
    tokenize source = .ok tokens ∧ malformedPlaces (documented tokens) = [0, 2] ∧
      ∃ partials final recovered, Resumed readTags (ofString source) partials final ∧
        scan ⟨true, readTags⟩ (ofString source) = .ok () recovered ∧
        recovered.records.length = 3 ∧ partials.length = 2 ∧
        (partials = [0, 2].map fun i =>
          keptRecords (((documented tokens).zip recovered.records).take i)) ∧
        final.records = keptRecords ((documented tokens).zip recovered.records) ∧
        ∃ again, scan ⟨false, readTags⟩ final = .ok () again ∧ again.records = final.records := by
  intro source tokens readTags
  have htokens : tokenize source = .ok tokens := by decide +kernel
  have hplaces : malformedPlaces (documented tokens) = [0, 2] := by decide
  obtain ⟨partials, final, recovered, hresumed, hrecovering, hlength, -, hpartials, hfinal,
    hagain⟩ := resumed_scans readTags htokens
  rw [hplaces] at hpartials
  exact ⟨htokens, hplaces, partials, final, recovered, hresumed, hrecovering, hlength,
    by rw [hpartials]; rfl, hpartials, hfinal, hagain⟩

end Scanner

end DocComments
