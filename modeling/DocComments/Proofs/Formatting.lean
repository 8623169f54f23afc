import DocComments.Proofs.CodeBlockContent
import DocComments.Proofs.Scanning

/-!
# Scans do not depend on formatting

Blanks, line breaks and plain comments decide where the tokens of a source stand, and nothing
else.  `Scanner.scan_formatting` says that a scan shows nothing of it: on two sources whose tokens
have the same kinds and texts, it finds the same comments and code that no one can tell apart, or
stops at the same mismatch with the same records made so far.  Lines and columns are all that can
differ.

A scan is built from rules, from what is reported, and from what is recorded; the rules are known
(`Rule.alike_codeBlock`), so each further step is one more lemma of the calculus of `Alike`.
-/

namespace DocComments

open TokenSource

/-! ### What does not depend on places -/

/-- What of a record does not depend on places: its tags, and its code without lines. -/
def Record.content (r : Record) : List Tag × Summary :=
  (r.comment, r.code.bare)

/-- What of an event does not depend on places: whether code was skipped, and for what
mismatch. -/
def ScanEvent.content : ScanEvent → Option (List TokenTest × (TokenKind × List Char))
  | found _ => none
  | skipped m => some m.content

/-- **The records agree**: the same tags, and code that no one can tell apart. -/
structure Record.Agrees (r r' : Record) : Prop where
  /-- The tags. -/
  comment : r.comment = r'.comment
  /-- The code. -/
  code : r.code.Indistinct r'.code

theorem Record.agrees_of_content {r r' : Record} (h : r.content = r'.content) : r.Agrees r' := by
  obtain ⟨hcomment, hcode⟩ := Prod.mk.inj h
  exact ⟨hcomment, Summary.indistinct_of_bare hcode⟩

namespace Scanner

/-- **The scans stand alike**: the same contents are to come, and were recorded and reported. -/
structure SameContent (s s' : Scanner) : Prop where
  /-- The tokens to come. -/
  source : s.source.SameContent s'.source
  /-- The records made so far. -/
  records : s.records.map Record.content = s'.records.map Record.content
  /-- What was reported so far. -/
  events : s.events.map ScanEvent.content = s'.events.map ScanEvent.content

/-- **The scans agree** on what they have recorded and reported. -/
structure Agrees (s s' : Scanner) : Prop where
  /-- The records, one by one. -/
  records : List.Forall₂ Record.Agrees s.records s'.records
  /-- The events, one by one. -/
  events : s.events.map ScanEvent.content = s'.events.map ScanEvent.content

theorem SameContent.agrees {s s' : Scanner} (h : SameContent s s') : s.Agrees s' := by
  refine ⟨?_, h.events⟩
  have hcontents : List.Forall₂ (fun r r' => Record.content r = Record.content r')
      s.records s'.records := by
    have hrecords := h.records
    rwa [← List.forall₂_eq_eq_eq, List.forall₂_map_left_iff, List.forall₂_map_right_iff] at hrecords
  exact hcontents.imp fun _ _ hcontent => Record.agrees_of_content hcontent

/-! ### Steps -/

variable {α κ : Type} {e : α → κ}

theorem alike_lift {rule : Rule α} (h : Rule.IgnoresPlaces e rule) :
    Alike SameContent e (lift rule) (lift rule) := by
  intro s s' hs
  have hrule := h hs.source
  simp only [lift]
  generalize rule s.source = x at hrule ⊢
  generalize rule s'.source = x' at hrule ⊢
  cases hrule with
  | answer hleft ha => exact .answer ⟨hleft, hs.records, hs.events⟩ ha
  | mismatch hleft hm => exact .mismatch ⟨hleft, hs.records, hs.events⟩ hm

theorem alike_report {event event' : ScanEvent} (h : event.content = event'.content) :
    Alike SameContent id (report event) (report event') := by
  intro s s' hs
  refine .answer ⟨hs.source, hs.records, ?_⟩ rfl
  rw [List.map_append, List.map_append, List.map_singleton, List.map_singleton, hs.events, h]

theorem alike_summarise (mode : ScanMode) :
    Alike SameContent Summary.bare (summarise mode) (summarise mode) := by
  apply (alike_lift Rule.alike_codeBlock).tryCatch
  intro m m' hm
  cases hrecover : mode.recover with
  | false => exact alike_throw hm
  | true =>
      have hevent : (ScanEvent.skipped m).content = (ScanEvent.skipped m').content :=
        congrArg some hm
      exact (alike_report hevent).bind_id fun _ => alike_pure rfl

/-- The record of a doc-comment is the same for every comment with the same content. -/
theorem alike_recordComment (mode : ScanMode) {t t' : Token} (ht : t.content = t'.content) :
    Alike SameContent id (recordComment mode t) (recordComment mode t') := by
  apply (alike_report (by rfl)).bind_id
  intro _
  apply (alike_summarise mode).bind
  intro code code' hcode
  refine Alike.bind_id ?_ fun _ => alike_pure rfl
  intro s s' hs
  have hmade : s.records.map Record.content ++ [(mode.readTags t.text, code.bare)] =
      s'.records.map Record.content ++ [(mode.readTags t'.text, code'.bare)] := by
    rw [hs.records, Token.text_eq_of_content ht, hcode]
  refine .answer ⟨hs.source, ?_, hs.events⟩ rfl
  rw [List.map_append, List.map_append]
  exact hmade

theorem alike_round (mode : ScanMode) : Alike SameContent id (round mode) (round mode) := by
  apply (alike_lift Rule.alike_atEnd).bind_id
  intro ended
  cases ended with
  | true => exact alike_pure rfl
  | false =>
      apply (alike_lift (Rule.alike_look _)).bind_id
      intro documented
      cases documented with
      | true =>
          apply (alike_lift Rule.alike_next).bind
          intro t t' ht
          exact alike_recordComment mode ht
      | false => exact (alike_lift Rule.alike_next).bind fun _ _ _ => alike_pure rfl

/-! ### The whole scan -/

theorem alike_scanUpTo (mode : ScanMode) (rounds : Nat) :
    Alike SameContent id (scanUpTo mode rounds) (scanUpTo mode rounds) := by
  induction rounds with
  | zero => exact alike_pure rfl
  | succ rounds ih =>
      apply (alike_round mode).bind_id
      intro more
      cases more with
      | true => exact ih
      | false => exact alike_pure rfl

theorem alike_scan (mode : ScanMode) : Alike SameContent id (scan mode) (scan mode) := by
  intro s s' hs
  have hscan := alike_scanUpTo mode (s.source.size + 1) hs
  change SameButPlaces SameContent id (scanUpTo mode (s.source.size + 1) s)
    (scanUpTo mode (s'.source.size + 1) s')
  rw [← hs.source.size_eq]
  exact hscan

/-- A recovering scan of a source without a construct left open comes to its end. -/
theorem exists_scan_recovering (readTags : String → List Tag) {source : String}
    {tokens : List Token} (h : tokenize source = .ok tokens) :
    ∃ s, scan ⟨true, readTags⟩ (ofString source) = .ok () s := by
  have hview := upcoming_of_tokenize h
  -- a round for each token, and one at the end
  have hrounds : tokens.length < (ofString source).source.size + 1 := by
    rw [size_eq_length_upcoming, ofString, ofSource, hview, List.length_map]
    exact Nat.lt_succ_self _
  have houtcome : Outcome readTags tokens (ofString source) []
      (scan ⟨true, readTags⟩ (ofString source)) :=
    outcome_scanUpTo (by simp) _ tokens (ofString source)
      (hview.trans (List.append_nil _).symm) (kind_ne_endOfInput_of_tokenize h) hrounds
  generalize scan ⟨true, readTags⟩ (ofString source) = result at houtcome
  cases houtcome with
  | finished => exact ⟨_, rfl⟩

/-- **What two scans come to that differ in formatting**: both reach the end, or both are strict
and stop at the same mismatch, and what they have made until then agrees. -/
inductive SameOutcome (mode : ScanMode) : EStateM.Result Failure Scanner Unit →
    EStateM.Result Failure Scanner Unit → Prop where
  | finished {s s' : Scanner} (hmade : s.Agrees s') : SameOutcome mode (.ok () s) (.ok () s')
  | stopped {m m' : Mismatch} {s s' : Scanner} (hstrict : mode.recover = false)
      (hexpected : m.expected = m'.expected) (hkind : m.actual.kind = m'.actual.kind)
      (htext : m.actual.text = m'.actual.text) (hmade : s.Agrees s') :
      SameOutcome mode (.error (.mismatch m) s) (.error (.mismatch m') s')

/-- **Formatting does not matter to a scan.**  Sources whose tokens have the same kinds and texts
are scanned alike, wherever the tokens stand. -/
theorem scan_formatting (mode : ScanMode) {source source' : String} {tokens tokens' : List Token}
    (h : tokenize source = .ok tokens) (h' : tokenize source' = .ok tokens')
    (hcontent : tokens.map Token.content = tokens'.map Token.content) :
    SameOutcome mode (scan mode (ofString source)) (scan mode (ofString source')) := by
  have hview := tokenize_view source
  have hview' := tokenize_view source'
  rw [h] at hview
  rw [h'] at hview'
  have hstart : SameContent (ofString source) (ofString source') :=
    ⟨⟨tokens, tokens', hview, hview', hcontent⟩, rfl, rfl⟩
  have hscan := alike_scan mode hstart
  -- a recovering scan meets no mismatch
  have hstrict : ∀ m s, scan mode (ofString source) = .error (.mismatch m) s →
      mode.recover = false := by
    intro m s hm
    obtain ⟨recover, readTags⟩ := mode
    cases recover with
    | false => rfl
    | true =>
        obtain ⟨s', hs'⟩ := exists_scan_recovering readTags h
        rw [hs'] at hm
        exact absurd hm (by simp)
  generalize scan mode (ofString source) = result at hscan hstrict ⊢
  generalize scan mode (ofString source') = result' at hscan ⊢
  cases hscan with
  | answer hleft _ => exact .finished hleft.agrees
  | mismatch hleft hm =>
      obtain ⟨hexpected, hactual⟩ := Prod.mk.inj hm
      exact .stopped (hstrict _ _ rfl) hexpected (Token.kind_eq_of_content hactual)
        (Token.text_eq_of_content hactual) hleft.agrees

/-- The same tokens on two lines and on six, up to a malformed block. -/
theorem scan_formatting_stopped :
    let source := "/** a */ f = [1]\n/** b */ var 2"
    let source' := "/** a */\nf // c\n=[\n1]\n\n/** b */var/**/2"
    let tokens : List Token :=
      [⟨.docComment, " a ", 1, 1⟩, ⟨.ident, "f", 1, 10⟩, ⟨.punct, "=", 1, 12⟩,
        ⟨.punct, "[", 1, 14⟩, ⟨.number, "1", 1, 15⟩, ⟨.punct, "]", 1, 16⟩,
        ⟨.docComment, " b ", 2, 1⟩, ⟨.keyword, "var", 2, 10⟩, ⟨.number, "2", 2, 14⟩]
    let tokens' : List Token :=
      [⟨.docComment, " a ", 1, 1⟩, ⟨.ident, "f", 2, 1⟩, ⟨.punct, "=", 3, 1⟩,
        ⟨.punct, "[", 3, 2⟩, ⟨.number, "1", 4, 1⟩, ⟨.punct, "]", 4, 2⟩,
        ⟨.docComment, " b ", 6, 1⟩, ⟨.keyword, "var", 6, 9⟩, ⟨.number, "2", 6, 16⟩]
    let mode : ScanMode := ⟨false, Tag.readAll⟩
    tokenize source = .ok tokens ∧ tokenize source' = .ok tokens' ∧
      tokens.map Token.content = tokens'.map Token.content ∧
      ∃ m m' s s', scan mode (ofString source) = .error (.mismatch m) s ∧
        scan mode (ofString source') = .error (.mismatch m') s' ∧ s.records.length = 1 ∧
        m.expected = m'.expected ∧ m.actual.text = m'.actual.text ∧ s.Agrees s' := by
  intro source source' tokens tokens' mode
  have h : tokenize source = .ok tokens := by decide +kernel
  have h' : tokenize source' = .ok tokens' := by decide +kernel
  have hcontent : tokens.map Token.content = tokens'.map Token.content := by decide
  have hone : (left (scan mode (ofString source))).records.length = 1 ∧
      answersWith (fun _ _ => true) (scan mode (ofString source)) = false := by decide +kernel
  have hboth := scan_formatting mode h h' hcontent
  generalize scan mode (ofString source) = result at hone hboth ⊢
  generalize scan mode (ofString source') = result' at hboth ⊢
  cases hboth with
  | finished => exact absurd hone.2 (by simp [answersWith])
  | stopped _ hexpected _ htext hmade =>
      exact ⟨h, h', hcontent, _, _, _, _, rfl, rfl, hone.1, hexpected, htext, hmade⟩

end Scanner

end DocComments
