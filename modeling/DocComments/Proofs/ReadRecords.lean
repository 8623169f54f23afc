import DocComments.Proofs.ReadSummaries
import DocComments.Proofs.StrictScanning

/-!
# What records are read from

Every record of a scan has its summary from the source (`Scanner.readFrom_afterScans`): in either
mode, whatever stops the scan, and through any number of scans that take it up again.

`Scanner.Keeps` is the judgement on the steps of a scan.  The invariant (`Scanner.ReadFrom`) is that
the source to come is what is left of the one at the start, and that the records so far were read
from it; one round keeps it, and so do all rounds of all scans.
-/

namespace DocComments

open TokenSource

namespace Scanner

/-! ### Steps that keep an invariant -/

variable {α β : Type} {I : Scanner → Prop} {step : Step α} {P : α → Prop} {Q : β → Prop}

/-- **The step keeps the invariant `I`**, whether it answers or fails, and its answer has the
property `P`. -/
def Keeps (I : Scanner → Prop) (step : Step α) (P : α → Prop) : Prop :=
  ∀ s, I s → I (left (step s)) ∧ ∀ a s', step s = .ok a s' → P a

theorem keeps_pure {a : α} (h : P a) : Keeps I (pure a) P := by
  intro s hs
  refine ⟨hs, fun a' s' hrun => ?_⟩
  obtain ⟨rfl, -⟩ := EStateM.Result.ok.inj hrun
  exact h

theorem keeps_throw (f : Failure) : Keeps I (throw f : Step α) P :=
  fun _ hs => ⟨hs, fun _ _ hrun => absurd hrun (by rintro ⟨⟩)⟩

theorem keeps_modify {change : Scanner → Scanner} (h : ∀ s, I s → I (change s)) :
    Keeps I (modify change) fun _ => True :=
  fun s hs => ⟨h s hs, fun _ _ _ => trivial⟩

theorem Keeps.bind {f : α → Step β} (h : Keeps I step P) (hf : ∀ a, P a → Keeps I (f a) Q) :
    Keeps I (step >>= f) Q := by
  intro s hs
  obtain ⟨hleft, hanswer⟩ := h s hs
  cases hstep : step s with
  | error e s' =>
      rw [hstep] at hleft
      rw [bind_error hstep]
      exact ⟨hleft, fun _ _ hrun => absurd hrun (by simp)⟩
  | ok a s' =>
      rw [hstep] at hleft
      rw [bind_ok hstep]
      exact hf a (hanswer a s' hstep) s' hleft

theorem Keeps.tryCatch {handle : Failure → Step α} (h : Keeps I step P)
    (hhandle : ∀ e, Keeps I (handle e) P) : Keeps I (tryCatch step handle) P := by
  intro s hs
  obtain ⟨hleft, hanswer⟩ := h s hs
  change I (left (EStateM.tryCatch step handle s)) ∧
    ∀ a s', EStateM.tryCatch step handle s = .ok a s' → P a
  simp only [EStateM.tryCatch]
  cases hstep : step s with
  | ok a s' =>
      rw [hstep] at hleft
      refine ⟨hleft, fun a' s'' hrun => ?_⟩
      obtain ⟨rfl, -⟩ := EStateM.Result.ok.inj hrun
      exact hanswer a s' hstep
  | error e s' =>
      rw [hstep] at hleft
      exact hhandle e s' hleft

/-! ### What scanners have read -/

/-- **The scanner has read from the source**: what is to come is what is left of it, and the code of
every record was read from it. -/
structure ReadFrom (source : TokenSource) (s : Scanner) : Prop where
  /-- What is to come. -/
  moves : MovesOn source s.source
  /-- What was recorded. -/
  records : ∀ r ∈ s.records, Summary.ReadFrom source r.code

variable {source : TokenSource}

theorem keeps_lift {rule : Rule α} (h : ∀ s, MovesOn source s → Rule.Yields s rule P) :
    Keeps (ReadFrom source) (lift rule) P := by
  intro s hs
  have hyields := h s.source hs.moves
  cases hrun : rule s.source with
  | ok a u =>
      rw [lift_ok hrun]
      refine ⟨⟨hs.moves.trans (hyields.movesOn hrun), hs.records⟩, fun a' s' heq => ?_⟩
      obtain ⟨rfl, -⟩ := EStateM.Result.ok.inj heq
      exact hyields.answers a u hrun
  | error f u =>
      rw [lift_error hrun]
      have hu : MovesOn s.source u := by
        rw [← after_error hrun]
        exact hyields.moves
      exact ⟨⟨hs.moves.trans hu, hs.records⟩, fun _ _ heq => absurd heq (by simp)⟩

theorem keeps_report (event : ScanEvent) : Keeps (ReadFrom source) (report event) fun _ => True :=
  keeps_modify fun _ hs => ⟨hs.moves, hs.records⟩

theorem keeps_summarise (mode : ScanMode) :
    Keeps (ReadFrom source) (summarise mode) (Summary.ReadFrom source) := by
  refine (keeps_lift fun s hs => Rule.yields_codeBlock hs).tryCatch fun e => ?_
  split
  · exact (keeps_report _).bind fun _ _ => keeps_pure .unrecognised
  · exact keeps_throw _

theorem keeps_recordComment (mode : ScanMode) (t : Token) :
    Keeps (ReadFrom source) (recordComment mode t) fun _ => True := by
  refine (keeps_report _).bind fun _ _ => (keeps_summarise mode).bind fun code hcode => ?_
  refine (keeps_modify fun s hs => ⟨hs.moves, fun r hr => ?_⟩).bind fun _ _ => keeps_pure trivial
  rcases List.mem_append.1 hr with hr | hr
  · exact hs.records r hr
  · obtain rfl := List.mem_singleton.1 hr
    exact hcode

/-- **One round** keeps a scanner that has read from the source. -/
theorem keeps_round (mode : ScanMode) : Keeps (ReadFrom source) (round mode) fun _ => True := by
  refine (keeps_lift fun s _ => Rule.yields_atEnd s).bind fun ended _ => ?_
  split
  · exact keeps_pure trivial
  · refine (keeps_lift fun s _ => Rule.yields_look s _).bind fun commented _ => ?_
    split
    · exact (keeps_lift fun s _ => Rule.yields_next s).bind fun t _ => keeps_recordComment mode t
    · exact (keeps_lift fun s _ => Rule.yields_next s).bind fun _ _ => keeps_pure trivial

theorem keeps_scanUpTo (mode : ScanMode) (rounds : Nat) :
    Keeps (ReadFrom source) (scanUpTo mode rounds) fun _ => True := by
  induction rounds with
  | zero => exact keeps_pure trivial
  | succ rounds ih =>
      refine (keeps_round mode).bind fun more _ => ?_
      split
      · exact ih
      · exact keeps_pure trivial

/-- **The scanner after some scans**, one after the other, whatever each of them came to. -/
def afterScans (mode : ScanMode) (runs : Nat) (s : Scanner) : Scanner :=
  (fun s => left (scan mode s))^[runs] s

/-- **Whatever is recorded was read from the source**, in either mode and by any number of scans. -/
theorem readFrom_afterScans (mode : ScanMode) (runs : Nat) (source : TokenSource) :
    (afterScans mode runs (ofSource source)).ReadFrom source := by
  have hrun : ∀ s, ReadFrom source s → ReadFrom source (left (scan mode s)) := fun s hs =>
    (keeps_scanUpTo mode (s.source.size + 1) s hs).1
  induction runs with
  | zero => exact ⟨.refl source, by simp [afterScans, ofSource]⟩
  | succ runs ih =>
      rw [afterScans, Function.iterate_succ_apply']
      exact hrun _ ih

end Scanner

end DocComments
