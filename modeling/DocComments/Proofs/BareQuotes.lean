import DocComments.Proofs.ClosingMarks
import DocComments.Proofs.LexerRun
import DocComments.Proofs.Written

/-!
# Bare quotes

A string is written anew between double quotes unless one stands bare in its text.  The chooser of
quotes looks for a place that no backslash precedes, with pairs of backslashes from there up to a
double quote (`HoldsBareQuote`).  A lexer walks over the text from the left, where a backslash takes
the next character with it (`escapeUnits`).

Both find a quote behind an even number of backslashes, however many there are and wherever they
stand.  So the text of any string token is read again as it was: `quote_reads_again`.
-/

namespace DocComments

open Literal EscapeUnit TokenSource

variable {text : List Char}

/-- **A text in units**, from the left as a lexer reads it.  A backslash at the end has nothing to
take. -/
def escapeUnits : List Char → List EscapeUnit
  | [] => []
  | '\\' :: c :: more => .pair c :: escapeUnits more
  | c :: more => .plain c :: escapeUnits more

/-- The units are those of the whole text. -/
theorem spelled_escapeUnits (text : List Char) : spelled (escapeUnits text) = text := by
  fun_induction escapeUnits text with
  | case1 => rfl
  | case2 c more ih => rw [spelled_pair, ih]
  | case3 c more _ ih => rw [spelled_plain, ih]

/-- **Walking in pairs meets the quotes that are units of their own.** -/
theorem meetsBare_iff : meetsBare text = true ↔ .plain '"' ∈ escapeUnits text := by
  fun_induction escapeUnits text with
  | case1 => simp [meetsBare]
  | case2 c more ih => simp [meetsBare, ih]
  | case3 c more hpair ih =>
      rw [meetsBare, Bool.or_eq_true, ih, decide_eq_true_eq, List.mem_cons,
        EscapeUnit.plain.injEq, eq_comm]
      exact hpair

/-- The text starts with `pairs` pairs of backslashes and a double quote. -/
def StartsBareQuote (pairs : Nat) (text : List Char) : Prop :=
  ∃ rest, text = List.replicate (2 * pairs) '\\' ++ '"' :: rest

theorem startsPairsAndQuote_iff :
    startsPairsAndQuote text = true ↔ ∃ pairs, StartsBareQuote pairs text := by
  fun_induction startsPairsAndQuote text with
  | case1 more ih =>
      rw [ih]
      constructor
      · rintro ⟨pairs, rest, rfl⟩
        exact ⟨pairs + 1, rest, rfl⟩
      · rintro ⟨pairs, rest, heq⟩
        cases pairs with
        | zero => exact absurd (List.cons.inj heq).1 (by decide)
        | succ pairs =>
            obtain ⟨-, heq⟩ := List.cons.inj heq
            exact ⟨pairs, rest, (List.cons.inj heq).2⟩
  | case2 more => exact ⟨fun _ => ⟨0, more, rfl⟩, fun _ => rfl⟩
  | case3 text hpairs hquote =>
      refine ⟨fun h => absurd h (by decide), ?_⟩
      rintro ⟨pairs, rest, rfl⟩
      cases pairs with
      | zero => exact absurd rfl (hquote rest)
      | succ pairs => exact absurd rfl (hpairs (List.replicate (2 * pairs) '\\' ++ '"' :: rest))

/-- **A double quote stands bare** in the text: pairs of backslashes and a double quote stand behind
a part of it that does not end in a backslash. -/
def HoldsBareQuote (text : List Char) : Prop :=
  ∃ front pairs rest, front.getLast? ≠ some '\\' ∧
    text = front ++ (List.replicate (2 * pairs) '\\' ++ '"' :: rest)

/-- The search from a place on finds the bare quotes behind it. -/
theorem hasBareQuoteFrom_iff {behindBackslash : Bool} :
    hasBareQuoteFrom behindBackslash text = true ↔
      ∃ front behind pairs, text = front ++ behind ∧ StartsBareQuote pairs behind ∧
        (front = [] → behindBackslash = false) ∧ front.getLast? ≠ some '\\' := by
  induction text generalizing behindBackslash with
  | nil =>
      refine ⟨fun h => absurd h (by simp [hasBareQuoteFrom]), ?_⟩
      rintro ⟨front, behind, pairs, heq, ⟨rest, rfl⟩, -⟩
      exact absurd heq (by simp)
  | cons c more ih =>
      rw [hasBareQuoteFrom, Bool.or_eq_true, Bool.and_eq_true, Bool.not_eq_true',
        startsPairsAndQuote_iff, ih]
      constructor
      · rintro (⟨hfirst, pairs, hquote⟩ | ⟨front, behind, pairs, rfl, hquote, hfirst, hlast⟩)
        · exact ⟨[], _, pairs, rfl, hquote, fun _ => hfirst, by simp⟩
        · refine ⟨c :: front, behind, pairs, rfl, hquote, by simp, ?_⟩
          cases front with
          | nil => simpa using hfirst rfl
          | cons d front => exact hlast
      · rintro ⟨front, behind, pairs, heq, hquote, hfirst, hlast⟩
        cases front with
        | nil => exact .inl ⟨hfirst rfl, pairs, heq ▸ hquote⟩
        | cons d front =>
            obtain ⟨rfl, rfl⟩ := List.cons.inj heq
            refine .inr ⟨front, behind, pairs, rfl, hquote, fun hnil => ?_, ?_⟩
            · simpa [hnil] using hlast
            · cases front with
              | nil => simp
              | cons d' front => exact hlast

theorem hasBareQuote_iff : hasBareQuote text = true ↔ HoldsBareQuote text := by
  rw [hasBareQuote, hasBareQuoteFrom_iff]
  constructor
  · rintro ⟨front, behind, pairs, rfl, ⟨rest, rfl⟩, -, hlast⟩
    exact ⟨front, pairs, rest, hlast, rfl⟩
  · rintro ⟨front, pairs, rest, hlast, rfl⟩
    exact ⟨front, _, pairs, rfl, ⟨rest, rfl⟩, fun _ => rfl, hlast⟩

/-- What is spelled out is read as the only token of its text. -/
theorem tokenize_of_spells {written text : List Char} {kind : TokenKind}
    (h : Spells true written kind text) :
    tokenize (String.ofList written) = .ok [⟨kind, String.ofList text, 1, 1⟩] := by
  obtain ⟨c, more, heq, hblank, hplain, hread⟩ := h [] separates_nil
  rw [List.append_nil] at heq
  have hrest : (Lexer.start (String.ofList written)).cursor.rest = c :: more := by
    rw [Lexer.start, Text.Cursor.rest_start, String.toList_ofList, heq]
  refine Lexer.tokenize_eq_ok_iff.2 (.token hrest hblank hplain hread (.finished ?_))
  rw [Lexer.behind, Text.Cursor.rest_skip, hrest, ← heq, List.drop_length]

/-- **The chooser of quotes and the lexer see the same bare quotes**, so the text of every string
token, between the quotes that are chosen for it, is read as one string token with that text. -/
theorem quote_reads_again (v : String) :
    (hasBareQuote v.toList = true ↔ HoldsBareQuote v.toList) ∧
    (HoldsBareQuote v.toList ↔ .plain '"' ∈ escapeUnits v.toList) ∧
    ∀ (source : String) (t : Token), .ok t ∈ (ofString source).upcoming → t.kind = .string →
      t.text = v → tokenize (quote v) = .ok [⟨.string, v, 1, 1⟩] := by
  refine ⟨hasBareQuote_iff, ?_, fun source t ht hkind htext => ?_⟩
  · rw [← hasBareQuote_iff, hasBareQuote_eq, meetsBare_iff]
  · obtain ⟨allowed, c, more, width, hblank, hplain, hfound⟩ := found_of_mem_upcoming ht
    rw [hkind, htext] at hfound
    have hspells : Spells true (printed .string v.toList) .string v.toList :=
      (hfound.of_allowed (by decide)).spells hblank hplain (by decide)
    have hread := tokenize_of_spells hspells
    rwa [printed, if_pos rfl, String.ofList_toList, String.ofList_toList] at hread

/-- A bare double quote, behind one that a backslash takes: single quotes are chosen. -/
theorem quote_reads_again_single :
    let v := "a\\\"\\\\\""
    .ok ⟨.string, v, 1, 1⟩ ∈ (ofString "'a\\\"\\\\\"'").upcoming ∧ HoldsBareQuote v.toList ∧
      .plain '"' ∈ escapeUnits v.toList ∧ tokenize (quote v) = .ok [⟨.string, v, 1, 1⟩] := by
  intro v
  have htoken : .ok ⟨.string, v, 1, 1⟩ ∈ (ofString "'a\\\"\\\\\"'").upcoming := by
    rw [upcoming_ofString]
    decide +kernel
  obtain ⟨-, hagree, hread⟩ := quote_reads_again v
  have hmeets : .plain '"' ∈ escapeUnits v.toList := by decide
  exact ⟨htoken, hagree.2 hmeets, hmeets, hread _ _ htoken rfl rfl⟩

end DocComments
