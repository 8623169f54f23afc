import DocComments.Proofs.Layout
import DocComments.Proofs.ReadingAhead
import DocComments.Text.Stream

/-!
# A lexer always moves on

A lexer can be called again and again, also behind a construct left open.  Whatever it has met
before, a call does one of three things (`Lexer.Call`): it meets the end, and then every later call
does; it finds a token; or it finds a construct left open, stands at the end or in front of a
newline, and can go on from there.  Where it finds something it has moved on, so the calls on a
source come to its end (`Lexer.calls_progress`).

The lexer moves by widths, over as many characters as its readers have counted.  That these
characters are there is `Stream.Reads`: read one by one they give no fault.  What carries this is
that each reader counts characters of the text, also where it looks for an end in vain
(`Lexeme.unclosed_of_read`).
-/

namespace DocComments

open Text

/-! ### Reading one by one -/

namespace Text

/-- **The stream reads these characters**, one after another and without a fault, and is then the
second one. -/
inductive Stream.Reads : Stream → List Char → Stream → Prop where
  | nil (s : Stream) : Reads s [] s
  | cons {s s' s'' : Stream} {c : Char} {more : List Char} (h : s.next = .ok (c, s'))
      (hmore : Reads s' more s'') : Reads s (c :: more) s''

namespace Cursor

/-- **Characters that are there are read**, and the cursor has then moved over them. -/
theorem reads_skip {c : Cursor} {n : Nat} (h : n ≤ c.rest.length) :
    Stream.Reads c.toStream (c.rest.take n) (c.skip n).toStream := by
  induction n generalizing c with
  | zero => exact .nil _
  | succ n ih =>
      obtain ⟨ch, rest, hrest⟩ := List.exists_cons_of_length_pos (Nat.zero_lt_of_lt h)
      rw [hrest, List.length_cons] at h
      have hmore := ih (c := c.forward)
        (by rw [rest_forward, hrest]; exact Nat.le_of_succ_le_succ h)
      rw [rest_forward, hrest, List.tail_cons] at hmore
      rw [hrest, List.take_succ_cons]
      exact .cons (next_toStream hrest) hmore

theorem take_offset (c : Cursor) : c.source.take c.offset = c.passed.reverse := by
  rw [source, c.offset_eq, ← List.length_reverse, List.take_left]

theorem drop_offset (c : Cursor) : c.source.drop c.offset = c.rest := by
  rw [source, c.offset_eq, ← List.length_reverse, List.drop_left]

theorem offset_skip {c : Cursor} {n : Nat} (h : n ≤ c.rest.length) :
    (c.skip n).offset = c.offset + n := by
  rw [offset_eq, offset_eq, ← List.length_reverse, passed_skip, List.length_append,
    List.length_reverse, List.length_take_of_le h]

/-- At the end of the text all of it has been passed. -/
theorem offset_eq_length_iff (c : Cursor) : c.offset = c.source.length ↔ c.rest = [] := by
  rw [← c.drop_offset, List.drop_eq_nil_iff, source, c.offset_eq, List.length_append,
    List.length_reverse]
  omega

end Cursor

end Text

/-! ### Constructs left open -/

/-- The marks that open a construct. -/
def Construct.openings : Construct → List (List Char)
  | string => [['"'], ['\'']]
  | regex => [['/']]
  | comment => [['/', '*']]

/-- Where the search for the end of a construct stops: at the end of the text, or for strings and
regular expressions in front of a newline. -/
def Construct.StopsBefore (what : Construct) (rest : List Char) : Prop :=
  rest = [] ∨ what ≠ .comment ∧ rest.head? = some '\n'

section Bodies

variable {text body : List Char}

/-- The body of a string that is not closed goes up to a newline or to the end. -/
theorem stringBody_unclosed {quote : Char} (h : stringBody quote text = (false, body)) :
    ∃ rest, text = body ++ rest ∧ Construct.string.StopsBefore rest := by
  fun_induction stringBody quote text generalizing body with
  | case1 =>
      obtain ⟨-, rfl⟩ := Prod.mk.inj h
      exact ⟨[], rfl, .inl rfl⟩
  | case2 =>
      rename_i c more r ih
      obtain ⟨hclosed, rfl⟩ := Prod.mk.inj h
      obtain ⟨rest, hrest, hstops⟩ := ih (Prod.ext hclosed rfl)
      exact ⟨rest, by rw [List.cons_append, List.cons_append, ← hrest], hstops⟩
  | case3 more hpair =>
      -- a backslash that takes nothing with it is the last character
      obtain ⟨-, rfl⟩ := Prod.mk.inj h
      cases more with
      | nil => exact ⟨[], rfl, .inl rfl⟩
      | cons d more => exact absurd rfl (hpair d more rfl)
  | case4 => simp at h
  | case5 more =>
      obtain ⟨-, rfl⟩ := Prod.mk.inj h
      exact ⟨_, rfl, .inr ⟨by decide, rfl⟩⟩
  | case6 =>
      rename_i c more _ hescape hquote hline r ih
      obtain ⟨hclosed, rfl⟩ := Prod.mk.inj h
      obtain ⟨rest, hrest, hstops⟩ := ih (Prod.ext hclosed rfl)
      exact ⟨rest, by rw [List.cons_append, ← hrest], hstops⟩

/-- So does that of a regular expression. -/
theorem regexBody_unclosed {inClass : Bool} (h : regexBody inClass text = (false, body)) :
    ∃ rest, text = body ++ rest ∧ Construct.regex.StopsBefore rest := by
  fun_induction regexBody inClass text generalizing body with
  | case1 =>
      obtain ⟨-, rfl⟩ := Prod.mk.inj h
      exact ⟨[], rfl, .inl rfl⟩
  | case2 =>
      rename_i inClass c more r ih
      obtain ⟨hclosed, rfl⟩ := Prod.mk.inj h
      obtain ⟨rest, hrest, hstops⟩ := ih (Prod.ext hclosed rfl)
      exact ⟨rest, by rw [List.cons_append, List.cons_append, ← hrest], hstops⟩
  | case3 inClass more hpair =>
      obtain ⟨-, rfl⟩ := Prod.mk.inj h
      cases more with
      | nil => exact ⟨[], rfl, .inl rfl⟩
      | cons d more => exact absurd rfl (hpair d more rfl)
  | case4 =>
      obtain ⟨-, rfl⟩ := Prod.mk.inj h
      exact ⟨_, rfl, .inr ⟨by decide, rfl⟩⟩
  | case5 => simp at h
  | case6 =>
      rename_i inClass c more _ hescape hline hslash r ih
      obtain ⟨hclosed, rfl⟩ := Prod.mk.inj h
      obtain ⟨rest, hrest, hstops⟩ := ih (Prod.ext hclosed rfl)
      exact ⟨rest, by rw [List.cons_append, ← hrest], hstops⟩

end Bodies

/-- **A construct left open** starts with a mark that opens it, and its width is that of the text
up to where the search for its end stops. -/
theorem Lexeme.unclosed_of_read {allowed : Bool} {c : Char} {more : List Char} {what : Construct}
    {width : Nat} (h : read allowed c more = .unterminated what width) :
    ∃ opening inside rest, c :: more = opening ++ inside ++ rest ∧ opening ∈ what.openings ∧
      width = (opening ++ inside).length ∧ what.StopsBefore rest := by
  unfold read at h
  split at h
  · next hcomment =>
      obtain ⟨rfl, hstar⟩ := hcomment
      obtain ⟨more, rfl⟩ := List.head?_eq_some_iff.1 hstar
      unfold comment at h
      split at h
      · exact absurd h (by simp)
      · obtain ⟨rfl, rfl⟩ := Lexeme.unterminated.inj h
        exact ⟨['/', '*'], more, [], by simp, by decide, by simp, .inl rfl⟩
  split at h
  · exact absurd h (by simp)
  split at h
  · exact absurd h (by simp)
  split at h
  · next hquote =>
      unfold string at h
      split at h
      · exact absurd h (by simp)
      · next body hbody =>
          obtain ⟨rfl, rfl⟩ := Lexeme.unterminated.inj h
          obtain ⟨rest, rfl, hstops⟩ := stringBody_unclosed hbody
          exact ⟨[c], body, rest, rfl, by rcases hquote with rfl | rfl <;> decide, by simp, hstops⟩
  split at h
  · next hslash =>
      obtain ⟨rfl, -⟩ := hslash
      unfold regex at h
      split at h
      · exact absurd h (by simp)
      · next body hbody =>
          obtain ⟨rfl, rfl⟩ := Lexeme.unterminated.inj h
          obtain ⟨rest, rfl, hstops⟩ := regexBody_unclosed hbody
          exact ⟨['/'], body, rest, rfl, by decide, by simp, hstops⟩
  · exact absurd h (by simp)

/-- **What `gapLength` counts is a gap.** -/
theorem gap_take (text : List Char) :
    Gap (text.take (gapLength text)) (text.drop (gapLength text)) := by
  fun_induction gapLength text with
  | case1 => exact .nil
  | case2 c more hblank ih => exact .blank hblank ih
  | case3 => exact .nil
  | case4 c more _ n hn ih =>
      obtain ⟨comment, rest, heq, hlen, hplain⟩ := plainComment_of_length hn
      have hdrop : more.drop (n - 1) = rest := by
        have hcut : (c :: more).drop n = rest := by
          rw [heq, show n = comment.length from hlen, List.drop_left]
        obtain ⟨k, hk⟩ := Nat.exists_eq_succ_of_ne_zero hn
        rwa [hk, List.drop_succ_cons, ← Nat.succ_sub_one k, ← hk] at hcut
      rw [hdrop] at ih ⊢
      rw [heq, show n = comment.length from hlen, List.take_length_add_append,
        List.drop_length_add_append]
      refine .comment ?_ ih
      rwa [List.take_append_drop]

/-! ### One call -/

/-- **The place where a construct opens**, behind the first `p` characters of a source: its mark
stands there, and the line and the column are those of the place. -/
structure Unterminated.OpensAt (source : List Char) (p : Nat) (e : Unterminated) : Prop where
  /-- A mark that opens the construct. -/
  opening : ∃ mark ∈ e.what.openings, mark <+: source.drop p
  /-- The line. -/
  line : e.line = lineBehind (source.take p)
  /-- The column. -/
  column : e.column = columnBehind (source.take p)
  /-- The wording names what is left open, and the place. -/
  wording : let before := source.take p
    e.message =
      s!"Unterminated {e.what.name} at line {lineBehind before}, col {columnBehind before}"

namespace Lexer

variable {l l' : Lexer}

/-- **What a call of a lexer on `source` comes to**, and the lexer behind it. -/
inductive Call (source : List Char) (l : Lexer) :
    Option (Except Unterminated Token) × Lexer → Prop where
  /-- The end of the source, which every later call meets too. -/
  | ended (l' : Lexer) (hend : l'.cursor.offset = source.length)
      (hstays : ∀ n, (advance^[n] l').next = (none, l')) : Call source l (none, l')
  /-- A token, and the lexer has moved on. -/
  | token (t : Token) (l' : Lexer) (hkind : t.kind ≠ .endOfInput)
      (hforward : l.cursor.offset < l'.cursor.offset) : Call source l (some (.ok t), l')
  /-- A construct left open that opens behind the next gap.  The lexer has moved on to where the
  search for its end stopped, and remembers the same last token. -/
  | unterminated (e : Unterminated) (l' : Lexer) (p : Nat)
      (hgap : Gap ((source.take p).drop l.cursor.offset) (source.drop p))
      (hfrom : l.cursor.offset ≤ p) (hopens : e.OpensAt source p) (hto : p < l'.cursor.offset)
      (hlast : l'.last = l.last)
      (hstops : e.what.StopsBefore (source.drop l'.cursor.offset)) :
      Call source l (some (.error e), l')

/-- **Every call moves over characters that are there**: those of the next gap, and then none, those
of a token, or those of a construct left open. -/
inductive Moves (l : Lexer) : Option (Except Unterminated Token) × Lexer → Prop where
  | ended (hrest : l.settle.cursor.rest = []) : Moves l (none, l.settle)
  | token {c : Char} {more text : List Char} {kind : TokenKind} {width : Nat}
      (hrest : l.settle.cursor.rest = c :: more) (hkind : kind ≠ .endOfInput)
      (hpos : 0 < width) (hwidth : width ≤ (c :: more).length) :
      Moves l (some (.ok ⟨kind, String.ofList text, l.settle.cursor.line, l.settle.cursor.column⟩),
        l.settle.behind kind text width)
  | unterminated {what : Construct} {opening inside rest : List Char}
      (hrest : l.settle.cursor.rest = opening ++ inside ++ rest) (hopens : opening ∈ what.openings)
      (hstops : what.StopsBefore rest) :
      Moves l (some (.error ⟨what, l.settle.cursor.line, l.settle.cursor.column⟩),
        l.settle.skip (opening ++ inside).length)

theorem moves_next (l : Lexer) : l.Moves l.next := by
  unfold next
  split
  · next hrest => exact .ended hrest
  · next c more hrest =>
      obtain ⟨-, hplain⟩ := gap_ends ((rest_settle l).symm.trans hrest)
      have hpos := Lexeme.width_read_pos (regexMayFollow l.settle.last) c more
      cases hread : Lexeme.read (regexMayFollow l.settle.last) c more with
      | token kind text width =>
          have hfound := Lexeme.found_of_read hread
          obtain ⟨written, rest, heq, rfl, -⟩ := hfound.exists_written hplain
          rw [hread] at hpos
          rw [take_of_read hread]
          exact .token hrest hfound.kind_ne_endOfInput hpos (by simp [heq])
      | unterminated what width =>
          obtain ⟨opening, inside, rest, heq, hopens, rfl, hstops⟩ := Lexeme.unclosed_of_read hread
          rw [take, hread]
          exact .unterminated (hrest.trans heq) hopens hstops

/-- A mark that opens a construct is not empty. -/
theorem ne_nil_of_mem_openings {what : Construct} {opening : List Char}
    (h : opening ∈ what.openings) : opening ≠ [] := by
  revert opening
  cases what <;> decide

/-- **The cursor skips no more than there is.** -/
theorem exists_skip (l : Lexer) :
    ∃ n ≤ l.cursor.rest.length, l.advance.cursor = l.cursor.skip n := by
  have hgap := gapLength_le l.cursor.rest
  have hlen : l.settle.cursor.rest.length = l.cursor.rest.length - gapLength l.cursor.rest := by
    rw [rest_settle, List.length_drop]
  have hmoves := l.moves_next
  rw [advance]
  generalize l.next = result at hmoves ⊢
  cases hmoves with
  | ended => exact ⟨_, hgap, rfl⟩
  | @token c more text kind width hrest hkind hpos hwidth =>
      rw [hrest] at hlen
      exact ⟨gapLength l.cursor.rest + width, by omega, (l.cursor.skip_add _ _).symm⟩
  | @unterminated what opening inside rest hrest =>
      rw [hrest, List.length_append] at hlen
      exact ⟨gapLength l.cursor.rest + (opening ++ inside).length, by omega,
        (l.cursor.skip_add _ _).symm⟩

/-- A lexer at the end stays there. -/
theorem iterate_advance_nil (hrest : l.cursor.rest = []) (n : Nat) : advance^[n] l = l := by
  have hfixed : advance l = l := by rw [advance, next_nil hrest]
  exact Function.iterate_fixed hfixed n

theorem call_next {source : List Char} (hsource : l.cursor.source = source)
    (hplaced : l.cursor.Placed) : l.Call source l.next := by
  subst hsource
  have hmoves := l.moves_next
  have hgap := gapLength_le l.cursor.rest
  have hfrom : l.settle.cursor.offset = l.cursor.offset + gapLength l.cursor.rest :=
    Cursor.offset_skip hgap
  have hsame : l.settle.cursor.source = l.cursor.source := Cursor.source_skip _ _
  generalize l.next = result at hmoves ⊢
  cases hmoves with
  | ended hrest =>
      refine .ended _ ?_ fun n => ?_
      · rw [← hsame, Cursor.offset_eq_length_iff, hrest]
      · rw [iterate_advance_nil hrest, next_nil hrest]
  | @token c more text kind width hrest hkind hpos hwidth =>
      refine .token _ _ hkind ?_
      rw [behind, Cursor.offset_skip (by rw [hrest]; exact hwidth)]
      omega
  | @unterminated what opening inside rest hrest hopens hstops =>
      have hwidth : (opening ++ inside).length ≤ l.settle.cursor.rest.length := by simp [hrest]
      have hto : (l.settle.skip (opening ++ inside).length).cursor.offset =
          l.settle.cursor.offset + (opening ++ inside).length := Cursor.offset_skip hwidth
      have hbefore : l.cursor.source.take l.settle.cursor.offset =
          l.settle.cursor.passed.reverse := by rw [← hsame, Cursor.take_offset]
      have hbehind : l.cursor.source.drop l.settle.cursor.offset = opening ++ inside ++ rest := by
        rw [← hsame, Cursor.drop_offset, hrest]
      have hplace : l.settle.cursor.Placed := hplaced.skip _
      refine .unterminated _ _ l.settle.cursor.offset ?_ (by omega) ⟨?_, ?_, ?_, ?_⟩ ?_ rfl ?_
      · rw [List.drop_take, hfrom, Nat.add_sub_cancel_left, ← List.drop_drop, Cursor.drop_offset]
        exact gap_take _
      · exact ⟨opening, hopens, by rw [hbehind, List.append_assoc]; exact List.prefix_append _ _⟩
      · rw [hbefore]
        exact hplace.1
      · rw [hbefore]
        exact hplace.2
      · dsimp only
        rw [hbefore, ← hplace.1, ← hplace.2]
        rfl
      · have hne := List.length_pos_iff.2 (ne_nil_of_mem_openings hopens)
        rw [hto, List.length_append]
        omega
      · rw [hto, ← List.drop_drop, hbehind, List.drop_left]
        exact hstops

/-! ### All calls -/

/-- Every call leaves the lexer on the same source, where its cursor says. -/
theorem iterate_advance_placed (source : String) (n : Nat) :
    (advance^[n] (start source)).cursor.source = source.toList ∧
      (advance^[n] (start source)).cursor.Placed := by
  induction n with
  | zero => exact ⟨Cursor.source_start _, Cursor.placed_start _⟩
  | succ n ih =>
      obtain ⟨hsource, hplaced⟩ := ih
      obtain ⟨k, -, hskip⟩ := (advance^[n] (start source)).exists_skip
      rw [Function.iterate_succ_apply', hskip, Cursor.source_skip]
      exact ⟨hsource, hplaced.skip k⟩

/-- A lexer that finds nothing stands at the end, behind the last gap. -/
theorem eq_settle_of_ended (h : l.next = (none, l')) : l' = l.settle ∧ l'.cursor.rest = [] := by
  have hmoves := l.moves_next
  rw [h] at hmoves
  cases hmoves with
  | ended hrest => exact ⟨rfl, hrest⟩

theorem next_fst_of_ended (h : l.next = (none, l')) (n : Nat) :
    (advance^[n] l).next.1 = none := by
  cases n with
  | zero => rw [Function.iterate_zero_apply, h]
  | succ n =>
      have hadvance : l.advance = l' := by rw [advance, h]
      have hrest := (eq_settle_of_ended h).2
      rw [Function.iterate_succ_apply, hadvance, iterate_advance_nil hrest, next_nil hrest]

/-- **The calls come to an end**: there are no more that find something than characters. -/
theorem next_fst_of_length_le {n : Nat} (h : l.cursor.rest.length ≤ n) :
    (advance^[n] l).next.1 = none := by
  induction n generalizing l with
  | zero =>
      rw [Function.iterate_zero_apply, next_nil (List.length_eq_zero_iff.1 (Nat.le_zero.1 h))]
  | succ n ih =>
      cases hnext : l.next with
      | mk result l' =>
          cases result with
          | none => exact next_fst_of_ended hnext _
          | some result =>
              have hadvance : l.advance = l' := by rw [advance, hnext]
              have hlt := rest_next_lt hnext
              rw [Function.iterate_succ_apply, hadvance]
              exact ih (by omega)

/-- **What the calls find is the run.** -/
theorem results_eq {n : Nat} (h : l.cursor.rest.length ≤ n) :
    l.run.1.map (·.result) =
      (List.range (n + 1)).filterMap fun k => (advance^[k] l).next.1 := by
  induction n generalizing l with
  | zero =>
      have hnext := next_nil (List.length_eq_zero_iff.1 (Nat.le_zero.1 h))
      rw [run_of_next_eq_none hnext]
      simp [hnext]
  | succ n ih =>
      cases hnext : l.next with
      | mk result l' =>
          cases result with
          | none =>
              rw [run_of_next_eq_none hnext]
              refine (List.filterMap_eq_nil_iff.2 fun k _ => ?_).symm
              exact next_fst_of_ended hnext k
          | some result =>
              have hadvance : l.advance = l' := by rw [advance, hnext]
              have hlt := rest_next_lt hnext
              rw [run_of_next_eq_some hnext, List.range_succ_eq_map, List.filterMap_cons,
                List.filterMap_map, Function.iterate_zero_apply, hnext, List.map_cons,
                ih (l := l') (by omega)]
              simp only [Function.comp_def, Function.iterate_succ_apply, hadvance]

/-- **A lexer always moves on, and fails in three ways only.**  Whatever was called before, a call
meets the end, finds a token or finds a construct left open, and it reads no character that is not
there.  So the calls that it takes to split a source are no more than its characters and one. -/
theorem calls_progress (source : String) :
    (∀ n, let l := advance^[n] (start source)
      l.Call source.toList l.next ∧
        ∃ moved, Stream.Reads l.cursor.toStream moved l.advance.cursor.toStream) ∧
    (advance^[source.length] (start source)).next.1 = none ∧
    tokenize source = ((List.range (source.length + 1)).filterMap fun n =>
      (advance^[n] (start source)).next.1).mapM id := by
  have hlen : (start source).cursor.rest.length ≤ source.length := by
    rw [start, Cursor.rest_start, String.length_toList]
  refine ⟨fun n => ?_, next_fst_of_length_le hlen, ?_⟩
  · obtain ⟨hsource, hplaced⟩ := iterate_advance_placed source n
    obtain ⟨k, hk, hskip⟩ := (advance^[n] (start source)).exists_skip
    refine ⟨call_next hsource hplaced, (advance^[n] (start source)).cursor.rest.take k, ?_⟩
    rw [hskip]
    exact Cursor.reads_skip hk
  · rw [← results_eq hlen, tokenize, List.mapM_map]
    rfl

/-- Behind a string left open the lexer goes on at the newline. -/
example : let l := start "'a\nb"
    l.next.1 = some (.error ⟨.string, 1, 1⟩) ∧ l.advance.next.1 = some (.ok ⟨.ident, "b", 2, 1⟩) ∧
      l.advance.advance.next.1 = none := by
  cbv

end Lexer

end DocComments
