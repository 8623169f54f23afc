import DocComments.Proofs.Brackets
import DocComments.Proofs.Markers
import Mathlib.Data.List.Forall2

/-!
# How tags are written

`Tag.Form t text` is the form in which a comment gives the tag `t`: an at sign, a word that stands
for the name of the tag, and behind it what the tag holds, as its name demands (`ContentForm`).  The
texts in it are passages: no blanks at their ends, and nothing in them that is a marker itself.
Types close their braces, the brackets around a name that may be left out close, and everything else
that a reader could take for one of these is kept out of the places where it would look.

A form is read back in two steps, and so each form has two lemmas.  No marker starts in it, wherever
it stands, so that it is cut out whole (`quiet`); and with nothing but blanks behind it, it is read
as what it was written for (`read`).  `readAll_of_forms` is the whole way: a description and tags,
each on lines of their own, all lines decorated, are read as that description and those tags.
-/

namespace DocComments.Tag

open Text

/-! ### Forms -/

/-- **A passage of a comment**: no blanks at its ends, and no marker in it. -/
structure Passage (text : List Char) : Prop where
  trimmed : Trimmed text
  unmarked : ¬ HasMarker text

instance (text : List Char) : Decidable (Passage text) :=
  decidable_of_iff (_ ∧ _) ⟨fun h => ⟨h.1, h.2⟩, fun h => ⟨h.trimmed, h.unmarked⟩⟩

/-- **A name**: not empty, without blanks, and no marker. -/
structure Name (name : List Char) : Prop where
  ne_nil : name ≠ []
  solid : ∀ c ∈ name, isBlank c = false
  unmarked : ¬ HasMarker name

theorem name_iff {name : List Char} :
    Name name ↔ name ≠ [] ∧ name.all (!isBlank ·) = true ∧ ¬ HasMarker name := by
  simp only [List.all_eq_true, Bool.not_eq_true']
  exact ⟨fun h => ⟨h.ne_nil, h.solid, h.unmarked⟩, fun h => ⟨h.1, h.2.1, h.2.2⟩⟩

instance (name : List Char) : Decidable (Name name) := decidable_of_iff' _ name_iff

/-- **A description**, behind a gap, or nothing. -/
inductive DocForm : List Char → List Char → Prop where
  | absent : DocForm [] []
  | given {gap doc : List Char} (hgap : Blanks gap) (hne : gap ≠ []) (hdoc : Passage doc) :
      DocForm doc (gap ++ doc)

/-- **A type**, in braces behind a gap, or nothing. -/
inductive TypeForm : Option (List Char) → List Char → Prop where
  | absent : TypeForm none []
  | given {gap type : List Char} (hgap : Blanks gap) (hne : gap ≠ []) (htype : Passage type)
      (hbraces : Balanced '\x7b' '\x7d' type) :
      TypeForm (some type) (gap ++ '\x7b' :: (type ++ ['\x7d']))

/-- **The name of a parameter, option or property**: bare, or in brackets if it may be left out,
with the value that it then has. -/
inductive MemberForm : List Char → Bool → Option (List Char) → List Char → Prop where
  | required {name : List Char} (hname : Name name) (hstart : name.head? ≠ some '[') :
      MemberForm name false none name
  | optional {name : List Char} (hname : Name name) (hplain : '=' ∉ name)
      (hbrackets : Balanced '[' ']' name) : MemberForm name true none ('[' :: (name ++ [']']))
  | defaulted {name value : List Char} (hname : Name name) (hplain : '=' ∉ name)
      (hvalue : Passage value) (hbrackets : Balanced '[' ']' (name ++ '=' :: value)) :
      MemberForm name true (some value) ('[' :: (name ++ '=' :: value ++ [']']))

/-- **What a tag of a given name holds**, behind the word of its marker.  Where the type is left
out, no brace stands in its place. -/
inductive ContentForm (name : String) : TagContent → List Char → Prop where
  | member {type default : Option (List Char)} {optional : Bool}
      {typeText gap called memberText doc docText : List Char} (hname : name ∈ memberNames)
      (htype : TypeForm type typeText) (hgap : Blanks gap) (hne : gap ≠ [])
      (hmember : MemberForm called optional default memberText) (hdoc : DocForm doc docText)
      (hbrace : type = none → memberText.head? ≠ some '\x7b') :
      ContentForm name
        (.member (type.map String.ofList) (some (String.ofList called)) optional
          (default.map String.ofList) (String.ofList doc))
        (typeText ++ (gap ++ (memberText ++ docText)))
  | result {type : Option (List Char)} {typeText doc docText : List Char} (hname : name = "return")
      (htype : TypeForm type typeText) (hdoc : DocForm doc docText)
      (hbrace : type = none → doc.head? ≠ some '\x7b') :
      ContentForm name (.result (type.map String.ofList) (String.ofList doc)) (typeText ++ docText)
  | type {type typeText : List Char} (hname : name = "type")
      (htype : TypeForm (some type) typeText) :
      ContentForm name (.type (some (String.ofList type))) typeText
  | named {gap called doc docText : List Char} (hname : name ∈ namedNames) (hgap : Blanks gap)
      (hne : gap ≠ []) (hcalled : Name called) (hdoc : DocForm doc docText) :
      ContentForm name (.named (some (String.ofList called)) (String.ofList doc))
        (gap ++ (called ++ docText))
  | plain {doc docText : List Char} (hmember : name ∉ memberNames) (hresult : name ≠ "return")
      (htype : name ≠ "type") (hnamed : name ∉ namedNames) (hdoc : DocForm doc docText) :
      ContentForm name (.plain (String.ofList doc)) docText

/-- **A tag as a comment gives it.** -/
inductive Form : Tag → List Char → Prop where
  | mk {word text : List Char} {content : TagContent} (hword : MarkerWord word)
      (hcontent : ContentForm (nameOfWord (String.ofList word)) content text) :
      Form ⟨nameOfWord (String.ofList word), content⟩ ('@' :: (word ++ text))

/-- **A line with its decoration**: spaces and tabs, a star and one space. -/
def Decorated (line decorated : List Char) : Prop :=
  ∃ pad, (∀ c ∈ pad, isSpaceOrTab c = true) ∧ decorated = pad ++ '*' :: ' ' :: line

/-! ### No marker starts in a form -/

theorem Passage.quiet {text : List Char} (h : Passage text) : Quiet text :=
  quiet_of_no_marker h.unmarked

theorem Name.quiet {name : List Char} (h : Name name) : Quiet name :=
  quiet_of_no_marker h.unmarked

/-- A gap in front of a form is what the form starts with. -/
theorem head?_gap {gap : List Char} (hgap : Blanks gap) (hne : gap ≠ []) (text : List Char) :
    ∀ c ∈ (gap ++ text).head?, isBlank c = true := by
  obtain ⟨d, gap, rfl⟩ := List.exists_cons_of_ne_nil hne
  exact forall_head?_cons (hgap d (List.mem_cons_self ..)) (gap ++ text)

theorem DocForm.head {doc text : List Char} (h : DocForm doc text) :
    ∀ c ∈ text.head?, isBlank c = true := by
  cases h with
  | absent => exact nofun
  | given hgap hne _ => exact head?_gap hgap hne _

theorem TypeForm.head {type : Option (List Char)} {text : List Char} (h : TypeForm type text) :
    ∀ c ∈ text.head?, isBlank c = true := by
  cases h with
  | absent => exact nofun
  | given hgap hne _ _ => exact head?_gap hgap hne _

theorem DocForm.quiet {doc text : List Char} (h : DocForm doc text) : Quiet text := by
  cases h with
  | absent => exact quiet_of_not_mem List.not_mem_nil
  | given hgap _ hdoc => exact hdoc.quiet.behind (at_not_mem_blanks hgap)

theorem TypeForm.quiet {type : Option (List Char)} {text : List Char} (h : TypeForm type text) :
    Quiet text := by
  cases h with
  | absent => exact quiet_of_not_mem List.not_mem_nil
  | given hgap _ htype _ =>
      have hclosed : Quiet (_ ++ ['\x7d']) :=
        htype.quiet.append (quiet_of_not_mem (by decide)) (forall_head?_cons (by decide) [])
      exact (hclosed.cons (by decide)).behind (at_not_mem_blanks hgap)

theorem MemberForm.quiet {name : List Char} {optional : Bool} {default : Option (List Char)}
    {text : List Char} (h : MemberForm name optional default text) : Quiet text := by
  have hclosed {text : List Char} (h : Quiet text) : Quiet ('[' :: (text ++ [']'])) :=
    have hbracket : Quiet [']'] := quiet_of_not_mem (by decide)
    (h.append hbracket (forall_head?_cons (by decide) [])).cons (by decide)
  cases h with
  | required hname _ => exact hname.quiet
  | optional hname _ _ => exact hclosed hname.quiet
  | defaulted hname _ hvalue _ =>
      exact hclosed (hname.quiet.append (hvalue.quiet.cons (by decide))
        (forall_head?_cons (by decide) _))

/-- **No marker starts in what a tag holds.** -/
theorem ContentForm.quiet {name : String} {content : TagContent} {text : List Char}
    (h : ContentForm name content text) : Quiet text := by
  cases h with
  | member _ htype hgap hne hmember hdoc _ =>
      have hdescribed := hmember.quiet.append hdoc.quiet fun c hc =>
        isAsciiLetter_of_isBlank (hdoc.head c hc)
      exact htype.quiet.append (hdescribed.behind (at_not_mem_blanks hgap)) fun c hc =>
        isAsciiLetter_of_isBlank (head?_gap hgap hne _ c hc)
  | result _ htype hdoc _ =>
      exact htype.quiet.append hdoc.quiet fun c hc => isAsciiLetter_of_isBlank (hdoc.head c hc)
  | type _ htype => exact htype.quiet
  | named _ hgap _ hcalled hdoc =>
      have hdescribed := hcalled.quiet.append hdoc.quiet fun c hc =>
        isAsciiLetter_of_isBlank (hdoc.head c hc)
      exact hdescribed.behind (at_not_mem_blanks hgap)
  | plain _ _ _ _ hdoc => exact hdoc.quiet

/-- What a tag holds is behind a gap. -/
theorem ContentForm.head {name : String} {content : TagContent} {text : List Char}
    (h : ContentForm name content text) : ∀ c ∈ text.head?, isBlank c = true := by
  cases h with
  | member _ htype hgap hne _ _ _ => exact forall_head?_append htype.head (head?_gap hgap hne _)
  | result _ htype hdoc _ => exact forall_head?_append htype.head hdoc.head
  | type _ htype => exact htype.head
  | named _ hgap hne _ _ => exact head?_gap hgap hne _
  | plain _ _ _ _ hdoc => exact hdoc.head

/-! ### A form is read as what it was written for -/

section Reading

variable {rest tail : List Char}

theorem DocForm.trim_eq {doc text : List Char} (h : DocForm doc text) (htail : Blanks tail) :
    trim (text ++ tail) = doc := by
  cases h with
  | absent => exact trim_between blanks_nil trimmed_nil htail
  | given hgap _ hdoc =>
      rw [List.append_assoc]
      exact trim_between hgap hdoc.trimmed htail

/-- Without the gap, a description starts where its form does. -/
theorem DocForm.head?_trimStart {doc text : List Char} (h : DocForm doc text)
    (htail : Blanks tail) : (trimStart (text ++ tail)).head? = doc.head? := by
  cases h with
  | absent => rw [List.nil_append, trimStart_eq_nil htail]
  | given hgap _ hdoc =>
      rw [List.append_assoc, trimStart_append hgap]
      cases doc with
      | nil => rw [List.nil_append, trimStart_eq_nil htail]
      | cons c doc =>
          rw [List.cons_append, trimStart_cons_of_not_isBlank _ (hdoc.trimmed.start c rfl)]
          rfl

/-- A type is split off, whatever follows it. -/
theorem TypeForm.split {type : Option (List Char)} {text : List Char} (h : TypeForm type text)
    (hbrace : type = none → (trimStart rest).head? ≠ some '\x7b') :
    (splitType (text ++ rest)).1 = type ∧
      trimStart (splitType (text ++ rest)).2 = trimStart rest := by
  cases h with
  | absent =>
      have hsplit : splitType rest = (none, trimStart rest) := by
        unfold splitType
        split
        · next more hmore => exact absurd (by rw [hmore]; rfl) (hbrace rfl)
        · rfl
      rw [List.nil_append, hsplit]
      exact ⟨rfl, trimStart_trimStart rest⟩
  | @given gap type hgap _ htype hbraces =>
      have hstart : trimStart (gap ++ '\x7b' :: (type ++ ['\x7d']) ++ rest) =
          '\x7b' :: (type ++ '\x7d' :: rest) := by
        rw [List.append_assoc, trimStart_append hgap, List.cons_append, List.append_assoc]
        exact trimStart_cons_of_not_isBlank _ (by decide)
      have hsplit :
          splitType (gap ++ '\x7b' :: (type ++ ['\x7d']) ++ rest) = (some type, rest) := by
        rw [splitType, hstart]
        simp only [splitBracketed_of_balanced (by decide) hbraces, htype.trimmed.trim_eq]
      rw [hsplit]
      exact ⟨rfl, rfl⟩

theorem Name.trimmed {name : List Char} (h : Name name) : Trimmed name where
  start c hc := h.solid c (List.mem_of_mem_head? hc)
  stop c hc := h.solid c (List.mem_of_getLast? hc)

theorem Name.nonempty?_eq {name : List Char} (h : Name name) :
    nonempty? (trim name) = some name := by
  rw [h.trimmed.trim_eq, nonempty?, if_neg]
  rw [List.isEmpty_iff]
  exact h.ne_nil

theorem splitDefault_append {name : List Char} (h : '=' ∉ name) (value : List Char) :
    splitDefault (name ++ '=' :: value) = (name, some value) := by
  have hname : (name ++ '=' :: value).takeWhile (· ≠ '=') = name :=
    takeWhile_run (fun c hc => decide_eq_true fun heq => h (heq ▸ hc))
      (forall_head?_cons (by decide) value)
  simp only [splitDefault, hname, List.drop_left]

theorem splitDefault_plain {name : List Char} (h : '=' ∉ name) :
    splitDefault name = (name, none) := by
  have hname : (name ++ []).takeWhile (· ≠ '=') = name :=
    takeWhile_run (fun c hc => decide_eq_true fun heq => h (heq ▸ hc)) nofun
  rw [List.append_nil] at hname
  simp only [splitDefault, hname, List.drop_length]

/-- The form of a parameter, option or property starts without a blank. -/
theorem MemberForm.exists_cons {name text : List Char} {optional : Bool}
    {default : Option (List Char)} (h : MemberForm name optional default text) :
    ∃ c more, text = c :: more ∧ isBlank c = false := by
  cases h with
  | required hname _ =>
      obtain ⟨c, more, rfl⟩ := List.exists_cons_of_ne_nil hname.ne_nil
      exact ⟨c, more, rfl, hname.solid c (List.mem_cons_self ..)⟩
  | optional _ _ _ => exact ⟨'[', _, rfl, by decide⟩
  | defaulted _ _ _ _ => exact ⟨'[', _, rfl, by decide⟩

/-- **A parameter, option or property is read** behind its type. -/
theorem MemberForm.read {name : List Char} {optional : Bool} {default : Option (List Char)}
    {memberText text : List Char} (h : MemberForm name optional default memberText)
    (hstart : trimStart (splitType text).2 = memberText ++ rest)
    (hrest : ∀ c ∈ rest.head?, isBlank c = true) :
    readMember text =
      .member ((splitType text).1.map String.ofList) (some (String.ofList name)) optional
        (default.map String.ofList) (String.ofList (trim rest)) := by
  cases h with
  | required hname hbare =>
      have hword : firstWord (name ++ rest) = (some name, trimStart rest) :=
        firstWord_append blanks_nil hname.ne_nil hname.solid hrest
      have hshape : ∀ more, name ++ rest ≠ '[' :: more := by
        obtain ⟨c, more, rfl⟩ := List.exists_cons_of_ne_nil hname.ne_nil
        exact fun _ hopening => hbare (congrArg some (List.cons.inj hopening).1)
      simp only [readMember, hstart]
      rw [hword, trim_trimStart]
      rfl
  | optional hname hplain hbrackets =>
      have hsplit := splitBracketed_of_balanced (by decide) hbrackets rest
      have hshape : '[' :: (name ++ [']']) ++ rest = '[' :: (name ++ ']' :: rest) := by simp
      simp only [readMember, hstart, hshape, hsplit, splitDefault_plain hplain, hname.nonempty?_eq]
      rfl
  | @defaulted value hname hplain hvalue hbrackets =>
      have hsplit := splitBracketed_of_balanced (by decide) hbrackets rest
      have hshape : '[' :: (name ++ '=' :: value ++ [']']) ++ rest =
          '[' :: (name ++ '=' :: value ++ ']' :: rest) := by simp
      simp only [readMember, hstart, hshape, hsplit, splitDefault_append hplain, hname.nonempty?_eq,
        Option.map_some, hvalue.trimmed.trim_eq]

theorem contentReader_member {name : String} (h : name ∈ memberNames) :
    contentReader name = readMember := by
  rw [contentReader, if_pos (List.contains_iff_mem.2 h)]

theorem contentReader_named {name : String} (h : name ∈ namedNames) :
    contentReader name = readNamed := by
  have hother : ∀ n ∈ namedNames, memberNames.contains n = false ∧ n ≠ "return" ∧ n ≠ "type" := by
    decide
  obtain ⟨hmember, hresult, htype⟩ := hother name h
  rw [contentReader, hmember, if_neg Bool.false_ne_true, if_neg hresult, if_neg htype,
    if_pos (List.contains_iff_mem.2 h)]

theorem contentReader_plain {name : String} (hmember : name ∉ memberNames)
    (hresult : name ≠ "return") (htype : name ≠ "type") (hnamed : name ∉ namedNames) :
    contentReader name = readPlain := by
  rw [contentReader, if_neg (mt List.contains_iff_mem.1 hmember), if_neg hresult, if_neg htype,
    if_neg (mt List.contains_iff_mem.1 hnamed)]

/-- **What a tag holds is read as what it was written for**, with nothing but blanks behind it. -/
theorem ContentForm.read {name : String} {content : TagContent} {text : List Char}
    (h : ContentForm name content text) (htail : Blanks tail) :
    contentReader name (text ++ tail) = content := by
  cases h with
  | @member type default optional typeText gap called memberText doc docText hname htype hgap _
      hmember hdoc hbrace =>
      have hrest : ∀ c ∈ (docText ++ tail).head?, isBlank c = true :=
        forall_head?_append hdoc.head htail.head
      have hstart : trimStart (gap ++ (memberText ++ (docText ++ tail))) =
          memberText ++ (docText ++ tail) := by
        rw [trimStart_append hgap]
        obtain ⟨c, more, rfl, hc⟩ := hmember.exists_cons
        exact trimStart_cons_of_not_isBlank _ hc
      have hopen : type = none →
          (trimStart (gap ++ (memberText ++ (docText ++ tail)))).head? ≠ some '\x7b' := by
        intro hnone
        have hstart' := hbrace hnone
        rw [hstart]
        obtain ⟨c, more, rfl, -⟩ := hmember.exists_cons
        exact hstart'
      obtain ⟨htypeRead, hbehind⟩ := htype.split hopen
      rw [contentReader_member hname, List.append_assoc, List.append_assoc, List.append_assoc,
        hmember.read (hbehind.trans hstart) hrest, htypeRead, hdoc.trim_eq htail]
  | @result type typeText doc docText hname htype hdoc hbrace =>
      have hopen : type = none → (trimStart (docText ++ tail)).head? ≠ some '\x7b' := by
        rw [hdoc.head?_trimStart htail]
        exact hbrace
      obtain ⟨htypeRead, hbehind⟩ := htype.split hopen
      rw [hname, List.append_assoc]
      change readResult (typeText ++ (docText ++ tail)) = _
      rw [readResult, htypeRead, ← trim_trimStart, hbehind, trim_trimStart, hdoc.trim_eq htail]
  | @type type _ hname htype =>
      have hopen : some type = none → (trimStart tail).head? ≠ some '\x7b' := nofun
      obtain ⟨htypeRead, -⟩ := htype.split hopen
      rw [hname]
      change readType (text ++ tail) = _
      rw [readType, htypeRead]
      rfl
  | @named gap called doc docText hname hgap _ hcalled hdoc =>
      have hword : firstWord (gap ++ (called ++ (docText ++ tail))) =
          (some called, trimStart (docText ++ tail)) :=
        firstWord_append hgap hcalled.ne_nil hcalled.solid
          (forall_head?_append hdoc.head htail.head)
      rw [contentReader_named hname, List.append_assoc, List.append_assoc, readNamed, hword,
        trim_trimStart, hdoc.trim_eq htail]
      rfl
  | plain hmember hresult htype hnamed hdoc =>
      rw [contentReader_plain hmember hresult htype hnamed, readPlain, hdoc.trim_eq htail]

end Reading

/-! ### Whole comments -/

/-- What stands on lines of its own is behind a line break. -/
theorem head?_onLines (forms : List (List Char)) :
    ∀ c ∈ (forms.flatMap ('\n' :: ·)).head?, isBlank c = true := by
  cases forms with
  | nil => exact nofun
  | cons form forms => exact forall_head?_cons isBlank_newline _

/-- **Tags that stand one to a line are cut apart and read**, each as what it was written for.  The
line break in front of the first one is left to the text before it. -/
theorem cut_forms {tags : List Tag} {forms : List (List Char)}
    (h : List.Forall₂ Form tags forms) (before : List Char) :
    ∃ tail cuts, Blanks tail ∧
      cutFrom (opensMarker before) (forms.flatMap ('\n' :: ·)) = (tail, cuts) ∧
      cuts.map (fun m => Tag.read m.1 m.2) = tags := by
  induction h generalizing before with
  | nil => exact ⟨[], [], nofun, by rw [List.flatMap_nil, cutFrom], rfl⟩
  | @cons t form tags forms ht _ ih =>
      cases ht with
      | @mk word text content hword hcontent =>
          set rest := forms.flatMap ('\n' :: ·) with hrest
          have hbreak : ∀ c ∈ rest.head?, isBlank c = true := head?_onLines forms
          -- What follows the word of a marker is read as if an at sign stood before it: there no
          -- marker can start.
          obtain ⟨tail, cuts, htail, hcut, hcuts⟩ := ih ('@' :: text)
          have htext : cutFrom false (text ++ rest) = (text ++ tail, cuts) := by
            have hquiet := hcontent.quiet ['@'] rest fun c hc =>
              isAsciiLetter_of_isBlank (hbreak c hc)
            have hpassed := cutFrom_unmarked hquiet
            rw [List.singleton_append, hcut] at hpassed
            exact hpassed
          have hends : ∀ c ∈ (text ++ rest).head?, isWordChar c = false := fun c hc =>
            isWordChar_of_isBlank (forall_head?_append hcontent.head hbreak c hc)
          have hmarker := cutFrom_marker hword hends
          refine ⟨['\n'], (word, text ++ tail) :: cuts, ?_, ?_, ?_⟩
          · exact List.forall_mem_singleton.2 isBlank_newline
          · have hnone : ¬ StartsMarker before ('\n' :: ('@' :: (word ++ text) ++ rest)) := by
              rintro ⟨-, c, more, hmarker, -⟩
              exact absurd (List.cons.inj hmarker).1 (by decide)
            have hopens : opensMarker (before ++ ['\n']) = true := by
              rw [opensMarker, List.getLast?_concat]
              exact isBlank_newline
            rw [List.flatMap_cons, ← hrest, List.cons_append, cutFrom_cons hnone, hopens,
              List.cons_append, List.append_assoc, hmarker, htext]
          · rw [List.map_cons, hcuts, Tag.read, hcontent.read htail]

theorem stripLine_decorated {line decorated : List Char} (h : Decorated line decorated) :
    stripLine decorated = line := by
  obtain ⟨pad, hpad, rfl⟩ := h
  have hstar : (pad ++ '*' :: ' ' :: line).dropWhile isSpaceOrTab = '*' :: ' ' :: line :=
    dropWhile_run hpad (forall_head?_cons (by decide) _)
  rw [stripLine, hstar]
  rfl

theorem Decorated.newline_not_mem {line decorated : List Char} (h : Decorated line decorated)
    (hline : '\n' ∉ line) : '\n' ∉ decorated := by
  obtain ⟨pad, hpad, rfl⟩ := h
  intro hmem
  rcases List.mem_append.1 hmem with hmem | hmem
  · exact absurd (hpad _ hmem) (by decide)
  · rcases List.mem_cons.1 hmem with heq | hmem
    · exact absurd heq (by decide)
    rcases List.mem_cons.1 hmem with heq | hmem
    · exact absurd heq (by decide)
    exact hline hmem

/-- Line by line, decoration adds no line and comes off again. -/
theorem map_stripLine_decorated {plain decorated : List (List Char)}
    (h : List.Forall₂ Decorated plain decorated) (hplain : ∀ line ∈ plain, '\n' ∉ line) :
    (∀ line ∈ decorated, '\n' ∉ line) ∧ decorated.map stripLine = plain := by
  induction h with
  | nil => exact ⟨nofun, rfl⟩
  | cons hline _ ih =>
      obtain ⟨hfirst, hmore⟩ := List.forall_mem_cons.1 hplain
      obtain ⟨hfree, hstripped⟩ := ih hmore
      refine ⟨List.forall_mem_cons.2 ⟨hline.newline_not_mem hfirst, hfree⟩, ?_⟩
      rw [List.map_cons, stripLine_decorated hline, hstripped]

/-- **Decoration is taken off again.** -/
theorem stripDecoration_decorated {text : List Char} {decorated : List (List Char)}
    (h : List.Forall₂ Decorated (lines text) decorated) :
    stripDecoration (unlines decorated) = text := by
  obtain ⟨hfree, hstripped⟩ :=
    map_stripLine_decorated h fun _ hline => not_mem_of_mem_pieces hline
  have hne : decorated ≠ [] := by
    rintro rfl
    exact pieces_ne_nil '\n' text (List.length_eq_zero_iff.1 h.length_eq)
  have hlines : lines (unlines decorated) = decorated := pieces_joinPieces hne hfree
  rw [stripDecoration, hlines, hstripped, unlines_lines]

/-- **A description and tags are read back from a comment that was made of them**, one behind the
other on lines of their own, all lines decorated. -/
theorem readAll_of_forms {description : List Char} {tags : List Tag}
    {forms decorated : List (List Char)} (hdescription : Passage description)
    (hforms : List.Forall₂ Form tags forms)
    (hdecorated : List.Forall₂ Decorated (lines (unlines (description :: forms))) decorated) :
    Tag.readAll (String.ofList (unlines decorated)) =
      Tag.description (String.ofList description) :: tags := by
  have hbody : unlines (description :: forms) = description ++ forms.flatMap ('\n' :: ·) :=
    joinPieces_cons '\n' description forms
  have hbreak : ∀ c ∈ (forms.flatMap ('\n' :: ·)).head?, isAsciiLetter c = false :=
    fun c hc => isAsciiLetter_of_isBlank (head?_onLines forms c hc)
  obtain ⟨tail, cuts, htail, hcut, hcuts⟩ := cut_forms hforms description
  have hpassed : cutAtMarkers (description ++ forms.flatMap ('\n' :: ·)) =
      (description ++ tail, cuts) := by
    have hquiet := cutFrom_unmarked (hdescription.quiet [] _ hbreak)
    rw [List.nil_append, hcut] at hquiet
    exact hquiet
  have hdoc : trim (description ++ tail) = description :=
    trim_between blanks_nil hdescription.trimmed htail
  rw [readAll, String.toList_ofList, stripDecoration_decorated hdecorated, hbody, hpassed]
  simp only [hdoc, hcuts]

/-- A comment with a description, an option that has a value, and a type of what is returned.  The
at sign in the middle of a word is plain text. -/
theorem readAll_of_forms_mixed :
    Tag.readAll " * Adds.\n\t* @cfg \x7bA\x7d [a=[1, 2]] Mail a@b.\n* @returns \x7bNumber\x7d" =
      [Tag.description "Adds.",
        ⟨"cfg", .member (some "A") (some "a") true (some "[1, 2]") "Mail a@b."⟩,
        ⟨"return", .result (some "Number") ""⟩] := by
  have hgap : Blanks [' '] := by decide
  have hcfg : Form ⟨"cfg", .member (some "A") (some "a") true (some "[1, 2]") "Mail a@b."⟩
      "@cfg \x7bA\x7d [a=[1, 2]] Mail a@b.".toList := by
    have hword : MarkerWord "cfg".toList := .mk rfl (List.all_eq_true.1 rfl)
    have htype : TypeForm (some "A".toList) " \x7bA\x7d".toList :=
      .given hgap (by decide) (by decide) (by decide)
    have hmember : MemberForm "a".toList true (some "[1, 2]".toList) "[a=[1, 2]]".toList :=
      .defaulted (by decide) (by decide) (by decide) (by decide)
    have hdoc : DocForm "Mail a@b.".toList " Mail a@b.".toList :=
      .given hgap (by decide) (by decide)
    exact .mk hword (.member (by decide) htype hgap (by decide) hmember hdoc nofun)
  have hreturns : Form ⟨"return", .result (some "Number") ""⟩
      "@returns \x7bNumber\x7d".toList := by
    have hword : MarkerWord "returns".toList := .mk rfl (List.all_eq_true.1 rfl)
    have htype : TypeForm (some "Number".toList) " \x7bNumber\x7d".toList :=
      .given hgap (by decide) (by decide) (by decide)
    exact .mk hword (.result (by decide) htype .absent nofun)
  have hlines : lines (unlines ["Adds.".toList, "@cfg \x7bA\x7d [a=[1, 2]] Mail a@b.".toList,
        "@returns \x7bNumber\x7d".toList]) =
      ["Adds.".toList, "@cfg \x7bA\x7d [a=[1, 2]] Mail a@b.".toList,
        "@returns \x7bNumber\x7d".toList] := by
    decide
  have hdecorated : List.Forall₂ Decorated
      (lines (unlines ["Adds.".toList, "@cfg \x7bA\x7d [a=[1, 2]] Mail a@b.".toList,
        "@returns \x7bNumber\x7d".toList]))
      [" * Adds.".toList, "\t* @cfg \x7bA\x7d [a=[1, 2]] Mail a@b.".toList,
        "* @returns \x7bNumber\x7d".toList] := by
    rw [hlines]
    exact .cons ⟨[' '], List.all_eq_true.1 rfl, by decide⟩
      (.cons ⟨['\t'], List.all_eq_true.1 rfl, by decide⟩
        (.cons ⟨[], nofun, by decide⟩ .nil))
  have hdescription : Passage "Adds.".toList := by decide
  have hread := readAll_of_forms hdescription (.cons hcfg (.cons hreturns .nil)) hdecorated
  have htext : String.ofList (unlines [" * Adds.".toList,
        "\t* @cfg \x7bA\x7d [a=[1, 2]] Mail a@b.".toList, "* @returns \x7bNumber\x7d".toList]) =
      " * Adds.\n\t* @cfg \x7bA\x7d [a=[1, 2]] Mail a@b.\n* @returns \x7bNumber\x7d" := by
    decide
  rwa [htext] at hread

end DocComments.Tag
