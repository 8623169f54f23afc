import DocComments.Files

/-!
# Places and the files written from them

A place is told by the tree that it is in and the names that lead to it from the top: what some
names lead to (`Entry.at?`) is what is at the place of these names (`Place.at?_tree`).

Putting a file into a tree keeps what was there reachable (`Entry.Keeps`): every directory is a
directory still, and every name leads to something still.  So whatever way can be gone in the old
tree can be gone in the new one, to the place of the same names (`Place.Matches.follow`), and the
path that a file was written to leads to that file (`Place.look_write`), by whatever detours it
goes.
-/

namespace DocComments

/-! ### Names that lead down a tree -/

/-- **What some names lead to**, one directory after the other. -/
def Entry.at? : Entry → List String → Option Entry
  | e, [] => some e
  | .file _, _ :: _ => none
  | .directory entries, name :: names => (OrderedMap.get? name entries).bind (·.at? names)

@[simp] theorem Entry.at?_nil (e : Entry) : e.at? [] = some e := by
  cases e <;> rfl

theorem Entry.at?_append (e : Entry) (names more : List String) :
    e.at? (names ++ more) = (e.at? names).bind (·.at? more) := by
  induction names generalizing e with
  | nil => rw [List.nil_append, at?_nil, Option.bind_some]
  | cons name names ih =>
      cases e with
      | file bytes => rfl
      | directory entries =>
          rw [List.cons_append, at?, at?]
          cases OrderedMap.get? name entries with
          | none => rfl
          | some inner => exact ih inner

/-- The name leads further down, and neither back nor nowhere. -/
structure LeadsOn (name : String) : Prop where
  nonempty : name ≠ ""
  ne_here : name ≠ "."
  ne_back : name ≠ ".."
  short : name.utf8ByteSize ≤ maxNameBytes

/-- The names that lead to where one is after one more name. -/
def onward (names : List String) (name : String) : List String :=
  if name = "" ∨ name = "." then names
  else if name = ".." then names.dropLast
  else names ++ [name]

theorem LeadsOn.onward_eq {name : String} (h : LeadsOn name) (names : List String) :
    onward names name = names ++ [name] := by
  rw [onward, if_neg (not_or.2 ⟨h.nonempty, h.ne_here⟩), if_neg h.ne_back]

/-! ### Places that hang together -/

namespace Place

/-- **The place hangs together**: each directory around it holds what is next on the way to it,
under the name that the way has for it. -/
inductive Joined : Place → Prop
  | root (e : Entry) : Joined ⟨e, []⟩
  | inside {name : String} {entries : List (String × Entry)} {e : Entry}
      {around : List (String × List (String × Entry))} (hname : LeadsOn name)
      (h : OrderedMap.get? name entries = some e) (houter : Joined ⟨.directory entries, around⟩) :
      Joined ⟨e, (name, entries) :: around⟩

@[simp] theorem names_top (e : Entry) : (top e).names = [] := rfl

theorem names_inside (e inner : Entry) (name : String) (entries : List (String × Entry))
    (around : List (String × List (String × Entry))) :
    (⟨inner, (name, entries) :: around⟩ : Place).names = (⟨e, around⟩ : Place).names ++ [name] :=
  List.reverse_cons

/-- What is put at a place is in the directory around it. -/
theorem tree_inside (e : Entry) (name : String) (entries : List (String × Entry))
    (around : List (String × List (String × Entry))) :
    (⟨e, (name, entries) :: around⟩ : Place).tree =
      (⟨.directory (OrderedMap.insert name e entries), around⟩ : Place).tree := rfl

/-- **The names of a place lead to what is there.** -/
theorem at?_tree (e : Entry) (around : List (String × List (String × Entry))) :
    (⟨e, around⟩ : Place).tree.at? (⟨e, around⟩ : Place).names = some e := by
  induction around generalizing e with
  | nil => exact Entry.at?_nil e
  | cons d around ih =>
      obtain ⟨name, entries⟩ := d
      rw [tree_inside, names_inside (.directory (OrderedMap.insert name e entries)),
        Entry.at?_append, ih, Option.bind_some, Entry.at?, OrderedMap.get?_insert_self,
        Option.bind_some, Entry.at?_nil]

theorem Joined.leadsOn {p : Place} (h : p.Joined) : ∀ name ∈ p.names, LeadsOn name := by
  induction h with
  | root e => exact fun name hname => absurd hname List.not_mem_nil
  | inside hname _ _ ih =>
      rw [names_inside (.directory _)]
      intro other hother
      rcases List.mem_append.1 hother with hother | hother
      · exact ih other hother
      · exact List.mem_singleton.1 hother ▸ hname

/-- A place that hangs together is in the same tree as the directory around it. -/
theorem tree_eq_outer {e : Entry} {name : String} {entries : List (String × Entry)}
    (h : OrderedMap.get? name entries = some e) (around : List (String × List (String × Entry))) :
    (⟨e, (name, entries) :: around⟩ : Place).tree =
      (⟨.directory entries, around⟩ : Place).tree := by
  rw [tree_inside, OrderedMap.insert_of_get? h]

/-! ### Steps -/

/-- **What a step can do**: stay, go back, or go on to what a directory holds. -/
theorem step_cases {p q : Place} {name : String} (h : p.step name = .ok q) :
    ∃ entries, p.entry = .directory entries ∧
      ((name = "" ∨ name = ".") ∧ q = p ∨
        name = ".." ∧ (p.around = [] ∧ q = p ∨
          ∃ d around, p.around = d :: around ∧ q = ⟨.directory d.2, around⟩) ∨
        LeadsOn name ∧ ∃ e, OrderedMap.get? name entries = some e ∧
          q = ⟨e, (name, entries) :: p.around⟩) := by
  rw [step] at h
  split at h
  · cases h
  · next entries hentry =>
    refine ⟨entries, hentry, ?_⟩
    split at h
    · next hstay => exact .inl ⟨hstay, (Except.ok.inj h).symm⟩
    next hgo =>
    obtain ⟨hnonempty, hhere⟩ := not_or.1 hgo
    split at h
    · next hback =>
      refine .inr (.inl ⟨hback, ?_⟩)
      split at h
      · next haround => exact .inl ⟨haround, (Except.ok.inj h).symm⟩
      · next d around haround => exact .inr ⟨d, around, haround, (Except.ok.inj h).symm⟩
    next hback =>
    split at h
    · cases h
    next hshort =>
    split at h
    · next e he =>
      exact .inr (.inr ⟨⟨hnonempty, hhere, hback, Nat.le_of_not_lt hshort⟩, e, he,
        (Except.ok.inj h).symm⟩)
    · cases h

/-- A step along a name that leads on. -/
theorem step_of_leadsOn {p : Place} {name : String} {entries : List (String × Entry)} {e : Entry}
    (hname : LeadsOn name) (hentry : p.entry = .directory entries)
    (he : OrderedMap.get? name entries = some e) :
    p.step name = .ok ⟨e, (name, entries) :: p.around⟩ := by
  simp only [step, hentry, hname.nonempty, hname.ne_here, hname.ne_back,
    Nat.not_lt.2 hname.short, he, if_false, or_self]

/-- **A step keeps to the tree and goes where its name says.** -/
theorem Joined.step {p q : Place} {name : String} (hp : p.Joined) (h : p.step name = .ok q) :
    q.Joined ∧ q.tree = p.tree ∧ q.names = onward p.names name := by
  obtain ⟨entries, hentry, ⟨hstay, rfl⟩ | ⟨rfl, hback⟩ | ⟨hname, e, he, rfl⟩⟩ := step_cases h
  · exact ⟨hp, rfl, (if_pos hstay).symm⟩
  · have honward : onward p.names ".." = p.names.dropLast := by simp [onward]
    rw [honward]
    rcases hback with ⟨haround, rfl⟩ | ⟨d, around, haround, rfl⟩
    · exact ⟨hp, rfl, by simp [names, haround]⟩
    · cases hp with
      | root e => cases haround
      | @inside name inner e outer hname he houter =>
          obtain ⟨rfl, rfl⟩ := List.cons.inj haround
          refine ⟨houter, (tree_eq_outer he _).symm, ?_⟩
          rw [names_inside (.directory inner), List.dropLast_concat]
  · obtain ⟨entry, around⟩ := p
    subst hentry
    refine ⟨.inside hname he hp, tree_eq_outer he around, ?_⟩
    rw [hname.onward_eq, names_inside]

/-- The same for several names. -/
theorem Joined.follow {p q : Place} {way : List String} (hp : p.Joined) (h : p.follow way = .ok q) :
    q.Joined ∧ q.tree = p.tree ∧ q.names = way.foldl onward p.names := by
  induction way generalizing p with
  | nil =>
      obtain rfl := Except.ok.inj h
      exact ⟨hp, rfl, rfl⟩
  | cons name way ih =>
      rw [follow_cons] at h
      cases hstep : p.step name with
      | error problem =>
          rw [hstep] at h
          cases h
      | ok p' =>
          rw [hstep] at h
          obtain ⟨hp', htree, hnames⟩ := hp.step hstep
          obtain ⟨hq, htree', hnames'⟩ := ih hp' h
          exact ⟨hq, htree'.trans htree, by rw [hnames', hnames, List.foldl_cons]⟩

theorem follow_append (p : Place) (way more : List String) :
    p.follow (way ++ more) = (p.follow way).bind (·.follow more) :=
  List.foldlM_append

/-- **A place is found again** by its names, from the top of its tree. -/
theorem Joined.follow_names {p : Place} (hp : p.Joined) : (top p.tree).follow p.names = .ok p := by
  induction hp with
  | root e => rfl
  | @inside name entries e around hname h houter ih =>
      rw [tree_eq_outer h, names_inside (.directory entries), follow_append, ih]
      change ((⟨.directory entries, around⟩ : Place).step name).bind (·.follow []) = _
      rw [step_of_leadsOn hname rfl h]
      rfl

end Place

/-! ### Trees that keep what was there -/

/-- **The second entry keeps what is below the first**: directories are directories, and every name
leads to something. -/
structure Entry.Keeps (e e' : Entry) : Prop where
  directory : ∀ {names entries}, e.at? names = some (.directory entries) →
    ∃ entries', e'.at? names = some (.directory entries')
  leads : ∀ {names}, (e.at? names).isSome → (e'.at? names).isSome

theorem Entry.Keeps.insert {e e' : Entry} (h : e.Keeps e') (name : String)
    (entries : List (String × Entry)) :
    (Entry.directory (OrderedMap.insert name e entries)).Keeps
      (.directory (OrderedMap.insert name e' entries)) := by
  -- along the name given it is up to the two entries, and along others nothing changes
  constructor
  · rintro (_ | ⟨other, names⟩) inner hinner
    · exact ⟨_, Entry.at?_nil _⟩
    by_cases hother : other = name
    · subst hother
      rw [at?, OrderedMap.get?_insert_self, Option.bind_some] at hinner ⊢
      exact h.directory hinner
    · rw [at?, OrderedMap.get?_insert_of_ne hother] at hinner ⊢
      exact ⟨_, hinner⟩
  · rintro (_ | ⟨other, names⟩) hsome
    · rfl
    by_cases hother : other = name
    · subst hother
      rw [at?, OrderedMap.get?_insert_self, Option.bind_some] at hsome ⊢
      exact h.leads hsome
    · rw [at?, OrderedMap.get?_insert_of_ne hother] at hsome ⊢
      exact hsome

/-- A file may be put into a directory where no directory is. -/
theorem Entry.keeps_put {name : String} {entries : List (String × Entry)}
    (h : ∀ inner, OrderedMap.get? name entries ≠ some (.directory inner)) (bytes : List UInt8) :
    (Entry.directory entries).Keeps
      (.directory (OrderedMap.insert name (.file bytes) entries)) := by
  -- nothing but the name itself leads to a file
  constructor
  · rintro (_ | ⟨other, names⟩) inner hinner
    · exact ⟨_, Entry.at?_nil _⟩
    by_cases hother : other = name
    · subst hother
      rw [at?] at hinner
      cases hfound : OrderedMap.get? other entries with
      | none => simp [hfound] at hinner
      | some e =>
          cases e with
          | directory inner => exact absurd hfound (h inner)
          | file old => cases names <;> simp [hfound, at?] at hinner
    · rw [at?, OrderedMap.get?_insert_of_ne hother] at *
      exact ⟨_, hinner⟩
  · rintro (_ | ⟨other, names⟩) hsome
    · rfl
    by_cases hother : other = name
    · subst hother
      rw [at?] at hsome
      cases hfound : OrderedMap.get? other entries with
      | none => simp [hfound] at hsome
      | some e =>
          cases e with
          | directory inner => exact absurd hfound (h inner)
          | file old =>
              cases names with
              | nil => simp [at?, OrderedMap.get?_insert_self]
              | cons _ _ => simp [hfound, at?] at hsome
    · rw [at?, OrderedMap.get?_insert_of_ne hother] at *
      exact hsome

namespace Place

theorem keeps_tree {e e' : Entry} (h : e.Keeps e')
    (around : List (String × List (String × Entry))) :
    (⟨e, around⟩ : Place).tree.Keeps (⟨e', around⟩ : Place).tree := by
  induction around generalizing e e' with
  | nil => exact h
  | cons d around ih => exact ih (h.insert d.1 d.2)

/-- **The same place in two trees**, the second of which keeps what is in the first. -/
structure Matches (p p' : Place) : Prop where
  joined : p.Joined
  joined' : p'.Joined
  names : p'.names = p.names
  keeps : p.tree.Keeps p'.tree

namespace Matches

variable {p p' q : Place}

theorem of_keeps {t t' : Entry} (h : t.Keeps t') : Matches (top t) (top t') :=
  ⟨.root t, .root t', rfl, h⟩

/-- **A step that can be made in the first tree can be made in the second**, to the same place. -/
theorem step (h : Matches p p') {name : String} (hstep : p.step name = .ok q) :
    ∃ q', p'.step name = .ok q' ∧ Matches q q' := by
  obtain ⟨hq, htree, hnames⟩ := h.joined.step hstep
  have hmatches : ∀ {q'}, p'.step name = .ok q' → Matches q q' := fun hstep' => by
    obtain ⟨hq', htree', hnames'⟩ := h.joined'.step hstep'
    exact ⟨hq, hq', by rw [hnames', hnames, h.names], by rw [htree, htree']; exact h.keeps⟩
  suffices hsteps : ∃ q', p'.step name = .ok q' from
    hsteps.imp fun q' hstep' => ⟨hstep', hmatches hstep'⟩
  obtain ⟨entries, hentry, hcases⟩ := step_cases hstep
  -- there is a directory in the second tree too
  have hat : p.tree.at? p.names = some (.directory entries) := by
    rw [← hentry]
    exact at?_tree p.entry p.around
  obtain ⟨entries', hat'⟩ := h.keeps.directory hat
  have hentry' : p'.entry = .directory entries' := by
    rw [← h.names] at hat'
    exact Option.some.inj ((at?_tree p'.entry p'.around).symm.trans hat')
  rcases hcases with ⟨hstay, -⟩ | ⟨rfl, -⟩ | ⟨hname, e, he, -⟩
  · exact ⟨p', by rw [Place.step, hentry']; exact if_pos hstay⟩
  · cases haround : p'.around with
    | nil => exact ⟨p', by simp [Place.step, hentry', haround]⟩
    | cons d around => exact ⟨⟨.directory d.2, around⟩, by simp [Place.step, hentry', haround]⟩
  · have hleads : (p'.tree.at? (p.names ++ [name])).isSome := by
      refine h.keeps.leads ?_
      rw [Entry.at?_append, hat, Option.bind_some, Entry.at?, he, Option.bind_some, Entry.at?_nil]
      rfl
    rw [Entry.at?_append, hat', Option.bind_some, Entry.at?] at hleads
    cases he' : OrderedMap.get? name entries' with
    | none => simp [he'] at hleads
    | some e' => exact ⟨_, step_of_leadsOn hname hentry' he'⟩

/-- **The same for several names.** -/
theorem follow (h : Matches p p') {way : List String} (hfollow : p.follow way = .ok q) :
    ∃ q', p'.follow way = .ok q' ∧ Matches q q' := by
  induction way generalizing p p' with
  | nil =>
      obtain rfl := Except.ok.inj hfollow
      exact ⟨p', rfl, h⟩
  | cons name way ih =>
      rw [follow_cons] at hfollow
      cases hstep : p.step name with
      | error problem =>
          rw [hstep] at hfollow
          cases hfollow
      | ok next =>
          rw [hstep] at hfollow
          obtain ⟨next', hstep', hnext⟩ := h.step hstep
          obtain ⟨q', hq', hmatches⟩ := ih hnext hfollow
          exact ⟨q', by rw [follow_cons, hstep']; exact hq', hmatches⟩

end Matches

/-! ### Writing -/

section Writing

variable {here : Place} {path name : String} {entries : List (String × Entry)}
  {around : List (String × List (String × Entry))}

/-- **A path names a file that can be put into a directory**: the directory is there, and the last
name of the path leads on from it and not to another directory. -/
structure IsTarget (here : Place) (path : String) (entries : List (String × Entry))
    (around : List (String × List (String × Entry))) (name : String) : Prop where
  nonempty : path.isEmpty = false
  short : path.utf8ByteSize ≤ maxPathBytes
  untrimmed : (path.toList.reverse.dropWhile (· = '/')).reverse = path.toList
  way : ∃ before, pathNames path = before ++ [name] ∧
    (here.origin path).follow before = .ok ⟨.directory entries, around⟩
  leadsOn : LeadsOn name
  free : ∀ inner, OrderedMap.get? name entries ≠ some (.directory inner)

/-- A directory, among others, after a file has been put into it. -/
def withFile (entries : List (String × Entry)) (around : List (String × List (String × Entry)))
    (name : String) (bytes : List UInt8) : Place :=
  ⟨.directory (OrderedMap.insert name (.file bytes) entries), around⟩

theorem write_of_isTarget (h : IsTarget here path entries around name) (bytes : List UInt8) :
    here.write path bytes = (top (withFile entries around name bytes).tree).follow here.names := by
  obtain ⟨before, hnames, hfollow⟩ := h.way
  have hlast : (before ++ [name]).getLastD "" = name := by simp [List.getLastD_eq_getLast?]
  simp only [write, h.untrimmed, String.ofList_toList, hnames, hlast, List.dropLast_concat, hfollow,
    h.nonempty, Nat.not_lt.2 h.short, h.leadsOn.nonempty, h.leadsOn.ne_here, h.leadsOn.ne_back,
    Nat.not_lt.2 h.leadsOn.short, bind, Except.bind, ne_eq, not_true_eq_false, decide_false,
    Bool.or_self, Bool.false_eq_true, if_false, withFile]
  split
  · next inner hinner => exact absurd hinner (h.free inner)
  · rfl

theorem exists_isTarget {here' : Place} {bytes : List UInt8}
    (h : here.write path bytes = .ok here') :
    ∃ entries around name, IsTarget here path entries around name := by
  simp only [write, bind, Except.bind, throw, throwThe, MonadExceptOf.throw] at h
  split at h
  · cases h
  next hnonempty =>
  split at h
  · cases h
  next hshort =>
  split at h
  · cases h
  next p hfollow =>
  split at h
  · cases h
  next entries hentry =>
  split at h
  · cases h
  next hname =>
  split at h
  · cases h
  next hbytes =>
  split at h
  · cases h
  next hfree =>
  simp only [ne_eq, Bool.or_eq_true, decide_eq_true_eq, not_or, Decidable.not_not] at hname
  obtain ⟨⟨⟨huntrimmed, hnonnil⟩, hhere⟩, hback⟩ := hname
  rw [huntrimmed, String.ofList_toList] at hfollow hnonnil hhere hback hbytes hfree
  have hnames : pathNames path ≠ [] := by simp [pathNames, Text.pieces_ne_nil]
  refine ⟨entries, p.around, (pathNames path).getLastD "", ?_, Nat.le_of_not_lt hshort, huntrimmed,
    ⟨(pathNames path).dropLast, ?_, ?_⟩, ⟨hnonnil, hhere, hback, Nat.le_of_not_lt hbytes⟩, hfree⟩
  · exact Bool.eq_false_iff.2 hnonempty
  · rw [List.getLastD_eq_getLast?, List.getLast?_eq_some_getLast hnames, Option.getD_some,
      List.dropLast_concat_getLast]
  · rw [hfollow, ← hentry]

theorem Joined.origin (hhere : here.Joined) (path : String) :
    (here.origin path).Joined ∧ (here.origin path).tree = here.tree := by
  rw [Place.origin]
  split
  · exact ⟨.root _, rfl⟩
  · exact ⟨hhere, rfl⟩

/-- A tree with a file put into it keeps what was there. -/
theorem IsTarget.keeps (h : IsTarget here path entries around name) (hhere : here.Joined)
    (bytes : List UInt8) : here.tree.Keeps (withFile entries around name bytes).tree := by
  obtain ⟨before, -, hfollow⟩ := h.way
  obtain ⟨horigin, htree⟩ := hhere.origin path
  rw [← htree, ← (horigin.follow hfollow).2.1]
  exact keeps_tree (Entry.keeps_put h.free bytes) around

/-- **What can be written to a path does not depend on what it is**, and one is where one was. -/
theorem IsTarget.exists_write (h : IsTarget here path entries around name) (hhere : here.Joined)
    (bytes : List UInt8) :
    ∃ here', here.write path bytes = .ok here' ∧ Matches here here' ∧
      here'.tree = (withFile entries around name bytes).tree := by
  obtain ⟨here', hfollow, hmatches⟩ :=
    (Matches.of_keeps (h.keeps hhere bytes)).follow hhere.follow_names
  exact ⟨here', (write_of_isTarget h bytes).trans hfollow, hmatches,
    ((Joined.root _).follow hfollow).2.1⟩

/-- **The path that a file is written to leads to the file.** -/
theorem Joined.look_write (hhere : here.Joined) {here' : Place} {bytes : List UInt8}
    (h : here.write path bytes = .ok here') : here'.look path = .ok (.file bytes) := by
  obtain ⟨entries, around, name, htarget⟩ := exists_isTarget h
  obtain ⟨here'', hwrite, hmatches, htree⟩ := htarget.exists_write hhere bytes
  obtain rfl := Except.ok.inj (h.symm.trans hwrite)
  obtain ⟨before, hnames, hfollow⟩ := htarget.way
  -- the way to the directory can be gone as before
  have horigin : Matches (here.origin path) (here'.origin path) := by
    rw [Place.origin, Place.origin]
    split
    · exact .of_keeps hmatches.keeps
    · exact hmatches
  obtain ⟨p, hp, hfound⟩ := horigin.follow hfollow
  have hentry : p.entry = .directory (OrderedMap.insert name (.file bytes) entries) := by
    have hat := at?_tree p.entry p.around
    have htreep : p.tree = (withFile entries around name bytes).tree :=
      ((horigin.joined'.follow hp).2.1.trans (hmatches.joined'.origin path).2).trans htree
    change p.tree.at? p.names = _ at hat
    rw [htreep, hfound.names] at hat
    exact Option.some.inj (hat.symm.trans (at?_tree _ around))
  have hstep := step_of_leadsOn htarget.leadsOn hentry (OrderedMap.get?_insert_self _ _ _)
  rw [look, htarget.nonempty, if_neg Bool.false_ne_true, if_neg (Nat.not_lt.2 htarget.short),
    hnames, follow_append, hp]
  change (Except.bind (p.step name) (·.follow [])).map _ = _
  rw [hstep]
  rfl

end Writing

end Place

end DocComments
