import DocComments.Files.Expansion
import DocComments.Proofs.Places
import Mathlib.Data.List.Nodup
import Mathlib.Data.List.Sort
import Mathlib.Data.String.Basic

/-!
# The files that a path stands for

The directories at and below a directory, and the files in them, are told by how one gets there
(`DirectoryBelow`, `FileBelow`).  A directory stands for the paths of the files below it that fit,
in strictly increasing order, so each stands there once; every other path stands for itself
(`StandsFor`).

The order in which a directory is gone through is left open: a walk visits each directory at or
below it once and lists the files there, the directories and the files in any order (`IsWalk`).
In a directory whose names are proper (`WellNamed`) a path tells the directory and the name that it
is made of (`DirectoryBelow.joinPath_inj`), so no walk finds a path twice (`IsWalk.nodup`).  Paths
without repetitions have one increasing order, so what is collected along some walks is what the
paths stand for, whichever walks they are (`FileView.eq_expand_of_collected`).
-/

namespace DocComments

open OrderedMap (keys)
open Text

/-! ### Names in a tree -/

/-- The name can stand in a path. -/
structure IsEntryName (name : String) : Prop where
  nonempty : name ≠ ""
  unbroken : '/' ∉ name.toList

instance (name : String) : Decidable (IsEntryName name) :=
  decidable_of_iff (name ≠ "" ∧ '/' ∉ name.toList) ⟨fun h => ⟨h.1, h.2⟩, fun h => ⟨h.1, h.2⟩⟩

/-- **What a directory with proper names holds**: each name once, and the same for the directories
in it. -/
inductive WellNamed : List (String × Entry) → Prop
  | intro {entries : List (String × Entry)} (distinct : (keys entries).Nodup)
      (named : ∀ name ∈ keys entries, IsEntryName name)
      (inner : ∀ name held, (name, .directory held) ∈ entries → WellNamed held) :
      WellNamed entries

/-- The directories of a tree have proper names. -/
def Entry.WellNamed : Entry → Prop
  | .file _ => True
  | .directory entries => DocComments.WellNamed entries

/-- Only directories with proper names can be seen. -/
def FileView.WellNamed (files : FileView) : Prop :=
  ∀ {path entries}, files.look path = .ok (.directory entries) → DocComments.WellNamed entries

section WellNamed

variable {entries held : List (String × Entry)} {name : String}

theorem WellNamed.distinct (h : WellNamed entries) : (keys entries).Nodup := by
  cases h with
  | intro distinct _ _ => exact distinct

theorem WellNamed.isEntryName (h : WellNamed entries) (hname : name ∈ keys entries) :
    IsEntryName name := by
  cases h with
  | intro _ named _ => exact named name hname

theorem WellNamed.inner (h : WellNamed entries) (hheld : (name, .directory held) ∈ entries) :
    WellNamed held := by
  cases h with
  | intro _ _ inner => exact inner name held hheld

theorem mem_keys {e : Entry} (h : (name, e) ∈ entries) : name ∈ keys entries :=
  List.mem_map_of_mem h

theorem WellNamed.tail {e : String × Entry} (h : WellNamed (e :: entries)) : WellNamed entries :=
  .intro (List.nodup_cons.1 h.distinct).2
    (fun _ hname => h.isEntryName (List.mem_cons_of_mem _ hname))
    fun _ _ hheld => h.inner (List.mem_cons_of_mem _ hheld)

/-- Whatever is in a tree with proper names has proper names. -/
theorem Entry.WellNamed.at? {e inner : Entry} {names : List String} (h : e.WellNamed)
    (hat : e.at? names = some inner) : inner.WellNamed := by
  induction names generalizing e with
  | nil =>
      rw [at?_nil] at hat
      exact Option.some.inj hat ▸ h
  | cons name names ih =>
      cases e with
      | file bytes => cases hat
      | directory entries =>
          rw [Entry.at?] at hat
          obtain ⟨e, he, hinner⟩ := Option.bind_eq_some_iff.1 hat
          refine ih ?_ hinner
          cases e with
          | file bytes => exact trivial
          | directory held => exact DocComments.WellNamed.inner h (OrderedMap.mem_of_get? he)

/-- **What can be seen from a place** in a tree with proper names has proper names. -/
theorem Place.Joined.wellNamed_view {here : Place} (hhere : here.Joined)
    (htree : here.tree.WellNamed) : here.view.WellNamed := by
  intro path entries hlook
  change here.look path = _ at hlook
  rw [Place.look] at hlook
  split at hlook
  · cases hlook
  split at hlook
  · cases hlook
  cases hfollow : (here.origin path).follow (pathNames path) with
  | error problem =>
      rw [hfollow] at hlook
      cases hlook
  | ok p =>
      rw [hfollow] at hlook
      obtain ⟨horigin, htree'⟩ := hhere.origin path
      rw [← htree', ← (horigin.follow hfollow).2.1] at htree
      have hp : p.entry.WellNamed := htree.at? (at?_tree p.entry p.around)
      rw [show p.entry = .directory entries from Except.ok.inj hlook] at hp
      exact hp

end WellNamed

/-! ### What is below a directory -/

/-- **A directory at or below another**: the path of it, and what it holds. -/
inductive DirectoryBelow :
    String → List (String × Entry) → String → List (String × Entry) → Prop
  | here (directory : String) (entries : List (String × Entry)) :
      DirectoryBelow directory entries directory entries
  | inside {directory name below : String} {entries held content : List (String × Entry)}
      (hheld : (name, .directory held) ∈ entries)
      (hbelow : DirectoryBelow (joinPath directory name) held below content) :
      DirectoryBelow directory entries below content

/-- **A file at or below a directory**: the directory that holds it, and its name. -/
def FileBelow (directory : String) (entries : List (String × Entry)) (holder name : String) :
    Prop :=
  ∃ content bytes, DirectoryBelow directory entries holder content ∧
    (name, .file bytes) ∈ content

/-- The name ends with the signs of one of the endings. -/
def EndsInOneOf (endings : List LooseString) (name : String) : Prop :=
  ∃ ending ∈ endings, ending.signs <:+ (LooseString.ofString name).signs

/-- **What a path stands for**: a directory for the files below it whose names have one of the
endings, in strictly increasing order, and every other path for itself. -/
inductive StandsFor (files : FileView) (endings : List LooseString) (path : String) :
    List String → Prop
  | itself (hother : ∀ entries, files.look path ≠ .ok (.directory entries)) :
      StandsFor files endings path [path]
  | directory {entries : List (String × Entry)} {found : List String}
      (hentries : files.look path = .ok (.directory entries))
      (hincreasing : found.Pairwise (· < ·))
      (hfiles : ∀ p, p ∈ found ↔
        ∃ holder name, FileBelow path entries holder name ∧ EndsInOneOf endings name ∧
          p = joinPath holder name) :
      StandsFor files endings path found

/-! ### Walks -/

/-- **A directory that is visited**: its path and the names of the files in it. -/
structure Visit where
  /-- The path of the directory. -/
  directory : String
  /-- The names of its files. -/
  names : List String

/-- The names of the files among some entries. -/
def fileNames : List (String × Entry) → List String
  | [] => []
  | (name, .file _) :: more => name :: fileNames more
  | (_, .directory _) :: more => fileNames more

/-- **A way to go through a directory**: every directory at or below it is visited, once, and
nothing else is; the directories and the files in each come in any order. -/
structure IsWalk (directory : String) (entries : List (String × Entry)) (walk : List Visit) :
    Prop where
  once : (walk.map (·.directory)).Nodup
  visited : ∀ {below content}, DirectoryBelow directory entries below content →
    ∃ v ∈ walk, v.directory = below ∧ v.names.Perm (fileNames content)
  below : ∀ v ∈ walk, ∃ content, DirectoryBelow directory entries v.directory content ∧
    v.names.Perm (fileNames content)

/-- The paths of the files that fit, in the order in which a walk comes to them. -/
def foundAlong (fits : String → Bool) (walk : List Visit) : List String :=
  walk.flatMap fun v => (v.names.filter fits).map (joinPath v.directory)

/-- **What is collected for some paths**, where each directory is gone through on some walk. -/
inductive Collected (files : FileView) (endings : List LooseString) :
    List String → List String → Prop
  | nil : Collected files endings [] []
  | itself {path : String} {paths found : List String}
      (hother : ∀ entries, files.look path ≠ .ok (.directory entries))
      (hmore : Collected files endings paths found) :
      Collected files endings (path :: paths) (path :: found)
  | directory {path : String} {paths found : List String} {entries : List (String × Entry)}
      {walk : List Visit} (hentries : files.look path = .ok (.directory entries))
      (hwalk : IsWalk path entries walk) (hmore : Collected files endings paths found) :
      Collected files endings (path :: paths)
        (sortPaths (foundAlong (hasEnding endings) walk) ++ found)

/-- The directories below a directory, in the order of its entries. -/
def innerVisits (directory : String) : List (String × Entry) → List Visit
  | [] => []
  | (_, .file _) :: more => innerVisits directory more
  | (name, .directory held) :: more =>
      ⟨joinPath directory name, fileNames held⟩ ::
        (innerVisits (joinPath directory name) held ++ innerVisits directory more)
termination_by entries => sizeOf entries
decreasing_by
  · exact sizeOf_later_entries _ more
  · exact sizeOf_inner_entries name held more
  · exact sizeOf_later_entries _ more

/-- The walk in the order of the entries. -/
def visits (directory : String) (entries : List (String × Entry)) : List Visit :=
  ⟨directory, fileNames entries⟩ :: innerVisits directory entries

/-! ### Paths tell the names that they are made of -/

/-- Two texts that go on with a slash or not at all are the same up to there. -/
theorem eq_of_append_eq {a b rest rest' : List Char} (ha : '/' ∉ a) (hb : '/' ∉ b)
    (hrest : ∀ c ∈ rest.head?, c = '/') (hrest' : ∀ c ∈ rest'.head?, c = '/')
    (h : a ++ rest = b ++ rest') : a = b := by
  have htaken : ∀ {run rest : List Char}, '/' ∉ run → (∀ c ∈ rest.head?, c = '/') →
      (run ++ rest).takeWhile (· != '/') = run := by
    intro run rest hrun hrest
    refine takeWhile_run (fun c hc => ?_) fun c hc => by rw [hrest c hc, bne_self_eq_false]
    rw [bne_iff_ne]
    rintro rfl
    exact hrun hc
  rw [← htaken ha hrest, h, htaken hb hrest']

/-- What the paths of the things in a directory begin with. -/
def leadIn (directory : String) : List Char :=
  if directory.toList.getLast? = some '/' then directory.toList else directory.toList ++ ['/']

theorem toList_joinPath (directory name : String) :
    (joinPath directory name).toList = leadIn directory ++ name.toList := by
  unfold joinPath leadIn
  split <;> simp

theorem leadIn_of_open {directory : String} (h : directory.toList.getLast? ≠ some '/') :
    leadIn directory = directory.toList ++ ['/'] :=
  if_neg h

theorem exists_leadIn (directory : String) : ∃ before, leadIn directory = before ++ ['/'] := by
  unfold leadIn
  split
  · next h =>
      obtain ⟨before, hbefore⟩ := List.getLast?_eq_some_iff.1 h
      exact ⟨before, hbefore⟩
  · exact ⟨_, rfl⟩

theorem IsEntryName.open_joinPath {name : String} (h : IsEntryName name) (directory : String) :
    (joinPath directory name).toList.getLast? ≠ some '/' := by
  have hne : name.toList ≠ [] := mt String.toList_eq_nil_iff.1 h.nonempty
  rw [toList_joinPath, List.getLast?_append_of_ne_nil _ hne]
  exact fun hlast => h.unbroken (List.mem_of_getLast? hlast)

/-- **The path goes by the thing of a name in a directory**: it leads there, or further on. -/
structure GoesBy (directory name path : String) : Prop where
  way : ∃ rest, path.toList = leadIn directory ++ name.toList ++ rest ∧ ∀ c ∈ rest.head?, c = '/'
  isOpen : path.toList.getLast? ≠ some '/'

namespace GoesBy

variable {directory name path : String}

theorem of_joinPath (h : IsEntryName name) : GoesBy directory name (joinPath directory name) :=
  ⟨⟨[], by rw [toList_joinPath, List.append_nil], fun _ hc => by cases hc⟩,
    h.open_joinPath directory⟩

theorem of_inner {inner : String} (hname : IsEntryName name)
    (h : GoesBy (joinPath directory name) inner path) : GoesBy directory name path := by
  obtain ⟨⟨rest, hpath, -⟩, hopen⟩ := h
  refine ⟨⟨'/' :: (inner.toList ++ rest), ?_, fun c hc => (Option.some.inj hc).symm⟩, hopen⟩
  rw [hpath, leadIn_of_open (hname.open_joinPath directory), toList_joinPath]
  simp

/-- There is one name that a path goes by. -/
theorem name_unique {other : String} (hname : IsEntryName name) (hother : IsEntryName other)
    (h : GoesBy directory name path) (h' : GoesBy directory other path) : name = other := by
  obtain ⟨⟨rest, hpath, hrest⟩, -⟩ := h
  obtain ⟨⟨rest', hpath', hrest'⟩, -⟩ := h'
  rw [hpath, List.append_assoc, List.append_assoc] at hpath'
  exact String.toList_inj.1 (eq_of_append_eq hname.unbroken hother.unbroken hrest hrest'
    (List.append_cancel_left hpath'))

theorem length_lt (h : GoesBy directory name path) :
    (leadIn directory).length < (leadIn path).length := by
  obtain ⟨⟨rest, hpath, -⟩, hopen⟩ := h
  rw [leadIn_of_open hopen, hpath]
  simp only [List.length_append, List.length_singleton]
  omega

end GoesBy

namespace DirectoryBelow

variable {directory below other : String} {entries content content' : List (String × Entry)}

theorem wellNamed (h : DirectoryBelow directory entries below content)
    (hentries : WellNamed entries) : WellNamed content := by
  induction h with
  | here directory entries => exact hentries
  | inside hheld _ ih => exact ih (hentries.inner hheld)

/-- **The way down** begins with one of the entries. -/
theorem goesBy (h : DirectoryBelow directory entries below content) (hentries : WellNamed entries) :
    below = directory ∨ ∃ name held, (name, .directory held) ∈ entries ∧
      GoesBy directory name below := by
  induction h with
  | here directory entries => exact .inl rfl
  | @inside directory name below entries held content hheld _ ih =>
      have hname := hentries.isEntryName (mem_keys hheld)
      refine .inr ⟨name, held, hheld, ?_⟩
      rcases ih (hentries.inner hheld) with rfl | ⟨inner, _, _, hinner⟩
      · exact .of_joinPath hname
      · exact hinner.of_inner hname

/-- Directories below a directory are told apart by what their files' paths begin with. -/
theorem eq_of_leadIn_eq (h : DirectoryBelow directory entries below content)
    (h' : DirectoryBelow directory entries other content') (hentries : WellNamed entries)
    (heq : leadIn below = leadIn other) : below = other := by
  -- a path ends with a slash only if it is the one from which all start
  rcases h.goesBy hentries with rfl | ⟨name, -, -, hbelow⟩ <;>
    rcases h'.goesBy hentries with rfl | ⟨name', -, -, hother⟩
  · rfl
  · exact absurd (congrArg List.length heq) hother.length_lt.ne
  · exact absurd (congrArg List.length heq) hbelow.length_lt.ne'
  · rw [leadIn_of_open hbelow.isOpen, leadIn_of_open hother.isOpen] at heq
    exact String.toList_inj.1 (List.append_cancel_right heq)

/-- **A path below a directory tells the directory and the name** that it is made of. -/
theorem joinPath_inj {name name' : String} (h : DirectoryBelow directory entries below content)
    (h' : DirectoryBelow directory entries other content') (hentries : WellNamed entries)
    (hname : '/' ∉ name.toList) (hname' : '/' ∉ name'.toList)
    (heq : joinPath below name = joinPath other name') : below = other ∧ name = name' := by
  obtain ⟨before, hbefore⟩ := exists_leadIn below
  obtain ⟨before', hbefore'⟩ := exists_leadIn other
  have hlists : leadIn below ++ name.toList = leadIn other ++ name'.toList := by
    rw [← toList_joinPath, ← toList_joinPath, heq]
  have hnames : name = name' := by
    -- the name is what stands behind the last slash
    have hreverse := congrArg List.reverse hlists
    rw [hbefore, hbefore'] at hreverse
    simp only [List.reverse_append, List.reverse_singleton, List.singleton_append] at hreverse
    have hends : ∀ rest : List Char, ∀ c ∈ ('/' :: rest).head?, c = '/' :=
      fun rest c hc => (Option.some.inj hc).symm
    exact String.toList_inj.1 (List.reverse_injective (eq_of_append_eq
      (mt List.mem_reverse.1 hname) (mt List.mem_reverse.1 hname') (hends _) (hends _) hreverse))
  subst hnames
  exact ⟨h.eq_of_leadIn_eq h' hentries (List.append_cancel_right hlists), rfl⟩

end DirectoryBelow

/-! ### What a walk finds -/

section Walks

variable {directory name : String} {entries : List (String × Entry)} {fits : String → Bool}
  {walk : List Visit}

@[simp] theorem mem_fileNames :
    name ∈ fileNames entries ↔ ∃ bytes, (name, .file bytes) ∈ entries := by
  fun_induction fileNames entries with
  | case1 => simp
  | case2 first bytes more ih => simp [ih, exists_or]
  | case3 first held more ih => simp [ih]

theorem fileNames_sublist (entries : List (String × Entry)) :
    (fileNames entries).Sublist (keys entries) := by
  fun_induction fileNames entries with
  | case1 => exact .slnil
  | case2 first bytes more ih => exact ih.cons_cons first
  | case3 first held more ih => exact ih.cons first

theorem hasEnding_iff (endings : List LooseString) (name : String) :
    hasEnding endings name = true ↔ EndsInOneOf endings name := by
  simp [hasEnding, EndsInOneOf, LooseString.endsWith]

theorem foundAlong_cons (fits : String → Bool) (v : Visit) (walk : List Visit) :
    foundAlong fits (v :: walk) =
      (v.names.filter fits).map (joinPath v.directory) ++ foundAlong fits walk :=
  List.flatMap_cons

theorem foundAlong_append (fits : String → Bool) (walk more : List Visit) :
    foundAlong fits (walk ++ more) = foundAlong fits walk ++ foundAlong fits more :=
  List.flatMap_append

/-- **A walk finds the files below that fit.** -/
theorem IsWalk.mem_foundAlong (h : IsWalk directory entries walk) {p : String} :
    p ∈ foundAlong fits walk ↔ ∃ holder name,
      FileBelow directory entries holder name ∧ fits name = true ∧ p = joinPath holder name := by
  simp only [foundAlong, List.mem_flatMap, List.mem_map, List.mem_filter]
  constructor
  · rintro ⟨v, hv, name, ⟨hname, hfits⟩, rfl⟩
    obtain ⟨content, hbelow, hnames⟩ := h.below v hv
    obtain ⟨bytes, hfile⟩ := mem_fileNames.1 (hnames.mem_iff.1 hname)
    exact ⟨v.directory, name, ⟨content, bytes, hbelow, hfile⟩, hfits, rfl⟩
  · rintro ⟨holder, name, ⟨content, bytes, hbelow, hfile⟩, hfits, rfl⟩
    obtain ⟨v, hv, rfl, hnames⟩ := h.visited hbelow
    exact ⟨v, hv, name, ⟨hnames.mem_iff.2 (mem_fileNames.2 ⟨bytes, hfile⟩), hfits⟩, rfl⟩

/-- **A walk finds no path twice.** -/
theorem IsWalk.nodup (h : IsWalk directory entries walk) (hentries : WellNamed entries) :
    (foundAlong fits walk).Nodup := by
  have hproper : ∀ v ∈ walk, ∃ content, DirectoryBelow directory entries v.directory content ∧
      v.names.Nodup ∧ ∀ name ∈ v.names, '/' ∉ name.toList := by
    intro v hv
    obtain ⟨content, hbelow, hnames⟩ := h.below v hv
    have hcontent := hbelow.wellNamed hentries
    refine ⟨content, hbelow, ?_, fun name hname => ?_⟩
    · exact hnames.nodup_iff.2 (hcontent.distinct.sublist (fileNames_sublist content))
    · obtain ⟨bytes, hfile⟩ := mem_fileNames.1 (hnames.mem_iff.1 hname)
      exact (hcontent.isEntryName (mem_keys hfile)).unbroken
  unfold foundAlong
  rw [List.nodup_flatMap]
  constructor
  · intro v hv
    obtain ⟨content, hbelow, hnodup, hnames⟩ := hproper v hv
    refine (hnodup.filter fits).map_on fun name hname name' hname' heq => ?_
    exact (hbelow.joinPath_inj hbelow hentries (hnames name (List.mem_of_mem_filter hname))
      (hnames name' (List.mem_of_mem_filter hname')) heq).2
  · -- two visits are to two directories
    have hdirectories : walk.Pairwise fun v w => v.directory ≠ w.directory :=
      List.pairwise_map.1 h.once
    refine hdirectories.imp_of_mem fun {v w} hv hw hne => ?_
    obtain ⟨content, hbelow, -, hnames⟩ := hproper v hv
    obtain ⟨content', hbelow', -, hnames'⟩ := hproper w hw
    show List.Disjoint _ _
    intro p hp hp'
    obtain ⟨name, hname, rfl⟩ := List.mem_map.1 hp
    obtain ⟨name', hname', heq⟩ := List.mem_map.1 hp'
    exact hne (hbelow.joinPath_inj hbelow' hentries (hnames name (List.mem_of_mem_filter hname))
      (hnames' name' (List.mem_of_mem_filter hname')) heq.symm).1

/-! ### The walk in the order of the entries -/

theorem innerVisits_directory (directory name : String) (held more : List (String × Entry)) :
    innerVisits directory ((name, .directory held) :: more) =
      visits (joinPath directory name) held ++ innerVisits directory more := by
  rw [innerVisits, visits, List.cons_append]

theorem mem_innerVisits {v : Visit} : v ∈ innerVisits directory entries ↔
    ∃ name held, (name, .directory held) ∈ entries ∧
      v ∈ visits (joinPath directory name) held := by
  induction entries with
  | nil => simp [innerVisits]
  | cons e more ih =>
      obtain ⟨first, e⟩ := e
      cases e with
      | file bytes => simp [innerVisits, ih]
      | directory held =>
          rw [innerVisits_directory, List.mem_append, ih]
          constructor
          · rintro (hfirst | ⟨name, other, hother, hv⟩)
            · exact ⟨first, held, List.mem_cons_self, hfirst⟩
            · exact ⟨name, other, List.mem_cons_of_mem _ hother, hv⟩
          · rintro ⟨name, other, hother, hv⟩
            rcases List.mem_cons.1 hother with heq | hother
            · obtain ⟨rfl, rfl⟩ : name = first ∧ other = held := by simpa using heq
              exact .inl hv
            · exact .inr ⟨name, other, hother, hv⟩

theorem exists_mem_visits {below : String} {content : List (String × Entry)}
    (h : DirectoryBelow directory entries below content) :
    ⟨below, fileNames content⟩ ∈ visits directory entries := by
  induction h with
  | here directory entries => exact List.mem_cons_self
  | @inside directory name below entries held content hheld _ ih =>
      exact List.mem_cons_of_mem _ (mem_innerVisits.2 ⟨name, held, hheld, ih⟩)

/-- Going through some of the entries, one visits directories that the whole holds. -/
theorem below_of_mem_innerVisits {whole : List (String × Entry)} (hwhole : entries ⊆ whole)
    {v : Visit} (h : v ∈ innerVisits directory entries) :
    ∃ content, DirectoryBelow directory whole v.directory content ∧
      v.names = fileNames content := by
  fun_induction innerVisits directory entries generalizing whole with
  | case1 => exact absurd h List.not_mem_nil
  | case2 directory first bytes more ih => exact ih (List.subset_of_cons_subset hwhole) h
  | case3 directory first held more ihheld ihmore =>
      have hfirst := hwhole List.mem_cons_self
      rcases List.mem_cons.1 h with rfl | h
      · exact ⟨held, .inside hfirst (.here _ held), rfl⟩
      rcases List.mem_append.1 h with h | h
      · obtain ⟨content, hbelow, hnames⟩ := ihheld (List.Subset.refl held) h
        exact ⟨content, .inside hfirst hbelow, hnames⟩
      · exact ihmore (List.subset_of_cons_subset hwhole) h

theorem below_of_mem_visits {v : Visit} (h : v ∈ visits directory entries) :
    ∃ content, DirectoryBelow directory entries v.directory content ∧
      v.names = fileNames content := by
  rcases List.mem_cons.1 h with rfl | h
  · exact ⟨entries, .here _ _, rfl⟩
  · exact below_of_mem_innerVisits (List.Subset.refl entries) h

theorem GoesBy.of_mem_visits {held : List (String × Entry)} {v : Visit} (hname : IsEntryName name)
    (hheld : WellNamed held) (hv : v ∈ visits (joinPath directory name) held) :
    GoesBy directory name v.directory := by
  obtain ⟨content, hbelow, -⟩ := below_of_mem_visits hv
  rcases hbelow.goesBy hheld with heq | ⟨inner, -, -, hinner⟩
  · rw [heq]
    exact .of_joinPath hname
  · exact hinner.of_inner hname

/-- No directory below a directory is the directory itself. -/
theorem nodup_visits_of_inner (hentries : WellNamed entries)
    (hinner : ((innerVisits directory entries).map (·.directory)).Nodup) :
    ((visits directory entries).map (·.directory)).Nodup := by
  refine List.nodup_cons.2 ⟨fun hmem => ?_, hinner⟩
  obtain ⟨v, hv, heq⟩ := List.mem_map.1 hmem
  obtain ⟨name, held, hheld, hvisit⟩ := mem_innerVisits.1 hv
  have hlonger := (GoesBy.of_mem_visits (hentries.isEntryName (mem_keys hheld))
    (hentries.inner hheld) hvisit).length_lt
  rw [heq] at hlonger
  exact lt_irrefl _ hlonger

theorem nodup_innerVisits (hentries : WellNamed entries) :
    ((innerVisits directory entries).map (·.directory)).Nodup := by
  fun_induction innerVisits directory entries with
  | case1 => exact List.nodup_nil
  | case2 directory first bytes more ih => exact ih hentries.tail
  | case3 directory first held more ihheld ihmore =>
      have hfirst := hentries.isEntryName List.mem_cons_self
      have hheld := hentries.inner List.mem_cons_self
      show ((visits (joinPath directory first) held ++ innerVisits directory more).map _).Nodup
      rw [List.map_append, List.nodup_append]
      refine ⟨nodup_visits_of_inner hheld (ihheld hheld), ihmore hentries.tail, ?_⟩
      -- the ways to the two directories part at once
      rintro path hpath _ hpath' rfl
      obtain ⟨v, hv, hvpath⟩ := List.mem_map.1 hpath
      obtain ⟨w, hw, hwpath⟩ := List.mem_map.1 hpath'
      obtain ⟨name, other, hother, hvisit⟩ := mem_innerVisits.1 hw
      have hname := hentries.tail.isEntryName (mem_keys hother)
      have hgoes := GoesBy.of_mem_visits hname (hentries.tail.inner hother) hvisit
      rw [hwpath, ← hvpath] at hgoes
      obtain rfl := (GoesBy.of_mem_visits hfirst hheld hv).name_unique hfirst hname hgoes
      exact (List.nodup_cons.1 hentries.distinct).1 (mem_keys hother)

/-- **Going through the entries in order is a walk.** -/
theorem isWalk_visits (directory : String) (hentries : WellNamed entries) :
    IsWalk directory entries (visits directory entries) where
  once := nodup_visits_of_inner hentries (nodup_innerVisits hentries)
  visited h := ⟨_, exists_mem_visits h, rfl, .refl _⟩
  below v hv := by
    obtain ⟨content, hbelow, hnames⟩ := below_of_mem_visits hv
    exact ⟨content, hbelow, hnames ▸ .refl _⟩

/-- **What is found below a directory** is what the walk in the order of the entries finds. -/
theorem filesBelow_perm (fits : String → Bool) (directory : String)
    (entries : List (String × Entry)) :
    (filesBelow fits directory entries).Perm (foundAlong fits (visits directory entries)) := by
  rw [visits, foundAlong_cons]
  fun_induction filesBelow fits directory entries with
  | case1 directory => simp [fileNames, innerVisits, foundAlong]
  | case2 directory first bytes more hfits ih =>
      rw [fileNames, innerVisits, List.filter_cons_of_pos hfits]
      exact ih.cons _
  | case3 directory first bytes more hfits ih =>
      rw [fileNames, innerVisits, List.filter_cons_of_neg hfits]
      exact ih
  | case4 directory first held more ihheld ihmore =>
      rw [fileNames, innerVisits_directory, visits, foundAlong_append, foundAlong_cons]
      exact (ihheld.append ihmore).trans (List.perm_append_comm_assoc _ _ _)

/-! ### Paths in order -/

/-- Paths without repetitions are put into strictly increasing order. -/
theorem pairwise_sortPaths {paths : List String} (h : paths.Nodup) :
    (sortPaths paths).Pairwise (· < ·) := by
  have hsorted : (sortPaths paths).Pairwise (· ≤ ·) := List.pairwise_mergeSort' (· ≤ ·) paths
  have hnodup : (sortPaths paths).Nodup := (List.mergeSort_perm paths _).nodup_iff.2 h
  exact hsorted.imp₂ (fun _ _ hle hne => lt_of_le_of_ne hle hne) hnodup

theorem mem_sortPaths {paths : List String} {p : String} : p ∈ sortPaths paths ↔ p ∈ paths :=
  (List.mergeSort_perm paths _).mem_iff

/-- **Sorting makes all walks equal.** -/
theorem IsWalk.sortPaths_eq (h : IsWalk directory entries walk) (hentries : WellNamed entries) :
    sortPaths (foundAlong fits walk) = sortPaths (filesBelow fits directory entries) := by
  have hvisits := isWalk_visits directory hentries
  have hbelow := filesBelow_perm fits directory entries
  refine List.Pairwise.eq_of_mem_iff (pairwise_sortPaths (h.nodup hentries))
    (pairwise_sortPaths (hbelow.nodup_iff.2 (hvisits.nodup hentries))) fun p => ?_
  rw [mem_sortPaths, mem_sortPaths, hbelow.mem_iff, h.mem_foundAlong, hvisits.mem_foundAlong]

end Walks

/-! ### What some paths stand for -/

namespace FileView

variable {files : FileView} {path : String}

theorem expandPath_of_directory {entries : List (String × Entry)}
    (h : files.look path = .ok (.directory entries)) (endings : List LooseString) :
    files.expandPath endings path = sortPaths (filesBelow (hasEnding endings) path entries) := by
  rw [expandPath, h]

theorem expandPath_of_other (h : ∀ entries, files.look path ≠ .ok (.directory entries))
    (endings : List LooseString) : files.expandPath endings path = [path] := by
  unfold expandPath
  split
  · next entries hentries => exact absurd hentries (h entries)
  · rfl

/-- **A path is expanded to what it stands for.** -/
theorem standsFor_expandPath (hfiles : files.WellNamed) (endings : List LooseString)
    (path : String) : StandsFor files endings path (files.expandPath endings path) := by
  by_cases h : ∃ entries, files.look path = .ok (.directory entries)
  · obtain ⟨entries, hentries⟩ := h
    have hproper := hfiles hentries
    have hvisits := isWalk_visits path hproper
    have hbelow := filesBelow_perm (hasEnding endings) path entries
    rw [expandPath_of_directory hentries]
    refine .directory hentries
      (pairwise_sortPaths (hbelow.nodup_iff.2 (hvisits.nodup hproper))) fun p => ?_
    rw [mem_sortPaths, hbelow.mem_iff, hvisits.mem_foundAlong]
    simp only [hasEnding_iff]
  · rw [expandPath_of_other (not_exists.1 h)]
    exact .itself (not_exists.1 h)

theorem collected_expand (hfiles : files.WellNamed) (endings : List LooseString)
    (paths : List String) : Collected files endings paths (files.expand endings paths) := by
  induction paths with
  | nil => exact .nil
  | cons path paths ih =>
      rw [expand, List.flatMap_cons]
      by_cases h : ∃ entries, files.look path = .ok (.directory entries)
      · obtain ⟨entries, hentries⟩ := h
        have hwalk := isWalk_visits path (hfiles hentries)
        rw [expandPath_of_directory hentries, ← hwalk.sortPaths_eq (hfiles hentries)]
        exact .directory hentries hwalk ih
      · rw [expandPath_of_other (not_exists.1 h)]
        exact .itself (not_exists.1 h) ih

/-- **Whatever walks are taken**, the same is collected. -/
theorem eq_expand_of_collected (hfiles : files.WellNamed) {endings : List LooseString}
    {paths found : List String} (h : Collected files endings paths found) :
    found = files.expand endings paths := by
  induction h with
  | nil => rfl
  | itself hother _ ih => rw [expand, List.flatMap_cons, expandPath_of_other hother, ih]; rfl
  | directory hentries hwalk _ ih =>
      rw [expand, List.flatMap_cons, expandPath_of_directory hentries,
        ← hwalk.sortPaths_eq (hfiles hentries), ih]
      rfl

/-- **Paths are expanded to what each of them stands for**, in order: a directory to the strictly
increasing list of the files below it that have one of the endings.  That is what is collected for
them on any walks through the directories, and nothing else is. -/
theorem expand_exact (hfiles : files.WellNamed) (endings : List LooseString)
    (paths : List String) :
    (∃ parts, List.Forall₂ (StandsFor files endings) paths parts ∧
      files.expand endings paths = parts.flatten) ∧
      ∀ found, Collected files endings paths found ↔ found = files.expand endings paths := by
  refine ⟨⟨paths.map (files.expandPath endings), ?_, List.flatMap_def⟩, fun found => ?_⟩
  · rw [List.forall₂_map_right_iff, List.forall₂_same]
    exact fun path _ => standsFor_expandPath hfiles endings path
  · constructor
    · exact eq_expand_of_collected hfiles
    · rintro rfl
      exact collected_expand hfiles endings paths

end FileView

/-- A directory with a name that comes before the slash, and a directory in it. -/
def sources : List (String × Entry) :=
  [("b.js", .file []), ("a", .directory [("x.js", .file []), ("y.css", .file [])]),
    ("a-b.js", .file [])]

theorem wellNamed_sources : WellNamed sources := by
  refine .intro (by decide) (by decide) fun name held hheld => ?_
  obtain ⟨rfl, rfl⟩ : name = "a" ∧ held = [("x.js", .file []), ("y.css", .file [])] := by
    simpa [sources] using hheld
  exact .intro (by decide) (by decide) fun name held hheld => absurd hheld (by simp)

/-- A walk through it that ends where it begins. -/
theorem isWalk_sources : IsWalk "src" sources
    [⟨"src/a", ["y.css", "x.js"]⟩, ⟨"src", ["a-b.js", "b.js"]⟩] where
  once := by decide
  visited h := by
    cases h with
    | here => exact ⟨⟨"src", ["a-b.js", "b.js"]⟩, by simp, rfl, by decide⟩
    | inside hheld hbelow =>
        obtain ⟨rfl, rfl⟩ : _ = "a" ∧ _ = [("x.js", Entry.file []), ("y.css", .file [])] := by
          simpa [sources] using hheld
        cases hbelow with
        | here => exact ⟨⟨"src/a", ["y.css", "x.js"]⟩, by simp, rfl, by decide⟩
        | inside hheld _ => exact absurd hheld (by simp)
  below v hv := by
    have ha : ("a", Entry.directory [("x.js", .file []), ("y.css", .file [])]) ∈ sources := by
      simp [sources]
    rcases List.mem_pair.1 hv with rfl | rfl
    · exact ⟨_, .inside ha (.here _ _), by decide⟩
    · exact ⟨sources, .here _ _, by decide⟩

theorem FileView.expand_exact_sources :
    (Place.top (.directory [("src", .directory sources)])).view.WellNamed ∧
      (Place.top (.directory [("src", .directory sources)])).view.expand [".js", "s"]
          ["src", "gone.js"] =
        ["src/a-b.js", "src/a/x.js", "src/a/y.css", "src/b.js", "gone.js"] := by
  have hview : (Place.top (.directory [("src", .directory sources)])).view.WellNamed := by
    refine (Place.Joined.root _).wellNamed_view ?_
    show DocComments.WellNamed [("src", .directory sources)]
    refine .intro (by decide) (by decide) fun name held hheld => ?_
    obtain ⟨rfl, rfl⟩ : name = "src" ∧ held = sources := by simpa using hheld
    exact wellNamed_sources
  have hfound : sortPaths (foundAlong (hasEnding [".js", "s"])
      [⟨"src/a", ["y.css", "x.js"]⟩, ⟨"src", ["a-b.js", "b.js"]⟩]) =
        ["src/a-b.js", "src/a/x.js", "src/a/y.css", "src/b.js"] := by
    have hpaths : foundAlong (hasEnding [".js", "s"])
        [⟨"src/a", ["y.css", "x.js"]⟩, ⟨"src", ["a-b.js", "b.js"]⟩] =
          ["src/a/y.css", "src/a/x.js", "src/a-b.js", "src/b.js"] := by decide
    rw [hpaths]
    refine List.Pairwise.eq_of_mem_iff (pairwise_sortPaths (by decide)) (by decide) fun p => ?_
    rw [mem_sortPaths]
    simp only [List.mem_cons, List.not_mem_nil, or_false]
    tauto
  refine ⟨hview, Eq.symm (((FileView.expand_exact hview _ _).2 _).1 ?_)⟩
  have hgone : Collected (Place.top (.directory [("src", .directory sources)])).view [".js", "s"]
      ["gone.js"] ["gone.js"] := .itself (fun entries h => by cases h) .nil
  have hsrc := Collected.directory rfl isWalk_sources hgone
  rw [hfound] at hsrc
  exact hsrc

end DocComments
