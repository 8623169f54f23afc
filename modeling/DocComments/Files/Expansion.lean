import DocComments.Files

/-!
# Files below directories

A list of paths is expanded to a list of files.  A directory stands for the files anywhere
below it whose names have one of some endings, in the order of their whole paths; every other
path stands for itself, whether or not it leads to anything.

Paths are put in order as wholes, by code points, so what a directory stands for does not
depend on the order in which it lists its entries.
-/

namespace DocComments

open Text

/-- The name has one of the endings. -/
def hasEnding (endings : List LooseString) (name : String) : Bool :=
  endings.any fun ending => (LooseString.ofString name).endsWith ending

theorem sizeOf_later_entries (e : String × Entry) (more : List (String × Entry)) :
    sizeOf more < sizeOf (e :: more) := by
  rw [List.cons.sizeOf_spec]
  omega

theorem sizeOf_inner_entries (name : String) (entries more : List (String × Entry)) :
    sizeOf entries < sizeOf ((name, Entry.directory entries) :: more) := by
  rw [List.cons.sizeOf_spec, Prod.mk.sizeOf_spec, Entry.directory.sizeOf_spec]
  omega

/-- **The files anywhere below** a directory whose names fit, as paths that begin with the
directory's own. -/
def filesBelow (fits : String → Bool) (directory : String) :
    List (String × Entry) → List String
  | [] => []
  | (name, .file _) :: more =>
      if fits name then joinPath directory name :: filesBelow fits directory more
      else filesBelow fits directory more
  | (name, .directory entries) :: more =>
      filesBelow fits (joinPath directory name) entries ++ filesBelow fits directory more
termination_by entries => sizeOf entries
decreasing_by
  · exact sizeOf_later_entries _ more
  · exact sizeOf_later_entries _ more
  · exact sizeOf_inner_entries name entries more
  · exact sizeOf_later_entries _ more

/-- Paths in the order of their code points. -/
def sortPaths (paths : List String) : List String :=
  paths.mergeSort fun p q => decide (p ≤ q)

/-- What one path stands for. -/
def FileView.expandPath (files : FileView) (endings : List LooseString) (path : String) :
    List String :=
  match files.look path with
  | .ok (.directory entries) => sortPaths (filesBelow (hasEnding endings) path entries)
  | _ => [path]

/-- **What several paths stand for**, in order. -/
def FileView.expand (files : FileView) (endings : List LooseString) (paths : List String) :
    List String :=
  paths.flatMap (files.expandPath endings)

end DocComments
