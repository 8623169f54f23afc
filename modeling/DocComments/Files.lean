import DocComments.OrderedMap
import DocComments.Text.Quoted
import DocComments.Text.Words

/-!
# Files

A tree of directories and files, and the paths that lead through it.  A path is followed
name by name from the place where one is, or from the top of the tree if it is absolute; the
name of nothing and a single point stay where they are, two points go back to the directory
around.  A step that cannot be made says why (`FileProblem`).

`Place` is a position in a tree: the entry there and the directories around it, so that a
path can go back and a file can be put in without losing the rest of the tree.
-/

namespace DocComments

/-- **A file or a directory.** -/
inductive Entry where
  | file (bytes : List UInt8)
  | directory (entries : List (String × Entry))

/-- Why a path cannot be used. -/
inductive FileProblem where
  /-- There is nothing of that name. -/
  | missing
  /-- The use is not permitted. -/
  | denied
  /-- The path goes on behind a file. -/
  | notDirectory
  /-- A file is needed and there is a directory. -/
  | isDirectory
  /-- The path, or a name in it, is longer than can be. -/
  | nameTooLong
  deriving DecidableEq, Repr

/-- The number of a problem. -/
def FileProblem.number : FileProblem → Nat
  | missing => 2
  | denied => 13
  | notDirectory => 20
  | isDirectory => 21
  | nameTooLong => 36

/-- What a problem is called. -/
def FileProblem.name : FileProblem → String
  | missing => "No such file or directory"
  | denied => "Permission denied"
  | notDirectory => "Not a directory"
  | isDirectory => "Is a directory"
  | nameTooLong => "File name too long"

/-- **A path that cannot be used**, and why. -/
structure FileError where
  /-- What is wrong. -/
  problem : FileProblem
  /-- The path. -/
  path : String
  deriving DecidableEq, Repr

/-- The wording of a path that cannot be used. -/
def FileError.message (e : FileError) : String :=
  s!"[Errno {e.problem.number}] {e.problem.name}: {Text.quoted e.path}"

/-! ### Paths -/

/-- The names that a path is made of. -/
def pathNames (path : String) : List String :=
  (Text.pieces '/' path.toList).map String.ofList

/-- The path of `name` in a directory. -/
def joinPath (directory name : String) : String :=
  if directory.toList.getLast? = some '/' then directory ++ name else directory ++ "/" ++ name

/-- The path starts at the root of all files. -/
def isAbsolute (path : String) : Bool :=
  path.toList.head? = some '/'

/-- The most bytes that a name can have. -/
def maxNameBytes : Nat := 255

/-- The most bytes that a path can have. -/
def maxPathBytes : Nat := 4095

/-! ### Places -/

/-- **A place in a tree.** -/
structure Place where
  /-- What is there. -/
  entry : Entry
  /-- The directories around it, the innermost first: what each holds, and under which name
  the way leads on from it. -/
  around : List (String × List (String × Entry))

namespace Place

/-- The top of a tree. -/
def top (tree : Entry) : Place := ⟨tree, []⟩

/-- The tree that a place is in. -/
def tree (p : Place) : Entry :=
  p.around.foldl (fun e d => .directory (OrderedMap.insert d.1 e d.2)) p.entry

/-- One name further. -/
def step (p : Place) (name : String) : Except FileProblem Place :=
  match p.entry with
  | .file _ => .error .notDirectory
  | .directory entries =>
      if name = "" ∨ name = "." then .ok p
      else if name = ".." then
        match p.around with
        | [] => .ok p
        | d :: around => .ok ⟨.directory d.2, around⟩
      else if maxNameBytes < name.utf8ByteSize then .error .nameTooLong
      else
        match OrderedMap.get? name entries with
        | some e => .ok ⟨e, (name, entries) :: p.around⟩
        | none => .error .missing

/-- Several names further. -/
def follow (p : Place) (names : List String) : Except FileProblem Place :=
  names.foldlM step p

@[simp] theorem tree_top (e : Entry) : (top e).tree = e := rfl

@[simp] theorem follow_nil (p : Place) : p.follow [] = .ok p := rfl

theorem follow_cons (p : Place) (name : String) (names : List String) :
    p.follow (name :: names) = (p.step name).bind (·.follow names) := rfl

/-- The names that lead from the top of the tree to a place. -/
def names (p : Place) : List String :=
  (p.around.map (·.1)).reverse

/-! ### Looking and writing -/

/-- The place where a path begins: the top of the tree, or the place where one is. -/
def origin (here : Place) (path : String) : Place :=
  if isAbsolute path then top here.tree else here

/-- **What a path leads to.** -/
def look (here : Place) (path : String) : Except FileProblem Entry :=
  if path.isEmpty then .error .missing
  else if maxPathBytes < path.utf8ByteSize then .error .nameTooLong
  else ((here.origin path).follow (pathNames path)).map (·.entry)

/-- **Puts a file into the tree**, in place of the file that was there.  The directory that
is to hold it must be there already.  The answer is the place where one was, in the new
tree. -/
def write (here : Place) (path : String) (bytes : List UInt8) : Except FileProblem Place := do
  let trimmed := (path.toList.reverse.dropWhile (· = '/')).reverse
  let names := pathNames (String.ofList trimmed)
  let name := names.getLastD ""
  if path.isEmpty then throw .missing
  if maxPathBytes < path.utf8ByteSize then throw .nameTooLong
  let p ← (here.origin path).follow names.dropLast
  match p.entry with
  | .file _ => throw .notDirectory
  | .directory entries =>
      if trimmed ≠ path.toList || name = "" || name = "." || name = ".." then throw .isDirectory
      if maxNameBytes < name.utf8ByteSize then throw .nameTooLong
      match OrderedMap.get? name entries with
      | some (.directory _) => throw .isDirectory
      | _ =>
          let p' : Place := ⟨.directory (OrderedMap.insert name (.file bytes) entries), p.around⟩
          (top p'.tree).follow here.names

end Place

/-- **What can be seen of the files**: what a path leads to, and why no file can be written
to it, if that is so. -/
structure FileView where
  /-- What a path leads to. -/
  look : String → Except FileProblem Entry
  /-- Why no file can be written to a path. -/
  refusal : String → Option FileProblem

/-- The view from a place. -/
def Place.view (here : Place) : FileView where
  look := here.look
  refusal path :=
    match here.write path [] with
    | .ok _ => none
    | .error problem => some problem

end DocComments
