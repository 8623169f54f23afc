import DocComments.CommandLine

/-!
# The program

The outer layer of the command line: it looks at the files that a request names, runs the
request on what it saw, and puts out what comes of it.  It opens files by name and does not
list directories, so a directory among the sources is reported as one.
-/

namespace DocComments.CommandLine

/-- Why the system refuses a path.  It gives the number of a problem as it is or negated. -/
def problemOf : IO.Error → FileProblem
  | .inappropriateType _ code _ =>
      if code = 20 ∨ code = 0 - 20 then .notDirectory else .isDirectory
  | .invalidArgument _ _ _ => .nameTooLong
  | .permissionDenied _ _ _ => .denied
  | _ => .missing

/-- What the system has at a path. -/
def lookAt (path : String) : IO (Except FileProblem Entry) := do
  try
    let bytes ← IO.FS.readBinFile path
    pure (.ok (.file bytes.toList))
  catch e => pure (.error (problemOf e))

/-- The paths that a request names. -/
def namedPaths (r : Request) : List String :=
  (r.config.toList ++ if r.literal then [] else r.sources).filter (!hasNull ·)

/-- What can be seen of the files at some paths. -/
def viewOf (paths : List String) : IO FileView := do
  let seen ← paths.mapM fun path => do pure (path, ← lookAt path)
  pure ⟨fun path => (OrderedMap.get? path seen).getD (.error .missing), fun _ => none⟩

/-- Puts out what comes of a run. -/
def putOut (o : Outcome) : IO UInt32 := do
  (← IO.getStdout).putStr o.out
  (← IO.getStderr).putStr o.err.escaped
  match o.ending with
  | .exit status => pure (UInt32.ofNat status)
  | .escaped f => do
      (← IO.getStderr).putStr (messageLine f.message)
      pure 1

end DocComments.CommandLine

open DocComments DocComments.CommandLine

/-- **Runs the command line.**  A file that cannot be written after all is reported as one
that could not be written from the start. -/
def main (arguments : List String) : IO UInt32 := do
  let paths :=
    match Request.ofArguments arguments with
    | .ok r => namedPaths r
    | .error _ => []
  let files ← viewOf paths
  let outcome := run files arguments
  match outcome.written with
  | none => putOut outcome
  | some (path, text) =>
      let refusal : Option FileProblem ←
        try
          IO.FS.writeFile path text
          pure none
        catch e => pure (some (problemOf e))
      match refusal with
      | none => putOut outcome
      | some problem => putOut (run { files with refusal := fun _ => some problem } arguments)
