import DocComments.Files
import DocComments.Text.Encoding

/-!
# Reading files as text

A file is read as text in an encoding that is asked for by name, with every way to end a line
made one newline.  What can go wrong is told apart by cause (`FileFault`): only a path that
cannot be used is a failure of the file system; a name that is not one, an encoding that is
not known and bytes that are no text are faults of another kind, and those who use files
treat them differently.
-/

namespace DocComments

/-- **Why a file cannot be read or written as text.** -/
inductive FileFault where
  /-- The path cannot be used. -/
  | unusable (e : FileError)
  /-- The path has a null character in it. -/
  | nullInPath
  /-- The name of the encoding has a null character in it. -/
  | nullInEncoding
  /-- The name of the encoding has halves of pairs in it that stand alone: `run`, the first
  of them, with all that follow it directly, and `before` signs before them. -/
  | looseEncoding (before : Nat) (first : Fin 0x800) (run : Nat)
  /-- There is no encoding of this name. -/
  | unknownEncoding (name : String)
  /-- What this names changes bytes and yields no text. -/
  | notText (name : String)
  /-- The bytes are no text in the encoding. -/
  | undecodable (f : Text.DecodeFault)
  deriving DecidableEq, Repr

/-- The wording of a fault. -/
def FileFault.message : FileFault → String
  | unusable e => e.message
  | nullInPath => "embedded null byte"
  | nullInEncoding => "embedded null character"
  | looseEncoding before first run =>
      let culprits :=
        if run = 1 then
          let escape := String.ofList (Text.escapeCodePoint (Text.Sign.half first).code)
          s!"character '{escape}' in position {before}"
        else s!"characters in position {before}-{before + run - 1}"
      s!"'utf-8' codec can't encode {culprits}: surrogates not allowed"
  | unknownEncoding name => "unknown encoding: " ++ name
  | notText name =>
      s!"'{name}' is not a text encoding; use codecs.open() to handle arbitrary codecs"
  | undecodable f => f.message

/-- There is a null character in the name. -/
def hasNull (name : String) : Bool :=
  name.toList.contains '\x00'

/-- The bytes of a file. -/
def FileView.readBytes (files : FileView) (path : String) : Except FileFault (List UInt8) :=
  if hasNull path then .error .nullInPath
  else
    match files.look path with
    | .ok (.file bytes) => .ok bytes
    | .ok (.directory _) => .error (.unusable ⟨.isDirectory, path⟩)
    | .error problem => .error (.unusable ⟨problem, path⟩)

/-- The text of some bytes in the encoding of a given name. -/
def decodeText (encoding : String) (bytes : List UInt8) : Except FileFault Text.LooseString :=
  match (Text.Listing.ofName? encoding).map (·.encoding?) with
  | none => .error (.unknownEncoding encoding)
  | some none => .error (.notText encoding)
  | some (some e) =>
      match e.decode bytes with
      | .ok signs => .ok ⟨Text.universalNewlines (.char '\r') (.char '\n') signs⟩
      | .error f => .error (.undecodable f)

/-- The name of an encoding as a string. -/
def encodingName (name : Text.LooseString) : Except FileFault String :=
  match name.toString? with
  | some name => if hasNull name then .error .nullInEncoding else .ok name
  | none =>
      let isHalf (s : Text.Sign) : Bool := s.char?.isNone
      let culprits := (name.signs.dropWhile (!isHalf ·)).takeWhile isHalf
      let first : Fin 0x800 :=
        match culprits with
        | .half index :: _ => index
        | _ => 0
      .error (.looseEncoding (name.signs.takeWhile (!isHalf ·)).length first culprits.length)

/-- **The text of a file.**  The name of the encoding has to be one before the file is looked
for; whether there is such an encoding counts only once the file has been found. -/
def FileView.readText (files : FileView) (encoding : Text.LooseString) (path : String) :
    Except FileFault Text.LooseString := do
  let name ← encodingName encoding
  let bytes ← files.readBytes path
  decodeText name bytes

/-- **The text of a file in UTF-8.** -/
def FileView.readUtf8 (files : FileView) (path : String) : Except FileFault String := do
  let bytes ← files.readBytes path
  match Text.decodeUtf8 0 bytes with
  | .ok text => .ok (String.ofList (Text.universalNewlines '\r' '\n' text))
  | .error f => .error (.undecodable f)

/-- Why a text cannot be written to a path, if that is so. -/
def FileView.writeFault? (files : FileView) (path : String) : Option FileFault :=
  if hasNull path then some .nullInPath
  else (files.refusal path).map fun problem => .unusable ⟨problem, path⟩

end DocComments
