import DocComments.Text.Encoding.CodePage.Dos
import DocComments.Text.Encoding.CodePage.Ebcdic
import DocComments.Text.Encoding.CodePage.Iso
import DocComments.Text.Encoding.CodePage.Mac
import DocComments.Text.Encoding.CodePage.Regional
import DocComments.Text.Encoding.CodePage.Windows
import DocComments.Text.Encoding.DomainName
import DocComments.Text.Encoding.EastAsian
import DocComments.Text.Encoding.Escaped
import DocComments.Text.Encoding.Utf16
import DocComments.Text.Encoding.Utf32
import DocComments.Text.Encoding.Utf7
import DocComments.Text.Encoding.Utf8

/-!
# Text from bytes

A file holds bytes; what text they are depends on an encoding, which is asked for by name.
The names are in a catalogue (`Listing.all`), in which each encoding has a name of its own
and some others.  The catalogue also names ways to change bytes that yield no text.

`universalNewlines` then makes one newline of each way in which a line can end.
-/

namespace DocComments.Text

/-- **An encoding of text.** -/
inductive Encoding where
  /-- UTF-8. -/
  | utf8
  /-- UTF-8, with or without a byte-order mark before it. -/
  | utf8Marked
  /-- UTF-16, in a given order of bytes or else in that of its byte-order mark. -/
  | utf16 (order? : Option ByteOrder)
  /-- UTF-32, in a given order of bytes or else in that of its byte-order mark. -/
  | utf32 (order? : Option ByteOrder)
  /-- UTF-7. -/
  | utf7
  /-- The first 256 code points, one byte each. -/
  | latin1
  /-- The first 128 code points, one byte each. -/
  | ascii
  /-- A code page. -/
  | page (p : CodePage)
  /-- An encoding of East Asia. -/
  | eastAsian (e : EastAsian)
  /-- Latin-1 with all escapes. -/
  | escaped
  /-- Latin-1 with escapes by hexadecimal number alone. -/
  | escapedRaw
  /-- Punycode. -/
  | punycode
  /-- A domain name whose labels can be in Punycode. -/
  | domain
  /-- An encoding that no bytes are in. -/
  | undefined
  deriving DecidableEq, Repr

/-- **The text of some bytes** in an encoding.  Some encodings can hold halves of pairs that
stand alone. -/
def Encoding.decode (e : Encoding) (bytes : List UInt8) : LooseDecoded :=
  match e with
  | utf8 => plain (decodeUtf8 0 bytes)
  | utf8Marked => plain (decodeUtf8Marked bytes)
  | utf16 (some order) => plain (decodeUtf16 order 0 bytes)
  | utf16 none => plain (decodeUtf16Marked bytes)
  | utf32 (some order) => plain (decodeUtf32 order 0 bytes)
  | utf32 none => plain (decodeUtf32Marked bytes)
  | utf7 => decodeUtf7 none 0 bytes
  | latin1 => plain (decodeLatin1 bytes)
  | ascii => plain (decodeAscii bytes)
  | page p => plain (p.decode bytes)
  | eastAsian e => plain (e.decode bytes)
  | escaped => decodeEscaped "unicodeescape" readEscape 0 bytes
  | escapedRaw => decodeEscaped "rawunicodeescape" readRawEscape 0 bytes
  | punycode => (readPunycode bytes).map (·.map .ofCode)
  | domain => plain (decodeDomain bytes)
  | undefined => .error (.irregular .noText)
where
  /-- A text without halves as one that could have them. -/
  plain (text : Decoded) : LooseDecoded := text.map (·.map .char)

/-! ### The catalogue -/

/-- **An entry of the catalogue.** -/
structure Listing where
  /-- The name. -/
  name : String
  /-- The other names. -/
  aliases : List String
  /-- The encoding; none for a way to change bytes that yields no text. -/
  encoding? : Option Encoding

namespace Listing

/-- The encodings that are neither code pages nor of East Asia. -/
def general : List Listing :=
  [⟨"utf_8", ["u8", "utf", "utf8", "utf8_ucs2", "utf8_ucs4", "cp65001"], some .utf8⟩,
    ⟨"utf_8_sig", [], some .utf8Marked⟩,
    ⟨"utf_16", ["u16", "utf16"], some (.utf16 none)⟩,
    ⟨"utf_16_le", ["utf_16le", "unicodelittleunmarked"], some (.utf16 (some .little))⟩,
    ⟨"utf_16_be", ["utf_16be", "unicodebigunmarked"], some (.utf16 (some .big))⟩,
    ⟨"utf_32", ["u32", "utf32"], some (.utf32 none)⟩,
    ⟨"utf_32_le", ["utf_32le"], some (.utf32 (some .little))⟩,
    ⟨"utf_32_be", ["utf_32be"], some (.utf32 (some .big))⟩,
    ⟨"utf_7", ["u7", "utf7", "unicode_1_1_utf_7"], some .utf7⟩,
    ⟨"latin_1",
      ["8859", "cp819", "csisolatin1", "ibm819", "iso8859", "iso8859_1", "iso_8859_1",
        "iso_8859_1_1987", "iso_ir_100", "l1", "latin", "latin1"], some .latin1⟩,
    ⟨"charmap", [], some .latin1⟩,
    ⟨"ascii",
      ["646", "ansi_x3.4_1968", "ansi_x3_4_1968", "ansi_x3.4_1986", "cp367", "csascii", "ibm367",
        "iso646_us", "iso_646.irv_1991", "iso_ir_6", "us", "us_ascii"], some .ascii⟩,
    ⟨"unicode_escape", [], some .escaped⟩,
    ⟨"raw_unicode_escape", [], some .escapedRaw⟩,
    ⟨"punycode", [], some .punycode⟩,
    ⟨"idna", [], some .domain⟩,
    ⟨"undefined", [], some .undefined⟩]

/-- The code pages. -/
def pages : List Listing :=
  (CodePage.isoPages ++ CodePage.windowsPages ++ CodePage.dosPages ++ CodePage.macPages ++
    CodePage.ebcdicPages ++ CodePage.regionalPages).map
      fun p => ⟨p.name, p.aliases, some (.page p)⟩

/-- The encodings of East Asia. -/
def eastAsian : List Listing :=
  EastAsian.all.map fun e => ⟨e.name, e.aliases, some (.eastAsian e)⟩

/-- The ways to change bytes that yield no text. -/
def transforms : List Listing :=
  [⟨"base64_codec", ["base64", "base_64"], none⟩, ⟨"bz2_codec", ["bz2"], none⟩,
    ⟨"hex_codec", ["hex"], none⟩,
    ⟨"quopri_codec", ["quopri", "quoted_printable", "quotedprintable"], none⟩,
    ⟨"rot_13", ["rot13"], none⟩, ⟨"uu_codec", ["uu"], none⟩,
    ⟨"zlib_codec", ["zip", "zlib"], none⟩]

/-- The catalogue. -/
def all : List Listing :=
  general ++ pages ++ eastAsian ++ transforms

/-! ### Names -/

/-- A name in lower case, with its letters, digits and points kept and each run of other
characters between them made one underscore.  Only those of ASCII count as letters and
digits. -/
def normalizeName (name : List Char) : List Char :=
  let step (s : List Char × Bool) (c : Char) : List Char × Bool :=
    if c.isAlphanum || c = '.' then
      ((if s.2 && !s.1.isEmpty then s.1 ++ ['_'] else s.1) ++ [c.toLower], false)
    else (s.1, true)
  (name.foldl step ([], false)).1

/-- **The entry of a given name**, if there is one.  In the other names of an entry a point can
stand for an underscore, in its own it cannot.  One name is only good as it is written: it
means the encoding of the surroundings, which is UTF-8. -/
def ofName? (name : String) : Option Listing :=
  let normal := normalizeName (if name = "locale" then "utf_8" else name).toList
  let text := String.ofList normal
  let loose := String.ofList (normal.map fun c => if c = '.' then '_' else c)
  all.find? fun e => e.name = text || e.aliases.contains text || e.aliases.contains loose

end Listing

/-- The text with every way to end a line made one `newline`: a `carriage` return, alone or with
a newline behind it. -/
def universalNewlines {α : Type} [DecidableEq α] (carriage newline : α) : List α → List α
  | a :: b :: more =>
      if a = carriage ∧ b = newline then newline :: universalNewlines carriage newline more
      else
        (if a = carriage then newline else a) :: universalNewlines carriage newline (b :: more)
  | [a] => [if a = carriage then newline else a]
  | [] => []

end DocComments.Text
