import DocComments.Text.Encoding.Iso2022

/-!
# Encodings of East Asia

The encodings of Chinese, Japanese and Korean text, with their names.  The name of an encoding
is also how its faults call it.
-/

namespace DocComments.Text

/-- **An encoding of East Asia.** -/
inductive EastAsian where
  /-- Shift JIS. -/
  | shiftJis
  /-- Shift JIS as code page 932 has it. -/
  | shift932
  /-- Shift JIS with an edition of JIS X 0213. -/
  | shift0213 (edition : JisEdition)
  /-- EUC with JIS X 0208 and JIS X 0212. -/
  | eucJp
  /-- EUC with an edition of JIS X 0213. -/
  | euc0213 (edition : JisEdition)
  /-- EUC with KS X 1001. -/
  | eucKr
  /-- Code page 949. -/
  | korean949
  /-- Johab. -/
  | johab
  /-- GB 2312. -/
  | gb2312
  /-- GBK. -/
  | gbk
  /-- GB 18030. -/
  | gb18030
  /-- HZ. -/
  | hz
  /-- Big5. -/
  | big5
  /-- Big5 as code page 950 has it. -/
  | big5Windows
  /-- Big5 with the Hong Kong supplement. -/
  | big5HongKong
  /-- A version of ISO 2022. -/
  | iso2022 (v : Iso2022.Version)
  deriving DecidableEq, Repr

namespace EastAsian

/-- All of them. -/
def all : List EastAsian :=
  [shiftJis, shift932, shift0213 .first, shift0213 .second, eucJp, euc0213 .first,
    euc0213 .second, eucKr, korean949, johab, gb2312, gbk, gb18030, hz, big5, big5Windows,
    big5HongKong, iso2022 .jp, iso2022 .jp1, iso2022 .jp2, iso2022 .jp3, iso2022 .jp2004,
    iso2022 .jpExt, iso2022 .kr]

/-- The name of an encoding. -/
def name : EastAsian → String
  | shiftJis => "shift_jis"
  | shift932 => "cp932"
  | shift0213 .first => "shift_jisx0213"
  | shift0213 .second => "shift_jis_2004"
  | eucJp => "euc_jp"
  | euc0213 .first => "euc_jisx0213"
  | euc0213 .second => "euc_jis_2004"
  | eucKr => "euc_kr"
  | korean949 => "cp949"
  | johab => "johab"
  | gb2312 => "gb2312"
  | gbk => "gbk"
  | gb18030 => "gb18030"
  | hz => "hz"
  | big5 => "big5"
  | big5Windows => "cp950"
  | big5HongKong => "big5hkscs"
  | iso2022 .jp => "iso2022_jp"
  | iso2022 .jp1 => "iso2022_jp_1"
  | iso2022 .jp2 => "iso2022_jp_2"
  | iso2022 .jp3 => "iso2022_jp_3"
  | iso2022 .jp2004 => "iso2022_jp_2004"
  | iso2022 .jpExt => "iso2022_jp_ext"
  | iso2022 .kr => "iso2022_kr"

/-- The other names of an encoding. -/
def aliases : EastAsian → List String
  | shiftJis => ["csshiftjis", "shiftjis", "sjis", "s_jis", "x_mac_japanese"]
  | shift932 => ["932", "ms932", "mskanji", "ms_kanji"]
  | shift0213 .first => ["shiftjisx0213", "sjisx0213", "s_jisx0213"]
  | shift0213 .second => ["shiftjis2004", "sjis_2004", "s_jis_2004"]
  | eucJp => ["eucjp", "ujis", "u_jis"]
  | euc0213 .first => ["eucjisx0213"]
  | euc0213 .second => ["jisx0213", "eucjis2004", "euc_jis2004"]
  | eucKr =>
      ["euckr", "korean", "ksc5601", "ks_c_5601", "ks_c_5601_1987", "ksx1001", "ks_x_1001",
        "x_mac_korean"]
  | korean949 => ["949", "ms949", "uhc"]
  | johab => ["cp1361", "ms1361"]
  | gb2312 =>
      ["chinese", "csiso58gb231280", "euc_cn", "euccn", "eucgb2312_cn", "gb2312_1980",
        "gb2312_80", "iso_ir_58", "x_mac_simp_chinese"]
  | gbk => ["936", "cp936", "ms936"]
  | gb18030 => ["gb18030_2000"]
  | hz => ["hzgb", "hz_gb", "hz_gb_2312"]
  | big5 => ["big5_tw", "csbig5", "x_mac_trad_chinese"]
  | big5Windows => ["950", "ms950"]
  | big5HongKong => ["big5_hkscs", "hkscs"]
  | iso2022 .jp => ["csiso2022jp", "iso2022jp", "iso_2022_jp"]
  | iso2022 .jp1 => ["iso2022jp_1", "iso_2022_jp_1"]
  | iso2022 .jp2 => ["iso2022jp_2", "iso_2022_jp_2"]
  | iso2022 .jp3 => ["iso2022jp_3", "iso_2022_jp_3"]
  | iso2022 .jp2004 => ["iso_2022_jp_2004", "iso2022jp_2004"]
  | iso2022 .jpExt => ["iso2022jp_ext", "iso_2022_jp_ext"]
  | iso2022 .kr => ["csiso2022kr", "iso2022kr", "iso_2022_kr"]

/-- The text of bytes in an encoding without shifts. -/
def plain (e : EastAsian) (piece : Unit → UInt8 → List UInt8 → Piece Unit) :
    List UInt8 → Decoded :=
  decodePieces e.name piece () 0

/-- **The text of some bytes** in an encoding of East Asia. -/
def decode (e : EastAsian) : List UInt8 → Decoded :=
  match e with
  | shiftJis => e.plain shiftJisPiece
  | shift932 => e.plain shift932Piece
  | shift0213 edition => e.plain (shift0213Piece edition)
  | eucJp => e.plain eucJpPiece
  | euc0213 edition => e.plain (euc0213Piece edition)
  | eucKr => e.plain eucKrPiece
  | korean949 => e.plain korean949Piece
  | johab => e.plain johabPiece
  | gb2312 => e.plain gb2312Piece
  | gbk => e.plain gbkPiece
  | gb18030 => e.plain gb18030Piece
  | hz => decodePieces e.name hzPiece false 0
  | big5 => e.plain big5Piece
  | big5Windows => e.plain big5WindowsPiece
  | big5HongKong => e.plain big5HongKongPiece
  | iso2022 v => decodePieces e.name (Iso2022.piece v) {} 0

/-- Every encoding is among all. -/
theorem mem_all (e : EastAsian) : e ∈ all := by
  cases e with
  | shift0213 edition => cases edition <;> decide
  | euc0213 edition => cases edition <;> decide
  | iso2022 v => cases v <;> decide
  | _ => decide

/-- Different encodings have different names. -/
theorem name_injective : ∀ a ∈ all, ∀ b ∈ all, a.name = b.name → a = b := by
  decide

end EastAsian

end DocComments.Text
