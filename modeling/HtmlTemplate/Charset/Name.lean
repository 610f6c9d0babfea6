import HtmlTemplate.Charset.Encoding

/-!
# The names of encodings

An encoding has a name and some other names. Neither the case of letters counts in them nor what stands between their
parts.
-/

namespace HtmlTemplate.Encoding

/-- A name of an encoding with low lines between its parts and in small letters. -/
def plainName (s : Text) : List Char :=
  let isPart (c : Char) : Bool := c.isAlphanum || c = '.'
  let rec go : Bool → Text → List Char
    | _, [] => []
    | gap, .char c :: rest =>
      if isPart c then (if gap then ['_', c.toLower] else [c.toLower]) ++ go false rest else go true rest
    | _, .surrogate _ :: rest => go true rest
  (go false s).dropWhile (· = '_')

/-- The encodings that are no sets of one byte, each with its name and its other names. -/
def listed : List (String × Encoding × List String) :=
  [("utf_8", .utf8, ["cp65001", "u8", "utf", "utf8", "utf8_ucs2", "utf8_ucs4"]),
   ("utf_8_sig", .utf8Marked, []),
   ("utf_7", .utf7, ["u7", "unicode_1_1_utf_7", "utf7"]),
   ("ascii", .ascii,
    ["646", "ansi_x3.4_1968", "ansi_x3.4_1986", "ansi_x3_4_1968", "cp367", "csascii", "ibm367", "iso646_us",
     "iso_646.irv_1991", "iso_ir_6", "us", "us_ascii"]),
   ("latin_1", .latin1,
    ["8859", "cp819", "csisolatin1", "ibm819", "iso8859", "iso8859_1", "iso_8859_1", "iso_8859_1_1987",
     "iso_ir_100", "l1", "latin", "latin1"]),
   ("iso8859_1", .latin1, []),
   ("charmap", .latin1, []),
   ("utf_16", .utf16 none, ["u16", "utf16"]),
   ("utf_16_le", .utf16 (some .little), ["unicodelittleunmarked", "utf_16le"]),
   ("utf_16_be", .utf16 (some .big), ["unicodebigunmarked", "utf_16be"]),
   ("utf_32", .utf32 none, ["u32", "utf32"]),
   ("utf_32_le", .utf32 (some .little), ["utf_32le"]),
   ("utf_32_be", .utf32 (some .big), ["utf_32be"]),
   ("big5", .eastAsian .big5, ["big5_tw", "csbig5", "x_mac_trad_chinese"]),
   ("cp950", .eastAsian .big5Windows, ["950", "ms950"]),
   ("big5hkscs", .eastAsian .big5HongKong, ["big5_hkscs", "hkscs"]),
   ("euc_jp", .eastAsian .eucJapanese, ["eucjp", "u_jis", "ujis"]),
   ("euc_jisx0213", .eastAsian (.eucJisX0213 .year2000), ["eucjisx0213"]),
   ("euc_jis_2004", .eastAsian (.eucJisX0213 .year2004), ["euc_jis2004", "eucjis2004", "jisx0213"]),
   ("shift_jis", .eastAsian .shiftJis, ["csshiftjis", "s_jis", "shiftjis", "sjis", "x_mac_japanese"]),
   ("cp932", .eastAsian .shiftJisWindows, ["932", "ms932", "ms_kanji", "mskanji"]),
   ("shift_jisx0213", .eastAsian (.shiftJisX0213 .year2000), ["s_jisx0213", "shiftjisx0213", "sjisx0213"]),
   ("shift_jis_2004", .eastAsian (.shiftJisX0213 .year2004), ["s_jis_2004", "shiftjis2004", "sjis_2004"]),
   ("euc_kr", .eastAsian .eucKorean,
    ["euckr", "korean", "ks_c_5601", "ks_c_5601_1987", "ks_x_1001", "ksc5601", "ksx1001", "x_mac_korean"]),
   ("cp949", .eastAsian .koreanWindows, ["949", "ms949", "uhc"]),
   ("johab", .eastAsian .johab, ["cp1361", "ms1361"]),
   ("gb2312", .eastAsian .gb2312,
    ["chinese", "csiso58gb231280", "euc_cn", "euccn", "eucgb2312_cn", "gb2312_1980", "gb2312_80", "iso_ir_58",
     "x_mac_simp_chinese"]),
   ("gbk", .eastAsian .gbk, ["936", "cp936", "ms936"]),
   ("gb18030", .eastAsian .gb18030, ["gb18030_2000"]),
   ("iso2022_jp", .iso2022 .japanese, ["csiso2022jp", "iso2022jp", "iso_2022_jp"]),
   ("iso2022_jp_1", .iso2022 .japanese1, ["iso2022jp_1", "iso_2022_jp_1"]),
   ("iso2022_jp_2", .iso2022 .japanese2, ["iso2022jp_2", "iso_2022_jp_2"]),
   ("iso2022_jp_2004", .iso2022 .japanese2004, ["iso2022jp_2004", "iso_2022_jp_2004"]),
   ("iso2022_jp_3", .iso2022 .japanese3, ["iso2022jp_3", "iso_2022_jp_3"]),
   ("iso2022_jp_ext", .iso2022 .japaneseExtended, ["iso2022jp_ext", "iso_2022_jp_ext"]),
   ("iso2022_kr", .iso2022 .korean, ["csiso2022kr", "iso2022kr", "iso_2022_kr"]),
   ("hz", .hz, ["hz_gb", "hz_gb_2312", "hzgb"]),
   ("unicode_escape", .escaped, []),
   ("raw_unicode_escape", .rawEscaped, []),
   ("punycode", .punycode, []),
   ("idna", .hostName, []),
   ("undefined", .undefined, [])]

/-- The encoding that has another name. -/
def ofOtherName? (name : String) : Option Encoding :=
  match listed.find? fun (_, _, others) => others.contains name with
  | some (_, encoding, _) => some encoding
  | none => (CharacterSet.all.find? fun set => set.otherNames.contains name).map .single

/-- The encoding of a name. In another name of an encoding a low line may stand for a point. -/
def ofName? (name : Text) : Option Encoding :=
  let plain := plainName name
  let s := String.ofList plain
  (((ofOtherName? s).or (ofOtherName? (String.ofList (plain.map fun c => if c = '.' then '_' else c)))).or
    ((listed.lookup s).map Prod.fst)).or ((CharacterSet.all.find? fun set => set.name = s).map .single)

/-- The names of encodings that take bytes to bytes, or texts to texts. -/
def otherCodecs : List String :=
  ["base64", "base_64", "base64_codec", "bz2", "bz2_codec", "hex", "hex_codec", "quopri", "quoted_printable",
    "quotedprintable", "quopri_codec", "rot13", "rot_13", "uu", "uu_codec", "zip", "zlib", "zlib_codec"]

/-- Whether a name is one of an encoding that has no characters on one side. -/
def isOtherCodec (name : Text) : Bool := otherCodecs.contains (String.ofList (plainName name))

end HtmlTemplate.Encoding
