import Workflow.Text.Charset.SingleByte
import Workflow.Text.Charset.Basic
import Workflow.Text.Split

/-! Character sets by name. -/

namespace Workflow.Text.Charset

/-- A character set with the name of its own and its other names. -/
structure Entry where
  charset : Charset
  name : String
  aliases : List String

/-- Sets for every character, and the smallest ones. -/
def unicode : List Entry :=
  [⟨.utf8, "utf_8", ["u8", "utf", "utf8", "utf8_ucs2", "utf8_ucs4", "cp65001"]⟩,
   ⟨.markedUtf8, "utf_8_sig", []⟩,
   ⟨.utf7, "utf_7", ["u7", "utf7", "unicode_1_1_utf_7"]⟩,
   ⟨.utf16 none, "utf_16", ["u16", "utf16"]⟩,
   ⟨.utf16 (some .little), "utf_16_le", ["unicodelittleunmarked", "utf_16le"]⟩,
   ⟨.utf16 (some .big), "utf_16_be", ["unicodebigunmarked", "utf_16be"]⟩,
   ⟨.utf32 none, "utf_32", ["u32", "utf32"]⟩,
   ⟨.utf32 (some .little), "utf_32_le", ["utf_32le"]⟩,
   ⟨.utf32 (some .big), "utf_32_be", ["utf_32be"]⟩,
   ⟨.ascii, "ascii", ["646", "ansi_x3.4_1968", "ansi_x3_4_1968", "ansi_x3.4_1986", "cp367",
       "csascii", "ibm367", "iso646_us", "iso_646.irv_1991", "iso_ir_6", "us", "us_ascii"]⟩,
   ⟨.latin1, "latin_1", ["8859", "cp819", "csisolatin1", "ibm819", "iso8859", "iso8859_1",
       "iso_8859_1", "iso_8859_1_1987", "iso_ir_100", "l1", "latin", "latin1"]⟩,
   ⟨.latin1, "iso8859_1", []⟩,
   ⟨.latin1, "charmap", []⟩]

/-- Sets with ASCII in them and one byte for each character. -/
def halves : List Entry :=
  [⟨.half iso2, "iso8859_2", ["csisolatin2", "iso_8859_2", "iso_8859_2_1987", "iso_ir_101",
       "l2", "latin2"]⟩,
   ⟨.half iso3, "iso8859_3", ["csisolatin3", "iso_8859_3", "iso_8859_3_1988", "iso_ir_109",
       "l3", "latin3"]⟩,
   ⟨.half iso4, "iso8859_4", ["csisolatin4", "iso_8859_4", "iso_8859_4_1988", "iso_ir_110",
       "l4", "latin4"]⟩,
   ⟨.half iso5, "iso8859_5", ["csisolatincyrillic", "cyrillic", "iso_8859_5",
       "iso_8859_5_1988", "iso_ir_144"]⟩,
   ⟨.half iso6, "iso8859_6", ["arabic", "asmo_708", "csisolatinarabic", "ecma_114",
       "iso_8859_6", "iso_8859_6_1987", "iso_ir_127"]⟩,
   ⟨.half iso7, "iso8859_7", ["csisolatingreek", "ecma_118", "elot_928", "greek", "greek8",
       "iso_8859_7", "iso_8859_7_1987", "iso_ir_126"]⟩,
   ⟨.half iso8, "iso8859_8", ["csisolatinhebrew", "hebrew", "iso_8859_8", "iso_8859_8_1988",
       "iso_ir_138"]⟩,
   ⟨.half iso9, "iso8859_9", ["csisolatin5", "iso_8859_9", "iso_8859_9_1989", "iso_ir_148",
       "l5", "latin5"]⟩,
   ⟨.half iso10, "iso8859_10", ["csisolatin6", "iso_8859_10", "iso_8859_10_1992", "iso_ir_157",
       "l6", "latin6"]⟩,
   ⟨.half iso11, "iso8859_11", ["thai", "iso_8859_11", "iso_8859_11_2001"]⟩,
   ⟨.half iso13, "iso8859_13", ["iso_8859_13", "l7", "latin7"]⟩,
   ⟨.half iso14, "iso8859_14", ["iso_8859_14", "iso_8859_14_1998", "iso_celtic", "iso_ir_199",
       "l8", "latin8"]⟩,
   ⟨.half iso15, "iso8859_15", ["iso_8859_15", "l9", "latin9"]⟩,
   ⟨.half iso16, "iso8859_16", ["iso_8859_16", "iso_8859_16_2001", "iso_ir_226", "l10",
       "latin10"]⟩,
   ⟨.half thai, "tis_620", ["tis620", "tis_620_0", "tis_620_2529_0", "tis_620_2529_1",
       "iso_ir_166"]⟩,
   ⟨.half windows874, "cp874", []⟩,
   ⟨.half windows1250, "cp1250", ["1250", "windows_1250"]⟩,
   ⟨.half windows1251, "cp1251", ["1251", "windows_1251"]⟩,
   ⟨.half windows1252, "cp1252", ["1252", "windows_1252"]⟩,
   ⟨.half windows1253, "cp1253", ["1253", "windows_1253"]⟩,
   ⟨.half windows1254, "cp1254", ["1254", "windows_1254"]⟩,
   ⟨.half windows1255, "cp1255", ["1255", "windows_1255"]⟩,
   ⟨.half windows1256, "cp1256", ["1256", "windows_1256"]⟩,
   ⟨.half windows1257, "cp1257", ["1257", "windows_1257"]⟩,
   ⟨.half windows1258, "cp1258", ["1258", "windows_1258"]⟩,
   ⟨.half page437, "cp437", ["437", "cspc8codepage437", "ibm437"]⟩,
   ⟨.half page720, "cp720", []⟩,
   ⟨.half page737, "cp737", []⟩,
   ⟨.half page775, "cp775", ["775", "cspc775baltic", "ibm775"]⟩,
   ⟨.half page850, "cp850", ["850", "cspc850multilingual", "ibm850"]⟩,
   ⟨.half page852, "cp852", ["852", "cspcp852", "ibm852"]⟩,
   ⟨.half page855, "cp855", ["855", "csibm855", "ibm855"]⟩,
   ⟨.half page856, "cp856", []⟩,
   ⟨.half page857, "cp857", ["857", "csibm857", "ibm857"]⟩,
   ⟨.half page858, "cp858", ["858", "csibm858", "ibm858"]⟩,
   ⟨.half page860, "cp860", ["860", "csibm860", "ibm860"]⟩,
   ⟨.half page861, "cp861", ["861", "cp_is", "csibm861", "ibm861"]⟩,
   ⟨.half page862, "cp862", ["862", "cspc862latinhebrew", "ibm862"]⟩,
   ⟨.half page863, "cp863", ["863", "csibm863", "ibm863"]⟩,
   ⟨.half page865, "cp865", ["865", "csibm865", "ibm865"]⟩,
   ⟨.half page866, "cp866", ["866", "csibm866", "ibm866"]⟩,
   ⟨.half page869, "cp869", ["869", "cp_gr", "csibm869", "ibm869"]⟩,
   ⟨.half page1006, "cp1006", []⟩,
   ⟨.half page1125, "cp1125", ["1125", "ibm1125", "cp866u", "ruscii"]⟩,
   ⟨.half macArabic, "mac_arabic", []⟩,
   ⟨.half macCroatian, "mac_croatian", []⟩,
   ⟨.half macCyrillic, "mac_cyrillic", ["maccyrillic"]⟩,
   ⟨.half macFarsi, "mac_farsi", []⟩,
   ⟨.half macGreek, "mac_greek", ["macgreek"]⟩,
   ⟨.half macIceland, "mac_iceland", ["maciceland"]⟩,
   ⟨.half macLatin2, "mac_latin2", ["maccentraleurope", "mac_centeuro", "maclatin2"]⟩,
   ⟨.half macRoman, "mac_roman", ["macintosh", "macroman"]⟩,
   ⟨.half macRomanian, "mac_romanian", []⟩,
   ⟨.half macTurkish, "mac_turkish", ["macturkish"]⟩,
   ⟨.half handheld, "palmos", []⟩,
   ⟨.half roman8, "hp_roman8", ["roman8", "r8", "csHPRoman8", "cp1051", "ibm1051"]⟩,
   ⟨.half koi8r, "koi8_r", ["cskoi8r"]⟩,
   ⟨.half koi8t, "koi8_t", []⟩,
   ⟨.half koi8u, "koi8_u", []⟩,
   ⟨.half kazakh, "kz1048", ["kz_1048", "rk1048", "strk1048_2002"]⟩,
   ⟨.half asianCyrillic, "ptcp154", ["csptcp154", "pt154", "cp154", "cyrillic_asian"]⟩]

/-- Sets of one byte without ASCII. -/
def pages : List Entry :=
  [⟨.full page037, "cp037", ["037", "csibm037", "ebcdic_cp_ca", "ebcdic_cp_nl", "ebcdic_cp_us",
       "ebcdic_cp_wt", "ibm037", "ibm039"]⟩,
   ⟨.full page273, "cp273", ["273", "ibm273", "csibm273"]⟩,
   ⟨.full page424, "cp424", ["424", "csibm424", "ebcdic_cp_he", "ibm424"]⟩,
   ⟨.full page500, "cp500", ["500", "csibm500", "ebcdic_cp_be", "ebcdic_cp_ch", "ibm500"]⟩,
   ⟨.full page864, "cp864", ["864", "csibm864", "ibm864"]⟩,
   ⟨.full page875, "cp875", []⟩,
   ⟨.full page1026, "cp1026", ["1026", "csibm1026", "ibm1026"]⟩,
   ⟨.full page1140, "cp1140", ["1140", "ibm1140"]⟩]

/-- Sets with two bytes for most characters. -/
def wides : List Entry :=
  [⟨.wide .shiftJis, "shift_jis", ["csshiftjis", "shiftjis", "sjis", "s_jis",
       "x_mac_japanese"]⟩,
   ⟨.wide .windows932, "cp932", ["932", "ms932", "mskanji", "ms_kanji"]⟩,
   ⟨.wide (.shiftPlanes .of2004), "shift_jis_2004", ["shiftjis2004", "sjis_2004",
       "s_jis_2004"]⟩,
   ⟨.wide (.shiftPlanes .of2000), "shift_jisx0213", ["shiftjisx0213", "sjisx0213",
       "s_jisx0213"]⟩,
   ⟨.wide .eucJp, "euc_jp", ["eucjp", "ujis", "u_jis"]⟩,
   ⟨.wide (.eucPlanes .of2004), "euc_jis_2004", ["jisx0213", "eucjis2004", "euc_jis2004"]⟩,
   ⟨.wide (.eucPlanes .of2000), "euc_jisx0213", ["eucjisx0213"]⟩,
   ⟨.wide .gb2312, "gb2312", ["chinese", "csiso58gb231280", "euc_cn", "euccn", "eucgb2312_cn",
       "gb2312_1980", "gb2312_80", "iso_ir_58", "x_mac_simp_chinese"]⟩,
   ⟨.wide .gbk, "gbk", ["936", "cp936", "ms936"]⟩,
   ⟨.wide .gb18030, "gb18030", ["gb18030_2000"]⟩,
   ⟨.wide .bigFive, "big5", ["big5_tw", "csbig5", "x_mac_trad_chinese"]⟩,
   ⟨.wide .windows950, "cp950", ["950", "ms950"]⟩,
   ⟨.wide .hongKong, "big5hkscs", ["big5_hkscs", "hkscs"]⟩,
   ⟨.wide .eucKr, "euc_kr", ["euckr", "korean", "ksc5601", "ks_c_5601", "ks_c_5601_1987",
       "ksx1001", "ks_x_1001", "x_mac_korean"]⟩,
   ⟨.wide .windows949, "cp949", ["949", "ms949", "uhc"]⟩,
   ⟨.wide .johab, "johab", ["cp1361", "ms1361"]⟩]

/-- Sets of seven bits in which tables are switched. -/
def switchings : List Entry :=
  [⟨.switching .tildes, "hz", ["hzgb", "hz_gb", "hz_gb_2312"]⟩,
   ⟨.switching (.escapes [.hangul] true false), "iso2022_kr", ["csiso2022kr", "iso2022kr",
       "iso_2022_kr"]⟩,
   ⟨.switching (.escapes [.kanji, .roman, .oldKanji] false false), "iso2022_jp", [
       "csiso2022jp", "iso2022jp", "iso_2022_jp"]⟩,
   ⟨.switching (.escapes [.kanji, .supplement, .roman, .oldKanji] false false),
     "iso2022_jp_1", ["iso2022jp_1", "iso_2022_jp_1"]⟩,
   ⟨.switching (.escapes [.kanji, .supplement, .hangul, .hanzi, .roman, .oldKanji, .latin,
     .greek] false true), "iso2022_jp_2", ["iso2022jp_2", "iso_2022_jp_2"]⟩,
   ⟨.switching (.escapes [.kanji, .firstPlane .of2000, .secondPlane] false false),
     "iso2022_jp_3", ["iso2022jp_3", "iso_2022_jp_3"]⟩,
   ⟨.switching (.escapes [.kanji, .firstPlane .of2004, .secondPlane] false false),
     "iso2022_jp_2004", ["iso_2022_jp_2004", "iso2022jp_2004"]⟩,
   ⟨.switching (.escapes [.kanji, .supplement, .roman, .katakana, .oldKanji] false false),
     "iso2022_jp_ext", ["iso2022jp_ext", "iso_2022_jp_ext"]⟩]

/-- Sets with ASCII in them and a way to spell other characters. -/
def spelled : List Entry :=
  [⟨.escaped .all, "unicode_escape", []⟩,
   ⟨.escaped .numbers, "raw_unicode_escape", []⟩,
   ⟨.punycode, "punycode", []⟩]

/-- Names that are known, but stand for no character set. -/
def others : List Entry :=
  [⟨.refused .undefined, "undefined", []⟩,
   ⟨.refused .strict, "idna", []⟩,
   ⟨.refused .letters, "rot_13", ["rot13"]⟩,
   ⟨.refused .bytes, "base64_codec", ["base64", "base_64"]⟩,
   ⟨.refused .bytes, "hex_codec", ["hex"]⟩,
   ⟨.refused .bytes, "quopri_codec", ["quopri", "quoted_printable", "quotedprintable"]⟩,
   ⟨.refused .bytes, "uu_codec", ["uu"]⟩,
   ⟨.refused .bytes, "bz2_codec", ["bz2"]⟩,
   ⟨.refused .bytes, "zlib_codec", ["zip", "zlib"]⟩]

def entries : List Entry :=
  unicode ++ halves ++ pages ++ wides ++ switchings ++ spelled ++ others

/-- A name in the form in which names are compared: what is no letter, digit or point stands for an
underscore between words. -/
def plainName (cs : List Char) : List Char :=
  let isWordChar (c : Char) : Bool :=
    ('a' ≤ c && c ≤ 'z') || ('0' ≤ c && c ≤ '9') || c = '.'
  let words := splitAtEach '_' ((cs.map Char.toLower).map fun c => if isWordChar c then c else '_')
  List.intercalate ['_'] (words.filter fun word => !word.isEmpty)

/-- The character set of a name. A point in one of its other names may stand for an underscore. -/
def ofName? (name : String) : Option Charset :=
  let word := plainName name.toList
  let other := String.ofList (word.map fun c => if c = '.' then '_' else c)
  let word := String.ofList word
  (entries.find? fun e =>
    e.name = word || e.aliases.contains word || e.aliases.contains other).map Entry.charset

end Workflow.Text.Charset
