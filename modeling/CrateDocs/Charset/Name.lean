import CrateDocs.Charset.Basic
import CrateDocs.Charset.Chinese
import CrateDocs.Charset.Escape
import CrateDocs.Charset.Korean
import CrateDocs.Charset.Punycode
import CrateDocs.Charset.Regional
import CrateDocs.Charset.Switched
import CrateDocs.Charset.Systems
import CrateDocs.Charset.Unicode

/-!
The names of character sets. Names are compared by their letters, digits and dots alone; what stands
between these counts as one underscore. A set has a name of its own and further names.
-/

namespace CrateDocs.Charset

structure Named where
  name : String
  others : List String
  charset : Charset

def units16 : Charset where
  strict s := let (o, r) := Units.marked16 s; (ofReading (Units.two o)).strict r
  lossy s := let (o, r) := Units.marked16 s; (ofReading (Units.two o)).lossy r

def units32 : Charset where
  strict s := let (o, r) := Units.marked32 s; (ofReading (Units.four o)).strict r
  lossy s := let (o, r) := Units.marked32 s; (ofReading (Units.four o)).lossy r

def punycode : Charset where
  strict := Punycode.decode? true
  lossy := Punycode.decode? false

def domainName : Charset where
  strict := DomainName.decode?
  lossy _ := none

def windowsKorean : Charset :=
  ofRead fun s =>
    let rest := (Korean.unlisted Korean.listed).toArray
    (Machine.stateless (Korean.windows rest)).read s

def switched (c : SwitchedCode) : Charset := ofMachine c.machine

def unicodeSets : List Named := [
  ⟨"ascii", ["646", "ansi_x3.4_1968", "ansi_x3.4_1986", "ansi_x3_4_1968", "cp367", "csascii",
    "ibm367", "iso646_us", "iso_646.irv_1991", "iso_ir_6", "us", "us_ascii"], ofPage plain⟩,
  ⟨"latin_1", ["8859", "cp819", "csisolatin1", "ibm819", "iso8859", "iso8859_1", "iso_8859_1",
    "iso_8859_1_1987", "iso_ir_100", "l1", "latin", "latin1"], ofPage latin⟩,
  ⟨"charmap", [], ofPage latin⟩,
  ⟨"utf_8", ["cp65001", "u8", "utf", "utf8", "utf8_ucs2", "utf8_ucs4"], utf8⟩,
  ⟨"utf_8_sig", [], marked [0xEF, 0xBB, 0xBF] utf8⟩,
  ⟨"utf_16", ["u16", "utf16"], units16⟩,
  ⟨"utf_16_le", ["unicodelittleunmarked", "utf_16le"], ofReading (Units.two .little)⟩,
  ⟨"utf_16_be", ["unicodebigunmarked", "utf_16be"], ofReading (Units.two .big)⟩,
  ⟨"utf_32", ["u32", "utf32"], units32⟩,
  ⟨"utf_32_le", ["utf_32le"], ofReading (Units.four .little)⟩,
  ⟨"utf_32_be", ["utf_32be"], ofReading (Units.four .big)⟩,
  ⟨"utf_7", ["u7", "unicode_1_1_utf_7", "utf7"], ofMachine SevenBit.machine⟩,
  ⟨"unicode_escape", [], ofReading Escape.full⟩,
  ⟨"raw_unicode_escape", [], ofReading Escape.raw⟩,
  ⟨"punycode", [], punycode⟩,
  ⟨"idna", [], domainName⟩]

def asianSets : List Named := [
  ⟨"gb2312", ["chinese", "csiso58gb231280", "euc_cn", "euccn", "eucgb2312_cn", "gb2312_1980",
    "gb2312_80", "iso_ir_58", "x_mac_simp_chinese"], ofReading Simplified.gb2312⟩,
  ⟨"gbk", ["936", "cp936", "ms936"], ofReading Simplified.gbkPairs⟩,
  ⟨"gb18030", ["gb18030_2000"], ofReading Simplified.gb18030⟩,
  ⟨"hz", ["hz_gb", "hz_gb_2312", "hzgb"], ofMachine Simplified.switched⟩,
  ⟨"big5", ["big5_tw", "csbig5", "x_mac_trad_chinese"], ofReading Traditional.big5Pairs⟩,
  ⟨"cp950", ["950", "ms950"], ofReading Traditional.windows⟩,
  ⟨"big5hkscs", ["big5_hkscs", "hkscs"], ofReading Traditional.hongKong⟩,
  ⟨"euc_kr", ["euckr", "korean", "ks_c_5601", "ks_c_5601_1987", "ks_x_1001", "ksc5601", "ksx1001",
    "x_mac_korean"], ofReading Korean.extended⟩,
  ⟨"cp949", ["949", "ms949", "uhc"], windowsKorean⟩,
  ⟨"johab", ["cp1361", "ms1361"], ofReading Korean.johab⟩,
  ⟨"shift_jis", ["csshiftjis", "s_jis", "shiftjis", "sjis", "x_mac_japanese"],
    ofReading Shifted.japanese⟩,
  ⟨"cp932", ["932", "ms932", "ms_kanji", "mskanji"], ofReading Shifted.windows⟩,
  ⟨"shift_jis_2004", ["s_jis_2004", "shiftjis2004", "sjis_2004"],
    ofReading (Shifted.twoPlanes .second)⟩,
  ⟨"shift_jisx0213", ["s_jisx0213", "shiftjisx0213", "sjisx0213"],
    ofReading (Shifted.twoPlanes .first)⟩,
  ⟨"euc_jp", ["eucjp", "u_jis", "ujis"], ofReading Extended.japanese⟩,
  ⟨"euc_jis_2004", ["euc_jis2004", "eucjis2004", "jisx0213"],
    ofReading (Extended.twoPlanes .second)⟩,
  ⟨"euc_jisx0213", ["eucjisx0213"], ofReading (Extended.twoPlanes .first)⟩,
  ⟨"iso2022_kr", ["csiso2022kr", "iso2022kr", "iso_2022_kr"], switched .koreanCode⟩,
  ⟨"iso2022_jp", ["csiso2022jp", "iso2022jp", "iso_2022_jp"], switched .japaneseCode⟩,
  ⟨"iso2022_jp_1", ["iso2022jp_1", "iso_2022_jp_1"], switched .japaneseCode1⟩,
  ⟨"iso2022_jp_2", ["iso2022jp_2", "iso_2022_jp_2"], switched .japaneseCode2⟩,
  ⟨"iso2022_jp_2004", ["iso2022jp_2004", "iso_2022_jp_2004"], switched .japaneseCode2004⟩,
  ⟨"iso2022_jp_3", ["iso2022jp_3", "iso_2022_jp_3"], switched .japaneseCode3⟩,
  ⟨"iso2022_jp_ext", ["iso2022jp_ext", "iso_2022_jp_ext"], switched .japaneseCodeExtended⟩]

def pageSets : List Named := [
  ⟨"iso8859_2", ["csisolatin2", "iso_8859_2", "iso_8859_2_1987", "iso_ir_101", "l2", "latin2"],
    ofPage iso8859Part2⟩,
  ⟨"iso8859_3", ["csisolatin3", "iso_8859_3", "iso_8859_3_1988", "iso_ir_109", "l3", "latin3"],
    ofPage iso8859Part3⟩,
  ⟨"iso8859_4", ["csisolatin4", "iso_8859_4", "iso_8859_4_1988", "iso_ir_110", "l4", "latin4"],
    ofPage iso8859Part4⟩,
  ⟨"iso8859_5", ["csisolatincyrillic", "cyrillic", "iso_8859_5", "iso_8859_5_1988", "iso_ir_144"],
    ofPage iso8859Part5⟩,
  ⟨"iso8859_6", ["arabic", "asmo_708", "csisolatinarabic", "ecma_114", "iso_8859_6",
    "iso_8859_6_1987", "iso_ir_127"], ofPage iso8859Part6⟩,
  ⟨"iso8859_7", ["csisolatingreek", "ecma_118", "elot_928", "greek", "greek8", "iso_8859_7",
    "iso_8859_7_1987", "iso_ir_126"], ofPage iso8859Part7⟩,
  ⟨"iso8859_8", ["csisolatinhebrew", "hebrew", "iso_8859_8", "iso_8859_8_1988", "iso_ir_138"],
    ofPage iso8859Part8⟩,
  ⟨"iso8859_9", ["csisolatin5", "iso_8859_9", "iso_8859_9_1989", "iso_ir_148", "l5", "latin5"],
    ofPage iso8859Part9⟩,
  ⟨"iso8859_10", ["csisolatin6", "iso_8859_10", "iso_8859_10_1992", "iso_ir_157", "l6", "latin6"],
    ofPage iso8859Part10⟩,
  ⟨"iso8859_11", ["iso_8859_11", "iso_8859_11_2001", "thai"], ofPage iso8859Part11⟩,
  ⟨"iso8859_13", ["iso_8859_13", "l7", "latin7"], ofPage iso8859Part13⟩,
  ⟨"iso8859_14", ["iso_8859_14", "iso_8859_14_1998", "iso_celtic", "iso_ir_199", "l8", "latin8"],
    ofPage iso8859Part14⟩,
  ⟨"iso8859_15", ["iso_8859_15", "l9", "latin9"], ofPage iso8859Part15⟩,
  ⟨"iso8859_16", ["iso_8859_16", "iso_8859_16_2001", "iso_ir_226", "l10", "latin10"],
    ofPage iso8859Part16⟩,
  ⟨"cp874", [], ofPage windows874⟩,
  ⟨"cp1250", ["1250", "windows_1250"], ofPage windows1250⟩,
  ⟨"cp1251", ["1251", "windows_1251"], ofPage windows1251⟩,
  ⟨"cp1252", ["1252", "windows_1252"], ofPage windows1252⟩,
  ⟨"cp1253", ["1253", "windows_1253"], ofPage windows1253⟩,
  ⟨"cp1254", ["1254", "windows_1254"], ofPage windows1254⟩,
  ⟨"cp1255", ["1255", "windows_1255"], ofPage windows1255⟩,
  ⟨"cp1256", ["1256", "windows_1256"], ofPage windows1256⟩,
  ⟨"cp1257", ["1257", "windows_1257"], ofPage windows1257⟩,
  ⟨"cp1258", ["1258", "windows_1258"], ofPage windows1258⟩,
  ⟨"cp437", ["437", "cspc8codepage437", "ibm437"], ofPage dos437⟩,
  ⟨"cp720", [], ofPage dos720⟩,
  ⟨"cp737", [], ofPage dos737⟩,
  ⟨"cp775", ["775", "cspc775baltic", "ibm775"], ofPage dos775⟩,
  ⟨"cp850", ["850", "cspc850multilingual", "ibm850"], ofPage dos850⟩,
  ⟨"cp852", ["852", "cspcp852", "ibm852"], ofPage dos852⟩,
  ⟨"cp855", ["855", "csibm855", "ibm855"], ofPage dos855⟩,
  ⟨"cp856", [], ofPage dos856⟩,
  ⟨"cp857", ["857", "csibm857", "ibm857"], ofPage dos857⟩,
  ⟨"cp858", ["858", "csibm858", "ibm858"], ofPage dos858⟩,
  ⟨"cp860", ["860", "csibm860", "ibm860"], ofPage dos860⟩,
  ⟨"cp861", ["861", "cp_is", "csibm861", "ibm861"], ofPage dos861⟩,
  ⟨"cp862", ["862", "cspc862latinhebrew", "ibm862"], ofPage dos862⟩,
  ⟨"cp863", ["863", "csibm863", "ibm863"], ofPage dos863⟩,
  ⟨"cp864", ["864", "csibm864", "ibm864"], ofPage dos864⟩,
  ⟨"cp865", ["865", "csibm865", "ibm865"], ofPage dos865⟩,
  ⟨"cp866", ["866", "csibm866", "ibm866"], ofPage dos866⟩,
  ⟨"cp869", ["869", "cp_gr", "csibm869", "ibm869"], ofPage dos869⟩,
  ⟨"cp1125", ["1125", "cp866u", "ibm1125", "ruscii"], ofPage dos1125⟩,
  ⟨"mac_arabic", [], ofPage macArabic⟩,
  ⟨"mac_croatian", [], ofPage macCroatian⟩,
  ⟨"mac_cyrillic", ["maccyrillic"], ofPage macCyrillic⟩,
  ⟨"mac_farsi", [], ofPage macFarsi⟩,
  ⟨"mac_greek", ["macgreek"], ofPage macGreek⟩,
  ⟨"mac_iceland", ["maciceland"], ofPage macIceland⟩,
  ⟨"mac_latin2", ["mac_centeuro", "maccentraleurope", "maclatin2"], ofPage macLatin2⟩,
  ⟨"mac_roman", ["macintosh", "macroman"], ofPage macRoman⟩,
  ⟨"mac_romanian", [], ofPage macRomanian⟩,
  ⟨"mac_turkish", ["macturkish"], ofPage macTurkish⟩,
  ⟨"cp037", ["037", "csibm037", "ebcdic_cp_ca", "ebcdic_cp_nl", "ebcdic_cp_us", "ebcdic_cp_wt",
    "ibm037", "ibm039"], ofPage mainframe037⟩,
  ⟨"cp273", ["273", "csibm273", "ibm273"], ofPage mainframe273⟩,
  ⟨"cp424", ["424", "csibm424", "ebcdic_cp_he", "ibm424"], ofPage mainframe424⟩,
  ⟨"cp500", ["500", "csibm500", "ebcdic_cp_be", "ebcdic_cp_ch", "ibm500"], ofPage mainframe500⟩,
  ⟨"cp875", [], ofPage mainframe875⟩,
  ⟨"cp1026", ["1026", "csibm1026", "ibm1026"], ofPage mainframe1026⟩,
  ⟨"cp1140", ["1140", "ibm1140"], ofPage mainframe1140⟩,
  ⟨"cp1006", [], ofPage urdu⟩,
  ⟨"hp_roman8", ["cp1051", "ibm1051", "r8", "roman8"], ofPage hpRoman⟩,
  ⟨"koi8_r", ["cskoi8r"], ofPage koiRussian⟩,
  ⟨"koi8_t", [], ofPage koiTajik⟩,
  ⟨"koi8_u", [], ofPage koiUkrainian⟩,
  ⟨"kz1048", ["kz_1048", "rk1048", "strk1048_2002"], ofPage kazakh⟩,
  ⟨"palmos", [], ofPage palm⟩,
  ⟨"ptcp154", ["cp154", "csptcp154", "cyrillic_asian", "pt154"], ofPage asianCyrillic⟩,
  ⟨"tis_620", ["iso_ir_166", "tis620", "tis_620_0", "tis_620_2529_0", "tis_620_2529_1"],
    ofPage thai⟩]

def all : List Named := unicodeSets ++ asianSets ++ pageSets

/-- A name in the form in which names are compared. `gap` says that a sign has been passed over
since the last letter that was kept, and that there was one before. -/
def plainName (gap : Bool) : List Char → List Char
  | [] => []
  | c :: r =>
    if c.isAlphanum || c == '.' then
      if gap then '_' :: c.toLower :: plainName false r else c.toLower :: plainName false r
    else plainName true r

/-- The set with a name. Signs before the first letter do not count. In the further names a dot is
as good as an underscore. -/
def named? (s : List Char) : Option Charset :=
  if s.contains '\x00' then none
  else
    let start := s.dropWhile fun c => !(c.isAlphanum || c == '.')
    let name := String.ofList (plainName false start)
    let undotted := String.ofList (name.toList.map fun c => if c = '.' then '_' else c)
    (all.find? fun e => e.others.contains name || e.others.contains undotted || e.name == name).map
      fun e => e.charset

end CrateDocs.Charset
