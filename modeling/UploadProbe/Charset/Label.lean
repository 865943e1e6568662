import UploadProbe.Charset.Multibyte
import UploadProbe.Charset.Table

/-!
# Charsets and their labels

A charset is named by any of several labels, in either case and with blanks around it.
-/

namespace UploadProbe

/-- A way to read octets as text. -/
inductive Charset where
  | utf8
  | utf16BigEndian
  | utf16LittleEndian
  | multibyte (charset : MultibyteCharset)
  /-- ASCII, and a character from a table for each of the other octets. -/
  | singleByte (upperHalf : Text)
  /-- A charset that is not to be read: any octets at all become one replacement character. -/
  | withheld
deriving DecidableEq, Repr

namespace Charset

/-- The labels of each charset, with blanks between them. -/
def labels : List (Charset × Text) := [
  (.utf8, "unicode-1-1-utf-8 unicode11utf8 unicode20utf8 utf-8 utf8 x-unicode20utf8".toList),
  (.utf16BigEndian, "unicodefffe utf-16be".toList),
  (.utf16LittleEndian,
    "csunicode iso-10646-ucs-2 ucs-2 unicode unicodefeff utf-16 utf-16le".toList),
  (.multibyte .gbk,
    ("chinese csgb2312 csiso58gb231280 gb2312 gb_2312 gb_2312-80 gbk iso-ir-58 " ++
      "x-gbk").toList),
  (.multibyte .gb18030, "gb18030".toList),
  (.multibyte .big5, "big5 big5-hkscs cn-big5 csbig5 x-x-big5".toList),
  (.multibyte .eucJp, "cseucpkdfmtjapanese euc-jp x-euc-jp".toList),
  (.multibyte .iso2022Jp, "csiso2022jp iso-2022-jp".toList),
  (.multibyte .shiftJis,
    "csshiftjis ms932 ms_kanji shift-jis shift_jis sjis windows-31j x-sjis".toList),
  (.multibyte .eucKr,
    ("cseuckr csksc56011987 euc-kr iso-ir-149 korean ks_c_5601-1987 ks_c_5601-1989 ksc5601 " ++
      "ksc_5601 windows-949").toList),
  (.singleByte Table.ibm866, "866 cp866 csibm866 ibm866".toList),
  (.singleByte Table.iso8859part2,
    ("csisolatin2 iso-8859-2 iso-ir-101 iso8859-2 iso88592 iso_8859-2 iso_8859-2:1987 l2 " ++
      "latin2").toList),
  (.singleByte Table.iso8859part3,
    ("csisolatin3 iso-8859-3 iso-ir-109 iso8859-3 iso88593 iso_8859-3 iso_8859-3:1988 l3 " ++
      "latin3").toList),
  (.singleByte Table.iso8859part4,
    ("csisolatin4 iso-8859-4 iso-ir-110 iso8859-4 iso88594 iso_8859-4 iso_8859-4:1988 l4 " ++
      "latin4").toList),
  (.singleByte Table.iso8859part5,
    ("csisolatincyrillic cyrillic iso-8859-5 iso-ir-144 iso8859-5 iso88595 iso_8859-5 " ++
      "iso_8859-5:1988").toList),
  (.singleByte Table.iso8859part6,
    ("arabic asmo-708 csiso88596e csiso88596i csisolatinarabic ecma-114 iso-8859-6 iso-8859-6-e " ++
      "iso-8859-6-i iso-ir-127 iso8859-6 iso88596 iso_8859-6 iso_8859-6:1987").toList),
  (.singleByte Table.iso8859part7,
    ("csisolatingreek ecma-118 elot_928 greek greek8 iso-8859-7 iso-ir-126 iso8859-7 iso88597 " ++
      "iso_8859-7 iso_8859-7:1987 sun_eu_greek").toList),
  (.singleByte Table.iso8859part8,
    ("csiso88598e csisolatinhebrew hebrew iso-8859-8 iso-8859-8-e iso-ir-138 iso8859-8 iso88598 " ++
      "iso_8859-8 iso_8859-8:1988 visual csiso88598i iso-8859-8-i logical").toList),
  (.singleByte Table.iso8859part10,
    "csisolatin6 iso-8859-10 iso-ir-157 iso8859-10 iso885910 l6 latin6".toList),
  (.singleByte Table.iso8859part13, "iso-8859-13 iso8859-13 iso885913".toList),
  (.singleByte Table.iso8859part14, "iso-8859-14 iso8859-14 iso885914".toList),
  (.singleByte Table.iso8859part15,
    "csisolatin9 iso-8859-15 iso8859-15 iso885915 iso_8859-15 l9".toList),
  (.singleByte Table.iso8859part16, "iso-8859-16".toList),
  (.singleByte Table.koi8r, "cskoi8r koi koi8 koi8-r koi8_r".toList),
  (.singleByte Table.koi8u, "koi8-ru koi8-u".toList),
  (.singleByte Table.macintosh, "csmacintosh mac macintosh x-mac-roman".toList),
  (.singleByte Table.macCyrillic, "x-mac-cyrillic x-mac-ukrainian".toList),
  (.singleByte Table.windows874,
    "dos-874 iso-8859-11 iso8859-11 iso885911 tis-620 windows-874".toList),
  (.singleByte Table.windows1250, "cp1250 windows-1250 x-cp1250".toList),
  (.singleByte Table.windows1251, "cp1251 windows-1251 x-cp1251".toList),
  (.singleByte Table.windows1252,
    ("ansi_x3.4-1968 ascii cp1252 cp819 csisolatin1 ibm819 iso-8859-1 iso-ir-100 iso8859-1 " ++
      "iso88591 iso_8859-1 iso_8859-1:1987 l1 latin1 us-ascii windows-1252 x-cp1252").toList),
  (.singleByte Table.windows1253, "cp1253 windows-1253 x-cp1253".toList),
  (.singleByte Table.windows1254,
    ("cp1254 csisolatin5 iso-8859-9 iso-ir-148 iso8859-9 iso88599 iso_8859-9 iso_8859-9:1989 l5 " ++
      "latin5 windows-1254 x-cp1254").toList),
  (.singleByte Table.windows1255, "cp1255 windows-1255 x-cp1255".toList),
  (.singleByte Table.windows1256, "cp1256 windows-1256 x-cp1256".toList),
  (.singleByte Table.windows1257, "cp1257 windows-1257 x-cp1257".toList),
  (.singleByte Table.windows1258, "cp1258 windows-1258 x-cp1258".toList),
  (.singleByte Table.userDefined, "x-user-defined".toList),
  (.withheld,
    "csiso2022kr hz-gb-2312 iso-2022-cn iso-2022-cn-ext iso-2022-kr replacement".toList)]

def isBlank (c : Char) : Bool :=
  c = ' ' || c = '\t' || c = '\n' || c = '\x0c' || c = '\r'

/-- The charset of a label, if it is one that can be read. -/
def ofLabel? (label : Text) : Option Charset :=
  let name := Text.lower (Text.trim isBlank label)
  (labels.find? fun entry => (Text.splitOn ' ' entry.2).contains name).map (·.1)

end Charset

end UploadProbe
