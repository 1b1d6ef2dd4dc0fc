import StorageGateway.Bytes.Utf16
import StorageGateway.Bytes.Utf8

/-! Some character sets that a response may declare, found by name. Letter case does not matter in a
name, nor which marks separate its parts. -/
namespace StorageGateway.Bytes

inductive Charset where
  | utf8
  /-- UTF-8 whose byte order mark is left out. -/
  | utf8Marked
  | latin1
  | ascii
  | utf16Little
  deriving DecidableEq

namespace Charset

def isNamePart (c : CodePoint) : Bool := c.isAsciiLetter || c.isAsciiDigit || c == CodePoint.dot

/-- The name in small letters, each run of separators as one underscore, none at the ends.
`pending` tells that a run has come after some part. -/
def plainName (started pending : Bool) : Text → Text
  | [] => []
  | c :: t =>
    if isNamePart c then
      (if pending then [CodePoint.underscore] else []) ++ c.asciiLower :: plainName true false t
    else plainName started started t

def namedList : List (Charset × List String) :=
  [(utf8, ["utf_8", "u8", "utf", "utf8", "utf8_ucs2", "utf8_ucs4", "cp65001"]),
    (utf8Marked, ["utf_8_sig"]),
    (latin1, ["latin_1", "8859", "cp819", "csisolatin1", "ibm819", "iso8859", "iso8859_1",
      "iso_8859_1", "iso_8859_1_1987", "iso_ir_100", "l1", "latin", "latin1"]),
    (ascii, ["ascii", "646", "ansi_x3.4_1968", "ansi_x3_4_1968", "ansi_x3.4_1986", "cp367",
      "csascii", "ibm367", "iso646_us", "iso_646.irv_1991", "iso_ir_6", "us", "us_ascii"]),
    (utf16Little, ["utf_16_le", "unicodelittleunmarked", "utf_16le"])]

/-- A code point that may stand in a name: no surrogate, and not the one that ends a name. -/
def mayStandInName (c : CodePoint) : Bool := !c.isSurrogate && c != 0

def named? (name : Text) : Option Charset :=
  if name.all mayStandInName then
    (namedList.find? fun (_, names) =>
      names.any fun n => Text.ofString n == plainName false false name).map (·.1)
  else none

/-- Every byte string decodes; what is not in the character set is replaced. -/
def decodeLossy : Charset → Bytes → Text
  | utf8, bs => Utf8.decodeLossy bs
  | utf8Marked, bs => Utf8.decodeLossy (Utf8.withoutMark bs)
  | latin1, bs => latin1Text bs
  | ascii, bs => asciiText bs
  | utf16Little, bs => Utf16.decodeLossy .little bs

example : named? (Text.ofString "ISO-8859-1") = some latin1 := by decide +kernel
example : named? (Text.ofString "bogus") = none := by decide +kernel
example : named? [0x75, 0x74, 0x66, 0x00, 0x38] = none := by decide +kernel

end Charset

end StorageGateway.Bytes
