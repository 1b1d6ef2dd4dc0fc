import StorageGateway.Bytes.Utf32
import StorageGateway.Bytes.Utf8
import StorageGateway.Json.Reader

/-! Reading JSON from bytes. A byte order mark or the zero bytes among the first four tell whether
they hold UTF-8, UTF-16 or UTF-32. -/
namespace StorageGateway.Json

open Bytes

/-- The text in the bytes; surrogates are let through. -/
def decodeBytes? (bs : Bytes) : Option Text :=
  let swallow (mark : Bytes) : Option Bytes := mark.isPrefixOf? bs
  if let some rest := swallow [0x00, 0x00, 0xFE, 0xFF] then Utf32.decode? .big rest
  else if let some rest := swallow [0xFF, 0xFE, 0x00, 0x00] then Utf32.decode? .little rest
  else if let some rest := swallow [0xFE, 0xFF] then Utf16.decode? .big rest
  else if let some rest := swallow [0xFF, 0xFE] then Utf16.decode? .little rest
  else if let some rest := swallow Utf8.byteOrderMark then Utf8.decode? rest
  else match bs with
    | a :: b :: c :: d :: _ =>
      if a = 0 then
        if b ≠ 0 then Utf16.decode? .big bs else Utf32.decode? .big bs
      else if b = 0 then
        if c ≠ 0 ∨ d ≠ 0 then Utf16.decode? .little bs else Utf32.decode? .little bs
      else Utf8.decode? bs
    | [a, b] =>
      if a = 0 then Utf16.decode? .big bs
      else if b = 0 then Utf16.decode? .little bs
      else Utf8.decode? bs
    | _ => Utf8.decode? bs

inductive BodyError where
  | undecodable
  | unreadable (error : ReadError)
  deriving DecidableEq

/-- Reads the bytes as one JSON value. A second mark after decoding is part of the text. -/
def readBytes (bs : Bytes) : Except BodyError Json :=
  match decodeBytes? bs with
  | none => .error .undecodable
  | some t => (readWhole t).mapError fun stop => .unreadable (stop.inText t)

end StorageGateway.Json
