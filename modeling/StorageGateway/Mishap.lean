import StorageGateway.Bytes.Codecs
import StorageGateway.Json.Complaint
import StorageGateway.Json.Display
import StorageGateway.Url.Split

/-! What goes wrong below the library: on the way to the gateway, in a text that does not encode or
is no number, and in values of a kind that a caller cannot have meant. -/
namespace StorageGateway

/-- Why no response arrived. -/
inductive Unreachable where
  | unspecified
  | connection
  | connectTimeout
  | readTimeout
  | tls
  | proxy
  | invalidUrl
  | missingScheme
  | invalidHeader
  | tooManyRedirects
  deriving DecidableEq

/-- The name that is shown when a failed connection has nothing to say. -/
def Unreachable.label : Unreachable → Text
  | unspecified => "RequestException"
  | connection => "ConnectionError"
  | connectTimeout => "ConnectTimeout"
  | readTimeout => "ReadTimeout"
  | tls => "SSLError"
  | proxy => "ProxyError"
  | invalidUrl => "InvalidURL"
  | missingScheme => "MissingSchema"
  | invalidHeader => "InvalidHeader"
  | tooManyRedirects => "TooManyRedirects"

/-- How a body breaks off. -/
inductive StreamBreak where
  | system
  | reset
  | chunk
  /-- A fault in reading that has nothing to do with the connection. -/
  | value
  deriving DecidableEq

/-- What a connection may raise instead of its own errors. -/
inductive Crash where
  | system
  | value
  deriving DecidableEq

/-- What was asked of a body that is not there. -/
inductive BodyUse where
  | strip
  | decode
  deriving DecidableEq

inductive Mishap where
  | malformedJson (complaint : Json.Complaint) (place : Json.Place)
  | undecodable
  | integerTooLong (digits : Nat)
  | unreachable (why : Unreachable) (text : Text)
  | crashed (why : Crash) (text : Text)
  | brokenStream (why : StreamBreak)
  | noBody (use : BodyUse)
  | codec (fault : Bytes.CodecFault)
  | unencodable (rest : Bytes.Unencodable)
  | badUrl (fault : Url.Fault)
  | notANumber (text : Text)
  | numberTooLarge
  | withoutFields (kind : Json.Kind)
  | notIterable (kind : Json.Kind)
  | notASequence (index : Nat)
  | notAPair (index length : Nat)
  | unhashable (kind : Json.Kind)
  | recorderFailed
  | homeUnknown
  deriving DecidableEq

def Json.Kind.label : Json.Kind → Text
  | .null => "NoneType"
  | .bool => "bool"
  | .int => "int"
  | .float => "float"
  | .str => "str"
  | .arr => "list"
  | .obj => "dict"

def BodyUse.label : BodyUse → Text
  | strip => "strip"
  | decode => "decode"

namespace Mishap

def ofReadError : Json.ReadError → Mishap
  | .malformed complaint place => malformedJson complaint place
  | .integerTooLong digits => integerTooLong digits

def message : Mishap → Text
  | malformedJson complaint place => (Json.ReadError.malformed complaint place).message
  | undecodable => "invalid bytes"
  | integerTooLong digits => Json.tooLongMessage digits
  | unreachable _ text => text
  | crashed _ text => text
  | brokenStream _ => "stream broke"
  | noBody use => "'NoneType' object has no attribute '" ++ use.label ++ "'"
  | codec fault => fault.message
  | unencodable rest => rest.message "latin-1" "ordinal not in range(256)"
  | badUrl fault => fault.message
  | notANumber text => "could not convert string to float: " ++ text.quoted
  | numberTooLarge => "int too large to convert to float"
  | withoutFields kind => "'" ++ kind.label ++ "' object has no attribute 'get'"
  | notIterable kind => "'" ++ kind.label ++ "' object is not iterable"
  | notASequence index =>
    "cannot convert dictionary update sequence element #" ++ Decimal.natural index ++
      " to a sequence"
  | notAPair index length =>
    "dictionary update sequence element #" ++ Decimal.natural index ++ " has length " ++
      Decimal.natural length ++ "; 2 is required"
  | unhashable kind => "unhashable type: '" ++ kind.label ++ "'"
  | recorderFailed => "recorder failed"
  | homeUnknown => "Could not determine home directory."

end Mishap

end StorageGateway
