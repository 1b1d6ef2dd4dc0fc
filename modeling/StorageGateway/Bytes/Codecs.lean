import StorageGateway.Bytes.Charset
import StorageGateway.Decimal.Integer
import StorageGateway.Text.Quoted

/-! The codecs around a client: what a body says in the character set of a given name. Which names
there are, and what most of them make of a body, is left to the surroundings; only UTF-8 is the same
everywhere. -/
namespace StorageGateway.Bytes

/-- Why a body has no text. -/
inductive CodecFault where
  /-- There is no codec for text of this name. -/
  | unknown (message : Text)
  /-- The name or the body holds what cannot be written or read, also with replacements. -/
  | unfit (message : Text)
  /-- No codec can have this name. -/
  | unnameable (message : Text)
  deriving DecidableEq

def CodecFault.message : CodecFault → Text
  | unknown message | unfit message | unnameable message => message

/-- What cannot be written, one code point by its number and several by where they stand. -/
def Unencodable.message (codec why : Text) (rest : Unencodable) : Text :=
  let where_ : Text := match rest.run with
    | [c] => "character '" ++ Text.numberEscape c ++ "' in position " ++ Decimal.natural rest.start
    | run => "characters in position " ++ Decimal.natural rest.start ++ "-" ++
        Decimal.natural (rest.start + run.length - 1)
  "'" ++ codec ++ "' codec can't encode " ++ where_ ++ ": " ++ why

structure Codecs where
  /-- The text in a body, with what does not belong to the character set replaced. -/
  decode : (name : Text) → (body : Bytes) → Except CodecFault Text
  decode_utf8 : ∀ {name : Text}, Charset.named? name = some .utf8 →
    ∀ body, decode name body = .ok (Utf8.decodeLossy body)

namespace Codecs

def isNoSurrogate (c : CodePoint) : Bool := !c.isSurrogate

/-- What is wrong with a name that no listed character set has. -/
def nameFault (name : Text) : CodecFault :=
  if !name.all isNoSurrogate then
    .unfit ((unfitting isNoSurrogate name).message "utf-8" "surrogates not allowed")
  else if !name.all Charset.mayStandInName then .unnameable "embedded null character"
  else .unknown ("unknown encoding: " ++ name)

/-- The listed character sets and no others. In an empty body a name is not even looked up. -/
def listed : Codecs where
  decode name body :=
    match Charset.named? name with
    | some charset => .ok (charset.decodeLossy body)
    | none =>
      if body = [] ∧ name.all Charset.mayStandInName then .ok [] else .error (nameFault name)
  decode_utf8 h body := by simp only [h, Charset.decodeLossy]

end Codecs

end StorageGateway.Bytes
