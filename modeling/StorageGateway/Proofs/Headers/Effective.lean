import StorageGateway.Proofs.Headers.Merging
import StorageGateway.Proofs.Headers.Presenting
import StorageGateway.Proofs.History.Sessions

/-! What the headers of a request come to: the negotiation and the token of the session that it is
sent in, over the default headers, which count where a later spelling brings them back. -/
namespace StorageGateway

open Headers

namespace Headers

theorem accept_contentType : sameName accept contentType = false := by decide +kernel

theorem contentType_accept : sameName contentType accept = false := by decide +kernel

theorem accept_authorization : sameName accept authorization = false := by decide +kernel

theorem contentType_authorization : sameName contentType authorization = false := by
  decide +kernel

theorem authorization_accept : sameName authorization accept = false := by decide +kernel

theorem authorization_contentType : sameName authorization contentType = false := by
  decide +kernel

theorem ne_of_not_same {name other : Text} (h : sameName name other = false) : other ≠ name := by
  rintro rfl
  simp at h

/-- Headers that negotiate a media type for both ways. -/
structure Negotiates (mediaType : Text) (defaults headers : Headers) : Prop where
  acceptEntry : headers.get? accept = some mediaType
  contentTypeEntry : headers.get? contentType = some mediaType
  accepted : effective? accept headers = written? accept mediaType defaults
  sentAs : effective? contentType headers = written? contentType mediaType defaults

theorem negotiates_negotiating (version : Option Text) (defaults : Option Headers) :
    Negotiates (mediaType version) (defaults.getD []) (negotiating version defaults) where
  acceptEntry := by
    rw [negotiating, Fields.get?_put_of_ne (ne_of_not_same contentType_accept),
      Fields.get?_put_self]
  contentTypeEntry := by rw [negotiating, Fields.get?_put_self]
  accepted := by
    rw [negotiating, effective?_put_of_not_same contentType_accept, effective?_put_self]
  sentAs := by
    rw [negotiating, effective?_put_self, written?_put_of_not_same accept_contentType]

/-- The negotiation leaves all other headers as they are. -/
theorem effective?_negotiating {name : Text} (ha : sameName accept name = false)
    (hc : sameName contentType name = false) (version : Option Text) (defaults : Option Headers) :
    effective? name (negotiating version defaults) = effective? name (defaults.getD []) := by
  rw [negotiating, effective?_put_of_not_same hc, effective?_put_of_not_same ha]

theorem Negotiates.put_authorization {mediaType : Text} {defaults headers : Headers}
    (h : Negotiates mediaType defaults headers) (value : Text) :
    Negotiates mediaType defaults (headers.put authorization value) where
  acceptEntry := by
    rw [Fields.get?_put_of_ne (ne_of_not_same authorization_accept)]
    exact h.acceptEntry
  contentTypeEntry := by
    rw [Fields.get?_put_of_ne (ne_of_not_same authorization_contentType)]
    exact h.contentTypeEntry
  accepted := by
    rw [effective?_put_of_not_same authorization_accept]
    exact h.accepted
  sentAs := by
    rw [effective?_put_of_not_same authorization_contentType]
    exact h.sentAs

end Headers

namespace Session

/-- The media type of JSON, with the session's version unless that is empty. -/
def negotiated (s : Session) : Text :=
  let version := s.version.getD []
  "application/json" ++ if version = [] then [] else Text.ofString ";version=" ++ version

theorem mediaType_version (s : Session) : mediaType s.version = s.negotiated := by
  unfold mediaType negotiated
  cases s.version with
  | none => exact (List.append_nil _).symm
  | some v =>
    cases v with
    | nil => exact (List.append_nil _).symm
    | cons c v => exact List.append_assoc ..

/-- The headers that a session makes of the default ones. -/
structure Heads (s : Session) (defaults headers : Headers) : Prop
    extends Negotiates s.negotiated defaults headers where
  token : s.token ≠ [] → ∃ value, Authorization.Presents s.token s.version value ∧
    effective? authorization headers = written? authorization value defaults
  noToken : s.token = [] → effective? authorization headers = effective? authorization defaults
  others : ∀ name, sameName accept name = false → sameName contentType name = false →
    sameName authorization name = false → effective? name headers = effective? name defaults

theorem heads_of_headers {s : Session} {defaults : Option Headers} {headers : Headers}
    (h : s.headers defaults = .ok headers) : s.Heads (defaults.getD []) headers := by
  have hn := negotiates_negotiating s.version defaults
  rw [s.mediaType_version] at hn
  by_cases ht : s.token = []
  · obtain rfl := headers_without_token ht h
    refine ⟨hn, fun hne => absurd ht hne, fun _ => ?_, fun name ha hc _ => ?_⟩
    · exact effective?_negotiating accept_authorization contentType_authorization ..
    · exact effective?_negotiating ha hc ..
  · obtain ⟨value, hp, rfl⟩ := headers_with_token ht h
    refine ⟨hn.put_authorization value, fun _ => ⟨value, hp, ?_⟩, fun he => absurd he ht,
      fun name ha hc hz => ?_⟩
    · rw [effective?_put_self, negotiating, written?_put_of_not_same contentType_authorization,
        written?_put_of_not_same accept_authorization]
    · rw [effective?_put_of_not_same hz, effective?_negotiating ha hc]

end Session

namespace Client

@[simp] theorem leave_wire (c : Client) (steps : List (Operation × List Answer)) :
    (c.leave steps).wire = c.wire := by
  induction steps generalizing c with
  | nil => rfl
  | cons step steps ih => exact ih _

/-- Every request but a login, of every step after any others, has the headers that the session of
its moment makes of the default ones. -/
theorem effective_headers (c : Client) (steps : List (Operation × List Answer)) (op : Operation)
    (script : List Answer) {before after : List Event} {p : Purpose} {request : Request}
    (hsent : ((c.leave steps).step op script).events = before ++ .sent p request :: after)
    (hp : p ≠ .login) :
    let left := c.leave steps
    (op.sessionAfter left.wire.codecs ⟨left.desk, left.recorder, script, 0⟩ before).Heads
      (c.wire.defaultHeaders.getD []) request.headers := by
  intro left
  have hperformed := Operation.perform_says left.wire op ⟨left.desk, left.recorder, script, 0⟩
  rw [← leave_wire c steps]
  exact Session.heads_of_headers (hperformed.headers before p request after hsent hp)

end Client

namespace Sample

/-- A client with a default header in two spellings. -/
def respelled : Client :=
  Client.opened {} .listed none
    { endpoint := "https://gateway", version := some " 4.5"
      defaultHeaders := some [("Accept", "text/plain"), ("accept", "text/html")] }

def tokenGiven : List (Operation × List Answer) := [(.setToken "tok", [])]

/-- What it sends when it asks for the version with a token. -/
def respelledRequest : Request where
  method := "GET"
  url := "https://gateway/api/version"
  params := none
  headers := [("Accept", "application/json;version= 4.5"), ("accept", "text/html"),
    ("Content-Type", "application/json;version= 4.5"), ("Authorization", "Bearer tok")]
  body := none
  timeout := Binary64.ofRatio false 30 1
  verify := .on
  streamed := true

end Sample

namespace Client

open Sample

theorem effective_headers_of_respelled :
    let left := respelled.leave tokenGiven
    (left.step (.discoverVersion true none) []).events =
        [] ++ .sent .version respelledRequest :: [] ∧ Purpose.version ≠ .login ∧
      ((Operation.discoverVersion true none).sessionAfter left.wire.codecs
          ⟨left.desk, left.recorder, [], 0⟩ []).Heads
        [("Accept", "text/plain"), ("accept", "text/html")] respelledRequest.headers ∧
      effective? accept respelledRequest.headers = some "text/html" := by
  intro left
  have hsent : (left.step (.discoverVersion true none) []).events =
      [] ++ .sent .version respelledRequest :: [] := by decide +kernel
  have hheads := effective_headers respelled tokenGiven _ [] hsent Purpose.noConfusion
  exact ⟨hsent, Purpose.noConfusion, hheads, hheads.accepted.trans (by decide +kernel)⟩

end Client

end StorageGateway
