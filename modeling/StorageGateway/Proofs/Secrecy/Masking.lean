import StorageGateway.Proofs.Inquiry

/-! What is left of requests and events when the values of authorization headers are left out. The
log of an exchange is made from that alone, whatever the spelling of the header's name. -/
namespace StorageGateway

namespace Headers

/-- The headers without the value of the one that shows who sends a request. -/
def masked (headers : Headers) : Headers :=
  headers.map fun header => if header.1 = authorization then (header.1, []) else header

/-- Whether a name is that of the header when letter case does not count. -/
def namesSender (name : Text) : Prop := name.lower = "authorization"

instance (name : Text) : Decidable (namesSender name) :=
  inferInstanceAs (Decidable (name.lower = _))

/-- The headers without all values under that name. -/
def maskedFolded (headers : Headers) : Headers :=
  headers.map fun header => if namesSender header.1 then (header.1, []) else header

theorem namesSender_authorization : namesSender authorization := by decide +kernel

theorem namesSender_congr {a b : Text} (h : sameName a b = true) :
    namesSender a ↔ namesSender b := by
  have hl : a.lower = b.lower := by simpa [sameName] using h
  unfold namesSender
  rw [hl]

theorem masked_put_authorization (value : Text) (headers : Headers) :
    masked (headers.put authorization value) = (masked headers).put authorization [] := by
  induction headers with
  | nil => simp [masked, Fields.put]
  | cons header headers ih =>
    obtain ⟨n, v⟩ := header
    by_cases hn : n = authorization
    · simp [masked, Fields.put, hn]
    · simpa [masked, Fields.put, hn] using ih

theorem maskedFolded_masked (headers : Headers) :
    maskedFolded (masked headers) = maskedFolded headers := by
  induction headers with
  | nil => rfl
  | cons header headers ih =>
    obtain ⟨n, v⟩ := header
    by_cases hn : n = authorization
    · simpa [masked, maskedFolded, hn, namesSender_authorization] using ih
    · simpa [masked, maskedFolded, hn] using ih

/-- Masking before or after a header is merged in comes to the same. -/
theorem maskedFolded_putFolded (name value : Text) (headers : Headers) :
    maskedFolded (putFolded name value headers) =
      putFolded name (if namesSender name then [] else value) (maskedFolded headers) := by
  induction headers with
  | nil => by_cases hn : namesSender name <;> simp [maskedFolded, putFolded, hn]
  | cons header headers ih =>
    obtain ⟨n, v⟩ := header
    by_cases hs : sameName n name = true
    · by_cases hn : namesSender name
      · simp [maskedFolded, putFolded, hs, hn, (namesSender_congr hs).mpr hn]
      · simp [maskedFolded, putFolded, hs, hn, mt (namesSender_congr hs).mp hn]
    · by_cases hn : namesSender n
      · simpa [maskedFolded, putFolded, hs, hn] using ih
      · simpa [maskedFolded, putFolded, hs, hn] using ih

theorem maskedFolded_cons (name value : Text) (headers : Headers) :
    maskedFolded ((name, value) :: headers) =
      (name, if namesSender name then [] else value) :: maskedFolded headers := by
  by_cases hn : namesSender name <;> simp [maskedFolded, hn]

/-- Headers may be masked before they are merged. -/
theorem maskedFolded_folded (headers : Headers) :
    maskedFolded (folded headers) = folded (maskedFolded headers) := by
  have merging : ∀ merged : Headers,
      maskedFolded
        (headers.foldl (fun merged header => putFolded header.1 header.2 merged) merged) =
      (maskedFolded headers).foldl (fun merged header => putFolded header.1 header.2 merged)
        (maskedFolded merged) := by
    induction headers with
    | nil => exact fun _ => rfl
    | cons header headers ih =>
      obtain ⟨n, v⟩ := header
      intro merged
      rw [List.foldl_cons, maskedFolded_cons, List.foldl_cons, ih, maskedFolded_putFolded]
  exact merging []

end Headers

namespace Dump

open Headers

theorem headerLines_maskedFolded (headers : Headers) :
    headerLines (maskedFolded headers) = headerLines headers := by
  unfold headerLines maskedFolded
  rw [List.map_map]
  congr 2
  funext header
  by_cases hn : namesSender header.1
  · have hl : header.1.lower = "authorization" := hn
    simp [headerLine, hn, hl]
  · simp [hn]

theorem getFolded?_maskedFolded {name : Text} (h : ¬namesSender name) (headers : Headers) :
    getFolded? name (maskedFolded headers) = getFolded? name headers := by
  induction headers with
  | nil => rfl
  | cons header headers ih =>
    obtain ⟨n, v⟩ := header
    rw [maskedFolded_cons]
    unfold getFolded? at ih ⊢
    by_cases hs : sameName n name = true
    · have hn : ¬namesSender n := mt (namesSender_congr hs).mp h
      simp [hs, hn]
    · simpa [hs] using ih

/-- The dump of a request shows nothing of the value under the header's name. -/
theorem request_maskedFolded (method url : Text) (headers : Headers) (body : Option Body) :
    request method url (maskedFolded headers) body = request method url headers body := by
  have hc : ¬namesSender contentType := by decide +kernel
  unfold request
  rw [headerLines_maskedFolded, getFolded?_maskedFolded hc]

/-- Requests whose headers differ in that value alone are dumped alike. -/
theorem request_folded_congr {a b : Headers} (h : masked a = masked b) (method url : Text)
    (body : Option Body) :
    request method url (folded a) body = request method url (folded b) body := by
  rw [← request_maskedFolded _ _ (folded a), ← request_maskedFolded _ _ (folded b),
    maskedFolded_folded, maskedFolded_folded, ← maskedFolded_masked a, h, maskedFolded_masked]

end Dump

/-- A request without the value of its authorization header. -/
def Request.masked (r : Request) : Request := { r with headers := r.headers.masked }

theorem Request.of_masked {a b : Request} (h : a.masked = b.masked) :
    a.method = b.method ∧ a.url = b.url ∧ a.body = b.body ∧
      a.headers.masked = b.headers.masked := by
  simp only [masked, mk.injEq] at h
  obtain ⟨hm, hu, -, hh, hb, -⟩ := h
  exact ⟨hm, hu, hb, hh⟩

/-- A reply without its body. -/
def Reply.masked (r : Reply) : Reply := { r with body := [] }

theorem Reply.of_masked {r q : Reply} (h : r.masked = q.masked) :
    r.status = q.status ∧ r.reason = q.reason ∧ r.headers = q.headers := by
  simp only [masked, mk.injEq] at h
  obtain ⟨hs, hr, -, hh, -⟩ := h
  exact ⟨hs, hr, hh⟩

namespace Event

/-- An event without what nobody is to see of it: the value of the authorization header of a
request, and the body of a reply. -/
def masked : Event → Event
  | sent purpose request => sent purpose request.masked
  | answered index reply => answered index reply.masked
  | other => other

end Event

namespace Trace

/-- What is left of events. -/
def masked (events : List Event) : List Event := events.map Event.masked

@[simp] theorem masked_append (a b : List Event) : masked (a ++ b) = masked a ++ masked b :=
  List.map_append

@[simp] theorem masked_cons (e : Event) (events : List Event) :
    masked (e :: events) = e.masked :: masked events := rfl

@[simp] theorem masked_nil : masked [] = [] := rfl

/-- What is read off each event alone, and not from what is left out of it, is the same. -/
theorem filterMap_masked {β : Type} {read : Event → Option β} (h : ∀ e, read e.masked = read e)
    (events : List Event) : (masked events).filterMap read = events.filterMap read := by
  have hr : read ∘ Event.masked = read := funext h
  rw [masked, List.filterMap_map, hr]

theorem purposes_masked (events : List Event) : purposes (masked events) = purposes events :=
  filterMap_masked (fun e => by cases e <;> rfl) events

theorem notices_masked (events : List Event) : notices (masked events) = notices events :=
  filterMap_masked (fun e => by cases e <;> rfl) events

theorem operations_masked (events : List Event) :
    operations (masked events) = operations events :=
  filterMap_masked (fun e => by cases e <;> rfl) events

theorem requests_masked (events : List Event) :
    requests (masked events) = (requests events).map Request.masked := by
  unfold requests masked
  rw [List.filterMap_map, List.map_filterMap]
  congr 1
  funext e
  cases e <;> rfl

theorem count_masked {e : Event} (h : ∀ x : Event, x.masked = e ↔ x = e) (events : List Event) :
    (masked events).count e = events.count e := by
  induction events with
  | nil => rfl
  | cons x events ih =>
    rw [masked_cons, List.count_cons, List.count_cons, ih]
    simp [h x]

theorem closings_masked (answered : Nat) (events : List Event) :
    closings answered (masked events) = closings answered events := by
  unfold closings
  refine List.map_congr_left fun i _ => count_masked (fun x => ?_) events
  cases x <;> simp [Event.masked]

theorem disconnections_masked (events : List Event) :
    disconnections (masked events) = disconnections events := by
  refine count_masked (fun x => ?_) events
  cases x <;> simp [Event.masked]

end Trace

end StorageGateway
