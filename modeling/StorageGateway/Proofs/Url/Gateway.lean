import StorageGateway.Proofs.Desks
import StorageGateway.Proofs.Url.Origin

/-! Where the requests of a session go. Whether a path is a URL of its own is asked of the path as
it is given, and it is resolved without the slashes in front; so a path stays on the gateway exactly
when what stands behind those slashes names no other place. The paths of the library itself do. -/
namespace StorageGateway

open Url

instance Url.decidableLeads (scheme t : Text) (o : Origin) : Decidable (Leads scheme t o) :=
  decidable_of_iff _ leads_iff.symm

namespace Endpoint

variable {endpoint path : Text} {b : Origin}

theorem resolve_of_split {p : Parts} (hp : split [] path = .ok p)
    (hr : p.scheme = [] ∨ p.authority = []) :
    resolve endpoint path =
      join (normalize endpoint ++ [CodePoint.slash]) (path.dropWhile isSlash) := by
  unfold resolve
  rw [hp]
  refine if_neg fun h => ?_
  rcases hr with hr | hr
  · exact h.1 hr
  · exact h.2 hr

/-- A path that is no URL with an authority leads where it leads from the gateway without the
slashes in front. -/
theorem resolve_leads (hn : normalize endpoint = endpoint) (hb : Leads [] endpoint b)
    (hs : IsWebScheme b.scheme) (ha : b.authority ≠ [])
    (hp : ∀ o, Leads [] path o → o.scheme = [] ∨ o.authority = []) :
    (∃ fault, resolve endpoint path = .error fault) ∨
    ∃ url r, resolve endpoint path = .ok url ∧ Leads b.scheme (path.dropWhile isSlash) r ∧
      Leads [] url (b.follow r) := by
  cases hq : split [] path with
  | error fault =>
    refine .inl ⟨fault, ?_⟩
    unfold resolve
    rw [hq]
    rfl
  | ok p =>
    rw [resolve_of_split hq (hp _ (leads_of_split hq)), hn]
    have hbase := hb.append_slash hs.ne_nil ha
    obtain ⟨fault, -, hf⟩ | ⟨url, r, hu, hr, ho⟩ :=
      join_leads hbase hs ha (path.dropWhile isSlash)
    · exact .inl ⟨fault, hf⟩
    · exact .inr ⟨url, r, hu, hr, ho⟩

/-- A path of plain segments, such as those of the library itself. -/
theorem resolve_leads_back (hn : normalize endpoint = endpoint) (hb : Leads [] endpoint b)
    (hs : IsWebScheme b.scheme) (ha : b.authority ≠ [])
    (hp : ∀ scheme, Leads scheme path ⟨scheme, []⟩)
    (hr : ∀ scheme, Leads scheme (path.dropWhile isSlash) ⟨scheme, []⟩) {url : Text}
    (h : resolve endpoint path = .ok url) : Leads [] url b := by
  have hrel : ∀ o, Leads [] path o → o.scheme = [] ∨ o.authority = [] := fun o ho => by
    rw [ho.unique (hp [])]
    exact .inl rfl
  obtain ⟨fault, hf⟩ | ⟨u, r, hu, hl, ho⟩ := resolve_leads hn hb hs ha hrel
  · rw [hf] at h
    cases h
  · rw [hu] at h
    cases h
    rw [hl.unique (hr b.scheme), Origin.follow, if_pos ⟨rfl, rfl⟩] at ho
    exact ho

end Endpoint

namespace Session

variable {s : Session} {path : Text}

theorem resolve_eq_ok {url : Text} (h : s.resolve path = .ok url) :
    Endpoint.resolve s.endpoint path = .ok url := by
  unfold resolve at h
  cases hr : Endpoint.resolve s.endpoint path with
  | error fault => rw [hr] at h; cases h
  | ok u => rw [hr] at h; cases h; rfl

end Session

theorem Login.loginPath_leads (scheme : Text) :
    Leads scheme Login.loginPath ⟨scheme, []⟩ ∧
      Leads scheme (Login.loginPath.dropWhile Endpoint.isSlash) ⟨scheme, []⟩ :=
  ⟨leads_iff.mpr ⟨rfl, rfl, rfl⟩, leads_iff.mpr ⟨rfl, rfl, rfl⟩⟩

theorem Login.versionPath_leads (scheme : Text) :
    Leads scheme Login.versionPath ⟨scheme, []⟩ ∧
      Leads scheme (Login.versionPath.dropWhile Endpoint.isSlash) ⟨scheme, []⟩ :=
  ⟨leads_iff.mpr ⟨rfl, rfl, rfl⟩, leads_iff.mpr ⟨rfl, rfl, rfl⟩⟩

/-- In a session with a gateway on the web, a path that is no URL with an authority either cannot be
resolved or stays on the gateway exactly if what stands behind the slashes in front names neither
another scheme nor another authority. The requests that log in, and so all that show credentials,
and those for the version go to the gateway in any case. -/
theorem Session.resolve_stays_on_gateway (s : Session) {b : Origin}
    (hn : Endpoint.normalize s.endpoint = s.endpoint) (hb : Leads [] s.endpoint b)
    (hs : IsWebScheme b.scheme) (ha : b.authority ≠ []) :
    (∀ path, (∀ o, Leads [] path o → o.scheme = [] ∨ o.authority = []) →
      (∃ fault, s.resolve path = .error (.ofMishap (.badUrl fault))) ∨
      ∃ url r o, s.resolve path = .ok url ∧ Leads [] url o ∧
        Leads b.scheme (path.dropWhile Endpoint.isSlash) r ∧
        (o = b ↔ r.scheme = b.scheme ∧ (r.authority = [] ∨ r.authority = b.authority)) ∧
        (o ≠ b → o = r)) ∧
    ∀ (w : Wire) (timeout : Option Binary64) (request : Request),
      (w.versionRequest s timeout = .ok request ∨
        ∃ c, w.loginRequest s c timeout = .ok request) → Leads [] request.url b := by
  constructor
  · intro path hp
    obtain ⟨fault, hf⟩ | ⟨url, r, hu, hr, ho⟩ := Endpoint.resolve_leads hn hb hs ha hp
    · exact .inl ⟨fault, by rw [Session.resolve, hf]; rfl⟩
    · refine .inr ⟨url, r, b.follow r, by rw [Session.resolve, hu]; rfl, ho, hr,
        Origin.follow_eq_iff, fun hne => ?_⟩
      unfold Origin.follow at hne ⊢
      split at hne
      · exact absurd rfl hne
      · rename_i h
        exact if_neg h
  · rintro w timeout request (h | ⟨c, h⟩)
    · obtain ⟨headers, url, -, hu, rfl⟩ := Wire.versionRequest_ok h
      exact Endpoint.resolve_leads_back hn hb hs ha (fun _ => (Login.versionPath_leads _).1)
        (fun _ => (Login.versionPath_leads _).2) (Session.resolve_eq_ok hu)
    · obtain ⟨headers, url, -, hu, rfl⟩ := Wire.loginRequest_ok h
      exact Endpoint.resolve_leads_back hn hb hs ha (fun _ => (Login.loginPath_leads _).1)
        (fun _ => (Login.loginPath_leads _).2) (Session.resolve_eq_ok hu)

namespace Sample

/-- A session that shows a token, and a path with a URL behind its slash. -/
def shown : Session := { endpoint := "https://gateway", version := some "4.0", token := "tok" }

def gateway : Origin := ⟨"https", "gateway"⟩

def strayPath : Text := "/http://elsewhere/x"

end Sample

open Sample in
theorem Session.resolve_stays_on_gateway_for_instances :
    Endpoint.normalize shown.endpoint = shown.endpoint ∧ Leads [] shown.endpoint gateway ∧
    IsWebScheme gateway.scheme ∧ gateway.authority ≠ [] ∧
    (∀ o, Leads [] "/api/types/System/instances" o → o.scheme = [] ∨ o.authority = []) ∧
    ∃ url, shown.resolve "/api/types/System/instances" = .ok url ∧ Leads [] url gateway := by
  have hn : Endpoint.normalize shown.endpoint = shown.endpoint := by decide +kernel
  have hb : Leads [] shown.endpoint gateway := by decide +kernel
  have hs : IsWebScheme gateway.scheme := .inr rfl
  have ha : gateway.authority ≠ [] := List.cons_ne_nil _ _
  have hpath : Leads [] (Text.ofString "/api/types/System/instances") ⟨[], []⟩ := by decide +kernel
  have hrest : Leads gateway.scheme
      ((Text.ofString "/api/types/System/instances").dropWhile Endpoint.isSlash)
      ⟨gateway.scheme, []⟩ := by decide +kernel
  have hp : ∀ o, Leads [] (Text.ofString "/api/types/System/instances") o →
      o.scheme = [] ∨ o.authority = [] := fun o ho => .inl (by rw [ho.unique hpath])
  refine ⟨hn, hb, hs, ha, hp, ?_⟩
  obtain ⟨fault, hf⟩ | ⟨url, r, o, hu, ho, hr, hi, -⟩ :=
    (shown.resolve_stays_on_gateway hn hb hs ha).1 _ hp
  · have hok : (shown.resolve "/api/types/System/instances").toBool = true := by decide +kernel
    rw [hf] at hok
    cases hok
  · have hback : o = gateway := hi.mpr ⟨by rw [hr.unique hrest], .inl (by rw [hr.unique hrest])⟩
    rw [hback] at ho
    exact ⟨url, hu, ho⟩

open Sample in
/-- What stands behind the slashes in front of a path may lead away from the gateway, and the
request shows the token there. -/
theorem Session.path_behind_slash_leaves_gateway :
    (¬∀ (s : Session) (path url : Text) (b : Origin),
      Endpoint.normalize s.endpoint = s.endpoint → Leads [] s.endpoint b →
      IsWebScheme b.scheme → b.authority ≠ [] →
      (∀ o, Leads [] path o → o.scheme = [] ∨ o.authority = []) →
      s.resolve path = .ok url → Leads [] url b) ∧
    ∃ request, wire.resourceRequest shown { order with path := strayPath } = .ok request ∧
      request.url = "http://elsewhere/x" ∧
      Headers.getFolded? Headers.authorization request.headers =
        some (Text.ofString "Bearer tok") := by
  have hurl : shown.resolve strayPath = .ok "http://elsewhere/x" := by
    rw [Session.resolve, show Endpoint.resolve shown.endpoint strayPath =
      .ok "http://elsewhere/x" from by decide +kernel]
    rfl
  constructor
  · intro h
    have hpath : Leads [] strayPath ⟨[], []⟩ := by decide +kernel
    have hl := h shown strayPath _ gateway (by decide +kernel) (by decide +kernel) (.inr rfl)
      (List.cons_ne_nil _ _) (fun o ho => .inl (by rw [ho.unique hpath])) hurl
    revert hl
    decide +kernel
  · unfold Wire.resourceRequest
    rw [hurl]
    refine ⟨_, rfl, rfl, ?_⟩
    decide +kernel

end StorageGateway
