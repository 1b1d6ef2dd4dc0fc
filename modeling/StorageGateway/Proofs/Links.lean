import StorageGateway.Client.Basic
import StorageGateway.Client.Trace
import StorageGateway.Proofs.Operations
import StorageGateway.Proofs.Trimming

/-! Where the links of a resource lead. What is done with a resource by way of a link is a call on
what the first entry of a relation leads to; without such an entry nothing is done at all. -/
namespace StorageGateway

namespace Link

/-- What an entry says under a name, as a text. An entry that does not have the name says nothing.
-/
def word (name : Text) (entry : Fields Json) : Text :=
  ((entry.get? name).map Json.display).getD []

/-- The link that an entry stands for. -/
def ofEntry (entry : Fields Json) : Link where
  rel := word "rel" entry
  href := word "href" entry

/-- The entries that a resource lists as its links. -/
inductive Lists (resource : Fields Json) : List (Fields Json) → Prop where
  | missing (h : resource.get? "links" = none) : Lists resource []
  | null (h : resource.get? "links" = some .null) : Lists resource []
  | entries (entries : List (Fields Json))
      (h : resource.get? "links" = some (.arr (entries.map .obj))) : Lists resource entries

@[simp] theorem ofJson_obj (entry : Fields Json) : ofJson (.obj entry) = .ok (ofEntry entry) := rfl

/-- Objects can be read as links, whatever values they hold. -/
theorem mapM_ofJson (entries : List (Fields Json)) :
    (entries.map Json.obj).mapM ofJson = .ok (entries.map ofEntry) := by
  induction entries with
  | nil => rfl
  | cons entry entries ih => simp [ih, bind, Except.bind, pure, Except.pure]

theorem resolve_entries (rel : Text) (entries : List (Fields Json)) :
    resolve rel (.arr (entries.map .obj)) = pick rel (entries.map ofEntry) := by
  rw [← firstOf_eq_pick (mapM_ofJson entries)]
  cases entries with
  | nil => rfl
  | cons entry entries => rfl

/-- The first of some entries with a relation. -/
def IsFirst (rel : Text) (entries : List (Fields Json)) (entry : Fields Json) : Prop :=
  ∃ before after, entries = before ++ entry :: after ∧ word "rel" entry = rel ∧
    ∀ earlier ∈ before, word "rel" earlier ≠ rel

section Lists

variable {resource entry : Fields Json} {entries : List (Fields Json)} {rel : Text}

theorem ofResource_of_lists (h : Lists resource entries) (rel : Text) :
    ofResource rel (.obj resource) = pick rel (entries.map ofEntry) := by
  have hlinks (links : Option Json) (hl : resource.get? "links" = links) :
      ofResource rel (.obj resource) = resolve rel (links.getD .null) := by
    simp [ofResource, hl, bind, Except.bind]
  cases h with
  | missing h => rw [hlinks none h]; rfl
  | null h => rw [hlinks _ h]; rfl
  | entries entries h => rw [hlinks _ h]; exact resolve_entries rel entries

theorem ofResource_of_lost (h : Lists resource entries)
    (hlost : ∀ entry ∈ entries, word "rel" entry ≠ rel) :
    ofResource rel (.obj resource) = .error (.ofFailure (missing rel)) := by
  have hnone : (entries.map ofEntry).find? (·.rel == rel) = none := by
    apply List.find?_eq_none.mpr
    simpa [ofEntry] using hlost
  simp [ofResource_of_lists h, pick, hnone]

/-- The entries behind the first one of the relation have no part in it. -/
theorem ofResource_of_isFirst (h : Lists resource entries) (hfirst : IsFirst rel entries entry) :
    ofResource rel (.obj resource) = .ok (ofEntry entry) := by
  obtain ⟨before, after, rfl, hrel, hb⟩ := hfirst
  have hsome : ((before ++ entry :: after).map ofEntry).find? (·.rel == rel) =
      some (ofEntry entry) := by
    apply List.find?_eq_some_iff_append.mpr
    exact ⟨by simpa [ofEntry] using hrel, before.map ofEntry, after.map ofEntry, by simp,
      by simpa [ofEntry] using hb⟩
  rw [ofResource_of_lists h, pick, hsome]

end Lists

end Link

/-- The same outcome, when nothing is told of its value. -/
def Outcome.silenced (o : Outcome Json) : Outcome Json :=
  { o with result := o.result.map fun _ => .null }

namespace Collection

variable {w : Wire} {rel : Text} {resource : Json} {s : Standing} {link : Link} {fault : Fault}

theorem follow_of_error (h : Link.ofResource rel resource = .error fault) :
    follow w rel resource s = ⟨.error fault, [], s⟩ := by
  simp [follow, h]

theorem follow_of_ok (h : Link.ofResource rel resource = .ok link) :
    follow w rel resource s = Dispatch.execute w (getOrder link.href) s := by
  simp [follow, h]

theorem act_of_error {action : Text} {payload : Json}
    (h : Link.ofResource selfRelation resource = .error fault) :
    act w action payload resource s = ⟨.error fault, [], s⟩ := by
  simp [act, h]

theorem act_of_ok {action : Text} {payload : Json}
    (h : Link.ofResource selfRelation resource = .ok link) :
    act w action payload resource s =
      (Dispatch.execute w (postOrder (actionPath link action) payload) s).silenced := by
  have hnull := Call.bind_ofExcept_apply
    (Dispatch.execute w (postOrder (actionPath link action) payload)) (fun _ => .ok .null) s
  simp only [act, h, Call.bind_apply, Call.ofExcept_apply, Call.continue?_ok, List.nil_append]
  exact hnull

end Collection

namespace Client

variable (c : Client) (script : List Answer)

/-- What a step comes to that goes by a link. Without an entry of the relation it fails, nothing
happens and the client stays as it is; with one, the first such entry decides what it leads to. -/
structure GoesBy (rel : Text) (entries : List (Fields Json)) (o : Outcome Json)
    (leads : Text → Prop) : Prop where
  lost : (∀ entry ∈ entries, Link.word "rel" entry ≠ rel) →
    o.result = .error (.ofFailure (Link.missing rel)) ∧ o.events = [] ∧ c.after o = c
  led : ∀ entry, Link.IsFirst rel entries entry → leads (Link.word "href" entry)

/-- An outcome that is the one of asking for what is at an address. -/
def Visits (o : Outcome Json) (href : Text) : Prop :=
  o = c.step (.execute { method := "GET", path := href }) script

/-- An outcome that is the one of an action at an address, with one thing said to it and nothing
told of the answer. The address loses the slashes at its end. -/
def Acts (o : Outcome Json) (action name value href : Text) : Prop :=
  ∃ path n, href = path ++ List.replicate n CodePoint.slash ∧
    path.getLast? ≠ some CodePoint.slash ∧
    o = (c.step (.execute
      { method := "POST", path := path ++ "/action/" ++ action
        payload := some (.json (.obj [(name, .str value)])) }) script).silenced

section Steps

variable {c script} {resource : Fields Json} {entries : List (Fields Json)} {o : Outcome Json}
  (h : Link.Lists resource entries)

include h

theorem follow_goesBy {rel : Text}
    (ho : o = c.work (Collection.follow c.wire rel (.obj resource)) script) :
    c.GoesBy rel entries o (c.Visits script o) := by
  subst ho
  constructor
  · intro hlost
    rw [work, Collection.follow_of_error (Link.ofResource_of_lost h hlost)]
    exact ⟨rfl, rfl, rfl⟩
  · intro entry hfirst
    rw [work, Collection.follow_of_ok (Link.ofResource_of_isFirst h hfirst)]
    rfl

theorem act_goesBy {action name value : Text}
    (ho : o = c.work
      (Collection.act c.wire action (.obj [(name, .str value)]) (.obj resource)) script) :
    c.GoesBy "self" entries o (c.Acts script o action name value) := by
  subst ho
  constructor
  · intro hlost
    rw [work, Collection.act_of_error (Link.ofResource_of_lost h hlost)]
    exact ⟨rfl, rfl, rfl⟩
  · intro entry hfirst
    obtain ⟨slashes, hhref, hs⟩ :=
      Text.dropEndWhile_append Endpoint.isSlash (Link.word "href" entry)
    have hreplicate : slashes = List.replicate slashes.length CodePoint.slash :=
      List.eq_replicate_of_mem fun c hc => by simpa [Endpoint.isSlash] using hs c hc
    refine ⟨_, slashes.length, hreplicate ▸ hhref, fun hlast => ?_, ?_⟩
    · have hend := Text.endsOutside_dropEndWhile Endpoint.isSlash _ _ hlast
      simp [Endpoint.isSlash] at hend
    · rw [work, Collection.act_of_ok (Link.ofResource_of_isFirst h hfirst)]
      rfl

end Steps

end Client

namespace Sample

/-- Entries of which two have the relation of a resource to itself. -/
def entries : List (Fields Json) :=
  [[("rel", .null), ("href", .str "/api/instances/Volume::0")],
    [("href", .str "/api/instances/Volume::1")],
    [("rel", .str "Self"), ("href", .str "/api/instances/Volume::2")],
    [("rel", .str "self"), ("href", .str "/api/instances/Volume::3//")],
    [("rel", .str "self"), ("href", .str "/api/instances/Volume::4")]]

def volume : Fields Json := [("name", .str "data"), ("links", .arr (entries.map .obj))]

end Sample

namespace Client

end Client

end StorageGateway
