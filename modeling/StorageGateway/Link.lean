import StorageGateway.Access

/-! The links of a resource: each has a relation, and the path of what stands in that relation. -/
namespace StorageGateway

structure Link where
  rel : Text
  href : Text
  deriving DecidableEq

namespace Link

/-- A field as text; a missing one is empty. -/
def fieldText (name : Text) (v : Json) : Except Fault Text :=
  (v.access name).map fun value => (value.map Json.display).getD []

def ofJson (v : Json) : Except Fault Link := do
  return ⟨← fieldText "rel" v, ← fieldText "href" v⟩

def missing (rel : Text) : Failure where
  kind := .missingLink rel
  message := "problem finding link: " ++ rel

/-- The first link of that relation. The entries after it are not looked at. -/
def firstOf (rel : Text) : List Json → Except Fault Link
  | [] => .error (.ofFailure (missing rel))
  | entry :: entries => do
    let link ← ofJson entry
    if link.rel = rel then .ok link else firstOf rel entries

/-- The first link of that relation among entries that may not be there at all. -/
def resolve (rel : Text) (links : Json) : Except Fault Link :=
  if links.isTruthy then links.parts >>= firstOf rel else firstOf rel []

/-- The first of some links that has that relation. -/
def pick (rel : Text) (links : List Link) : Except Fault Link :=
  match links.find? (·.rel == rel) with
  | some link => .ok link
  | none => .error (.ofFailure (missing rel))

/-- The link of that relation in a resource. -/
def ofResource (rel : Text) (resource : Json) : Except Fault Link := do
  resolve rel ((← resource.access "links").getD .null)

@[simp] theorem firstOf_nil (rel : Text) :
    firstOf rel [] = .error (.ofFailure (missing rel)) := rfl

/-- Reading all entries first and then picking gives the same link, if all of them can be read. -/
theorem firstOf_eq_pick {rel : Text} {entries : List Json} {links : List Link}
    (h : entries.mapM ofJson = .ok links) : firstOf rel entries = pick rel links := by
  induction entries generalizing links with
  | nil => cases h; rfl
  | cons entry entries ih =>
    rw [List.mapM_cons] at h
    cases he : ofJson entry with
    | error fault => rw [he] at h; cases h
    | ok link =>
      cases hr : entries.mapM ofJson with
      | error fault => rw [he, hr] at h; cases h
      | ok rest =>
        rw [he, hr] at h
        cases h
        by_cases hl : link.rel = rel
        · simp [firstOf, he, pick, hl, bind, Except.bind]
        · have hn : (link.rel == rel) = false := by simpa using hl
          simp only [firstOf, he, bind, Except.bind, hl, if_false, ih hr, pick,
            List.find?_cons, hn]

end Link

end StorageGateway
