import StorageGateway.Dispatch
import StorageGateway.Link

/-! The kinds of things that a gateway keeps, and what can be asked of any of them. -/
namespace StorageGateway

structure Collection where
  /-- The path under which all things of the kind are listed. -/
  instances : Text
  /-- The relation in which a thing of the kind stands to its statistics. -/
  statistics : Text

namespace Collection

def systems : Collection where
  instances := "/api/types/System/instances"
  statistics := "/api/System/relationship/Statistics"

def volumes : Collection where
  instances := "/api/types/Volume/instances"
  statistics := "/api/Volume/relationship/Statistics"

def selfRelation : Text := "self"

def postMethod : Text := "POST"

def getOrder (path : Text) : Order := { method := Login.getMethod, path }

def postOrder (path : Text) (payload : Json) : Order :=
  { method := postMethod, path, payload := some (.json payload) }

/-- All things of the kind; an answer that counts as nothing is an empty list. -/
def list (w : Wire) (c : Collection) : Call Json := do
  let answer ← Dispatch.execute w (getOrder c.instances)
  return if answer.isTruthy then answer else .arr []

/-- What stands in a relation to a resource. -/
def follow (w : Wire) (rel : Text) (resource : Json) : Call Json := do
  let link ← Call.ofExcept (Link.ofResource rel resource)
  Dispatch.execute w (getOrder link.href)

/-- The path of an action on what a link leads to. -/
def actionPath (link : Link) (action : Text) : Text :=
  Text.dropEndWhile Endpoint.isSlash link.href ++ "/action/" ++ action

/-- Lets a resource do something; the answer says nothing. -/
def act (w : Wire) (action : Text) (payload : Json) (resource : Json) : Call Json := do
  let link ← Call.ofExcept (Link.ofResource selfRelation resource)
  let _ ← Dispatch.execute w (postOrder (actionPath link action) payload)
  return .null

end Collection

end StorageGateway
