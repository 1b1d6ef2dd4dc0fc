import StorageGateway.Inventory.Systems
import StorageGateway.Inventory.Volumes

/-! All that can be asked of a client. -/
namespace StorageGateway

inductive Operation where
  | authenticate (credentials : Credentials) (timeout : Option Binary64)
  | execute (order : Order)
  | executeScalar (order : Order)
  /-- The version of the protocol; a fresh one is asked for like any resource. -/
  | version (refresh : Bool) (timeout : Option Binary64)
  /-- The version of the protocol; a fresh one is asked for without renewing the session. -/
  | discoverVersion (refresh : Bool) (timeout : Option Binary64)
  | recordVersion (raw : Text)
  | setToken (token : Text)
  | useSession (session : Session)
  | setRecorder (recorder : Option Recorder)
  | close
  /-- Using the client for a block of work in which nothing is done. -/
  | visit
  | listSystems
  | getSystem (href : Text)
  | findSystem (id name : Option Text)
  | systemStatistics (system : Json)
  | listVolumes
  | getVolume (id : Text)
  | findVolumeId (name : Text)
  | createVolume (draft : Json)
  | volumeStatistics (volume : Json)
  | removeVolume (volume : Json) (mode : Option Text)
  | resizeVolume (volume size : Json)

namespace Operation

def versionOrder (timeout : Option Binary64) : Order :=
  { method := Login.getMethod, path := Login.versionPath, timeout }

/-- The version of the session, or a fresh one when that is wanted. -/
def currentVersion (w : Wire) (refresh : Bool) (timeout : Option Binary64) : Call Text := do
  let s ← Call.session
  if refresh && s.isVersionKnown then
    let raw ← Dispatch.executeScalar w (versionOrder timeout)
    Login.recordVersion raw
  else Login.discoverVersion w false timeout

def perform (w : Wire) : Operation → Call Json
  | authenticate credentials timeout => Json.str <$> Login.authenticate w credentials timeout
  | execute order => Dispatch.execute w order
  | executeScalar order => Json.str <$> Dispatch.executeScalar w order
  | version refresh timeout => Json.str <$> currentVersion w refresh timeout
  | discoverVersion refresh timeout => Json.str <$> Login.discoverVersion w refresh timeout
  | recordVersion raw => Json.str <$> Login.recordVersion raw
  | setToken token => do
    Call.changeDesk (·.setToken token)
    return .null
  | useSession session => do
    Call.changeDesk (·.install session)
    return .null
  | setRecorder recorder => do
    Call.setRecorder recorder
    return .bool recorder.isSome
  | close => do
    Call.emit .disconnected
    return .null
  | visit => do
    Call.emit .disconnected
    return .bool true
  | listSystems => Collection.list w .systems
  | getSystem href => Dispatch.execute w (Collection.getOrder href)
  | findSystem id name => Systems.find w id name
  | systemStatistics system => Collection.follow w Collection.systems.statistics system
  | listVolumes => Collection.list w .volumes
  | getVolume id => Dispatch.execute w (Collection.getOrder (Volumes.instancePath id))
  | findVolumeId name => Json.str <$> Volumes.findId w name
  | createVolume draft => Volumes.create w draft
  | volumeStatistics volume => Collection.follow w Collection.volumes.statistics volume
  | removeVolume volume mode => Volumes.remove w volume mode
  | resizeVolume volume size => Volumes.setSize w volume size

end Operation

end StorageGateway
