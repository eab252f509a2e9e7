/-
# Volumes.Databases -- databases and the volumes they reference

`Provision`, `Start`, `Stop`, `Delete` and `RebindVolume` of `internal/database`, beside the
requests of `internal/volume` that they call.  A row of `databases` names its server and its
volume, and a row of `volumes` names a server of its own; nothing but these functions relates the
two.  A volume that is deleted is cleared from the rows that reference it by the foreign key.

The goroutine `Provision` and `Start` leave behind is the end of their program: other requests run
beside it all the same.
-/
import Nixway.Volumes.Service
import Nixway.Store.Slug
import Nixway.Database.Backups

namespace Nixway.Volumes.Databases

open Nixway.Theory Nixway.Store
open Nixway.Database (DatabaseStatus)
open Nixway.Theory.Prog (query exec atomic ignore)

set_option autoImplicit false

/-! ## Templates -/

structure Version where
  version : String
  image : String
deriving DecidableEq

structure Template where
  slug : String
  versions : List Version
  mountPath : String
  defaultGiB : Int := 0
deriving DecidableEq

abbrev Registry := String → Option Template

/-- `GetVersion`. -/
def getVersion (templates : Registry) (slug version : String) : Option Version :=
  (templates slug).bind fun tmpl => tmpl.versions.find? fun v => v.version = version

/-! ## Rows -/

structure Database where
  id : UUID
  teamID : UUID
  projectID : UUID
  clusterID : UUID
  serverID : UUID
  volumeID : Option UUID
  templateSlug : String
  version : String
  name : String
  containerName : String
  status : DatabaseStatus := .provisioning
deriving DecidableEq

instance : Keyed Database UUID := ⟨Database.id⟩

/-- `VolumeMount`. -/
structure VolumeMount where
  hostPath : String
  containerPath : String
deriving DecidableEq

/-- A `DeployCommand`, with the server whose agent gets it. -/
structure Deploy where
  serverID : UUID
  databaseID : UUID
  image : String
  containerName : String
  mounts : List VolumeMount

/-- A command that was sent: what it was built from, and what the row of its database and that of the
volume it names were then. -/
structure SentDeploy where
  command : Deploy
  row : Database
  template : Template
  standing : Option Database
  volume : Option Volume

/-- The volume commands sent, each with its server. -/
abbrev Sent := List (UUID × VolumeCommand)

structure BoundStore where
  vols : VolumeStore Sent := { agents := [] }
  databases : Table Database := .empty
  projects : List Project := []
  servers : List Server := []
  deploys : List SentDeploy := []
  /-- The containers told to stop, each with its server. -/
  stops : List (UUID × String) := []
  /-- The ids the volumes have got. -/
  born : List UUID := []

namespace BoundStore

/-! ## Statements -/

/-- `ON DELETE SET NULL`. -/
def setNull (volumes : Table Volume) (d : Database) : Database :=
  if d.volumeID.all fun id => (volumes.find? id).isSome then d else { d with volumeID := none }

/-- What a statement on the volumes leaves. -/
def putVolumes (t : BoundStore) (s : VolumeStore Sent) : BoundStore :=
  { t with
    vols := s
    databases := t.databases.updateWhere (fun _ => true) (setNull s.volumes)
      (fun d => by unfold setNull; split <;> rfl)
    born := t.born ++ (s.volumes.rows.map Volume.id).filter fun id =>
      (t.vols.volumes.find? id).isNone }

variable (t : BoundStore)

def getDatabase (id : UUID) : Option Database := t.databases.find? id

def getProject (id : UUID) : Option Project := t.projects.find? fun p => p.id = id

def getServerByID (id teamID : UUID) : Option Server :=
  t.servers.find? fun srv => srv.id = id ∧ srv.teamID = teamID

def getVolumeAnyTeam (id : UUID) : Option Volume := t.vols.volumes.find? id

def listClusterMembers (clusterID : UUID) : List ClusterMember :=
  t.vols.members.rows.filter fun m => m.clusterID = clusterID

/-- `CountDatabasesByServer`, for one server. -/
def countDatabasesByServer (clusterID serverID : UUID) : Nat :=
  t.databases.rows.countP fun d =>
    d.clusterID = clusterID ∧ d.status ≠ .deleted ∧ d.serverID = serverID

/-- `CreateDatabase`; the name is unique in the project and the volume must be there. -/
def createDatabase (d : Database) : BoundStore × Option Database :=
  if t.databases.rows.any fun other => other.projectID = d.projectID ∧ other.name = d.name then
    (t, none)
  else if d.volumeID.any fun id => (t.getVolumeAnyTeam id).isNone then
    (t, none)
  else
    match t.databases.insert? d with
    | none => (t, none)
    | some databases => ({ t with databases := databases }, some d)

def updateDatabaseStatus (id : UUID) (status : DatabaseStatus) : BoundStore × Option Database :=
  let databases := t.databases.update id fun d => { d with status := status }
  ({ t with databases := databases }, databases.find? id)

/-- `UpdateDatabaseVolume`; the volume must be there. -/
def updateDatabaseVolume (id : UUID) (volumeID : Option UUID) : BoundStore × Option Unit :=
  if volumeID.any fun id => (t.getVolumeAnyTeam id).isNone then
    (t, none)
  else
    ({ t with databases := t.databases.update id fun d => { d with volumeID := volumeID } },
      some ())

def deleteDatabase (id : UUID) : BoundStore × Option Unit :=
  ({ t with databases := t.databases.deleteWhere fun d => d.id = id }, some ())

/-- The command reaches the agent. -/
def send (d : Database) (tmpl : Template) (command : Deploy) : BoundStore :=
  { t with deploys := t.deploys ++ [{ command := command, row := d, template := tmpl
                                      standing := t.getDatabase d.id
                                      volume := d.volumeID.bind t.getVolumeAnyTeam }] }

end BoundStore

/-- A request of the volume service. -/
def onVolumes {β : Type} (p : Prog (VolumeStore Sent) β) : Prog BoundStore β :=
  p.within BoundStore.vols BoundStore.putVolumes

/-- How a volume command fares. -/
structure Link where
  sent : Bool := true
  answer : Option VolumeResult := some { success := true }

def dispatchTo (link : Link) : Dispatch Sent := fun _ serverID command => do
  if !link.sent then
    return none
  exec fun s => { s with agents := s.agents ++ [(serverID, command)] }
  return link.answer

/-- The statements of the database service that may fail. -/
inductive DatabaseStatement where
  | getProject | getPinnedMember | getPinnedServer | listMembers | countDatabases
  | createDatabase | getDatabase | getNewDatabase | getVolume | markProvisioning
  | updateStatus | setError | getServer | bindNew | clearOld | deleteDatabase
deriving DecidableEq

/-- How a request fares: which statements fail, and what comes from elsewhere. -/
structure Fate where
  faults : DatabaseStatement → Bool := fun _ => false
  volumeFaults : Faults := fun _ => false
  link : Link := {}
  /-- The credentials can be stored, or resolved. -/
  secretsWork : Bool := true
  /-- The command reaches the agent of the server. -/
  sends : Bool := true
  /-- The agent reports a healthy container in time. -/
  healthy : Bool := true

inductive DatabaseError where
  | templateNotFound | versionNotFound | getProject | otherTeam | pinnedNotInCluster
  | pinnedInOtherCluster | pinnedInOtherTeam | listMembers | emptyCluster | countDatabases
  | noServer | createVolume | storeCredentials | createDatabase | getDatabase | sendStop
  | updateStatus | resolveCredentials | getVolume | sameDatabase | otherProject | otherCluster
  | otherTemplate | nothingToRebind | noMountPath | detach | attach | bindNew | deleteDatabase
deriving DecidableEq

/-- A statement of the database service, unless it fails. -/
def act {β : Type} (fails : Bool) (g : BoundStore → BoundStore × Option β) :
    Prog BoundStore (Option β) :=
  atomic fun t => if fails then (t, none) else g t

def look {β : Type} (fails : Bool) (g : BoundStore → Option β) : Prog BoundStore (Option β) :=
  query fun t => if fails then none else g t

/-! ## Commands to the agents -/

/-- The command `dispatchDeploy` builds. -/
def deployCommand (serverID : UUID) (d : Database) (tmpl : Template) (version : Version)
    (vol : Option Volume) : Deploy :=
  { serverID := serverID, databaseID := d.id, image := version.image,
    containerName := d.containerName
    mounts := match vol with
      | none => []
      | some vol => if tmpl.mountPath = "" then [] else [⟨vol.hostPath, tmpl.mountPath⟩] }

section Requests

variable (fate : Fate)

def connected (srv : Option Server) : Bool :=
  srv.any fun srv => srv.agentID.any fun agent => agent ≠ ""

/-- `dispatchDeploy`; false is an error. -/
def dispatchDeploy (teamID serverID : UUID) (d : Database) (tmpl : Template) (version : Version)
    (vol : Option Volume) : Prog BoundStore Bool := do
  let srv ← look (fate.faults .getServer) fun t => t.getServerByID serverID teamID
  if !connected srv || !fate.sends then
    return false
  exec fun t => t.send d tmpl (deployCommand serverID d tmpl version vol)
  return true

/-- The goroutine of `Provision` and of `Start`: the command, the wait and the final status. -/
def runDeployAsync (teamID serverID : UUID) (d : Database) (tmpl : Template) (version : Version)
    (vol : Option Volume) : Prog BoundStore Unit := do
  let dispatched ← dispatchDeploy fate teamID serverID d tmpl version vol
  if !dispatched || !fate.healthy then
    ignore (act (fate.faults .setError) fun t => t.updateDatabaseStatus d.id .error)
  else
    ignore (act (fate.faults .updateStatus) fun t => t.updateDatabaseStatus d.id .running)

/-- `sendStop`; false is an error. -/
def sendStop (d : Database) : Prog BoundStore Bool := do
  let srv ← look (fate.faults .getServer) fun t => t.getServerByID d.serverID d.teamID
  if !connected srv || !fate.sends then
    return false
  exec fun t => { t with stops := t.stops ++ [(d.serverID, d.containerName)] }
  return true

/-! ## Provision -/

structure ProvisionRequest where
  teamID : UUID
  projectID : UUID
  clusterID : UUID
  serverID : Option UUID := none
  templateSlug : String
  version : String
  name : String := ""
  sizeGb : Int := 0

/-- What the database and the random source give a `Provision`. -/
structure Fresh where
  volumeID : UUID
  databaseID : UUID
  suffix : String := ""

/-- The first member with the lowest load. -/
def lightest (load : UUID → Nat) (members : List ClusterMember) : Option (UUID × Nat) :=
  members.foldl (fun best m =>
    match best with
    | none => some (m.serverID, load m.serverID)
    | some (chosen, minLoad) =>
      if load m.serverID < minLoad then some (m.serverID, load m.serverID)
      else some (chosen, minLoad)) none

/-- `resolvePlacement`. -/
def resolvePlacement (teamID clusterID : UUID) (pinned : Option UUID) :
    Prog BoundStore (Except DatabaseError UUID) := do
  match pinned.filter fun id => id ≠ UUID.nil with
  | some id =>
    let some member ← look (fate.faults .getPinnedMember) fun t => t.vols.members.find? id
      | return .error .pinnedNotInCluster
    if member.clusterID ≠ clusterID then
      return .error .pinnedInOtherCluster
    let some _ ← look (fate.faults .getPinnedServer) fun t => t.getServerByID id teamID
      | return .error .pinnedInOtherTeam
    return .ok id
  | none =>
    let some members ← look (fate.faults .listMembers) fun t =>
        some (t.listClusterMembers clusterID)
      | return .error .listMembers
    if members.isEmpty then
      return .error .emptyCluster
    let some load ← look (fate.faults .countDatabases) fun t =>
        some (t.countDatabasesByServer clusterID)
      | return .error .countDatabases
    match lightest load members with
    | none => return .error .noServer
    | some (chosen, _) =>
      if chosen = UUID.nil then
        return .error .noServer
      return .ok chosen

/-- The size of the volume: what is asked for, the template's default, or ten. -/
def volumeSize (asked : Int) (tmpl : Template) : Int :=
  if 0 < asked then asked else if 0 < tmpl.defaultGiB then tmpl.defaultGiB else 10

def databaseName (req : ProvisionRequest) (fresh : Fresh) : String :=
  if trimSpace req.name = "" then req.templateSlug ++ "-" ++ fresh.suffix else trimSpace req.name

def databaseContainer (project : Project) (name : String) : String :=
  "nw-db-" ++ (if project.slug = "" then project.id.short else project.slug) ++ "-" ++ name

/-- The volume `Provision` creates; its size is an `int32`. -/
def ProvisionRequest.volume (req : ProvisionRequest) (serverID : UUID) (tmpl : Template)
    (name : String) : CreateRequest :=
  { teamID := req.teamID, clusterID := req.clusterID, serverID := serverID, name := "db-" ++ name
    sizeGb := Int.bmod (volumeSize req.sizeGb tmpl) (2 ^ 32) }

/-- The row `Provision` inserts. -/
def ProvisionRequest.row (req : ProvisionRequest) (fresh : Fresh) (serverID : UUID)
    (vol : Volume) (name container : String) : Database :=
  { id := fresh.databaseID, teamID := req.teamID, projectID := req.projectID,
    clusterID := req.clusterID, serverID := serverID, volumeID := some vol.id,
    templateSlug := req.templateSlug, version := req.version, name := name,
    containerName := container }

/-- `rollbackProvision`; what it does to the secrets is left out. -/
def rollbackProvision (teamID volID : UUID) : Prog BoundStore Unit :=
  ignore (onVolumes (Volumes.delete fate.volumeFaults (dispatchTo fate.link) teamID volID))

def provision (templates : Registry) (fresh : Fresh) (req : ProvisionRequest) :
    Prog BoundStore (Except DatabaseError Database) := do
  let some tmpl := templates req.templateSlug
    | return .error .templateNotFound
  let some version := getVersion templates req.templateSlug req.version
    | return .error .versionNotFound
  let some project ← look (fate.faults .getProject) fun t => t.getProject req.projectID
    | return .error .getProject
  if project.teamID ≠ req.teamID then
    return .error .otherTeam
  let placed ← resolvePlacement fate req.teamID req.clusterID req.serverID
  match placed with
  | .error e => return .error e
  | .ok serverID =>
    let name := databaseName req fresh
    let created ← onVolumes (Volumes.create fate.volumeFaults (dispatchTo fate.link)
      fresh.volumeID (req.volume serverID tmpl name))
    match created with
    | .error _ => return .error .createVolume
    | .ok vol =>
      if !fate.secretsWork then
        rollbackProvision fate req.teamID vol.id
        return .error .storeCredentials
      let row := req.row fresh serverID vol name (databaseContainer project name)
      let some d ← act (fate.faults .createDatabase) fun t => t.createDatabase row
        | do
          rollbackProvision fate req.teamID vol.id
          return .error .createDatabase
      runDeployAsync fate req.teamID serverID d tmpl version (some vol)
      return .ok d

/-! ## Start, Stop, Delete -/

def start (templates : Registry) (dbID : UUID) :
    Prog BoundStore (Except DatabaseError Database) := do
  let some d ← look (fate.faults .getDatabase) fun t => t.getDatabase dbID
    | return .error .getDatabase
  let some tmpl := templates d.templateSlug
    | return .error .templateNotFound
  let some version := getVersion templates d.templateSlug d.version
    | return .error .versionNotFound
  if !fate.secretsWork then
    return .error .resolveCredentials
  let vol ← query fun t => d.volumeID.map fun id =>
    if fate.faults .getVolume then none else t.getVolumeAnyTeam id
  if vol = some none then
    return .error .getVolume
  let some updated ← act (fate.faults .markProvisioning) fun t =>
      t.updateDatabaseStatus dbID .provisioning
    | return .error .updateStatus
  runDeployAsync fate d.teamID d.serverID d tmpl version vol.join
  return .ok updated

def stop (dbID : UUID) : Prog BoundStore (Except DatabaseError Database) := do
  let some d ← look (fate.faults .getDatabase) fun t => t.getDatabase dbID
    | return .error .getDatabase
  let told ← sendStop fate d
  if !told then
    return .error .sendStop
  let some updated ← act (fate.faults .updateStatus) fun t => t.updateDatabaseStatus dbID .stopped
    | return .error .updateStatus
  return .ok updated

/-- The end of `Delete`. -/
def deleteRow (dbID : UUID) : Prog BoundStore (Except DatabaseError Unit) := do
  let some _ ← act (fate.faults .deleteDatabase) fun t => t.deleteDatabase dbID
    | return .error .deleteDatabase
  return .ok ()

/-- `Delete`; the volume is detached and kept. -/
def delete (dbID : UUID) : Prog BoundStore (Except DatabaseError Unit) := do
  let some d ← look (fate.faults .getDatabase) fun t => t.getDatabase dbID
    | return .error .getDatabase
  let _ ← sendStop fate d
  match d.volumeID with
  | none => pure ()
  | some volID => ignore (onVolumes (Volumes.detach fate.volumeFaults d.teamID volID))
  deleteRow fate dbID

/-! ## RebindVolume -/

/-- `Get` of the volume service. -/
def getVolume (faults : Faults) (teamID id : UUID) : Prog (VolumeStore Sent) (Option Volume) :=
  Volumes.read (faults .getVolume) fun s => s.getVolume id teamID

/-- The statements behind `Attach`: the new row gets the volume, the old one is cleared. -/
def repoint (oldDB newDB : Database) (volID : UUID) :
    Prog BoundStore (Except DatabaseError String) := do
  let some _ ← act (fate.faults .bindNew) fun t => t.updateDatabaseVolume newDB.id (some volID)
    | return .error .bindNew
  let _ ← act (fate.faults .clearOld) fun t => t.updateDatabaseVolume oldDB.id none
  return .ok (if oldDB.version ≠ newDB.version then
    "version change: " ++ oldDB.version ++ " -> " ++ newDB.version ++
      ". data may need migration" else "")

/-- `RebindVolume` behind its checks of the two rows. -/
def rebind (oldDB newDB : Database) (volID : UUID) (mountPath : String) :
    Prog BoundStore (Except DatabaseError String) := do
  let some vol ← onVolumes (getVolume fate.volumeFaults oldDB.teamID volID)
    | return .error .getVolume
  let detached ← (if vol.status = .attached then
      Except.isOk <$> onVolumes (Volumes.detach fate.volumeFaults oldDB.teamID volID)
    else pure true : Prog BoundStore Bool)
  if !detached then
    return .error .detach
  let attached ← onVolumes (Volumes.attach fate.volumeFaults
    { teamID := newDB.teamID, volumeID := volID, containerName := newDB.containerName,
      mountPath := mountPath })
  if !attached.isOk then
    return .error .attach
  repoint fate oldDB newDB volID

def rebindVolume (templates : Registry) (oldDBID newDBID : UUID) :
    Prog BoundStore (Except DatabaseError String) := do
  if oldDBID = newDBID then
    return .error .sameDatabase
  let some oldDB ← look (fate.faults .getDatabase) fun t => t.getDatabase oldDBID
    | return .error .getDatabase
  let some newDB ← look (fate.faults .getNewDatabase) fun t => t.getDatabase newDBID
    | return .error .getDatabase
  if oldDB.projectID ≠ newDB.projectID then
    return .error .otherProject
  if oldDB.clusterID ≠ newDB.clusterID then
    return .error .otherCluster
  if oldDB.templateSlug ≠ newDB.templateSlug then
    return .error .otherTemplate
  let some volID := oldDB.volumeID
    | return .error .nothingToRebind
  let some tmpl := templates newDB.templateSlug
    | return .error .templateNotFound
  if tmpl.mountPath = "" then
    return .error .noMountPath
  rebind fate oldDB newDB volID tmpl.mountPath

end Requests

/-! ## The statements of a request -/

theorem look_every {E : (BoundStore → BoundStore) → Prop} {β : Type} (nothing : E id) (fails : Bool)
    (g : BoundStore → Option β) : (look fails g).Every E :=
  (Prog.every_query _).mpr nothing

theorem act_every {E : (BoundStore → BoundStore) → Prop} {β : Type} {fails : Bool}
    {g : BoundStore → BoundStore × Option β} (nothing : E id) (effect : E fun t => (g t).1) :
    (act fails g).Every E := by
  refine (Prog.every_atomic _).mpr ?_
  cases fails with
  | true => exact nothing
  | false => exact effect

/-- The statements that the requests share are among the effects of a kind. -/
structure Calm (fate : Fate) (E : (BoundStore → BoundStore) → Prop) : Prop where
  nothing : E id
  status : ∀ id status, E fun t => (t.updateDatabaseStatus id status).1
  stops : ∀ d : Database, E fun t => { t with stops := t.stops ++ [(d.serverID, d.containerName)] }
  deletes : ∀ dbID, E fun t => (t.deleteDatabase dbID).1
  detaches : ∀ teamID volID, (onVolumes (Volumes.detach fate.volumeFaults teamID volID)).Every E

namespace Calm

variable {fate : Fate} {E : (BoundStore → BoundStore) → Prop} (calm : Calm fate E)

include calm

theorem status_every (fails : Bool) (id : UUID) (status : Database.DatabaseStatus) :
    (act fails fun t => t.updateDatabaseStatus id status).Every E :=
  act_every calm.nothing (calm.status id status)

theorem runDeployAsync_every (teamID : UUID) {serverID : UUID} {d : Database} {tmpl : Template}
    {version : Version} {vol : Option Volume}
    (sent : E fun t => t.send d tmpl (deployCommand serverID d tmpl version vol)) :
    (runDeployAsync fate teamID serverID d tmpl version vol).Every E := by
  have dispatches : (dispatchDeploy fate teamID serverID d tmpl version vol).Every E := by
    refine Prog.Every.bind (look_every calm.nothing _ _) fun srv => ?_
    split
    · trivial
    · exact ⟨sent, fun _ => trivial⟩
  refine Prog.Every.bind dispatches fun sent => ?_
  split
  · exact Prog.Every.bind (calm.status_every _ _ _) fun _ => trivial
  · exact Prog.Every.bind (calm.status_every _ _ _) fun _ => trivial

theorem sendStop_every (d : Database) : (sendStop fate d).Every E := by
  refine Prog.Every.bind (look_every calm.nothing _ _) fun srv => ?_
  split
  · trivial
  · exact ⟨calm.stops d, fun _ => trivial⟩

theorem stop_every (dbID : UUID) : (stop fate dbID).Every E := by
  unfold stop
  refine Prog.Every.bind (look_every calm.nothing _ _) fun found => ?_
  cases found with
  | none => trivial
  | some d =>
    refine Prog.Every.bind (calm.sendStop_every d) fun told => ?_
    split
    · trivial
    · refine Prog.Every.bind (calm.status_every _ _ _) fun updated => ?_
      cases updated <;> trivial

theorem delete_every (dbID : UUID) : (delete fate dbID).Every E := by
  have ends : (deleteRow fate dbID).Every E := by
    refine Prog.Every.bind (act_every calm.nothing (calm.deletes dbID)) fun gone => ?_
    cases gone <;> trivial
  unfold delete
  refine Prog.Every.bind (look_every calm.nothing _ _) fun found => ?_
  cases found with
  | none => trivial
  | some d =>
    refine Prog.Every.bind (calm.sendStop_every d) fun _ => ?_
    cases d.volumeID with
    | none => exact ends
    | some volID =>
      exact Prog.Every.bind (Prog.Every.bind (calm.detaches _ _) fun _ => trivial) fun _ => ends

end Calm

/-! ## The requests of both services -/

inductive Operation where
  | provision (fresh : Fresh) (req : ProvisionRequest)
  | start (dbID : UUID)
  | stop (dbID : UUID)
  | delete (dbID : UUID)
  | rebindVolume (oldDBID newDBID : UUID)
  | create (id : UUID) (req : CreateRequest)
  | attach (req : AttachRequest)
  | detach (teamID id : UUID)
  | move (req : MoveRequest)
  | deleteVolume (teamID id : UUID)
  | snapshot (teamID id snapshotID : UUID)
  | resize (teamID id : UUID) (newSizeGb : Int)

structure Call where
  operation : Operation
  fate : Fate := {}

def Call.code (templates : Registry) (c : Call) : Prog BoundStore Unit :=
  let faults := c.fate.volumeFaults
  let dispatch := dispatchTo c.fate.link
  match c.operation with
  | .provision fresh req => ignore (provision c.fate templates fresh req)
  | .start dbID => ignore (start c.fate templates dbID)
  | .stop dbID => ignore (stop c.fate dbID)
  | .delete dbID => ignore (delete c.fate dbID)
  | .rebindVolume oldDBID newDBID => ignore (rebindVolume c.fate templates oldDBID newDBID)
  | .create id req => ignore (onVolumes (Volumes.create faults dispatch id req))
  | .attach req => ignore (onVolumes (Volumes.attach faults req))
  | .detach teamID id => ignore (onVolumes (Volumes.detach faults teamID id))
  | .move req => ignore (onVolumes (Volumes.move faults dispatch req))
  | .deleteVolume teamID id => ignore (onVolumes (Volumes.delete faults dispatch teamID id))
  | .snapshot teamID id snapshotID =>
    ignore (onVolumes (Volumes.snapshot faults dispatch teamID id snapshotID))
  | .resize teamID id newSizeGb =>
    ignore (onVolumes (Volumes.resize faults dispatch teamID id newSizeGb))

/-- The id a call may give a new volume. -/
def Call.volumeID (c : Call) : Option UUID :=
  match c.operation with
  | .provision fresh _ => some fresh.volumeID
  | .create id _ => some id
  | _ => none

/-! ## What a statement on the volumes does to the databases -/

namespace BoundStore

variable {t : BoundStore} {s : VolumeStore Sent}

theorem mem_databases_putVolumes {d : Database} : d ∈ (t.putVolumes s).databases.rows ↔
    ∃ old ∈ t.databases.rows, setNull s.volumes old = d := by
  simp [putVolumes, Table.updateWhere]

/-- A row behind the foreign key is a row from before it, with the same volume or none. -/
theorem mem_putVolumes {d : Database} (member : d ∈ (t.putVolumes s).databases.rows) {id : UUID}
    (references : d.volumeID = some id) :
    d ∈ t.databases.rows ∧ (s.volumes.find? id).isSome := by
  obtain ⟨old, there, same⟩ := mem_databases_putVolumes.mp member
  unfold setNull at same
  split at same
  · next present =>
    subst same
    rw [references] at present
    exact ⟨there, present⟩
  · subst same
    cases references

theorem mem_putVolumes_of_mem {d : Database} (member : d ∈ t.databases.rows) {id : UUID}
    (references : d.volumeID = some id) (present : (s.volumes.find? id).isSome) :
    d ∈ (t.putVolumes s).databases.rows := by
  refine mem_databases_putVolumes.mpr ⟨d, member, ?_⟩
  unfold setNull
  rw [references, Option.all_some, present, if_pos rfl]

theorem mem_born_putVolumes {id : UUID} :
    id ∈ (t.putVolumes s).born ↔
      id ∈ t.born ∨ ((s.volumes.find? id).isSome ∧ t.vols.volumes.find? id = none) := by
  unfold putVolumes
  rw [List.mem_append, List.mem_filter]
  refine or_congr_right ⟨?_, ?_⟩
  · rintro ⟨member, absent⟩
    obtain ⟨vol, there, rfl⟩ := List.mem_map.mp member
    refine ⟨?_, Option.isNone_iff_eq_none.mp absent⟩
    rw [Option.isSome_iff_exists]
    exact ⟨vol, Table.find?_self there⟩
  · rintro ⟨present, absent⟩
    obtain ⟨vol, found⟩ := Option.isSome_iff_exists.mp present
    refine ⟨List.mem_map.mpr ⟨vol, Table.mem_of_find? found, Table.key_of_find? found⟩, ?_⟩
    rw [absent]
    rfl

end BoundStore

end Nixway.Volumes.Databases
