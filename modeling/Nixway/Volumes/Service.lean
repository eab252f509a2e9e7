/-
# Volumes.Service -- the requests of the volume service

`internal/volume/service.go`: every SQL statement is one atomic step, and a statement that is
told to fail answers an error and changes nothing.  The way to the agents is a parameter: a
`Dispatch` is what `dispatch` does with a command for a server, a result or an error, on a store
that carries the state of the agents beside the rows.

`UpdateVolumeUsage` and the columns it and `updated_at` fill are left out; nothing reads them.
-/
import Nixway.Store.Schema
import Nixway.Theory.Prog
import Nixway.Theory.Table
import Nixway.Theory.Text

namespace Nixway.Volumes

open Nixway.Theory Nixway.Store
open Nixway.Theory.Prog (query exec atomic)

set_option autoImplicit false

/-! ## Rows -/

/-- `volumes.status`. -/
inductive VolumeStatus where
  | unattached | attached | attaching | detaching | moving | snapshotting | resizing | error
deriving DecidableEq

structure Volume where
  id : UUID
  teamID : UUID
  clusterID : UUID
  serverID : UUID
  name : String
  sizeGb : Int
  filesystem : String := "ext4"
  mountPath : Option String := none
  containerName : Option String := none
  status : VolumeStatus := .unattached
  hostPath : String
deriving DecidableEq

instance : Keyed Volume UUID := ⟨Volume.id⟩

/-- `cluster_members`, with the columns `Move` reads. -/
structure ClusterMember where
  serverID : UUID
  clusterID : UUID
  wireguardIp : String

instance : Keyed ClusterMember UUID := ⟨ClusterMember.serverID⟩

structure VolumeSnapshot where
  volumeID : UUID
  sizeBytes : Int
  storageType : String := "local"
  storagePath : String

/-- The rows, and the agents. -/
structure VolumeStore (α : Type) where
  volumes : Table Volume := .empty
  members : Table ClusterMember := .empty
  snapshots : List VolumeSnapshot := []
  agents : α

/-! ## Paths and commands -/

def hostPathRoot : String := "/var/lib/nixway/volumes"

def snapshotPathRoot : String := "/var/lib/nixway/snapshots"

def volumeHostPath (id : UUID) : String := Text.trimRight '/' hostPathRoot ++ "/" ++ id.text

def snapshotOutputPath (id : UUID) : String :=
  Text.trimRight '/' snapshotPathRoot ++ "/" ++ id.text ++ ".tar.gz"

inductive VolumeCommand where
  | create (volumeID : UUID) (hostPath : String) (sizeGb : Int)
  | delete (volumeID : UUID) (hostPath : String)
  | move (volumeID : UUID) (sourcePath targetWireguardIp targetPath : String)
  | snapshot (volumeID : UUID) (sourcePath : String) (snapshotID : UUID) (outputPath : String)
  | resize (volumeID : UUID) (hostPath : String) (newSizeGb : Int)
deriving DecidableEq

structure VolumeResult where
  success : Bool := true
  sizeBytes : Int := 0
  snapshotPath : String := ""
deriving DecidableEq

section Service

variable {α : Type}

/-- What `dispatch` does with a command for a server of a team; none is an error. -/
abbrev Dispatch (α : Type) :=
  UUID → UUID → VolumeCommand → Prog (VolumeStore α) (Option VolumeResult)

/-! ## Statements -/

namespace VolumeStore

variable (s : VolumeStore α)

def getVolume (id teamID : UUID) : Option Volume :=
  (s.volumes.find? id).filter fun vol => vol.teamID = teamID

/-- `CreateVolume`; the id and, in a team, the name are unique. -/
def createVolume (vol : Volume) : VolumeStore α × Option Volume :=
  if s.volumes.rows.any fun other => other.teamID = vol.teamID ∧ other.name = vol.name then
    (s, none)
  else
    match s.volumes.insert? vol with
    | none => (s, none)
    | some volumes => ({ s with volumes := volumes }, some vol)

/-- `UPDATE volumes SET ... WHERE id = $1 AND team_id = $2 RETURNING *`. -/
def updateVolume (id teamID : UUID) (f : Volume → Volume) (keeps : ∀ vol, (f vol).id = vol.id) :
    VolumeStore α × Option Volume :=
  let volumes := s.volumes.updateWhere (fun vol => vol.id = id ∧ vol.teamID = teamID) f keeps
  ({ s with volumes := volumes }, (s.getVolume id teamID).map f)

def updateVolumeStatus (id teamID : UUID) (status : VolumeStatus) :
    VolumeStore α × Option Volume :=
  s.updateVolume id teamID (fun vol => { vol with status := status }) fun _ => rfl

def updateVolumeAttachment (id teamID : UUID) (status : VolumeStatus)
    (mountPath containerName : Option String) : VolumeStore α × Option Volume :=
  s.updateVolume id teamID
    (fun vol =>
      { vol with mountPath := mountPath, containerName := containerName, status := status })
    fun _ => rfl

def updateVolumeSize (id teamID : UUID) (sizeGb : Int) : VolumeStore α × Option Volume :=
  s.updateVolume id teamID (fun vol => { vol with sizeGb := sizeGb }) fun _ => rfl

def updateVolumeServer (id teamID serverID : UUID) (status : VolumeStatus) :
    VolumeStore α × Option Volume :=
  s.updateVolume id teamID (fun vol => { vol with serverID := serverID, status := status })
    fun _ => rfl

/-- `UpdateVolumeHostPath`, which names no team and answers no row. -/
def updateVolumeHostPath (id : UUID) (hostPath : String) : VolumeStore α × Option Unit :=
  ({ s with volumes := s.volumes.update id fun vol => { vol with hostPath := hostPath } }, some ())

def deleteVolume (id teamID : UUID) : VolumeStore α × Option Unit :=
  ({ s with volumes := s.volumes.deleteWhere fun vol => vol.id = id ∧ vol.teamID = teamID },
    some ())

def createVolumeSnapshot (snapshot : VolumeSnapshot) : VolumeStore α × Option VolumeSnapshot :=
  ({ s with snapshots := s.snapshots ++ [snapshot] }, some snapshot)

variable {s}

theorem getVolume_eq_some_iff {id teamID : UUID} {vol : Volume} :
    s.getVolume id teamID = some vol ↔ s.volumes.find? id = some vol ∧ vol.teamID = teamID := by
  simp [getVolume, Option.filter_eq_some_iff]

theorem getVolume_self {id teamID : UUID} {vol : Volume}
    (found : s.getVolume id teamID = some vol) : s.getVolume vol.id teamID = some vol := by
  have key : vol.id = id := Table.key_of_find? (getVolume_eq_some_iff.mp found).1
  rw [key]
  exact found

theorem mem_updateVolume {id teamID : UUID} {f : Volume → Volume}
    {keeps : ∀ vol, (f vol).id = vol.id} {vol : Volume} :
    vol ∈ (s.updateVolume id teamID f keeps).1.volumes.rows ↔
      ∃ old ∈ s.volumes.rows, (if old.id = id ∧ old.teamID = teamID then f old else old) = vol := by
  simp [updateVolume, Table.updateWhere]

theorem find?_updateVolume {id teamID : UUID} {f : Volume → Volume}
    {keeps : ∀ vol, (f vol).id = vol.id} (other : UUID) :
    (s.updateVolume id teamID f keeps).1.volumes.find? other =
      (s.volumes.find? other).map fun vol =>
        if vol.id = id ∧ vol.teamID = teamID then f vol else vol := by
  dsimp only [updateVolume]
  rw [Table.find?_updateWhere]
  simp only [decide_eq_true_eq]

theorem mem_updateVolumeHostPath {id : UUID} {hostPath : String} {vol : Volume} :
    vol ∈ (s.updateVolumeHostPath id hostPath).1.volumes.rows ↔
      ∃ old ∈ s.volumes.rows,
        (if old.id = id then { old with hostPath := hostPath } else old) = vol := by
  simp [updateVolumeHostPath, Table.update, Table.updateWhere, Keyed.key]

end VolumeStore

inductive Statement where
  | getVolume | createVolume | updateVolumeHostPath | failStatus | reload | deleteVolume
  | updateVolumeAttachment | getMember | markStatus | restoreStatus | updateVolumeServer
  | createVolumeSnapshot | updateVolumeSize
deriving DecidableEq

/-- The statements of a request that fail. -/
abbrev Faults := Statement → Bool

/-- A statement, unless it fails. -/
def statement {β : Type} (fails : Bool) (g : VolumeStore α → VolumeStore α × Option β) :
    Prog (VolumeStore α) (Option β) :=
  atomic fun s => if fails then (s, none) else g s

def read {β : Type} (fails : Bool) (g : VolumeStore α → Option β) :
    Prog (VolumeStore α) (Option β) :=
  query fun s => if fails then none else g s

inductive VolumeError where
  | nameRequired | sizeNotPositive | createVolume | persistHostPath | reloadVolume | getVolume
  | deleteAttached | deleteVolume | attachStatus (status : VolumeStatus) | attachTargetRequired
  | updateAttachment | detachStatus (status : VolumeStatus) | moveStatus (status : VolumeStatus)
  | sameServer | targetNotInCluster | targetInOtherCluster | markMoving | moveFailed | updateServer
  | markSnapshotting | snapshotDispatch | snapshotFailed | recordSnapshot
  | sizeNotGreater (current : Int) | markResizing | resizeDispatch | resizeFailed | updateSize
deriving DecidableEq

/-! ## Requests -/

variable (faults : Faults) (dispatch : Dispatch α)

structure CreateRequest where
  teamID : UUID
  clusterID : UUID
  serverID : UUID
  name : String
  sizeGb : Int
  filesystem : String := ""

/-- The row `Create` inserts; the host path is a placeholder until the id is known. -/
def CreateRequest.row (req : CreateRequest) (id : UUID) : Volume :=
  { id := id, teamID := req.teamID, clusterID := req.clusterID, serverID := req.serverID,
    name := req.name, sizeGb := req.sizeGb,
    filesystem := if req.filesystem = "" then "ext4" else req.filesystem,
    status := .unattached, hostPath := "/" }

/-- `Create`; `id` is the one the database gives the row. -/
def create (id : UUID) (req : CreateRequest) :
    Prog (VolumeStore α) (Except VolumeError Volume) := do
  if req.name = "" then
    return .error .nameRequired
  if req.sizeGb ≤ 0 then
    return .error .sizeNotPositive
  let some created ← statement (faults .createVolume) fun s => s.createVolume (req.row id)
    | return .error .createVolume
  let hostPath := volumeHostPath created.id
  let some _ ← statement (faults .updateVolumeHostPath) fun s =>
      s.updateVolumeHostPath created.id hostPath
    | return .error .persistHostPath
  let answer ← dispatch req.teamID req.serverID (.create created.id hostPath req.sizeGb)
  if answer = none then
    let _ ← statement (faults .failStatus) fun s =>
      s.updateVolumeStatus created.id req.teamID .error
  let some final ← read (faults .reload) fun s => s.getVolume created.id req.teamID
    | return .error .reloadVolume
  return .ok final

/-- `Delete`; what the agent answers is only logged. -/
def delete (teamID id : UUID) : Prog (VolumeStore α) (Except VolumeError Unit) := do
  let some vol ← read (faults .getVolume) fun s => s.getVolume id teamID
    | return .error .getVolume
  if vol.status = .attached then
    return .error .deleteAttached
  let _ ← dispatch teamID vol.serverID (.delete vol.id vol.hostPath)
  let some _ ← statement (faults .deleteVolume) fun s => s.deleteVolume id teamID
    | return .error .deleteVolume
  return .ok ()

structure AttachRequest where
  teamID : UUID
  volumeID : UUID
  containerName : String
  mountPath : String

def attach (req : AttachRequest) : Prog (VolumeStore α) (Except VolumeError Volume) := do
  let some vol ← read (faults .getVolume) fun s => s.getVolume req.volumeID req.teamID
    | return .error .getVolume
  if vol.status ≠ .unattached then
    return .error (.attachStatus vol.status)
  if req.containerName = "" ∨ req.mountPath = "" then
    return .error .attachTargetRequired
  let some updated ← statement (faults .updateVolumeAttachment) fun s =>
      s.updateVolumeAttachment req.volumeID req.teamID .attached (some req.mountPath)
        (some req.containerName)
    | return .error .updateAttachment
  return .ok updated

def detach (teamID id : UUID) : Prog (VolumeStore α) (Except VolumeError Volume) := do
  let some vol ← read (faults .getVolume) fun s => s.getVolume id teamID
    | return .error .getVolume
  if vol.status ≠ .attached then
    return .error (.detachStatus vol.status)
  let some updated ← statement (faults .updateVolumeAttachment) fun s =>
      s.updateVolumeAttachment id teamID .unattached none none
    | return .error .updateAttachment
  return .ok updated

structure MoveRequest where
  teamID : UUID
  volumeID : UUID
  targetServerID : UUID

/-- `Move` behind the agent's answer. -/
def settleMove (req : MoveRequest) (vol : Volume) (answer : Option VolumeResult) :
    Prog (VolumeStore α) (Except VolumeError Volume) := do
  if answer.all fun res => !res.success then
    let _ ← statement (faults .failStatus) fun s => s.updateVolumeStatus vol.id req.teamID .error
    return .error .moveFailed
  let some updated ← statement (faults .updateVolumeServer) fun s =>
      s.updateVolumeServer vol.id req.teamID req.targetServerID vol.status
    | return .error .updateServer
  return .ok updated

def move (req : MoveRequest) : Prog (VolumeStore α) (Except VolumeError Volume) := do
  let some vol ← read (faults .getVolume) fun s => s.getVolume req.volumeID req.teamID
    | return .error .getVolume
  if vol.status ≠ .unattached ∧ vol.status ≠ .attached then
    return .error (.moveStatus vol.status)
  if req.targetServerID = vol.serverID then
    return .error .sameServer
  let some target ← read (faults .getMember) fun s => s.members.find? req.targetServerID
    | return .error .targetNotInCluster
  if target.clusterID ≠ vol.clusterID then
    return .error .targetInOtherCluster
  let some _ ← statement (faults .markStatus) fun s =>
      s.updateVolumeStatus vol.id req.teamID .moving
    | return .error .markMoving
  let answer ← dispatch req.teamID vol.serverID
    (.move vol.id vol.hostPath target.wireguardIp (volumeHostPath vol.id))
  settleMove faults req vol answer

/-- `Snapshot` behind the mark: what is answered before the deferred statement runs. -/
def takeSnapshot (teamID snapshotID : UUID) (vol : Volume) :
    Prog (VolumeStore α) (Except VolumeError VolumeSnapshot) := do
  let outputPath := snapshotOutputPath snapshotID
  let some res ← dispatch teamID vol.serverID
      (.snapshot vol.id vol.hostPath snapshotID outputPath)
    | return .error .snapshotDispatch
  if !res.success then
    return .error .snapshotFailed
  let storagePath := if res.snapshotPath ≠ "" then res.snapshotPath else outputPath
  let some snap ← statement (faults .createVolumeSnapshot) fun s =>
      s.createVolumeSnapshot
        { volumeID := vol.id, sizeBytes := res.sizeBytes, storagePath := storagePath }
    | return .error .recordSnapshot
  return .ok snap

/-- `Snapshot`; `snapshotID` is the new one. -/
def snapshot (teamID id snapshotID : UUID) :
    Prog (VolumeStore α) (Except VolumeError VolumeSnapshot) := do
  let some vol ← read (faults .getVolume) fun s => s.getVolume id teamID
    | return .error .getVolume
  let some _ ← statement (faults .markStatus) fun s =>
      s.updateVolumeStatus vol.id teamID .snapshotting
    | return .error .markSnapshotting
  let answer ← takeSnapshot faults dispatch teamID snapshotID vol
  let _ ← statement (faults .restoreStatus) fun s => s.updateVolumeStatus vol.id teamID vol.status
  return answer

/-- `Resize` behind the agent's answer. -/
def settleResize (teamID : UUID) (newSizeGb : Int) (vol : Volume) (answer : Option VolumeResult) :
    Prog (VolumeStore α) (Except VolumeError Volume) := do
  if answer.all fun res => !res.success then
    let _ ← statement (faults .restoreStatus) fun s => s.updateVolumeStatus vol.id teamID vol.status
    return .error (if answer = none then .resizeDispatch else .resizeFailed)
  let some updated ← statement (faults .updateVolumeSize) fun s =>
      s.updateVolumeSize vol.id teamID newSizeGb
    | return .error .updateSize
  let _ ← statement (faults .restoreStatus) fun s => s.updateVolumeStatus vol.id teamID vol.status
  return .ok updated

def resize (teamID id : UUID) (newSizeGb : Int) :
    Prog (VolumeStore α) (Except VolumeError Volume) := do
  let some vol ← read (faults .getVolume) fun s => s.getVolume id teamID
    | return .error .getVolume
  if newSizeGb ≤ vol.sizeGb then
    return .error (.sizeNotGreater vol.sizeGb)
  let some _ ← statement (faults .markStatus) fun s => s.updateVolumeStatus vol.id teamID .resizing
    | return .error .markResizing
  let answer ← dispatch teamID vol.serverID (.resize vol.id vol.hostPath newSizeGb)
  settleResize faults teamID newSizeGb vol answer

end Service

/-! ## What every effect of a request satisfies -/

section Effects

variable {α β : Type} {P : (VolumeStore α → VolumeStore α) → Prop}

theorem every_statement {g : VolumeStore α → VolumeStore α × Option β} (nothing : P fun s => s)
    (acts : P fun s => (g s).1) (fails : Bool) : (statement fails g).Every P := by
  cases fails with
  | true => exact (Prog.every_atomic _).mpr nothing
  | false => exact (Prog.every_atomic _).mpr acts

theorem every_read {g : VolumeStore α → Option β} (nothing : P fun s => s) (fails : Bool) :
    (read fails g).Every P := (Prog.every_query _).mpr nothing

/-- The effects of the statements, apart from the insertion of a row: a path that is written is
the volume's own, and no other statement touches a path. -/
structure Mild (P : (VolumeStore α → VolumeStore α) → Prop) : Prop where
  nothing : P fun s => s
  places : ∀ id, P fun s => (s.updateVolumeHostPath id (volumeHostPath id)).1
  updates : ∀ id teamID f keeps, (∀ vol : Volume, (f vol).hostPath = vol.hostPath) →
    P fun s => (s.updateVolume id teamID f keeps).1
  deletes : ∀ id teamID, P fun s => (s.deleteVolume id teamID).1
  records : ∀ snapshot, P fun s => (s.createVolumeSnapshot snapshot).1

section Updates

variable (mild : Mild P) (fails : Bool) (id teamID : UUID)
include mild

theorem Mild.status (status : VolumeStatus) :
    (statement fails fun s => s.updateVolumeStatus id teamID status).Every P :=
  every_statement mild.nothing
    (mild.updates id teamID (fun vol => { vol with status := status }) (fun _ => rfl) fun _ => rfl)
    fails

theorem Mild.attachment (status : VolumeStatus) (mountPath containerName : Option String) :
    (statement fails fun s =>
      s.updateVolumeAttachment id teamID status mountPath containerName).Every P :=
  every_statement mild.nothing
    (mild.updates id teamID
      (fun vol =>
        { vol with mountPath := mountPath, containerName := containerName, status := status })
      (fun _ => rfl) fun _ => rfl)
    fails

theorem Mild.size (sizeGb : Int) :
    (statement fails fun s => s.updateVolumeSize id teamID sizeGb).Every P :=
  every_statement mild.nothing
    (mild.updates id teamID (fun vol => { vol with sizeGb := sizeGb }) (fun _ => rfl) fun _ => rfl)
    fails

theorem Mild.server (serverID : UUID) (status : VolumeStatus) :
    (statement fails fun s => s.updateVolumeServer id teamID serverID status).Every P :=
  every_statement mild.nothing
    (mild.updates id teamID (fun vol => { vol with serverID := serverID, status := status })
      (fun _ => rfl) fun _ => rfl)
    fails

end Updates

variable {dispatch : Dispatch α} {faults : Faults}

theorem Mild.create_every (mild : Mild P)
    (inserts : ∀ vol : Volume, vol.hostPath = "/" → P fun s => (s.createVolume vol).1)
    (sends : ∀ teamID serverID volumeID hostPath sizeGb,
      (dispatch teamID serverID (.create volumeID hostPath sizeGb)).Every P)
    (id : UUID) (req : CreateRequest) : (create faults dispatch id req).Every P := by
  unfold create
  split
  · trivial
  split
  · trivial
  refine Prog.Every.bind (every_statement mild.nothing (inserts _ rfl) _) fun created => ?_
  cases created with
  | none => trivial
  | some created =>
    refine Prog.Every.bind (every_statement mild.nothing (mild.places _) _) fun placed => ?_
    cases placed with
    | none => trivial
    | some _ =>
      refine Prog.Every.bind (sends _ _ _ _ _) fun answer => ?_
      have reload : ∀ _ : Unit, ((do
          let some final ← read (faults .reload) fun s => s.getVolume created.id req.teamID
            | return .error .reloadVolume
          return .ok final) : Prog (VolumeStore α) (Except VolumeError Volume)).Every P := by
        refine fun _ => Prog.Every.bind (every_read mild.nothing _) fun final => ?_
        cases final <;> trivial
      split
      · exact Prog.Every.bind (mild.status _ _ _ _) fun _ => reload ()
      · exact reload ()

theorem Mild.delete_every (mild : Mild P)
    (sends : ∀ teamID serverID volumeID hostPath,
      (dispatch teamID serverID (.delete volumeID hostPath)).Every P)
    (teamID id : UUID) : (delete faults dispatch teamID id).Every P := by
  unfold delete
  refine Prog.Every.bind (every_read mild.nothing _) fun found => ?_
  cases found with
  | none => trivial
  | some vol =>
    dsimp only
    split
    · trivial
    refine Prog.Every.bind (sends _ _ _ _) fun _ => ?_
    refine Prog.Every.bind (every_statement mild.nothing (mild.deletes _ _) _) fun done => ?_
    cases done <;> trivial

theorem Mild.attach_every (mild : Mild P) (req : AttachRequest) :
    (attach faults req : Prog (VolumeStore α) _).Every P := by
  unfold attach
  refine Prog.Every.bind (every_read mild.nothing _) fun found => ?_
  cases found with
  | none => trivial
  | some vol =>
    dsimp only
    split
    · trivial
    split
    · trivial
    refine Prog.Every.bind (mild.attachment _ _ _ _ _ _) fun updated => ?_
    cases updated <;> trivial

theorem Mild.detach_every (mild : Mild P) (teamID id : UUID) :
    (detach faults teamID id : Prog (VolumeStore α) _).Every P := by
  unfold detach
  refine Prog.Every.bind (every_read mild.nothing _) fun found => ?_
  cases found with
  | none => trivial
  | some vol =>
    dsimp only
    split
    · trivial
    refine Prog.Every.bind (mild.attachment _ _ _ _ _ _) fun updated => ?_
    cases updated <;> trivial

theorem Mild.settleMove_every (mild : Mild P) (req : MoveRequest) (vol : Volume)
    (answer : Option VolumeResult) :
    (settleMove faults req vol answer : Prog (VolumeStore α) _).Every P := by
  unfold settleMove
  split
  · exact Prog.Every.bind (mild.status _ _ _ _) fun _ => trivial
  · refine Prog.Every.bind (mild.server _ _ _ _ _) fun updated => ?_
    cases updated <;> trivial

theorem Mild.move_every (mild : Mild P)
    (sends : ∀ teamID serverID volumeID source ip target,
      (dispatch teamID serverID (.move volumeID source ip target)).Every P)
    (req : MoveRequest) : (move faults dispatch req).Every P := by
  unfold move
  refine Prog.Every.bind (every_read mild.nothing _) fun found => ?_
  cases found with
  | none => trivial
  | some vol =>
    dsimp only
    split
    · trivial
    split
    · trivial
    refine Prog.Every.bind (every_read mild.nothing _) fun target => ?_
    cases target with
    | none => trivial
    | some target =>
      dsimp only
      split
      · trivial
      refine Prog.Every.bind (mild.status _ _ _ _) fun marked => ?_
      cases marked with
      | none => trivial
      | some _ =>
        exact Prog.Every.bind (sends _ _ _ _ _ _) fun answer => mild.settleMove_every _ _ _

theorem Mild.snapshot_every (mild : Mild P)
    (sends : ∀ teamID serverID volumeID source snapshotID output,
      (dispatch teamID serverID (.snapshot volumeID source snapshotID output)).Every P)
    (teamID id snapshotID : UUID) : (snapshot faults dispatch teamID id snapshotID).Every P := by
  unfold snapshot
  refine Prog.Every.bind (every_read mild.nothing _) fun found => ?_
  cases found with
  | none => trivial
  | some vol =>
    refine Prog.Every.bind (mild.status _ _ _ _) fun marked => ?_
    cases marked with
    | none => trivial
    | some _ =>
      refine Prog.Every.bind ?_ fun _ => Prog.Every.bind (mild.status _ _ _ _) fun _ => trivial
      unfold takeSnapshot
      refine Prog.Every.bind (sends _ _ _ _ _ _) fun answer => ?_
      cases answer with
      | none => trivial
      | some res =>
        dsimp only
        split
        · trivial
        refine Prog.Every.bind
          (every_statement mild.nothing (mild.records _) _) fun snap => ?_
        cases snap <;> trivial

theorem Mild.resize_every (mild : Mild P)
    (sends : ∀ teamID serverID volumeID hostPath size,
      (dispatch teamID serverID (.resize volumeID hostPath size)).Every P)
    (teamID id : UUID) (newSizeGb : Int) :
    (resize faults dispatch teamID id newSizeGb).Every P := by
  unfold resize
  refine Prog.Every.bind (every_read mild.nothing _) fun found => ?_
  cases found with
  | none => trivial
  | some vol =>
    dsimp only
    split
    · trivial
    refine Prog.Every.bind (mild.status _ _ _ _) fun marked => ?_
    cases marked with
    | none => trivial
    | some _ =>
      refine Prog.Every.bind (sends _ _ _ _ _) fun answer => ?_
      unfold settleResize
      split
      · exact Prog.Every.bind (mild.status _ _ _ _) fun _ => trivial
      · refine Prog.Every.bind (mild.size _ _ _ _) fun updated => ?_
        cases updated with
        | none => trivial
        | some _ => exact Prog.Every.bind (mild.status _ _ _ _) fun _ => trivial

end Effects

end Nixway.Volumes
