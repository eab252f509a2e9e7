/-
# Volumes.Rebinding -- a volume handed from one database to another

`RebindVolume` of `internal/database/service.go` with every statement failing on its own: the
requests `Detach` and `Attach` of the volume service read and write the same row, and here each of
them, and the read before them, has faults of its own.  `rebindVolume_eq` says that the model of
`Databases` is the case where these are the same.

There is no transaction around the statements.  `rebind_atomic_iff` names what that leaves: a
volume that is detached and not attached again, one that is attached to a container whose database
does not have it, and a volume with two databases.
-/
import Nixway.Volumes.Placement

namespace Nixway.Volumes.Rebinding

open Nixway.Theory Nixway.Store
open Nixway.Theory.Prog (query exec atomic ignore)
open Nixway.Volumes.Databases

set_option autoImplicit false

/-- The statements of a `RebindVolume` that fail. -/
structure RebindFaults where
  database : DatabaseStatement → Bool := fun _ => false
  get : Faults := fun _ => false
  detach : Faults := fun _ => false
  attach : Faults := fun _ => false

def RebindFaults.fate (f : RebindFaults) : Fate := { faults := f.database }

section Request

variable (f : RebindFaults)

def attachTo (newDB : Database) (volID : UUID) (mountPath : String) : AttachRequest :=
  { teamID := newDB.teamID, volumeID := volID, containerName := newDB.containerName
    mountPath := mountPath }

/-- `RebindVolume` behind the volume it has read. -/
def rebindFrom (oldDB newDB : Database) (volID : UUID) (mountPath : String) (vol : Volume) :
    Prog BoundStore (Except DatabaseError String) := do
  let detached ← (if vol.status = .attached then
      Except.isOk <$> onVolumes (Volumes.detach f.detach oldDB.teamID volID)
    else pure true : Prog BoundStore Bool)
  if !detached then
    return .error .detach
  let attached ← onVolumes (Volumes.attach f.attach (attachTo newDB volID mountPath))
  if !attached.isOk then
    return .error .attach
  repoint f.fate oldDB newDB volID

def rebind (oldDB newDB : Database) (volID : UUID) (mountPath : String) :
    Prog BoundStore (Except DatabaseError String) := do
  let some vol ← onVolumes (getVolume f.get oldDB.teamID volID)
    | return .error .getVolume
  rebindFrom f oldDB newDB volID mountPath vol

def rebindVolume (templates : Registry) (oldDBID newDBID : UUID) :
    Prog BoundStore (Except DatabaseError String) := do
  if oldDBID = newDBID then
    return .error .sameDatabase
  let some oldDB ← look (f.database .getDatabase) fun t => t.getDatabase oldDBID
    | return .error .getDatabase
  let some newDB ← look (f.database .getNewDatabase) fun t => t.getDatabase newDBID
    | return .error .getDatabase
  if oldDB.projectID ≠ newDB.projectID then
    return .error .otherProject
  if oldDB.clusterID ≠ newDB.clusterID then
    return .error .otherCluster
  if oldDB.templateSlug ≠ newDB.templateSlug then
    return .error .otherTemplate
  let some volID := oldDB.volumeID
    | return .error .nothingToRebind
  let some tmpl := templates newDB.templateSlug
    | return .error .templateNotFound
  if tmpl.mountPath = "" then
    return .error .noMountPath
  rebind f oldDB newDB volID tmpl.mountPath

end Request

theorem rebindVolume_eq (fate : Fate) (templates : Registry) (oldDBID newDBID : UUID) :
    Databases.rebindVolume fate templates oldDBID newDBID =
      rebindVolume ⟨fate.faults, fate.volumeFaults, fate.volumeFaults, fate.volumeFaults⟩ templates
        oldDBID newDBID := rfl

/-! ## The requests of the volume service -/

section Volumes

variable {s : VolumeStore Sent} {team id : UUID}

/-- The two statements of a request work. -/
structure Through (faults : Faults) : Prop where
  getVolume : faults .getVolume = false
  updateVolumeAttachment : faults .updateVolumeAttachment = false

theorem detach_cases (faults : Faults) {vol : Volume} (found : s.getVolume id team = some vol)
    (attached : vol.status = .attached) :
    (Through faults ∧ ∃ vol', (Volumes.detach faults team id).run s =
        ((s.updateVolumeAttachment id team .unattached none none).1, .ok vol')) ∨
      (¬ Through faults ∧ ∃ error, (Volumes.detach faults team id).run s = (s, .error error)) := by
  unfold Volumes.detach Volumes.read
  rw [Prog.run_query_bind]
  cases reads : faults .getVolume with
  | true =>
    refine .inr ⟨fun through => ?_, .getVolume, rfl⟩
    cases through.getVolume.symm.trans reads
  | false =>
    dsimp only
    rw [if_neg Bool.false_ne_true, found]
    dsimp only
    rw [if_neg (not_not_intro attached), statement, Prog.run_atomic_bind]
    cases writes : faults .updateVolumeAttachment with
    | true =>
      refine .inr ⟨fun through => ?_, .updateAttachment, rfl⟩
      cases through.updateVolumeAttachment.symm.trans writes
    | false =>
      refine .inl ⟨⟨reads, writes⟩, ?_⟩
      rw [if_neg Bool.false_ne_true]
      dsimp only [VolumeStore.updateVolumeAttachment, VolumeStore.updateVolume]
      rw [found]
      exact ⟨_, rfl⟩

/-- What `Attach` asks of the row. -/
def Free (s : VolumeStore Sent) (req : AttachRequest) : Prop :=
  (∃ vol, s.getVolume req.volumeID req.teamID = some vol ∧ vol.status = .unattached) ∧
    req.containerName ≠ "" ∧ req.mountPath ≠ ""

theorem attach_cases (faults : Faults) (s : VolumeStore Sent) (req : AttachRequest) :
    ((Through faults ∧ Free s req) ∧ ∃ vol', (Volumes.attach faults req).run s =
        ((s.updateVolumeAttachment req.volumeID req.teamID .attached (some req.mountPath)
          (some req.containerName)).1, .ok vol')) ∨
      (¬ (Through faults ∧ Free s req) ∧
        ∃ error, (Volumes.attach faults req).run s = (s, .error error)) := by
  unfold Volumes.attach Volumes.read
  rw [Prog.run_query_bind]
  cases reads : faults .getVolume with
  | true =>
    refine .inr ⟨fun ⟨through, _⟩ => ?_, .getVolume, rfl⟩
    cases through.getVolume.symm.trans reads
  | false =>
    dsimp only
    rw [if_neg Bool.false_ne_true]
    cases found : s.getVolume req.volumeID req.teamID with
    | none =>
      refine .inr ⟨fun ⟨_, ⟨vol, there, _⟩, _⟩ => ?_, .getVolume, rfl⟩
      cases found.symm.trans there
    | some vol =>
      dsimp only
      by_cases unattached : vol.status = .unattached
      · rw [if_neg (not_not_intro unattached)]
        by_cases blank : req.containerName = "" ∨ req.mountPath = ""
        · rw [if_pos blank]
          refine .inr ⟨fun ⟨_, _, container, mount⟩ => ?_, .attachTargetRequired, rfl⟩
          exact blank.elim container mount
        · rw [if_neg blank, statement, Prog.run_atomic_bind]
          obtain ⟨container, mount⟩ := not_or.mp blank
          cases writes : faults .updateVolumeAttachment with
          | true =>
            refine .inr ⟨fun ⟨through, _⟩ => ?_, .updateAttachment, rfl⟩
            cases through.updateVolumeAttachment.symm.trans writes
          | false =>
            refine .inl ⟨⟨⟨reads, writes⟩, ⟨vol, found, unattached⟩, container, mount⟩, ?_⟩
            rw [if_neg Bool.false_ne_true]
            dsimp only [VolumeStore.updateVolumeAttachment, VolumeStore.updateVolume]
            rw [found]
            exact ⟨_, rfl⟩
      · rw [if_pos unattached]
        refine .inr ⟨fun ⟨_, ⟨vol', there, status⟩, _⟩ => ?_, .attachStatus vol.status, rfl⟩
        cases found.symm.trans there
        exact unattached status

end Volumes

/-! ## Volumes of databases -/

/-- The foreign key: the volumes of the databases are there. -/
def Linked (t : BoundStore) : Prop :=
  ∀ d ∈ t.databases.rows, d.volumeID.all fun id => (t.vols.volumes.find? id).isSome

/-- An effect that neither inserts nor deletes. -/
def SameIDs (effect : VolumeStore Sent → VolumeStore Sent) : Prop :=
  ∀ s k, ((effect s).volumes.find? k).isSome = (s.volumes.find? k).isSome

theorem sameIDs_update (id team : UUID) (status : VolumeStatus) (mount container : Option String) :
    SameIDs fun s => (s.updateVolumeAttachment id team status mount container).1 := by
  intro s k
  dsimp only [VolumeStore.updateVolumeAttachment]
  rw [VolumeStore.find?_updateVolume, Option.isSome_map]

section Linked

variable {β : Type}

theorem Linked.putVolumes {t : BoundStore} (linked : Linked t) {s : VolumeStore Sent}
    (same : ∀ k, (s.volumes.find? k).isSome = (t.vols.volumes.find? k).isSome) :
    (t.putVolumes s).databases = t.databases ∧ Linked (t.putVolumes s) := by
  have rows : (t.putVolumes s).databases = t.databases := by
    unfold BoundStore.putVolumes
    apply Table.updateWhere_of_same
    · intro d
      unfold BoundStore.setNull
      split <;> rfl
    · intro d member
      unfold BoundStore.setNull
      rw [if_pos]
      have there := linked d member
      cases volume : d.volumeID with
      | none => rfl
      | some id =>
        rw [volume, Option.all_some] at there
        rw [Option.all_some, same, there]
  refine ⟨rows, fun d member => ?_⟩
  rw [rows] at member
  have there := linked d member
  show d.volumeID.all (fun id => (s.volumes.find? id).isSome) = true
  simp only [same]
  exact there

/-- A request that keeps the rows of the volumes leaves the databases alone. -/
theorem run_onVolumes_linked {p : Prog (VolumeStore Sent) β} (keeps : p.Every SameIDs)
    {t : BoundStore} (linked : Linked t) :
    ∃ u, (onVolumes p).run t = (u, (p.run t.vols).2) ∧ u.vols = (p.run t.vols).1 ∧
      u.databases = t.databases ∧ Linked u := by
  induction p generalizing t with
  | done a => exact ⟨t, rfl, rfl, rfl, linked⟩
  | step effect next ih =>
    obtain ⟨rows, still⟩ := linked.putVolumes (keeps.1 t.vols)
    obtain ⟨u, ran, vols, databases, after⟩ := ih t.vols (keeps.2 t.vols) still
    exact ⟨u, ran, vols, databases.trans rows, after⟩

theorem sameIDs_read {g : VolumeStore Sent → Option β} (fails : Bool) :
    (Volumes.read fails g).Every SameIDs := every_read (fun _ _ => rfl) fails

theorem sameIDs_statement {g : VolumeStore Sent → VolumeStore Sent × Option β}
    (acts : SameIDs fun s => (g s).1) (fails : Bool) : (statement fails g).Every SameIDs :=
  every_statement (fun _ _ => rfl) acts fails

theorem sameIDs_detach (faults : Faults) (team id : UUID) :
    (Volumes.detach faults team id : Prog (VolumeStore Sent) _).Every SameIDs := by
  unfold Volumes.detach
  refine Prog.Every.bind (sameIDs_read _) fun found => ?_
  cases found with
  | none => trivial
  | some vol =>
    dsimp only
    split
    · trivial
    refine Prog.Every.bind (sameIDs_statement (sameIDs_update _ _ _ _ _) _) fun updated => ?_
    cases updated <;> trivial

theorem sameIDs_attach (faults : Faults) (req : AttachRequest) :
    (Volumes.attach faults req : Prog (VolumeStore Sent) _).Every SameIDs := by
  unfold Volumes.attach
  refine Prog.Every.bind (sameIDs_read _) fun found => ?_
  cases found with
  | none => trivial
  | some vol =>
    dsimp only
    split
    · trivial
    split
    · trivial
    refine Prog.Every.bind (sameIDs_statement (sameIDs_update _ _ _ _ _) _) fun updated => ?_
    cases updated <;> trivial

end Linked

/-! ## Atomicity -/

section Atomic

variable (f : RebindFaults) (templates : Registry) (oldDBID newDBID : UUID)

/-- The two rows and the volume of the first one are as before. -/
structure AsBefore (s s' : BoundStore) : Prop where
  oldDB : s'.getDatabase oldDBID = s.getDatabase oldDBID
  newDB : s'.getDatabase newDBID = s.getDatabase newDBID
  volume : ∀ d ∈ s.getDatabase oldDBID, ∀ volID ∈ d.volumeID,
    s'.getVolumeAnyTeam volID = s.getVolumeAnyTeam volID

/-- The target alone has the volume, which is attached to its container. -/
structure Rebound (s s' : BoundStore) : Prop where
  owner : ∀ d ∈ s.getDatabase oldDBID, ∀ volID ∈ d.volumeID, ∀ d' ∈ s'.databases.rows,
    d'.volumeID = some volID ↔ d'.id = newDBID
  attachment : ∀ d ∈ s.getDatabase oldDBID, ∀ volID ∈ d.volumeID,
    ∃ newDB vol, s'.getDatabase newDBID = some newDB ∧ s'.getVolumeAnyTeam volID = some vol ∧
      vol.status = .attached ∧ vol.containerName = some newDB.containerName

/-- What is promised of a call. -/
structure Atomic (t : BoundStore) : Prop where
  failed : ∀ error, (rebindVolume f templates oldDBID newDBID).result t = .error error →
    AsBefore oldDBID newDBID t ((rebindVolume f templates oldDBID newDBID).out t)
  worked : ∀ warning, (rebindVolume f templates oldDBID newDBID).result t = .ok warning →
    Rebound oldDBID newDBID t ((rebindVolume f templates oldDBID newDBID).out t)

/-- What a call has read when it turns to the volume. -/
structure Read where
  oldDB : Database
  newDB : Database
  volID : UUID
  mountPath : String
  vol : Volume

/-- The checks pass, with these rows. -/
structure Admits (t : BoundStore) (r : Read) : Prop where
  distinct : oldDBID ≠ newDBID
  readsOld : f.database .getDatabase = false
  oldDB : t.getDatabase oldDBID = some r.oldDB
  readsNew : f.database .getNewDatabase = false
  newDB : t.getDatabase newDBID = some r.newDB
  project : r.oldDB.projectID = r.newDB.projectID
  cluster : r.oldDB.clusterID = r.newDB.clusterID
  template : r.oldDB.templateSlug = r.newDB.templateSlug
  volume : r.oldDB.volumeID = some r.volID
  mounts : (templates r.newDB.templateSlug).map Template.mountPath = some r.mountPath
  mountPath : r.mountPath ≠ ""
  readsVolume : f.get .getVolume = false
  vol : t.vols.getVolume r.volID r.oldDB.teamID = some r.vol

/-- The volume can be attached to the container of the new database. -/
structure CanAttach (r : Read) : Prop where
  through : Through f.attach
  team : r.newDB.teamID = r.oldDB.teamID
  container : r.newDB.containerName ≠ ""

/-- The volume comes to `Attach` unattached. -/
def ComesFree (r : Read) : Prop :=
  r.vol.status = .unattached ∨ (r.vol.status = .attached ∧ Through f.detach)

/-- Where the statements leave a state that is neither. -/
inductive Breaks (t : BoundStore) (r : Read) : Prop where
  /-- The volume is detached and not attached again. -/
  | detached (attached : r.vol.status = .attached) (detaches : Through f.detach)
      (refused : ¬ CanAttach f r)
  /-- The volume is attached to a container whose database does not have it. -/
  | unbound (free : ComesFree f r) (attaches : CanAttach f r)
      (fails : f.database .bindNew = true)
      (moved : ¬ (r.vol.status = .attached ∧ r.vol.mountPath = some r.mountPath ∧
        r.vol.containerName = some r.newDB.containerName))
  /-- The volume has another database beside the new one. -/
  | shared (free : ComesFree f r) (attaches : CanAttach f r)
      (binds : f.database .bindNew = false)
      (other : f.database .clearOld = true ∨ ∃ d ∈ t.databases.rows,
        d.id ≠ oldDBID ∧ d.id ≠ newDBID ∧ d.volumeID = some r.volID)

/-! ### The checks -/

variable {f templates oldDBID newDBID} in
theorem Admits.unique {t : BoundStore} {r r' : Read} (ok : Admits f templates oldDBID newDBID t r)
    (ok' : Admits f templates oldDBID newDBID t r') : r' = r := by
  obtain ⟨oldDB, newDB, volID, mountPath, vol⟩ := r
  obtain ⟨oldDB', newDB', volID', mountPath', vol'⟩ := r'
  cases ok.oldDB.symm.trans ok'.oldDB
  cases ok.newDB.symm.trans ok'.newDB
  cases ok.volume.symm.trans ok'.volume
  cases ok.mounts.symm.trans ok'.mounts
  cases ok.vol.symm.trans ok'.vol
  rfl

/-- A call is refused with nothing changed, or it turns to the volume. -/
theorem rebindVolume_cases {t : BoundStore} (linked : Linked t) :
    ((∀ r, ¬ Admits f templates oldDBID newDBID t r) ∧
        ∃ error u, (rebindVolume f templates oldDBID newDBID).run t = (u, .error error) ∧
          u.databases = t.databases ∧ u.vols = t.vols) ∨
      ∃ r u, Admits f templates oldDBID newDBID t r ∧
        (rebindVolume f templates oldDBID newDBID).run t =
          (rebindFrom f r.oldDB r.newDB r.volID r.mountPath r.vol).run u ∧
        u.databases = t.databases ∧ u.vols = t.vols ∧ Linked u := by
  unfold rebindVolume
  by_cases same : oldDBID = newDBID
  · rw [if_pos same]
    exact .inl ⟨fun r ok => ok.distinct same, _, t, rfl, rfl, rfl⟩
  rw [if_neg same, look, Prog.run_query_bind]
  cases readsOld : f.database .getDatabase with
  | true => exact .inl ⟨fun r ok => (nomatch readsOld.symm.trans ok.readsOld), _, t, rfl, rfl, rfl⟩
  | false =>
  rw [if_neg Bool.false_ne_true]
  cases foundOld : t.getDatabase oldDBID with
  | none => exact .inl ⟨fun r ok => (nomatch foundOld.symm.trans ok.oldDB), _, t, rfl, rfl, rfl⟩
  | some oldDB =>
  dsimp only
  rw [look, Prog.run_query_bind]
  cases readsNew : f.database .getNewDatabase with
  | true => exact .inl ⟨fun r ok => (nomatch readsNew.symm.trans ok.readsNew), _, t, rfl, rfl, rfl⟩
  | false =>
  rw [if_neg Bool.false_ne_true]
  cases foundNew : t.getDatabase newDBID with
  | none => exact .inl ⟨fun r ok => (nomatch foundNew.symm.trans ok.newDB), _, t, rfl, rfl, rfl⟩
  | some newDB =>
  dsimp only
  have here : ∀ r, Admits f templates oldDBID newDBID t r → r.oldDB = oldDB ∧ r.newDB = newDB :=
    fun r ok => ⟨Option.some.inj (ok.oldDB.symm.trans foundOld),
      Option.some.inj (ok.newDB.symm.trans foundNew)⟩
  by_cases project : oldDB.projectID = newDB.projectID
  swap
  · rw [if_pos project]
    refine .inl ⟨fun r ok => project ?_, _, t, rfl, rfl, rfl⟩
    rw [← (here r ok).1, ← (here r ok).2]
    exact ok.project
  by_cases cluster : oldDB.clusterID = newDB.clusterID
  swap
  · rw [if_neg (not_not_intro project), if_pos cluster]
    refine .inl ⟨fun r ok => cluster ?_, _, t, rfl, rfl, rfl⟩
    rw [← (here r ok).1, ← (here r ok).2]
    exact ok.cluster
  by_cases template : oldDB.templateSlug = newDB.templateSlug
  swap
  · rw [if_neg (not_not_intro project), if_neg (not_not_intro cluster), if_pos template]
    refine .inl ⟨fun r ok => template ?_, _, t, rfl, rfl, rfl⟩
    rw [← (here r ok).1, ← (here r ok).2]
    exact ok.template
  rw [if_neg (not_not_intro project), if_neg (not_not_intro cluster),
    if_neg (not_not_intro template)]
  cases volume : oldDB.volumeID with
  | none =>
    refine .inl ⟨fun r ok => ?_, _, t, rfl, rfl, rfl⟩
    have held := ok.volume
    rw [(here r ok).1, volume] at held
    cases held
  | some volID =>
  dsimp only
  cases tmpl : templates newDB.templateSlug with
  | none =>
    refine .inl ⟨fun r ok => ?_, _, t, rfl, rfl, rfl⟩
    have mounts := ok.mounts
    rw [(here r ok).2, tmpl] at mounts
    cases mounts
  | some tmpl' =>
  dsimp only
  by_cases mount : tmpl'.mountPath = ""
  · rw [if_pos mount]
    refine .inl ⟨fun r ok => ?_, _, t, rfl, rfl, rfl⟩
    have mounts := ok.mounts
    rw [(here r ok).2, tmpl, Option.map_some, Option.some.injEq, mount] at mounts
    exact ok.mountPath mounts.symm
  rw [if_neg mount, rebind, Prog.run_bind]
  obtain ⟨u, ran, vols, databases, still⟩ := run_onVolumes_linked
    (sameIDs_read (g := fun s => s.getVolume volID oldDB.teamID) (f.get .getVolume)) linked
  have query : (Volumes.read (f.get .getVolume) fun s : VolumeStore Sent =>
      s.getVolume volID oldDB.teamID).run t.vols =
        (t.vols, if f.get .getVolume then none else t.vols.getVolume volID oldDB.teamID) := rfl
  rw [query] at ran vols
  rw [getVolume, ran]
  dsimp only at vols ⊢
  cases readsVolume : f.get .getVolume with
  | true =>
    exact .inl ⟨fun r ok => (nomatch readsVolume.symm.trans ok.readsVolume), _, u, rfl, databases,
      vols⟩
  | false =>
  rw [if_neg Bool.false_ne_true]
  cases found : t.vols.getVolume volID oldDB.teamID with
  | none =>
    refine .inl ⟨fun r ok => ?_, _, u, rfl, databases, vols⟩
    have volume' := ok.volume
    have there := ok.vol
    rw [(here r ok).1, volume] at volume'
    rw [(here r ok).1, ← Option.some.inj volume', found] at there
    cases there
  | some vol =>
    refine .inr ⟨⟨oldDB, newDB, volID, tmpl'.mountPath, vol⟩, u, ?_, rfl, databases, vols, still⟩
    exact ⟨same, readsOld, foundOld, readsNew, foundNew, project, cluster, template, volume,
      by rw [tmpl]; rfl, mount, readsVolume, found⟩

/-! ### Behind the checks -/

/-- The row of the volume behind `Detach`, which is called for an attached one. -/
def released (vol : Volume) : Volume :=
  if vol.status = .attached then
    { vol with mountPath := none, containerName := none, status := .unattached }
  else vol

/-- The row behind `Attach`. -/
def attachedTo (vol : Volume) (mountPath containerName : String) : Volume :=
  { vol with mountPath := some mountPath, containerName := some containerName, status := .attached }

section Stages

variable {u : BoundStore} {r : Read}

/-- The row of the volume in a store with the databases of another one. -/
structure Holds (u w : BoundStore) (volID : UUID) (vol : Volume) : Prop where
  databases : w.databases = u.databases
  linked : Linked w
  vol : w.vols.volumes.find? volID = some vol

theorem find?_updateVolumeAttachment {s : VolumeStore Sent} {id team : UUID} {vol : Volume}
    (found : s.volumes.find? id = some vol) (mine : vol.teamID = team) (status : VolumeStatus)
    (mount container : Option String) :
    (s.updateVolumeAttachment id team status mount container).1.volumes.find? id =
      some { vol with mountPath := mount, containerName := container, status := status } := by
  have key : vol.id = id := Table.key_of_find? found
  dsimp only [VolumeStore.updateVolumeAttachment]
  rw [VolumeStore.find?_updateVolume, found, Option.map_some, if_pos ⟨key, mine⟩]

theorem detach_stage (linked : Linked u)
    (found : u.vols.getVolume r.volID r.oldDB.teamID = some r.vol) :
    ∃ w, (((if r.vol.status = .attached then
        Except.isOk <$> onVolumes (Volumes.detach f.detach r.oldDB.teamID r.volID)
      else pure true : Prog BoundStore Bool).run u = (w, true) ∧
        (r.vol.status = .attached → Through f.detach) ∧
        Holds u w r.volID (released r.vol)) ∨
      ((if r.vol.status = .attached then
        Except.isOk <$> onVolumes (Volumes.detach f.detach r.oldDB.teamID r.volID)
      else pure true : Prog BoundStore Bool).run u = (w, false) ∧
        r.vol.status = .attached ∧ ¬ Through f.detach ∧ Holds u w r.volID r.vol)) := by
  obtain ⟨there, mine⟩ := VolumeStore.getVolume_eq_some_iff.mp found
  unfold released
  by_cases attached : r.vol.status = .attached
  · rw [if_pos attached, if_pos attached]
    obtain ⟨w, ran, vols, databases, still⟩ := run_onVolumes_linked
      (sameIDs_detach f.detach r.oldDB.teamID r.volID) linked
    rw [Prog.run_map, ran]
    rcases detach_cases f.detach found attached with ⟨through, vol', worked⟩ |
      ⟨stuck, error, failed⟩
    · rw [worked] at vols ⊢
      refine ⟨w, .inl ⟨rfl, fun _ => through, databases, still, ?_⟩⟩
      rw [vols]
      exact find?_updateVolumeAttachment there mine _ _ _
    · rw [failed] at vols ⊢
      refine ⟨w, .inr ⟨rfl, attached, stuck, databases, still, ?_⟩⟩
      rw [vols]
      exact there
  · rw [if_neg attached, if_neg attached]
    exact ⟨u, .inl ⟨rfl, fun is => absurd is attached, rfl, linked, there⟩⟩

theorem attach_stage {w : BoundStore} {vol : Volume} (holds : Holds u w r.volID vol)
    (team : vol.teamID = r.oldDB.teamID) (mount : r.mountPath ≠ "") :
    ∃ x, ((CanAttach f r ∧ vol.status = .unattached) ∧ ∃ vol',
        (onVolumes (Volumes.attach f.attach (attachTo r.newDB r.volID r.mountPath))).run w =
          (x, .ok vol') ∧
        Holds u x r.volID (attachedTo vol r.mountPath r.newDB.containerName)) ∨
      (¬ (CanAttach f r ∧ vol.status = .unattached) ∧ ∃ error,
        (onVolumes (Volumes.attach f.attach (attachTo r.newDB r.volID r.mountPath))).run w =
          (x, .error error) ∧ Holds u x r.volID vol) := by
  obtain ⟨databases, linked, there⟩ := holds
  obtain ⟨x, ran, vols, same, still⟩ := run_onVolumes_linked
    (sameIDs_attach f.attach (attachTo r.newDB r.volID r.mountPath)) linked
  have free : Through f.attach ∧ Free w.vols (attachTo r.newDB r.volID r.mountPath) ↔
      CanAttach f r ∧ vol.status = .unattached := by
    constructor
    · rintro ⟨through, ⟨vol', found, unattached⟩, container, -⟩
      obtain ⟨there', mine⟩ := VolumeStore.getVolume_eq_some_iff.mp found
      cases Option.some.inj (there.symm.trans there')
      exact ⟨⟨through, mine.symm.trans team, container⟩, unattached⟩
    · rintro ⟨⟨through, teams, container⟩, unattached⟩
      exact ⟨through, ⟨vol, VolumeStore.getVolume_eq_some_iff.mpr
        ⟨there, team.trans teams.symm⟩, unattached⟩, container, mount⟩
  rw [ran]
  rcases attach_cases f.attach w.vols (attachTo r.newDB r.volID r.mountPath) with
    ⟨ok, vol', worked⟩ | ⟨stuck, error, failed⟩
  · rw [worked] at vols ⊢
    obtain ⟨can, unattached⟩ := free.mp ok
    refine ⟨x, .inl ⟨⟨can, unattached⟩, vol', rfl, same.trans databases, still, ?_⟩⟩
    rw [vols]
    exact find?_updateVolumeAttachment there (team.trans can.team.symm) _ _ _
  · rw [failed] at vols ⊢
    refine ⟨x, .inr ⟨fun can => stuck (free.mpr can), error, rfl, same.trans databases, still, ?_⟩⟩
    rw [vols]
    exact there

/-- The rows behind the two statements that repoint them; the second one may fail. -/
def repointed (databases : Table Database) (r : Read) : Table Database :=
  let bound := databases.update r.newDB.id fun d => { d with volumeID := some r.volID }
  if f.database .clearOld then bound
  else bound.update r.oldDB.id fun d => { d with volumeID := none }

theorem repoint_cases {x : BoundStore} {vol : Volume} (holds : Holds u x r.volID vol) :
    (f.database .bindNew = true ∧
        ∃ error, (repoint f.fate r.oldDB r.newDB r.volID).run x = (x, .error error)) ∨
      (f.database .bindNew = false ∧ ∃ warning,
        (repoint f.fate r.oldDB r.newDB r.volID).run x =
          ({ x with databases := repointed f x.databases r }, .ok warning)) := by
  have there : ¬ ((some r.volID).any fun id => (x.getVolumeAnyTeam id).isNone) = true := by
    rw [Option.any_some, BoundStore.getVolumeAnyTeam, holds.vol]
    exact Bool.false_ne_true
  unfold repoint act
  rw [Prog.run_atomic_bind]
  dsimp only
  cases binds : f.database .bindNew with
  | true =>
    have fails : f.fate.faults .bindNew = true := binds
    rw [if_pos fails]
    exact .inl ⟨rfl, .bindNew, rfl⟩
  | false =>
    have works : ¬ f.fate.faults .bindNew = true := Bool.eq_false_iff.mp binds
    refine .inr ⟨rfl, ?_⟩
    rw [if_neg works, BoundStore.updateDatabaseVolume, if_neg there]
    dsimp only
    rw [Prog.run_atomic_bind]
    unfold repointed
    cases clears : f.database .clearOld with
    | true =>
      have fails : f.fate.faults .clearOld = true := clears
      rw [if_pos fails]
      exact ⟨_, rfl⟩
    | false =>
      have works : ¬ f.fate.faults .clearOld = true := Bool.eq_false_iff.mp clears
      rw [if_neg works]
      exact ⟨_, rfl⟩

end Stages

/-! ### The rows in the end -/

theorem released_status (vol : Volume) : (released vol).status = .unattached ↔
    vol.status = .unattached ∨ vol.status = .attached := by
  unfold released
  split
  · next attached => exact iff_of_true rfl (.inr attached)
  · next other => exact (or_iff_left other).symm

theorem released_team (vol : Volume) : (released vol).teamID = vol.teamID := by
  unfold released
  split <;> rfl

theorem released_eq_iff (vol : Volume) : released vol = vol ↔ vol.status ≠ .attached := by
  unfold released
  split
  · next attached =>
    refine iff_of_false (fun same => ?_) (not_not_intro attached)
    have status := congrArg Volume.status same
    rw [attached] at status
    cases status
  · next other => exact iff_of_true rfl other

theorem attachedTo_eq_iff (vol : Volume) (mount container : String) : attachedTo (released vol) mount container = vol ↔
      vol.status = .attached ∧ vol.mountPath = some mount ∧
        vol.containerName = some container := by
  constructor
  · intro same
    refine ⟨?_, ?_, ?_⟩
    · exact (congrArg Volume.status same).symm
    · exact (congrArg Volume.mountPath same).symm
    · exact (congrArg Volume.containerName same).symm
  · rintro ⟨attached, mounted, held⟩
    unfold attachedTo released
    rw [if_pos attached, ← mounted, ← held, ← attached]

section Rows

variable {f templates oldDBID newDBID} {t : BoundStore} {r : Read}

theorem Admits.ids (ok : Admits f templates oldDBID newDBID t r) :
    r.oldDB.id = oldDBID ∧ r.newDB.id = newDBID :=
  ⟨Table.key_of_find? ok.oldDB, Table.key_of_find? ok.newDB⟩

/-- The target alone has the volume just if the other rows are cleared, or had another one. -/
theorem owner_iff (ok : Admits f templates oldDBID newDBID t r) :
    (∀ d' ∈ (repointed f t.databases r).rows, d'.volumeID = some r.volID ↔ d'.id = newDBID) ↔
      ¬ (f.database .clearOld = true ∨ ∃ d ∈ t.databases.rows,
        d.id ≠ oldDBID ∧ d.id ≠ newDBID ∧ d.volumeID = some r.volID) := by
  obtain ⟨oldID, newID⟩ := ok.ids
  have distinct := ok.distinct
  unfold repointed
  cases clears : f.database .clearOld with
  | true =>
    refine iff_of_false (fun owner => ?_) (not_not_intro (.inl rfl))
    have member : r.oldDB ∈ (t.databases.update r.newDB.id fun d =>
        { d with volumeID := some r.volID }).rows := by
      refine List.mem_map.mpr ⟨r.oldDB, Table.mem_of_find? ok.oldDB, ?_⟩
      have other : ¬ r.oldDB.id = r.newDB.id := by
        rw [oldID, newID]
        exact distinct
      exact if_neg (by simpa [Keyed.key] using other)
    exact distinct (oldID.symm.trans ((owner r.oldDB member).mp ok.volume))
  | false =>
    rw [if_neg Bool.false_ne_true]
    have rows : ∀ d', d' ∈ ((t.databases.update r.newDB.id fun d =>
        { d with volumeID := some r.volID }).update r.oldDB.id fun d =>
          { d with volumeID := none }).rows ↔ ∃ d ∈ t.databases.rows,
            (if d.id = newDBID then { d with volumeID := some r.volID }
            else if d.id = oldDBID then { d with volumeID := none } else d) = d' := by
      intro d'
      rw [← oldID, ← newID] at distinct ⊢
      constructor
      · intro member
        obtain ⟨d₁, inner, rfl⟩ := List.mem_map.mp member
        obtain ⟨d, there, rfl⟩ := List.mem_map.mp inner
        refine ⟨d, there, ?_⟩
        by_cases new : d.id = r.newDB.id
        · simp [Keyed.key, new, distinct.symm]
        · by_cases old : d.id = r.oldDB.id
          · simp [Keyed.key, old, distinct]
          · simp [Keyed.key, new, old]
      · rintro ⟨d, there, rfl⟩
        refine List.mem_map.mpr ⟨_, List.mem_map.mpr ⟨d, there, rfl⟩, ?_⟩
        by_cases new : d.id = r.newDB.id
        · simp [Keyed.key, new, distinct.symm]
        · by_cases old : d.id = r.oldDB.id
          · simp [Keyed.key, old, distinct]
          · simp [Keyed.key, new, old]
    constructor
    · rintro owner (never | ⟨d, there, notOld, notNew, holds⟩)
      · cases never
      · refine notNew ((owner d ((rows d).mpr ⟨d, there, ?_⟩)).mp holds)
        rw [if_neg notNew, if_neg notOld]
    · intro none d' member
      obtain ⟨d, there, rfl⟩ := (rows d').mp member
      split
      · next new => exact iff_of_true rfl new
      · next notNew =>
        split
        · exact iff_of_false nofun notNew
        · next notOld =>
          exact iff_of_false (fun holds => none (.inr ⟨d, there, notOld, notNew, holds⟩))
            notNew

theorem find?_repointed (ok : Admits f templates oldDBID newDBID t r) :
    ∃ d, (repointed f t.databases r).find? newDBID = some d ∧
      d.containerName = r.newDB.containerName := by
  obtain ⟨oldID, newID⟩ := ok.ids
  have found : t.databases.find? newDBID = some r.newDB := ok.newDB
  have bound : (t.databases.update r.newDB.id fun d =>
      { d with volumeID := some r.volID }).find? newDBID =
        some { r.newDB with volumeID := some r.volID } := by
    rw [newID, Table.find?_update_self, found, Option.map_some]
  unfold repointed
  dsimp only
  split
  · exact ⟨_, bound, rfl⟩
  · refine ⟨_, (Table.find?_update_ne ?_).trans bound, rfl⟩
    rw [oldID]
    exact ok.distinct.symm

end Rows

/-! ### The whole call -/

section Whole

variable {f templates oldDBID newDBID} {t w : BoundStore} {r : Read}

/-- The rows are as before just if the volume is. -/
theorem asBefore_iff (ok : Admits f templates oldDBID newDBID t r) {vol : Volume}
    (same : w.databases = t.databases) (there : w.vols.volumes.find? r.volID = some vol) :
    AsBefore oldDBID newDBID t w ↔ vol = r.vol := by
  have before : t.vols.volumes.find? r.volID = some r.vol :=
    (VolumeStore.getVolume_eq_some_iff.mp ok.vol).1
  constructor
  · intro asBefore
    have kept := asBefore.volume r.oldDB ok.oldDB r.volID ok.volume
    exact Option.some.inj (there.symm.trans (kept.trans before))
  · rintro rfl
    refine ⟨?_, ?_, fun d found volID holds => ?_⟩
    · rw [BoundStore.getDatabase, same]
      rfl
    · rw [BoundStore.getDatabase, same]
      rfl
    · cases Option.some.inj (ok.oldDB.symm.trans found)
      cases Option.some.inj (ok.volume.symm.trans holds)
      exact there.trans before.symm

/-- What an error leaves is judged by the volume alone. -/
theorem atomic_of_error {error : DatabaseError} (ok : Admits f templates oldDBID newDBID t r)
    (ran : (rebindVolume f templates oldDBID newDBID).run t = (w, .error error)) {vol : Volume}
    (same : w.databases = t.databases) (there : w.vols.volumes.find? r.volID = some vol) :
    Atomic f templates oldDBID newDBID t ↔ vol = r.vol := by
  rw [← asBefore_iff ok same there]
  constructor
  · intro atomic
    have failed := atomic.failed error (congrArg Prod.snd ran)
    rw [Prog.out, ran] at failed
    exact failed
  · intro asBefore
    refine ⟨fun _ _ => ?_, fun warning worked => ?_⟩
    · rw [Prog.out, ran]
      exact asBefore
    · rw [Prog.result, ran] at worked
      cases worked

/-- What a call that succeeds leaves is judged by the databases that have the volume. -/
theorem atomic_of_ok {warning : String} (ok : Admits f templates oldDBID newDBID t r)
    (ran : (rebindVolume f templates oldDBID newDBID).run t = (w, .ok warning))
    (rows : w.databases = repointed f t.databases r)
    (there : w.vols.volumes.find? r.volID =
      some (attachedTo (released r.vol) r.mountPath r.newDB.containerName)) :
    Atomic f templates oldDBID newDBID t ↔
      ¬ (f.database .clearOld = true ∨ ∃ d ∈ t.databases.rows,
        d.id ≠ oldDBID ∧ d.id ≠ newDBID ∧ d.volumeID = some r.volID) := by
  rw [← owner_iff ok, ← rows]
  constructor
  · intro atomic
    have worked := atomic.worked warning (congrArg Prod.snd ran)
    rw [Prog.out, ran] at worked
    exact worked.owner r.oldDB ok.oldDB r.volID ok.volume
  · intro owner
    refine ⟨fun error failed => ?_, fun _ _ => ?_⟩
    · rw [Prog.result, ran] at failed
      cases failed
    · rw [Prog.out, ran]
      obtain ⟨d, found, container⟩ := find?_repointed ok
      refine ⟨fun d₀ found₀ volID holds => ?_, fun d₀ found₀ volID holds => ?_⟩
      · cases Option.some.inj (ok.oldDB.symm.trans found₀)
        cases Option.some.inj (ok.volume.symm.trans holds)
        exact owner
      · cases Option.some.inj (ok.oldDB.symm.trans found₀)
        cases Option.some.inj (ok.volume.symm.trans holds)
        refine ⟨d, _, ?_, there, rfl, ?_⟩
        · rw [BoundStore.getDatabase, rows]
          exact found
        · exact congrArg some container.symm

/-- Behind its checks a call is atomic just if no statement leaves it halfway. -/
theorem atomic_admitted {u : BoundStore} (ok : Admits f templates oldDBID newDBID t r)
    (ran : (rebindVolume f templates oldDBID newDBID).run t =
      (rebindFrom f r.oldDB r.newDB r.volID r.mountPath r.vol).run u)
    (databases : u.databases = t.databases) (vols : u.vols = t.vols) (linked : Linked u) :
    Atomic f templates oldDBID newDBID t ↔ ¬ Breaks f oldDBID newDBID t r := by
  have found : u.vols.getVolume r.volID r.oldDB.teamID = some r.vol := by
    rw [vols]
    exact ok.vol
  have team : (released r.vol).teamID = r.oldDB.teamID :=
    (released_team r.vol).trans (VolumeStore.getVolume_eq_some_iff.mp ok.vol).2
  unfold rebindFrom at ran
  rw [Prog.run_bind] at ran
  obtain ⟨w, ⟨detached, through, holds⟩ | ⟨stuck, attached, never, holds⟩⟩ :=
    detach_stage f linked found
  · rw [detached] at ran
    replace ran : (rebindVolume f templates oldDBID newDBID).run t =
        (onVolumes (Volumes.attach f.attach (attachTo r.newDB r.volID r.mountPath)) >>=
          fun attached => if !attached.isOk then pure (.error .attach)
            else repoint f.fate r.oldDB r.newDB r.volID).run w := ran
    rw [Prog.run_bind] at ran
    have comes : (released r.vol).status = .unattached ↔ ComesFree f r := by
      rw [released_status]
      exact or_congr_right (iff_self_and.mpr through)
    obtain ⟨x, ⟨⟨can, free⟩, vol', attaches, holds⟩ | ⟨refused, error, failed, holds⟩⟩ :=
      attach_stage f holds team ok.mountPath
    · rw [attaches] at ran
      rcases repoint_cases f holds with ⟨fails, error, unbound⟩ | ⟨binds, warning, bound⟩
      · refine (atomic_of_error ok (ran.trans unbound) (holds.databases.trans databases)
          holds.vol).trans ?_
        rw [attachedTo_eq_iff]
        constructor
        · rintro same (⟨_, _, refused⟩ | ⟨_, _, _, moved⟩ | ⟨_, _, binds, _⟩)
          · exact refused can
          · exact moved same
          · cases fails.symm.trans binds
        · intro whole
          by_contra moved
          exact whole (.unbound (comes.mp free) can fails moved)
      · refine (atomic_of_ok ok (ran.trans bound)
          (congrArg (fun rows => repointed f rows r) (holds.databases.trans databases))
          holds.vol).trans (not_congr ?_)
        constructor
        · exact fun other => .shared (comes.mp free) can binds other
        · rintro (⟨_, _, refused⟩ | ⟨_, _, fails, _⟩ | ⟨_, _, _, other⟩)
          · exact absurd can refused
          · cases fails.symm.trans binds
          · exact other
    · rw [failed] at ran
      refine (atomic_of_error ok ran (holds.databases.trans databases) holds.vol).trans ?_
      rw [released_eq_iff]
      constructor
      · rintro other (⟨attached, _, _⟩ | ⟨free, can, _, _⟩ | ⟨free, can, _, _⟩)
        · exact other attached
        · exact refused ⟨can, comes.mpr free⟩
        · exact refused ⟨can, comes.mpr free⟩
      · intro whole attached
        refine whole (.detached attached (through attached) fun can => refused ⟨can, ?_⟩)
        exact comes.mpr (.inr ⟨attached, through attached⟩)
  · rw [stuck] at ran
    refine (atomic_of_error ok ran (holds.databases.trans databases) holds.vol).trans
      (iff_of_true rfl ?_)
    have bound : ¬ ComesFree f r := by
      rintro (unattached | ⟨-, through⟩)
      · cases attached.symm.trans unattached
      · exact never through
    rintro (⟨_, through, _⟩ | ⟨free, _, _, _⟩ | ⟨free, _, _, _⟩)
    · exact never through
    · exact bound free
    · exact bound free

end Whole

/-- **`RebindVolume` is atomic** unless a statement stops it between the rows, or the volume has
another database. -/
theorem rebind_atomic_iff {t : BoundStore} (linked : Linked t) :
    Atomic f templates oldDBID newDBID t ↔
      ¬ ∃ r, Admits f templates oldDBID newDBID t r ∧ Breaks f oldDBID newDBID t r := by
  rcases rebindVolume_cases f templates oldDBID newDBID linked with
    ⟨never, error, u, ran, databases, vols⟩ | ⟨r, u, ok, ran, databases, vols, still⟩
  · refine iff_of_true ⟨fun _ _ => ?_, fun warning worked => ?_⟩ fun ⟨r, ok, _⟩ => never r ok
    · rw [Prog.out, ran]
      refine ⟨?_, ?_, fun d _ volID _ => ?_⟩
      · rw [BoundStore.getDatabase, databases]
        rfl
      · rw [BoundStore.getDatabase, databases]
        rfl
      · rw [BoundStore.getVolumeAnyTeam, vols]
        rfl
    · rw [Prog.result, ran] at worked
      cases worked
  · refine (atomic_admitted ok ran databases vols still).trans (not_congr ?_)
    constructor
    · exact fun breaks => ⟨r, ok, breaks⟩
    · rintro ⟨r', ok', breaks⟩
      cases ok.unique ok'
      exact breaks

end Atomic

/-! ### Orders and their successor -/

def ordersVolume : Volume :=
  { id := 7, teamID := 1, clusterID := 5, serverID := 21, name := "db-orders", sizeGb := 10
    hostPath := volumeHostPath 7 }

def row (id : UUID) (name : String) (volumeID : Option UUID) : Database :=
  { id := id, teamID := 1, projectID := 3, clusterID := 5, serverID := 21, volumeID := volumeID
    templateSlug := "postgres", version := "16", name := name
    containerName := "nw-db-shop-" ++ name, status := .stopped }

def twoDatabases : BoundStore :=
  { twoServerCluster with
    vols := { twoServerCluster.vols with volumes := ⟨[ordersVolume], by decide⟩ }
    databases := ⟨[row 11 "orders" (some 7), row 12 "orders-next" none], by decide⟩ }

theorem linked_twoDatabases : Linked twoDatabases := by
  intro d member
  rcases List.mem_cons.mp member with rfl | member
  · decide
  · rw [List.mem_singleton.mp member]
    rfl

/-- Nothing fails: the volume changes hands. -/
theorem rebound_whole :
    ((rebindVolume {} catalog 11 12).out twoDatabases).databases.rows.map Database.volumeID =
        [none, some 7] ∧
      Atomic {} catalog 11 12 twoDatabases := by
  refine ⟨by decide, (rebind_atomic_iff {} catalog 11 12 linked_twoDatabases).mpr ?_⟩
  rintro ⟨⟨oldDB, newDB, volID, mountPath, vol⟩, ok, breaks⟩
  have old : twoDatabases.getDatabase 11 = some (row 11 "orders" (some 7)) := by decide
  have new : twoDatabases.getDatabase 12 = some (row 12 "orders-next" none) := by decide
  cases Option.some.inj (old.symm.trans ok.oldDB)
  cases Option.some.inj (new.symm.trans ok.newDB)
  rcases breaks with ⟨_, _, refused⟩ | ⟨_, _, fails, _⟩ | ⟨_, _, _, fails | ⟨d, member, other⟩⟩
  · have named : (row 12 "orders-next" none).containerName ≠ "" := by decide
    exact refused ⟨⟨rfl, rfl⟩, rfl, named⟩
  · cases fails
  · cases fails
  · rcases List.mem_cons.mp member with rfl | member
    · exact other.1 rfl
    · rw [List.mem_singleton.mp member] at other
      exact other.2.1 rfl

/-- The new row cannot be written: the volume is attached to a container whose database does not
have it.  The old row cannot be cleared: the call succeeds, and two databases have the volume. -/
theorem volume_between_rows :
    (∃ f : RebindFaults, (rebindVolume f catalog 11 12).result twoDatabases = .error .bindNew ∧
      ((rebindVolume f catalog 11 12).out twoDatabases).databases.rows.map Database.volumeID =
        [some 7, none] ∧
      (((rebindVolume f catalog 11 12).out twoDatabases).getVolumeAnyTeam 7).map
        (fun vol => (vol.status, vol.containerName)) =
          some (.attached, some "nw-db-shop-orders-next") ∧
      ¬ Atomic f catalog 11 12 twoDatabases) ∧
    ∃ f : RebindFaults, (rebindVolume f catalog 11 12).result twoDatabases = .ok "" ∧
      ((rebindVolume f catalog 11 12).out twoDatabases).databases.rows.map Database.volumeID =
        [some 7, some 7] ∧
      ¬ Atomic f catalog 11 12 twoDatabases := by
  refine ⟨⟨{ database := fun statement => statement = .bindNew }, by decide,
    by decide, by decide, fun atomic => ?_⟩,
    { database := fun statement => statement = .clearOld }, by decide,
    by decide, fun atomic => ?_⟩
  · have same := (atomic.failed .bindNew (by decide)).volume (row 11 "orders" (some 7))
      (by decide) 7 rfl
    revert same
    decide
  · have owner := (atomic.worked "" (by decide)).owner (row 11 "orders" (some 7))
      (by decide) 7 rfl (row 11 "orders" (some 7)) (by decide)
    exact absurd (owner.mp rfl) (by decide)

end Nixway.Volumes.Rebinding
