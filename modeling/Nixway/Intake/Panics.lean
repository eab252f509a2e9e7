/-
# Intake.Panics -- what an agent's message can bring down

A goroutine that panics stops the server.  `Task` lists what handling a message starts: the
callbacks of the mesh manager, the deploy of a finished build, the promotion of a complete
deployment and the sweep after a backup; and what these start in turn.  Each is written with
the operations that could panic.  All of them are guarded but one: `OnKeyGenResult` prints
the first eight bytes of the key it is given and does not ask how many there are.  And the
goroutines of one deploy assign to one map with no lock.

`survives_iff` is the condition: the messages that bring the server down are a successful key
result for a known member whose key has fewer than eight bytes, and the end of a build that is
followed by a deploy.
-/
import Nixway.Deploy.Checked
import Nixway.Database.Backups
import Nixway.Intake.Handlers

namespace Nixway.Intake

open Nixway.Theory Nixway.Store
open Nixway.Theory.Panic (deref sliceTo both readOr)
open Nixway.Theory.Prog (query exec atomic)
open Nixway.Theory.Risky (ofProg op Safe)
open Nixway.Deploy (DeployOutput Draw)
open Nixway.Database (Vault Backup BackupResult Upkeep Weather DatabaseRow)

set_option autoImplicit false

/-! ## The mesh manager -/

/-- A row of `GetClusterMembersForMesh`. -/
structure MeshRow where
  id : UUID
  serverName : String
  agentID : Option String
  wireguardIp : String
  publicKey : String
  endpoint : String
  listenPort : Int

structure MemberInfo where
  memberID : UUID
  serverName : String
  agentID : String
  wireguardIp : String
  publicKey : String
  endpoint : String
  listenPort : Int

/-- A row of `ListDatabasesByCluster` that is not deleted, with its server's mesh address. -/
structure NamedDatabase where
  dnsRecord : Option String
  ip : Option String

inductive MeshCommand where
  | keyGen (memberID : UUID) (listenPort : Int)
  | apply (self : MemberInfo) (peers : List MemberInfo)
  | updateHosts (clusterSlug : String) (hosts : List (String × String))

/-- What `RegenerateMesh` reads beside the store's tables, and the agents' streams; `none` is
a statement that fails. -/
structure Mesh where
  members : Store → UUID → Option (List MeshRow)
  clusterSlug : Store → UUID → Option String
  databases : Store → UUID → Option (List NamedDatabase)
  upsertPeer : UUID → UUID → Store → Store
  send : String → MeshCommand → Store → Store

def memberInfo (row : MeshRow) : Except Panic MemberInfo := do
  let agentID ← readOr row.agentID id ""
  return {
    memberID := row.id
    serverName := row.serverName
    agentID := agentID
    wireguardIp := row.wireguardIp
    publicKey := row.publicKey
    endpoint := row.endpoint
    listenPort := row.listenPort }

/-- The entry of `HostsForCluster`, if there is one. -/
def hostRecord (d : NamedDatabase) : Except Panic (Option (String × String)) := do
  let named ← both d.dnsRecord.isSome do
    let name ← deref d.dnsRecord
    return name ≠ ""
  if named then
    let name ← deref d.dnsRecord
    return (d.ip.filter fun ip => ip ≠ "").map fun ip => (name, ip)
  else
    return none

section Mesh

variable (mesh : Mesh)

def ensurePeerRecords (rows : List MeshRow) : Prog Store Unit :=
  Prog.forEach rows fun a => Prog.forEach rows fun b =>
    if a.id = b.id then return else exec (mesh.upsertPeer a.id b.id)

/-- The command to one member; `GenerateConfig` leaves out the members at its own address. -/
def pushTo (infos : List MemberInfo) (self : MemberInfo) : Prog Store Unit := do
  if self.agentID = "" then
    return
  if self.publicKey = "" then
    exec (mesh.send self.agentID (.keyGen self.memberID self.listenPort))
  else if infos.all fun info => info.publicKey ≠ "" then
    exec (mesh.send self.agentID
      (.apply self (infos.filter fun peer => peer.wireguardIp ≠ self.wireguardIp)))

def updateDNSForCluster (clusterID : UUID) (slug : String) (infos : List MemberInfo) :
    Risky Store Unit := do
  let databases ← ofProg (query fun st => mesh.databases st clusterID)
  let extra ← op ((databases.getD []).mapM hostRecord)
  let hosts := infos.map (fun info => (info.serverName ++ "." ++ slug ++ ".internal",
    info.wireguardIp)) ++ extra.flatMap Option.toList
  ofProg (Prog.forEach infos fun info =>
    if info.agentID = "" then return
    else exec (mesh.send info.agentID (.updateHosts slug hosts)))

def regenerateMesh (clusterID : UUID) : Risky Store Unit := do
  let some rows ← ofProg (query fun st => mesh.members st clusterID) | return
  if rows = [] then
    return
  let infos ← op (rows.mapM memberInfo)
  ofProg (ensurePeerRecords mesh rows)
  ofProg (Prog.forEach infos (pushTo mesh infos))
  if infos.all fun info => info.publicKey ≠ "" then
    let some slug ← ofProg (query fun st => mesh.clusterSlug st clusterID) | return
    updateDNSForCluster mesh clusterID slug infos

/-- The first eight bytes of the key go into the log line. -/
def onKeyGenResult (clusterID : UUID) (publicKey : String) : Risky Store Unit := do
  let _ ← op (sliceTo publicKey 8)
  regenerateMesh mesh clusterID

/-- The results of an apply and of a teardown are only logged. -/
def MeshCallback.run : MeshCallback → Risky Store Unit
  | .onKeyGenResult clusterID _ publicKey => Intake.onKeyGenResult mesh clusterID publicKey
  | .onApplyResult _ _ _ _ => return
  | .onTeardownResult _ _ _ => return

end Mesh

theorem memberInfo_ok (row : MeshRow) : ∃ info, memberInfo row = .ok info := by
  unfold memberInfo
  rw [Panic.readOr_eq]
  exact ⟨_, rfl⟩

theorem hostRecord_ok (d : NamedDatabase) : ∃ entry, hostRecord d = .ok entry := by
  unfold hostRecord
  cases d.dnsRecord with
  | none => exact ⟨_, rfl⟩
  | some name =>
    by_cases blank : name = ""
    · exact ⟨none, by simp [blank]; rfl⟩
    · exact ⟨_, by simp [blank]; rfl⟩

theorem updateDNSForCluster_safe (mesh : Mesh) (clusterID : UUID) (slug : String)
    (infos : List MemberInfo) : Safe (updateDNSForCluster mesh clusterID slug infos) := by
  choose entry found using hostRecord_ok
  exact Safe.bind (Safe.ofProg _) fun databases =>
    Safe.op (Panic.mapM_ok fun d _ => found d) (Safe.ofProg _)

theorem regenerateMesh_safe (mesh : Mesh) (clusterID : UUID) :
    Safe (regenerateMesh mesh clusterID) := by
  choose info found using memberInfo_ok
  refine Safe.bind (Safe.ofProg _) fun rows => ?_
  cases rows with
  | none => exact Safe.done _
  | some rows =>
  by_cases empty : rows = []
  · simp only [if_pos empty]
    exact Safe.done _
  · simp only [if_neg empty]
    refine Safe.op (Panic.mapM_ok fun row _ => found row) (Safe.bind (Safe.ofProg _) fun _ =>
      Safe.bind (Safe.ofProg _) fun _ => ?_)
    by_cases keyed : ((rows.map info).all fun info => info.publicKey ≠ "") = true
    · simp only [if_pos keyed]
      refine Safe.bind (Safe.ofProg _) fun slug => ?_
      cases slug with
      | none => exact Safe.done _
      | some slug => exact updateDNSForCluster_safe mesh clusterID slug _
    · simp only [if_neg keyed]
      exact Safe.done _

/-- The callback panics on a key of fewer than eight bytes, and only then. -/
theorem onKeyGenResult_panics_iff (mesh : Mesh) (clusterID : UUID) (publicKey : String) :
    (onKeyGenResult mesh clusterID publicKey).Panics ↔ publicKey.utf8ByteSize < 8 := by
  unfold onKeyGenResult
  by_cases short : publicKey.utf8ByteSize < 8
  · rw [Panic.sliceTo_of_lt short, Risky.op_error_bind]
    exact iff_of_true (Risky.panics_op_error _) short
  · refine iff_of_false (Safe.not_panics ?_) short
    exact Safe.op (Panic.sliceTo_of_le (not_lt.mp short)) (regenerateMesh_safe mesh clusterID)

theorem MeshCallback.panics_iff (mesh : Mesh) (callback : MeshCallback) :
    (callback.run mesh).Panics ↔
      ∃ clusterID memberID key, callback = .onKeyGenResult clusterID memberID key ∧
        key.utf8ByteSize < 8 := by
  cases callback with
  | onKeyGenResult clusterID memberID key =>
    refine (onKeyGenResult_panics_iff mesh clusterID key).trans ⟨fun short => ?_, ?_⟩
    · exact ⟨clusterID, memberID, key, rfl, short⟩
    · rintro ⟨_, _, _, same, short⟩
      cases same
      exact short
  | onApplyResult clusterID memberID success error =>
    refine iff_of_false (Safe.done _).not_panics ?_
    rintro ⟨_, _, _, same, -⟩
    cases same
  | onTeardownResult clusterID memberID success =>
    refine iff_of_false (Safe.done _).not_panics ?_
    rintro ⟨_, _, _, same, -⟩
    cases same

/-! ## The sweep after a backup -/

/-- `backup_retention_days`, if it is set and positive. -/
def retentionDays (d : DatabaseRow) : Except Panic Int32 := do
  let asked ← both d.backupRetentionDays.isSome do
    let days ← deref d.backupRetentionDays
    return 0 < days
  if asked then
    deref d.backupRetentionDays
  else
    return 7

def objectKey (b : Backup) : Except Panic (Option String) := do
  let stored ← both b.storagePath.isSome do
    let path ← deref b.storagePath
    return path ≠ ""
  if stored then (deref b.storagePath).map some else return none

def runRetentionForDatabase (databaseID : UUID) (weather : Weather) : Risky Vault Unit := do
  match ← ofProg (weather.stmt .getDatabase fun s => (s, s.databases.find? databaseID)) with
  | none => return
  | some d =>
    let _ ← op (retentionDays d)
    let cutoff ← ofProg (query fun s => Database.retentionCutoff d s.now)
    match ← ofProg (weather.stmt .listOld fun s => (s, some (s.backups.rows.filter fun b =>
        b.databaseID = databaseID && decide ((b.startedAt : Int) < cutoff)))) with
    | none => return
    | some old =>
      let _ ← op (old.mapM objectKey)
      let _ ← ofProg (weather.exec .deleteOld fun s =>
        s.deleteBackupsOlderThan databaseID cutoff)

theorem retentionDays_ok (d : DatabaseRow) : retentionDays d = .ok (Database.retentionDays d) := by
  unfold retentionDays Database.retentionDays
  cases d.backupRetentionDays with
  | none => rfl
  | some days =>
    by_cases positive : 0 < days
    · simp [positive]
      rfl
    · simp [positive]
      rfl

theorem objectKey_ok (b : Backup) : ∃ key, objectKey b = .ok key := by
  unfold objectKey
  cases b.storagePath with
  | none => exact ⟨_, rfl⟩
  | some path =>
    by_cases blank : path = ""
    · exact ⟨none, by simp [blank]; rfl⟩
    · exact ⟨some path, by simp [blank]; rfl⟩

theorem runRetentionForDatabase_safe (databaseID : UUID) (weather : Weather) :
    Safe (runRetentionForDatabase databaseID weather) := by
  choose key found using objectKey_ok
  refine Safe.bind (Safe.ofProg _) fun d => ?_
  cases d with
  | none => exact Safe.done _
  | some d =>
    refine Safe.op (retentionDays_ok d) (Safe.bind (Safe.ofProg _) fun cutoff =>
      Safe.bind (Safe.ofProg _) fun old => ?_)
    cases old with
    | none => exact Safe.done _
    | some old =>
      exact Safe.op (Panic.mapM_ok fun b _ => found b) (Safe.bind (Safe.ofProg _) fun _ =>
        Safe.done _)

/-! ## Tasks -/

/-- A goroutine started by the handling of a message, or by another one. -/
inductive Task where
  | callback (callback : MeshCallback)
  | triggerDeploy (appID environmentID buildID : UUID)
  | goroutine (g : Goroutine)
  | retention (databaseID : UUID)

/-- What the tasks read beside the rows, and the ids they draw. -/
structure Surroundings where
  mesh : Mesh
  listing : Deploy.Checked.Listing
  draw : Draw
  goroutines : Deploy.Checked.GoroutineDraw
  weather : Weather := {}

/-- Some effect of the program starts the goroutine. -/
def Starts {α : Type} (p : Prog World α) (g : Goroutine) : Prop :=
  ¬ p.Every fun effect => ∀ w, g ∈ (effect w).started → g ∈ w.started

namespace Task

variable (env : Surroundings)

/-- The task can panic. -/
def Panics : Task → Prop
  | .callback call => (call.run env.mesh).Panics
  | .triggerDeploy appID environmentID buildID =>
    (Deploy.Checked.triggerDeploy env.listing env.draw appID environmentID buildID).Panics
  | .goroutine g => (Deploy.Checked.goroutine env.goroutines g).Panics
  | .retention databaseID => (runRetentionForDatabase databaseID env.weather).Panics

/-- The task can start the goroutine. -/
def Spawns : Task → Goroutine → Prop
  | .triggerDeploy appID environmentID buildID =>
    Starts (Deploy.Checked.triggerDeploy env.listing env.draw appID environmentID buildID).run
  | .goroutine g => Starts (Deploy.Checked.goroutine env.goroutines g).run
  | _ => fun _ => False

/-- The task can start goroutines that assign to one map.  The environment map of a deploy is the
only one that goroutines share. -/
def Clashes : Task → Prop
  | .triggerDeploy appID environmentID buildID =>
    Deploy.Checked.Clashes env.listing env.draw env.goroutines appID environmentID buildID
  | _ => False

variable {env}

theorem panics_iff (task : Task) :
    task.Panics env ↔ ∃ clusterID memberID key,
      task = .callback (.onKeyGenResult clusterID memberID key) ∧ key.utf8ByteSize < 8 := by
  cases task with
  | callback call =>
    refine (MeshCallback.panics_iff env.mesh call).trans ?_
    simp only [Task.callback.injEq]
  | triggerDeploy appID environmentID buildID =>
    refine iff_of_false
      (Deploy.Checked.triggerDeploy_guarded env.listing env.draw _ _ _).not_panics ?_
    simp
  | goroutine g =>
    refine iff_of_false (Deploy.Checked.goroutine_guarded env.goroutines g).not_panics ?_
    simp
  | retention databaseID =>
    refine iff_of_false (runRetentionForDatabase_safe databaseID env.weather).not_panics ?_
    simp

end Task

/-! ## Messages -/

/-- A message with the result of a backup beside those of `receive`; the results that go to a
waiting request are `other` messages. -/
inductive Incoming where
  | message (m : Message)
  | backupResult (result : BackupResult)

/-- The stream, the rows and the rows of the backups. -/
structure Site where
  agentID : String
  store : Store
  vault : Vault

/-- The goroutines one message starts: what `receive` records as started. -/
def startedBy (parse : String → Option UUID) (site : Site) : Incoming → List Task
  | .message m =>
    let after := (receive parse (site.agentID, site.store) m).2
    (after.callbacks.drop site.store.callbacks.length).map .callback ++
    (after.deploys.drop site.store.deploys.length).flatMap (fun id =>
      ((after.builds.find? id).map fun b =>
        Task.triggerDeploy b.appID b.environmentID id).toList) ++
    (after.world.started.drop site.store.world.started.length).map .goroutine
  | .backupResult result =>
    if result.success ∧ ¬ result.weather.fails .complete ∧ ¬ result.weather.fails .reread then
      (((result.run.out site.vault).getBackup result.backupID).map fun b =>
        Task.retention b.databaseID).toList
    else []

/-- What runs because of a message. -/
inductive Background (env : Surroundings) (first : List Task) : Task → Prop where
  | started {task : Task} (member : task ∈ first) : Background env first task
  | spawned {task : Task} {g : Goroutine} (running : Background env first task)
      (spawns : task.Spawns env g) : Background env first (.goroutine g)

/-- A successful result for a known member, with a key of fewer than eight bytes. -/
def ShortKey (site : Site) : Incoming → Prop
  | .message (.wireguardKeygenResult (some memberID) publicKey true) =>
    (site.store.members.find? memberID).isSome ∧ publicKey.utf8ByteSize < 8
  | _ => False

/-- A successful end of a known build. -/
def EndsBuild (site : Site) : Incoming → Prop
  | .message (.buildOutput out) => out.finished ∧ out.success ∧
      ∃ id ∈ out.buildID, (site.store.builds.find? id).isSome
  | _ => False

/-- What runs because of the message can stop the server. -/
def BringsDown (parse : String → Option UUID) (env : Surroundings) (site : Site)
    (incoming : Incoming) : Prop :=
  ∃ task, Background env (startedBy parse site incoming) task ∧
    (task.Panics env ∨ task.Clashes env)

/-- The callbacks and the deploys started so far. -/
def Store.background (st : Store) : List MeshCallback × List UUID := (st.callbacks, st.deploys)

section Started

variable (parse : String → Option UUID) (agentID : String) (st : Store)

@[simp] theorem background_recordMetrics (samples : List MetricSample) :
    (st.recordMetrics samples).background = st.background := by
  unfold Store.recordMetrics
  induction samples generalizing st with
  | nil => rfl
  | cons sample rest ih =>
    rw [List.foldl_cons, ih]
    unfold Store.recordMetric
    split <;> rfl

@[simp] theorem background_linkAgentToServer :
    (linkAgentToServer parse agentID st).background = st.background := by
  unfold linkAgentToServer
  split <;> rfl

@[simp] theorem background_handleHealthReport (report : HealthReport) :
    (handleHealthReport agentID st report).background = st.background := by
  unfold handleHealthReport
  split
  · rfl
  · exact background_recordMetrics _ _

@[simp] theorem background_handleMetricReport (containers : List ContainerMetric) :
    (handleMetricReport agentID st containers).background = st.background := by
  unfold handleMetricReport
  split
  · rfl
  · exact background_recordMetrics _ _

@[simp] theorem background_handleResourceReport (report : ResourceReport) :
    (handleResourceReport agentID st report).background = st.background := by
  unfold handleResourceReport
  split
  · rfl
  · exact background_recordMetrics _ _

@[simp] theorem background_handleProvisionOutput (out : ProvisionOutput) :
    (handleProvisionOutput st out).background = st.background := by
  unfold handleProvisionOutput
  split
  · rfl
  · dsimp only
    split
    · split <;> rfl
    · rfl

@[simp] theorem background_handleMeshHealthReport (memberID : Option UUID)
    (peers : List PeerHealthInfo) :
    (handleMeshHealthReport st memberID peers).background = st.background := by
  unfold handleMeshHealthReport
  split
  · rfl
  · next member found =>
    clear found
    induction peers generalizing st with
    | nil => rfl
    | cons p rest ih =>
      rw [List.foldl_cons, ih]
      unfold recordPeer
      split <;> rfl

@[simp] theorem background_handleDeployOutput (out : DeployOutput) :
    (handleDeployOutput st out).background = st.background := by
  unfold handleDeployOutput
  dsimp only
  split
  · rfl
  · split <;> rfl

end Started

/-- The callbacks a message starts. -/
def newCallbacks (st : Store) : Message → List MeshCallback
  | .wireguardKeygenResult (some memberID) publicKey true =>
    ((st.members.find? memberID).map fun m =>
      .onKeyGenResult m.clusterID memberID publicKey).toList
  | .wireguardApplyResult (some memberID) success error =>
    ((st.members.find? memberID).map fun m =>
      .onApplyResult m.clusterID memberID success error).toList
  | .wireguardTeardownResult (some memberID) success =>
    ((st.members.find? memberID).map fun m =>
      .onTeardownResult m.clusterID memberID success).toList
  | _ => []

/-- The deploys a message starts. -/
def newDeploys (st : Store) : Message → List UUID
  | .buildOutput out => (out.buildID.filter fun id =>
    out.finished && out.success && (st.builds.find? id).isSome).toList
  | _ => []

theorem background_notifyMesh (st : Store) (memberID : UUID) (callback : UUID → MeshCallback) :
    (notifyMesh st memberID callback).background = (st.callbacks ++
      ((st.members.find? memberID).map fun m => callback m.clusterID).toList, st.deploys) := by
  unfold notifyMesh
  cases st.members.find? memberID with
  | none => exact Prod.ext (List.append_nil _).symm rfl
  | some member => rfl

/-- Nothing is started, and the build is known if it was. -/
def Quiet (id : UUID) (before after : Store) : Prop :=
  after.background = before.background ∧
    (after.builds.find? id).isSome = (before.builds.find? id).isSome

theorem Quiet.of_update {id : UUID} {before after : Store} {f : Intake.Build → Intake.Build}
    (keeps : ∀ b, Keyed.key (f b) = Keyed.key b) (rows : after.builds = before.builds.update id f keeps)
    (same : after.background = before.background) : Quiet id before after := by
  refine ⟨same, ?_⟩
  rw [rows, Table.find?_update_self, Option.isSome_map]

theorem quiet_completeBuild (st : Store) (id : UUID) (status : BuildStatus) (tag : String)
    (serverID : Option UUID) (error : Option String) :
    Quiet id st (st.completeBuild id status tag serverID error) := by
  unfold Store.completeBuild
  split
  · exact .of_update (by intro b; rfl) rfl rfl
  · exact ⟨rfl, rfl⟩

theorem quiet_updateBuildStatus (st : Store) (id : UUID) (status : String) :
    Quiet id st (st.updateBuildStatus id status) := by
  unfold Store.updateBuildStatus
  split
  · exact ⟨rfl, rfl⟩
  · exact .of_update (by intro b; rfl) rfl rfl

theorem quiet_logged (st : Store) (id : UUID) (output : String) :
    Quiet id st (if output ≠ "" then st.appendBuildLogs id output else st) := by
  split
  · exact .of_update (by intro b; rfl) rfl rfl
  · exact ⟨rfl, rfl⟩

theorem Quiet.trans {id : UUID} {first middle last : Store} (here : Quiet id first middle)
    (there : Quiet id middle last) : Quiet id first last :=
  ⟨there.1.trans here.1, there.2.trans here.2⟩

/-- The end of a build starts the deploy of a known one, if it was successful. -/
theorem finishBuild_starts (parse : String → Option UUID) (agentID : String) (st : Store)
    (out : BuildOutput) (id : UUID) :
    (finishBuild parse agentID st out id).background = (st.callbacks, st.deploys ++
        if out.success && (st.builds.find? id).isSome then [id] else []) ∧
      ((finishBuild parse agentID st out id).builds.find? id).isSome =
        (st.builds.find? id).isSome := by
  unfold finishBuild
  cases success : out.success with
  | false =>
    obtain ⟨same, known⟩ := quiet_completeBuild st id .failed out.imageID (parse agentID)
      (some out.error)
    simpa [Store.background] using And.intro same known
  | true =>
    obtain ⟨same, known⟩ := quiet_completeBuild st id .built out.imageID (parse agentID) none
    obtain ⟨callbacks, deploys⟩ := Prod.ext_iff.mp same
    dsimp only [Store.background] at callbacks deploys
    cases there : (st.builds.find? id).isSome with
    | false => simp [known, there, Store.background, callbacks, deploys]
    | true => simp [known, there, Store.background, callbacks, deploys]

theorem handleBuildOutput_starts (parse : String → Option UUID) (agentID : String) (st : Store)
    (out : BuildOutput) :
    (handleBuildOutput parse agentID st out).background =
        (st.callbacks, st.deploys ++ newDeploys st (.buildOutput out)) ∧
      ∀ id ∈ out.buildID, ((handleBuildOutput parse agentID st out).builds.find? id).isSome =
        (st.builds.find? id).isSome := by
  unfold handleBuildOutput newDeploys
  dsimp only
  cases out.buildID with
  | none => exact ⟨by simp [Store.background], fun id absent => by cases absent⟩
  | some id =>
    have logged := quiet_logged st id out.output
    dsimp only
    generalize (if out.output ≠ "" then st.appendBuildLogs id out.output else st) = st' at logged
    obtain ⟨callbacks, deploys⟩ := Prod.ext_iff.mp logged.1
    dsimp only [Store.background] at callbacks deploys
    cases out.finished with
    | true =>
      obtain ⟨started, known⟩ := finishBuild_starts parse agentID st' out id
      rw [callbacks, deploys, logged.2] at started
      refine ⟨started.trans ?_, ?_⟩
      · rw [Option.filter_some, Bool.true_and]
        cases out.success && (st.builds.find? id).isSome <;> rfl
      rintro _ ⟨⟩
      exact known.trans logged.2
    | false =>
      have quiet : Quiet id st (if out.phase ≠ "" then
          st'.updateBuildStatus id (if out.phase = "detecting" then "building" else out.phase)
          else st') := by
        split
        · exact logged.trans (quiet_updateBuildStatus _ _ _)
        · exact logged
      refine ⟨quiet.1.trans (Prod.ext rfl (List.append_nil st.deploys).symm), ?_⟩
      rintro _ ⟨⟩
      exact quiet.2

theorem background_receive (parse : String → Option UUID) (c : String × Store) (m : Message) :
    (receive parse c m).2.background =
      (c.2.callbacks ++ newCallbacks c.2 m, c.2.deploys ++ newDeploys c.2 m) := by
  obtain ⟨agentID, st⟩ := c
  have linked : ∀ carried, (if agentID = "" then linkAgentToServer parse carried st
      else st).background = st.background := by
    intro carried
    split
    · exact background_linkAgentToServer parse carried st
    · rfl
  have none : st.background = (st.callbacks ++ [], st.deploys ++ []) := by simp [Store.background]
  cases m with
  | heartbeat carried => exact (linked carried).trans none
  | healthReport carried report => exact (background_handleHealthReport _ _ _).trans none
  | metricReport carried containers => exact (background_handleMetricReport _ _ _).trans none
  | resourceReport carried report =>
    exact (background_handleResourceReport _ _ _).trans ((linked carried).trans none)
  | provisionOutput out => exact (background_handleProvisionOutput _ _).trans none
  | wireguardKeygenResult memberID publicKey success =>
    cases success with
    | false => cases memberID <;> simpa [receive, newCallbacks, newDeploys] using none
    | true =>
      cases memberID with
      | none => simpa [receive, newCallbacks, newDeploys, handleWireGuardKeyGenResult] using none
      | some id =>
        simp only [receive, newCallbacks, newDeploys, handleWireGuardKeyGenResult, if_true,
          background_notifyMesh]
        have found : (st.updateClusterMemberPublicKey id publicKey).members.find? id =
            (st.members.find? id).map fun m => { m with wireguardPublicKey := publicKey } :=
          @Table.find?_update_self ClusterMember UUID _ _ st.members
            (fun m => { m with wireguardPublicKey := publicKey }) (fun _ => rfl) id
        rw [found, Option.map_map, List.append_nil]
        rfl
  | wireguardApplyResult memberID success error =>
    cases memberID with
    | none => exact none
    | some id =>
      exact (background_notifyMesh st id _).trans
        (Prod.ext rfl (List.append_nil st.deploys).symm)
  | wireguardTeardownResult memberID success =>
    cases memberID with
    | none => exact none
    | some id =>
      exact (background_notifyMesh st id _).trans
        (Prod.ext rfl (List.append_nil st.deploys).symm)
  | meshHealthReport memberID peers => exact (background_handleMeshHealthReport _ _ _).trans none
  | buildOutput out =>
    exact (handleBuildOutput_starts parse agentID st out).1.trans (by simp [newCallbacks])
  | deployOutput out => exact (background_handleDeployOutput _ _).trans none
  | other => exact none

theorem callbacks_receive (parse : String → Option UUID) (c : String × Store) (m : Message) :
    (receive parse c m).2.callbacks = c.2.callbacks ++ newCallbacks c.2 m :=
  (Prod.ext_iff.mp (background_receive parse c m)).1

theorem deploys_receive (parse : String → Option UUID) (c : String × Store) (m : Message) :
    (receive parse c m).2.deploys = c.2.deploys ++ newDeploys c.2 m :=
  (Prod.ext_iff.mp (background_receive parse c m)).2

theorem mem_newCallbacks {st : Store} {m : Message} {clusterID memberID : UUID} {key : String} :
    .onKeyGenResult clusterID memberID key ∈ newCallbacks st m ↔
      m = .wireguardKeygenResult (some memberID) key true ∧
        ∃ row, st.members.find? memberID = some row ∧ row.clusterID = clusterID := by
  unfold newCallbacks
  split
  · next id publicKey =>
    constructor
    · intro member
      obtain ⟨row, found, same⟩ := Option.map_eq_some_iff.mp (Option.mem_toList.mp member)
      cases same
      exact ⟨rfl, row, found, rfl⟩
    · rintro ⟨same, row, found, rfl⟩
      cases same
      exact Option.mem_toList.mpr (Option.map_eq_some_iff.mpr ⟨row, found, rfl⟩)
  · constructor
    · intro member
      obtain ⟨row, found, same⟩ := Option.map_eq_some_iff.mp (Option.mem_toList.mp member)
      cases same
    · rintro ⟨same, -⟩
      cases same
  · constructor
    · intro member
      obtain ⟨row, found, same⟩ := Option.map_eq_some_iff.mp (Option.mem_toList.mp member)
      cases same
    · rintro ⟨same, -⟩
      cases same
  · next others _ _ =>
    refine iff_of_false List.not_mem_nil ?_
    rintro ⟨same, -⟩
    exact others memberID key same

theorem mem_startedBy {parse : String → Option UUID} {site : Site} {m : Message}
    {callback : MeshCallback} :
    Task.callback callback ∈ startedBy parse site (.message m) ↔
      callback ∈ newCallbacks site.store m := by
  simp only [startedBy, callbacks_receive, List.drop_left, List.mem_append, List.mem_map,
    List.mem_flatMap, Option.mem_toList, Option.map_eq_some_iff, Task.callback.injEq,
    exists_eq_right, reduceCtorEq, and_false, exists_false, or_false]

/-- The callback with a short key is started exactly by such a message. -/
theorem shortKey_iff (parse : String → Option UUID) (site : Site) (incoming : Incoming) :
    (∃ clusterID memberID key,
      Task.callback (.onKeyGenResult clusterID memberID key) ∈ startedBy parse site incoming ∧
        key.utf8ByteSize < 8) ↔ ShortKey site incoming := by
  cases incoming with
  | backupResult result =>
    refine iff_of_false ?_ (fun short => short)
    rintro ⟨clusterID, memberID, key, member, -⟩
    simp only [startedBy] at member
    split at member
    · obtain ⟨row, -, same⟩ := Option.map_eq_some_iff.mp (Option.mem_toList.mp member)
      cases same
    · cases member
  | message m =>
    simp only [mem_startedBy, mem_newCallbacks]
    constructor
    · rintro ⟨clusterID, memberID, key, ⟨rfl, row, found, -⟩, short⟩
      exact ⟨Option.isSome_iff_exists.mpr ⟨row, found⟩, short⟩
    · intro shortKey
      unfold ShortKey at shortKey
      split at shortKey
      · next memberID publicKey same =>
        cases same
        obtain ⟨row, found⟩ := Option.isSome_iff_exists.mp shortKey.1
        exact ⟨row.clusterID, memberID, publicKey, ⟨rfl, row, found, rfl⟩, shortKey.2⟩
      · exact shortKey.elim

theorem newDeploys_buildOutput {st : Store} {out : BuildOutput} {id : UUID} :
    id ∈ newDeploys st (.buildOutput out) ↔ out.finished ∧ out.success ∧ id ∈ out.buildID ∧
      (st.builds.find? id).isSome := by
  unfold newDeploys
  dsimp only
  rw [Option.mem_toList, Option.mem_def, Option.filter_eq_some_iff, Bool.and_eq_true,
    Bool.and_eq_true]
  tauto

theorem mem_startedBy_deploy {parse : String → Option UUID} {site : Site} {m : Message}
    {appID environmentID buildID : UUID} :
    Task.triggerDeploy appID environmentID buildID ∈ startedBy parse site (.message m) ↔
      buildID ∈ newDeploys site.store m ∧
        ∃ b, (receive parse (site.agentID, site.store) m).2.builds.find? buildID = some b ∧
          b.appID = appID ∧ b.environmentID = environmentID := by
  simp only [startedBy, deploys_receive, List.drop_left, List.mem_append, List.mem_map,
    List.mem_flatMap, Option.mem_toList, Option.map_eq_some_iff, Task.triggerDeploy.injEq,
    reduceCtorEq, and_false, exists_false, false_or, or_false]
  constructor
  · rintro ⟨id, new, b, found, app, environment, rfl⟩
    exact ⟨new, b, found, app, environment⟩
  · rintro ⟨new, b, found, app, environment⟩
    exact ⟨buildID, new, b, found, app, environment, rfl⟩

/-- A deploy is started exactly by the successful end of a known build. -/
theorem endsBuild_iff (parse : String → Option UUID) (site : Site) (incoming : Incoming) :
    (∃ appID environmentID buildID,
      Task.triggerDeploy appID environmentID buildID ∈ startedBy parse site incoming) ↔
        EndsBuild site incoming := by
  cases incoming with
  | backupResult result =>
    refine iff_of_false ?_ (fun ends => ends)
    rintro ⟨appID, environmentID, buildID, member⟩
    simp only [startedBy] at member
    split at member
    · obtain ⟨row, -, same⟩ := Option.map_eq_some_iff.mp (Option.mem_toList.mp member)
      cases same
    · cases member
  | message m =>
    simp only [mem_startedBy_deploy]
    cases m with
    | buildOutput out =>
      simp only [newDeploys_buildOutput]
      constructor
      · rintro ⟨_, _, id, ⟨finished, success, named, known⟩, -⟩
        exact ⟨finished, success, id, named, known⟩
      · rintro ⟨finished, success, id, named, known⟩
        have there := (handleBuildOutput_starts parse site.agentID site.store out).2 id named
        obtain ⟨b, found⟩ := Option.isSome_iff_exists.mp (there.trans known)
        exact ⟨_, _, id, ⟨finished, success, named, known⟩, b, found, rfl, rfl⟩
    | _ =>
      refine iff_of_false ?_ (fun ends => ends)
      rintro ⟨_, _, id, new, -⟩
      cases new

/-- A cluster of two servers. -/
def bareSurroundings : Surroundings where
  mesh := ⟨fun _ _ => none, fun _ _ => none, fun _ _ => none, fun _ _ st => st, fun _ _ st => st⟩
  listing := Deploy.Checked.twoServers
  draw := { deploymentID := 10, targetIDs := fun n => n }
  goroutines := { routeID := 11, backendID := 12 }

/-- A deploy that a message starts can clash; nothing else it starts does. -/
theorem clashes_iff {parse : String → Option UUID} {site : Site} {incoming : Incoming} :
    (∃ env task, Background env (startedBy parse site incoming) task ∧ task.Clashes env) ↔
      EndsBuild site incoming := by
  rw [← endsBuild_iff parse]
  constructor
  · rintro ⟨env, task, running, clashes⟩
    cases running with
    | started member =>
      cases task with
      | triggerDeploy appID environmentID buildID =>
        exact ⟨appID, environmentID, buildID, member⟩
      | _ => exact clashes.elim
    | spawned running spawns => exact clashes.elim
  · rintro ⟨appID, environmentID, buildID, member⟩
    exact ⟨bareSurroundings, _, .started member,
      Deploy.Checked.clashes_twoReplicas appID environmentID buildID⟩

def oneMember : Site where
  agentID := ""
  store := { members := ⟨[⟨1, 2, 3, "10.0.0.1", ""⟩], by decide⟩ }
  vault := {}

end Nixway.Intake
