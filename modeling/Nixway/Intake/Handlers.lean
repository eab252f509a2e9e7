/-
# Intake.Handlers -- the messages of an agent, and what they write

The loop of `Connect` in `internal/agent/server.go` with the handlers that write to the
database.  A stream takes its agent id from the first message that carries one; after
that the handlers use that id, or the ids of builds, targets, members and jobs that stand
in the message itself.

Servers, deployments and targets are those of `Store.World`; the columns it has no use for
(a server's presence, a deployment's logs) and the other tables stand beside it.  What a
handler starts with `go` (mesh callbacks, the deploy of a finished build, the promotion of
a complete deployment) is recorded, not run.  The messages that are only logged, published
or handed to a waiting request are `other`.
-/
import Nixway.Deploy.Reports
import Nixway.Theory.Table

namespace Nixway.Intake

open Nixway.Theory Nixway.Store
open Nixway.Deploy (DeployOutput databaseClaims)

set_option autoImplicit false

/-! ## Rows -/

/-- `servers.status`. -/
inductive ServerStatus where
  | provisioning | online | degraded | offline
deriving DecidableEq

structure Presence where
  status : ServerStatus := .provisioning
  lastSeenAt : Option Nat := none

/-- `builds.status`. -/
inductive BuildStatus where
  | pending | cloning | building | built | failed | cancelled
deriving DecidableEq

/-- The CHECK of `builds.status`. -/
def BuildStatus.ofText : String → Option BuildStatus
  | "pending" => some .pending
  | "cloning" => some .cloning
  | "building" => some .building
  | "built" => some .built
  | "failed" => some .failed
  | "cancelled" => some .cancelled
  | _ => none

structure Build where
  id : UUID
  appID : UUID
  environmentID : UUID
  imageTag : String := ""
  serverID : Option UUID := none
  status : BuildStatus := .pending
  logs : String := ""
  startedAt : Option Nat := none
  completedAt : Option Nat := none
  error : Option String := none
deriving DecidableEq

/-- `provisioning_jobs.status`. -/
inductive JobStatus where
  | pending | running | completed | failed
deriving DecidableEq

structure ProvisioningJob where
  id : UUID
  serverID : UUID
  status : JobStatus := .pending
  logs : String := ""
  startedAt : Option Nat := none
  completedAt : Option Nat := none
  error : Option String := none
deriving DecidableEq

structure ClusterMember where
  id : UUID
  clusterID : UUID
  serverID : UUID
  wireguardIp : String
  wireguardPublicKey : String := ""
deriving DecidableEq

/-- `wireguard_peers.status`. -/
inductive PeerStatus where
  | pending | active | degraded | failed

structure WireGuardPeer where
  memberID : UUID
  peerMemberID : UUID
  status : PeerStatus := .pending
  lastHandshakeAt : Option Int := none
  lastCheckAt : Option Nat := none
  rttMs : Option Int32 := none

structure ServerMetrics where
  serverID : UUID
  cpuPercent : Double
  memoryTotal : Int64
  memoryUsed : Int64
  updatedAt : Nat

structure DiskInfo where
  mountPoint : String
  totalBytes : UInt64
  usedBytes : UInt64

structure NetworkInterface where
  name : String
  ips : List String

structure ServerResources where
  serverID : UUID
  cpuModel : String
  cpuCores : Int32
  memoryTotal : Int64
  memoryAvailable : Int64
  kernelVersion : String
  dockerVersion : String
  disks : List DiskInfo
  networkInterfaces : List NetworkInterface
  updatedAt : Nat

/-- `metric_samples.scope_type`. -/
inductive Scope where
  | server | container | project | cluster | app

structure MetricSample where
  scope : Scope
  scopeID : UUID
  name : String
  value : Double
  labels : EnvMap := []

instance : Keyed Build UUID := ⟨Build.id⟩
instance : Keyed ProvisioningJob UUID := ⟨ProvisioningJob.id⟩
instance : Keyed ClusterMember UUID := ⟨ClusterMember.id⟩
instance : Keyed WireGuardPeer (UUID × UUID) := ⟨fun p => (p.memberID, p.peerMemberID)⟩
instance : Keyed ServerMetrics UUID := ⟨ServerMetrics.serverID⟩
instance : Keyed ServerResources UUID := ⟨ServerResources.serverID⟩

/-- A callback of the mesh manager started with `go`, for a member and its cluster. -/
inductive MeshCallback where
  | onKeyGenResult (clusterID memberID : UUID) (publicKey : String)
  | onApplyResult (clusterID memberID : UUID) (success : Bool) (error : String)
  | onTeardownResult (clusterID memberID : UUID) (success : Bool)

def MeshCallback.memberID : MeshCallback → UUID
  | .onKeyGenResult _ memberID _ => memberID
  | .onApplyResult _ memberID _ _ => memberID
  | .onTeardownResult _ memberID _ => memberID

structure Store where
  world : World := {}
  /-- `status` and `last_seen_at` of the servers. -/
  presence : UUID → Presence := fun _ => {}
  /-- `logs` of the deployments. -/
  deploymentLogs : UUID → String := fun _ => ""
  builds : Table Build := .empty
  /-- The builds with the server each BuildCommand went to. -/
  dispatched : List (UUID × UUID) := []
  jobs : Table ProvisioningJob := .empty
  members : Table ClusterMember := .empty
  peers : Table WireGuardPeer := .empty
  metrics : Table ServerMetrics := .empty
  resources : Table ServerResources := .empty
  samples : List MetricSample := []
  callbacks : List MeshCallback := []
  /-- The builds whose deploy was started. -/
  deploys : List UUID := []

/-! ## Messages -/

structure HealthReport where
  cpuPercent : Double
  memoryTotal : UInt64
  memoryUsed : UInt64
  disks : List DiskInfo := []

structure ContainerMetric where
  containerName : String
  cpuPercent : Double := .finite 0
  memoryPercent : Double := .finite 0
  memoryUsed : UInt64 := 0
  memoryLimit : UInt64 := 0
  networkRxBytes : UInt64 := 0
  networkTxBytes : UInt64 := 0
  blockReadBytes : UInt64 := 0
  blockWriteBytes : UInt64 := 0
  restartCount : Int64 := 0
  uptimeSeconds : Int64 := 0

structure ResourceReport where
  cpuModel : String := ""
  cpuCores : Int32 := 0
  memoryTotal : UInt64 := 0
  memoryAvailable : UInt64 := 0
  kernelVersion : String := ""
  dockerVersion : String := ""
  disks : List DiskInfo := []
  networkInterfaces : List NetworkInterface := []

/-- An id is `none` when `uuid.Parse` refuses its text. -/
structure ProvisionOutput where
  jobID : Option UUID
  output : String := ""
  finished : Bool := false
  success : Bool := false
  error : String := ""

/-- How a report names a peer: by member id, by mesh address (each `none` when its text is
refused), or not at all. -/
inductive PeerName where
  | member (id : Option UUID)
  | address (ip : Option String)
  | missing

structure PeerHealthInfo where
  peer : PeerName
  reachable : Bool
  rttMs : Int32
  lastHandshakeSeconds : Int32

structure BuildOutput where
  buildID : Option UUID
  output : String := ""
  phase : String := ""
  finished : Bool := false
  success : Bool := false
  error : String := ""
  imageID : String := ""

inductive Message where
  | heartbeat (agentID : String)
  | healthReport (agentID : String) (report : HealthReport)
  | metricReport (agentID : String) (containers : List ContainerMetric)
  | resourceReport (agentID : String) (report : ResourceReport)
  | provisionOutput (out : ProvisionOutput)
  | wireguardKeygenResult (memberID : Option UUID) (publicKey : String) (success : Bool)
  | wireguardApplyResult (memberID : Option UUID) (success : Bool) (error : String)
  | wireguardTeardownResult (memberID : Option UUID) (success : Bool)
  | meshHealthReport (memberID : Option UUID) (peers : List PeerHealthInfo)
  | buildOutput (out : BuildOutput)
  | deployOutput (out : DeployOutput)
  | other

/-! ## Statements -/

namespace Store

variable (st : Store)

def getServerByAgentID (agentID : String) : Option Server :=
  st.world.servers.rows.find? fun s => s.agentID = some agentID

def updateServerAgentID (id : UUID) (agentID : String) : Store :=
  { st with
    world := { st.world with servers := st.world.servers.update id fun s =>
      { s with agentID := some agentID } }
    presence := if (st.world.servers.find? id).isSome then
      Function.update st.presence id ⟨.online, some st.world.now⟩ else st.presence }

def updateServerStatus (id : UUID) (status : ServerStatus) : Store :=
  { st with presence := if (st.world.servers.find? id).isSome then
      Function.update st.presence id ⟨status, some st.world.now⟩ else st.presence }

def getClusterMemberByServerID (serverID : UUID) : Option ClusterMember :=
  st.members.rows.find? fun m => m.serverID = serverID

def getClusterMemberByClusterAndIP (clusterID : UUID) (ip : String) : Option ClusterMember :=
  st.members.rows.find? fun m => m.clusterID = clusterID && m.wireguardIp = ip

def updateClusterMemberPublicKey (id : UUID) (key : String) : Store :=
  { st with members := st.members.update id fun m => { m with wireguardPublicKey := key } }

def updatePeerHealth (memberID peerMemberID : UUID) (status : PeerStatus)
    (lastHandshakeAt : Option Int) (rttMs : Int32) : Store :=
  { st with peers := st.peers.update (memberID, peerMemberID) fun p =>
      { p with
        status := status
        lastHandshakeAt := lastHandshakeAt
        lastCheckAt := some st.world.now
        rttMs := some rttMs } }

def appendProvisioningLog (id : UUID) (logs : String) : Store :=
  { st with jobs := st.jobs.update id fun j => { j with logs := j.logs ++ logs } }

/-- The handler leaves `StartedAt` unset, and the statement writes it. -/
def updateProvisioningJobStatus (id : UUID) (status : JobStatus) (error : Option String) : Store :=
  { st with jobs := st.jobs.update id fun j =>
      { j with
        status := status
        startedAt := none
        completedAt := some st.world.now
        error := error } }

def appendBuildLogs (id : UUID) (logs : String) : Store :=
  { st with builds := st.builds.update id fun b => { b with logs := b.logs ++ logs } }

/-- A status the CHECK refuses changes nothing. -/
def updateBuildStatus (id : UUID) (status : String) : Store :=
  match BuildStatus.ofText status with
  | none => st
  | some status =>
    { st with builds := st.builds.update id fun b =>
        { b with
          status := status
          startedAt := b.startedAt.or (some st.world.now)
          error := none } }

/-- A server that is not there is refused by the foreign key. -/
def completeBuild (id : UUID) (status : BuildStatus) (imageTag : String) (serverID : Option UUID)
    (error : Option String) : Store :=
  if serverID.all fun s => (st.world.servers.find? s).isSome then
    { st with builds := st.builds.update id fun b =>
        { b with
          status := status
          imageTag := imageTag
          serverID := serverID
          completedAt := some st.world.now
          error := error } }
  else st

def appendDeploymentLogs (id : UUID) (logs : String) : Store :=
  { st with deploymentLogs := if (st.world.deployments.find? id).isSome then
      Function.update st.deploymentLogs id (st.deploymentLogs id ++ logs) else st.deploymentLogs }

/-- `RecordMetric`. -/
def recordMetric (sample : MetricSample) : Store :=
  if sample.scopeID = UUID.nil ∨ sample.name = "" then st
  else { st with samples := sample :: st.samples }

def recordMetrics (samples : List MetricSample) : Store := samples.foldl recordMetric st

end Store

/-! ## Handlers -/

section Handlers

variable (parse : String → Option UUID) (agentID : String) (st : Store)

def linkAgentToServer : Store :=
  match parse agentID with
  | none => st
  | some serverUUID => st.updateServerAgentID serverUUID agentID

/-- `float64(used) / float64(total) * 100`, up to rounding. -/
def percent (used total : Int) : Double := .finite ((used : Rat) / total * 100)

/-- `RecordServerHealth`. -/
def serverHealth (serverID : UUID) (cpuPercent : Double) (memoryUsed memoryTotal : Int64) :
    List MetricSample :=
  [⟨.server, serverID, "server.cpu_percent", cpuPercent, []⟩,
   ⟨.server, serverID, "server.memory_used_bytes", .finite memoryUsed.toInt, []⟩,
   ⟨.server, serverID, "server.memory_total_bytes", .finite memoryTotal.toInt, []⟩] ++
  (if 0 < memoryTotal then
    [⟨.server, serverID, "server.memory_percent", percent memoryUsed.toInt memoryTotal.toInt, []⟩]
  else [])

def clusterHealth (serverID clusterID : UUID) (hr : HealthReport) : List MetricSample :=
  [⟨.cluster, clusterID, "cluster.server_cpu_percent", hr.cpuPercent,
    [("server_id", serverID.text)]⟩] ++
  (if 0 < hr.memoryTotal then
    [⟨.cluster, clusterID, "cluster.server_memory_percent",
      percent hr.memoryUsed.toNat hr.memoryTotal.toNat, [("server_id", serverID.text)]⟩]
  else [])

def diskHealth (serverID : UUID) (disk : DiskInfo) : List MetricSample :=
  let labels := [("mount", disk.mountPoint)]
  [⟨.server, serverID, "server.disk_used_bytes", .finite disk.usedBytes.toNat, labels⟩,
   ⟨.server, serverID, "server.disk_total_bytes", .finite disk.totalBytes.toNat, labels⟩] ++
  (if 0 < disk.totalBytes then
    [⟨.server, serverID, "server.disk_percent",
      percent disk.usedBytes.toNat disk.totalBytes.toNat, labels⟩]
  else [])

def handleHealthReport (hr : HealthReport) : Store :=
  match st.getServerByAgentID agentID with
  | none => st
  | some srv =>
    let row : ServerMetrics :=
      { serverID := srv.id
        cpuPercent := hr.cpuPercent
        memoryTotal := hr.memoryTotal.toInt64
        memoryUsed := hr.memoryUsed.toInt64
        updatedAt := st.world.now }
    let st := { st with metrics := st.metrics.upsert row }
    let cluster := match st.getClusterMemberByServerID srv.id with
      | none => []
      | some member => clusterHealth srv.id member.clusterID hr
    st.recordMetrics (serverHealth srv.id hr.cpuPercent hr.memoryUsed.toInt64
      hr.memoryTotal.toInt64 ++ cluster ++ hr.disks.flatMap (diskHealth srv.id))

/-- A row of `GetActiveDeploymentTargetByServerContainer`. -/
structure ActiveTarget where
  target : DeploymentTarget
  deployment : Deployment
  projectID : UUID
  clusterID : UUID

/-- The join of the query for one target. -/
def activeTarget (w : World) (serverID : UUID) (container : String) (t : DeploymentTarget) :
    Option ActiveTarget := do
  let d ← w.getDeployment t.deploymentID
  let app ← w.getApp d.appID
  let project ← w.getProject app.projectID
  if t.serverID = serverID ∧ t.containerID = some container ∧ t.status = .healthy ∧
      d.status = .healthy then
    some ⟨t, d, project.id, project.clusterID⟩
  else none

/-- `ORDER BY healthy_at DESC NULLS LAST, created_at DESC`. -/
def healthyBefore (a b : ActiveTarget) : Bool :=
  match a.target.healthyAt, b.target.healthyAt with
  | some x, some y => y < x || (x = y && b.deployment.createdAt ≤ a.deployment.createdAt)
  | some _, none => true
  | none, some _ => false
  | none, none => b.deployment.createdAt ≤ a.deployment.createdAt

def getActiveDeploymentTargetByServerContainer (w : World) (serverID : UUID) (container : String) :
    Option ActiveTarget :=
  ((w.targets.rows.filterMap (activeTarget w serverID container)).insertionSort
    fun a b => healthyBefore a b = true).head?

/-- The ten samples of one scope. -/
def containerMetricSet (scope : Scope) (scopeID : UUID) (start : String) (metric : ContainerMetric)
    (labels : EnvMap) : List MetricSample :=
  [("cpu_percent", metric.cpuPercent),
   ("memory_percent", metric.memoryPercent),
   ("memory_used_bytes", .finite metric.memoryUsed.toNat),
   ("memory_limit_bytes", .finite metric.memoryLimit.toNat),
   ("network_rx_bytes", .finite metric.networkRxBytes.toNat),
   ("network_tx_bytes", .finite metric.networkTxBytes.toNat),
   ("block_read_bytes", .finite metric.blockReadBytes.toNat),
   ("block_write_bytes", .finite metric.blockWriteBytes.toNat),
   ("restart_count", .finite metric.restartCount.toInt),
   ("uptime_seconds", .finite metric.uptimeSeconds.toInt)].map fun entry =>
    ⟨scope, scopeID, start ++ entry.1, entry.2, labels⟩

/-- The samples of one reported container; none unless it is an active one of the server. -/
def containerSamples (w : World) (srv : Server) (metric : ContainerMetric) : List MetricSample :=
  if metric.containerName = "" then []
  else match getActiveDeploymentTargetByServerContainer w srv.id metric.containerName with
    | none => []
    | some active =>
      let labels := [("server_id", srv.id.text), ("container_name", metric.containerName),
        ("deployment_id", active.target.deploymentID.text)]
      containerMetricSet .container active.target.id "container." metric labels ++
        containerMetricSet .app active.deployment.appID "app.container_" metric labels ++
        containerMetricSet .project active.projectID "project.container_" metric labels ++
        containerMetricSet .cluster active.clusterID "cluster.container_" metric labels

def handleMetricReport (containers : List ContainerMetric) : Store :=
  match st.getServerByAgentID agentID with
  | none => st
  | some srv => st.recordMetrics (containers.flatMap (containerSamples st.world srv))

def handleResourceReport (rr : ResourceReport) : Store :=
  match st.getServerByAgentID agentID with
  | none => st
  | some srv =>
    let st := st.updateServerStatus srv.id .online
    let row : ServerResources :=
      { serverID := srv.id
        cpuModel := rr.cpuModel
        cpuCores := rr.cpuCores
        memoryTotal := rr.memoryTotal.toInt64
        memoryAvailable := rr.memoryAvailable.toInt64
        kernelVersion := rr.kernelVersion
        dockerVersion := rr.dockerVersion
        disks := rr.disks
        networkInterfaces := rr.networkInterfaces
        updatedAt := st.world.now }
    let st := { st with resources := st.resources.upsert row }
    st.recordMetrics
      [⟨.server, srv.id, "server.cpu_cores", .finite rr.cpuCores.toInt, []⟩,
       ⟨.server, srv.id, "server.memory_available_bytes",
        .finite rr.memoryAvailable.toInt64.toInt, []⟩]

def handleProvisionOutput (po : ProvisionOutput) : Store :=
  match po.jobID with
  | none => st
  | some jobID =>
    let st := st.appendProvisioningLog jobID po.output
    if po.finished then
      if po.success then st.updateProvisioningJobStatus jobID .completed none
      else st.updateProvisioningJobStatus jobID .failed (some po.error)
    else st

/-- Start a mesh callback for the member, if it is there. -/
def notifyMesh (memberID : UUID) (callback : UUID → MeshCallback) : Store :=
  match st.members.find? memberID with
  | none => st
  | some member => { st with callbacks := st.callbacks ++ [callback member.clusterID] }

def handleWireGuardKeyGenResult (memberID : Option UUID) (publicKey : String) : Store :=
  match memberID with
  | none => st
  | some memberID =>
    notifyMesh (st.updateClusterMemberPublicKey memberID publicKey) memberID fun clusterID =>
      .onKeyGenResult clusterID memberID publicKey

/-- The member a report names as a peer. -/
def resolvePeer (member : ClusterMember) : PeerName → Option UUID
  | .member id => id
  | .address ip =>
    ip.bind fun ip => (st.getClusterMemberByClusterAndIP member.clusterID ip).map ClusterMember.id
  | .missing => none

def peerStatus (p : PeerHealthInfo) : PeerStatus :=
  if !p.reachable then .failed
  else if 300 < p.lastHandshakeSeconds ∨ 500 < p.rttMs then .degraded
  else .active

def recordPeer (member : ClusterMember) (st : Store) (p : PeerHealthInfo) : Store :=
  match resolvePeer st member p.peer with
  | none => st
  | some peerMemberID =>
    st.updatePeerHealth member.id peerMemberID (peerStatus p)
      (if p.reachable ∧ 0 < p.lastHandshakeSeconds then
        some ((st.world.now : Int) - p.lastHandshakeSeconds.toInt) else none)
      p.rttMs

def handleMeshHealthReport (memberID : Option UUID) (peers : List PeerHealthInfo) : Store :=
  match memberID.bind st.members.find? with
  | none => st
  | some member => peers.foldl (recordPeer member) st

/-- The end of a build, and the deploy that follows a successful one. -/
def finishBuild (bo : BuildOutput) (buildID : UUID) : Store :=
  let st := if bo.success then st.completeBuild buildID .built bo.imageID (parse agentID) none
    else st.completeBuild buildID .failed bo.imageID (parse agentID) (some bo.error)
  if bo.success ∧ (st.builds.find? buildID).isSome then { st with deploys := st.deploys ++ [buildID] }
  else st

def handleBuildOutput (bo : BuildOutput) : Store :=
  match bo.buildID with
  | none => st
  | some buildID =>
    let st := if bo.output ≠ "" then st.appendBuildLogs buildID bo.output else st
    if bo.finished then finishBuild parse agentID st bo buildID
    else if bo.phase ≠ "" then
      st.updateBuildStatus buildID (if bo.phase = "detecting" then "building" else bo.phase)
    else st

/-- The line a report adds to the logs of its deployment. -/
def deployLogLine (out : DeployOutput) (targetID : UUID) : String :=
  "[" ++ out.phase ++ "] target " ++ targetID.text ++ ": " ++ out.phase ++
    (if out.error ≠ "" then " - " ++ out.error else "") ++ "\n"

/-- `handleDeployOutput`: `Deploy.handleDeployOutput` on the rows, and the log line. -/
def handleDeployOutput (out : DeployOutput) : Store :=
  let recorded := { st with world := (Deploy.handleDeployOutput out).out st.world }
  if databaseClaims out st.world then recorded
  else match out.targetID, out.deployID with
    | some targetID, some deployID =>
      recorded.appendDeploymentLogs deployID (deployLogLine out targetID)
    | _, _ => recorded

end Handlers

/-! ## The stream -/

/-- The agent id of a stream after a message that carries one. -/
def named (agentID carried : String) : String := if agentID = "" then carried else agentID

/-- One message of the loop of `Connect`; the state is the stream's agent id and the store. -/
def receive (parse : String → Option UUID) (c : String × Store) : Message → String × Store
  | .heartbeat carried =>
    (named c.1 carried, if c.1 = "" then linkAgentToServer parse carried c.2 else c.2)
  | .healthReport carried report =>
    (named c.1 carried, handleHealthReport (named c.1 carried) c.2 report)
  | .metricReport carried containers =>
    (named c.1 carried, handleMetricReport (named c.1 carried) c.2 containers)
  | .resourceReport carried report =>
    (named c.1 carried, handleResourceReport (named c.1 carried)
      (if c.1 = "" then linkAgentToServer parse carried c.2 else c.2) report)
  | .provisionOutput out => (c.1, handleProvisionOutput c.2 out)
  | .wireguardKeygenResult memberID publicKey success =>
    (c.1, if success then handleWireGuardKeyGenResult c.2 memberID publicKey else c.2)
  | .wireguardApplyResult memberID success error =>
    (c.1, match memberID with
      | none => c.2
      | some id => notifyMesh c.2 id fun clusterID => .onApplyResult clusterID id success error)
  | .wireguardTeardownResult memberID success =>
    (c.1, match memberID with
      | none => c.2
      | some id => notifyMesh c.2 id fun clusterID => .onTeardownResult clusterID id success)
  | .meshHealthReport memberID peers => (c.1, handleMeshHealthReport c.2 memberID peers)
  | .buildOutput out => (c.1, handleBuildOutput parse c.1 c.2 out)
  | .deployOutput out => (c.1, handleDeployOutput c.2 out)
  | .other => c

def receiveAll (parse : String → Option UUID) (c : String × Store) (messages : List Message) :
    String × Store :=
  messages.foldl (receive parse) c

end Nixway.Intake
