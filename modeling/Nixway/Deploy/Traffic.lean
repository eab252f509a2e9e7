/-
# Deploy.Traffic -- promotion, routing sync, teardown and archival

The programs of `internal/deploy/service.go` that move traffic: one atomic step
per SQL statement, per message handed to an agent and per goroutine started.
An error return carries the prefix of the Go error.  The part of
`EnsureTrafficForDeployment` after its route is chosen is cut into the programs
its control flow passes through (`promoteOnto`, `publishBackend`, `demote`,
`announce`), in the order of the source.
-/
import Nixway.Store.Queries
import Nixway.Deploy.Names
import Nixway.Theory.Prog

namespace Nixway.Deploy

open Nixway.Theory Nixway.Store
open Nixway.Theory.Prog (query exec atomic forEach)

set_option autoImplicit false

/-! ## Sending and starting -/

/-- `ConnManager.SendToAgent`. -/
def sendToAgent (agentID : String) (msg : ControlMessage) (w : World) : World × Except String Unit :=
  match w.agents.find? agentID with
  | none => (w, .error ("agent " ++ agentID ++ " not connected"))
  | some state =>
    match state.stream with
    | .missing => (w, .error ("agent " ++ agentID ++ " has no active stream"))
    | .broken error => (w, .error error)
    | .live => ({ w with sent := w.sent ++ [(agentID, msg)] }, .ok ())

/-- A send fails and leaves the world alone, or appends its message. -/
theorem sendToAgent_cases (agentID : String) (msg : ControlMessage) (w : World) :
    (∃ err, sendToAgent agentID msg w = (w, .error err)) ∨
      sendToAgent agentID msg w = ({ w with sent := w.sent ++ [(agentID, msg)] }, .ok ()) := by
  unfold sendToAgent
  split
  · exact .inl ⟨_, rfl⟩
  · split
    · exact .inl ⟨_, rfl⟩
    · exact .inl ⟨_, rfl⟩
    · exact .inr rfl

/-- Send and only log a failure. -/
def sendBestEffort (agentID : String) (msg : ControlMessage) : Prog World Unit := do
  let _ ← atomic (sendToAgent agentID msg)

/-- The `go` statement. -/
def go (goroutine : Goroutine) : Prog World Unit :=
  exec fun w => { w with started := w.started ++ [goroutine] }

/-! ## SyncTrafficRoute -/

/-- The mesh URLs of the healthy exposed replicas. -/
def edgeURLs (targets : List DeploymentTarget) : List String :=
  targets.filterMap fun t =>
    if t.status = .healthy then
      t.bindAddress.bind fun address => t.hostPort.map fun port => httpURL address port
    else none

/-- The groups of the edge path; a backend without a reachable replica is skipped. -/
def edgeGroups (app : App) : List TrafficBackend → Prog World (List TrafficBackendGroup)
  | [] => return []
  | backend :: rest => do
    let targets ← query fun w => w.listDeploymentTargets backend.deploymentID
    let groups ← edgeGroups app rest
    let urls := edgeURLs targets
    return if urls = [] then groups
      else ⟨trafficServiceName app.slug backend.label backend.deploymentID, backend.weight, urls⟩
        :: groups

/-- The groups of one server on the node-local path, with the server's agent. -/
structure ServerGroups where
  serverID : UUID
  agentID : String
  groups : List TrafficBackendGroup

/-- `agentByServer[id] = agent; groupsByServer[id] = append(groupsByServer[id], g)`. -/
def addGroup (serverID : UUID) (agentID : String) (g : TrafficBackendGroup) :
    List ServerGroups → List ServerGroups
  | [] => [⟨serverID, agentID, [g]⟩]
  | entry :: rest =>
    if entry.serverID = serverID then ⟨serverID, agentID, entry.groups ++ [g]⟩ :: rest
    else entry :: addGroup serverID agentID g rest

/-- The group a backend contributes on every server that hosts a replica of it. -/
def localGroup (app : App) (backend : TrafficBackend) : TrafficBackendGroup :=
  ⟨trafficServiceName app.slug backend.label backend.deploymentID, backend.weight,
    [httpURL (containerName app.slug backend.deploymentID) app.port]⟩

def localTargets (app : App) (teamID : UUID) (backend : TrafficBackend) :
    List DeploymentTarget → List ServerGroups → Prog World (List ServerGroups)
  | [], acc => return acc
  | target :: rest, acc =>
    if target.status = .healthy then do
      match ← query fun w => (w.getServerByID target.serverID teamID).bind Server.agentID with
      | none => localTargets app teamID backend rest acc
      | some agentID =>
        localTargets app teamID backend rest
          (addGroup target.serverID agentID (localGroup app backend) acc)
    else localTargets app teamID backend rest acc

def localGroups (app : App) (teamID : UUID) :
    List TrafficBackend → List ServerGroups → Prog World (List ServerGroups)
  | [], acc => return acc
  | backend :: rest, acc => do
    let targets ← query fun w => w.listDeploymentTargets backend.deploymentID
    let acc ← localTargets app teamID backend targets acc
    localGroups app teamID rest acc

/-- The rest of `SyncTrafficRoute`, once its rows are read. -/
def pushRoute (route : TrafficRoute) (app : App) (project : Project) :
    Prog World (Except String Unit) := do
  let backends ← query fun w => w.listTrafficBackendsForSync route.id
  if backends = [] then
    return .ok ()
  let domains := trafficDomains app route
  let edgeServers ← query fun w => w.listEdgeServersByCluster project.clusterID
  if edgeServers ≠ [] then
    let groups ← edgeGroups app backends
    if groups = [] then
      return .ok ()
    let cmd : TrafficRouteCommand := { appSlug := app.slug, domains := domains, groups := groups }
    forEach edgeServers fun edge =>
      match edge.agentID with
      | none => return
      | some agentID => sendBestEffort agentID (.trafficRoute cmd)
    return .ok ()
  else
    let entries ← localGroups app project.teamID backends []
    forEach entries fun entry =>
      if entry.agentID = "" then return
      else sendBestEffort entry.agentID
        (.trafficRoute { appSlug := app.slug, domains := domains, groups := entry.groups })
    return .ok ()

/-- Push the current backends of a route to the agents that route for it. -/
def syncTrafficRoute (routeID : UUID) : Prog World (Except String Unit) := do
  let some route ← query fun w => w.getTrafficRoute routeID
    | return .error "get route"
  let some app ← query fun w => w.getApp route.appID
    | return .error "get app"
  let some project ← query fun w => w.getProject app.projectID
    | return .error "get project"
  pushRoute route app project

/-! ## EnsureTrafficForDeployment -/

/-- The message of the traffic event of a promotion. -/
def promotedMessage (deployment : Deployment) (label : String) (demoted : Nat) : String :=
  let msg := "Promoted deployment " ++ deployment.id.short ++ " as " ++ label ++ "@100"
  if 0 < demoted then msg ++ "; demoted " ++ toString demoted ++ " previous backend(s)" else msg

/-- The end of a promotion: the event, the sync, and the two goroutines. -/
def announce (deployment : Deployment) (route : TrafficRoute) (label : String) (demoted : Nat) :
    Prog World (Except String Unit) := do
  exec fun w => w.createTrafficEvent
    ⟨route.id, "system", "deploy_promoted", promotedMessage deployment label demoted⟩
  match ← syncTrafficRoute route.id with
  | .error err => return .error err
  | .ok () =>
    if 0 < demoted then
      go (.stopSupersededAfterDrain deployment.id)
      go (.archiveOldDeployments deployment.appID deployment.environmentID 2)
    return .ok ()

/-- The demotion loop over the backends listed before the new one was written. -/
def demote (deployment : Deployment) (route : TrafficRoute) (label : String) :
    List TrafficBackend → Nat → Prog World (Except String Unit)
  | [], demoted => announce deployment route label demoted
  | prev :: rest, demoted =>
    if prev.deploymentID = deployment.id then demote deployment route label rest demoted
    else do
      match ← atomic fun w => w.updateTrafficBackendWeight prev.id route.id 0 with
      | none => demote deployment route label rest demoted
      | some _ =>
        let _ ← atomic fun w => w.setTrafficBackendStatus prev.id route.id .draining
        exec fun w => w.setDeploymentStatusSimple prev.deploymentID .superseded
        demote deployment route label rest (demoted + 1)

/-- Write the new backend and force its weight. -/
def publishBackend (deployment : Deployment) (route : TrafficRoute) (backendID : UUID)
    (existing : List TrafficBackend) (label : String) : Prog World (Except String Unit) := do
  let some newBackend ← atomic fun w =>
      w.upsertTrafficBackend backendID route.id deployment.id label 100 .active
    | return .error "upsert backend"
  let some _ ← atomic fun w => w.updateTrafficBackendWeight newBackend.id route.id 100
    | return .error "set new backend weight"
  demote deployment route label existing 0

/-- The label of the new backend, from the commit of its build. -/
def backendLabel (build : Option Build) : String :=
  match build with
  | some build => if build.commitSha ≠ "" then "stable-" ++ shortSHA build.commitSha else "stable"
  | none => "stable"

/-- The promotion on its route: list, label, publish, demote. -/
def promoteOnto (deployment : Deployment) (route : TrafficRoute) (backendID : UUID) :
    Prog World (Except String Unit) := do
  let existing ← query fun w => w.listTrafficBackendsByRoute route.id
  if deployment.buildID ≠ UUID.nil then
    let build ← query fun w => w.getBuild deployment.buildID
    publishBackend deployment route backendID existing (backendLabel build)
  else
    publishBackend deployment route backendID existing "stable"

/-- Make a newly healthy deployment the only one that receives traffic on its
route.  `routeID` and `backendID` are the ids drawn should rows be inserted. -/
def ensureTrafficForDeployment (deploymentID routeID backendID : UUID) :
    Prog World (Except String Unit) := do
  let some deployment ← query fun w => w.getDeployment deploymentID
    | return .error "get deployment"
  let some app ← query fun w => w.getApp deployment.appID
    | return .error "get app"
  let domain := trafficDomain app deployment
  if domain = "" then
    return .error "no domain available for traffic route"
  let some route ← atomic fun w =>
      w.ensureTrafficRoute routeID app.id deployment.environmentID domain
    | return .error "ensure route"
  promoteOnto deployment route backendID

/-- What the last successful report of a deployment causes, run to its end: the
deployment completes as 'healthy' and the goroutine started then promotes it. -/
def completeAndPromote (deploymentID routeID backendID : UUID) : Prog World (Except String Unit) := do
  exec fun w => w.completeDeployment deploymentID .healthy none
  ensureTrafficForDeployment deploymentID routeID backendID

/-! ## StopSupersededContainers -/

/-- The command that stops one listed container. -/
def stopCommand (app : App) (currentServers : List UUID) (container : World.ContainerRow)
    (containerID : String) : StopContainerCommand :=
  { containerName := containerID
    timeoutSeconds := 30
    removeTraefik := !currentServers.contains container.serverID
    appSlug := app.slug }

/-- One turn of the teardown loop. -/
def stopContainer (app : App) (deploymentID : UUID) (currentServers : List UUID)
    (container : World.ContainerRow) : Prog World Unit := do
  if container.deploymentID = deploymentID then
    return
  let some containerID := container.containerID | return
  let some agentID := container.agentID | return
  match ← atomic (sendToAgent agentID
      (.stopContainer (stopCommand app currentServers container containerID))) with
  | .error _ => return
  | .ok () =>
    exec fun w => w.updateDeploymentTargetStatus
      { id := container.targetID, status := "stopped", stoppedAt := some w.now }
    exec fun w => w.releasePortsByDeploymentTarget container.targetID

def stopSupersededContainers (deploymentID : UUID) : Prog World (Except String Unit) := do
  let some current ← query fun w => w.getDeployment deploymentID
    | return .error "get deployment"
  let some app ← query fun w => w.getApp current.appID
    | return .error "get app"
  let currentTargets ← query fun w => w.listDeploymentTargets deploymentID
  let currentServers := currentTargets.map DeploymentTarget.serverID
  let containers ← query fun w => w.listHealthyContainersByApp current.appID
  forEach containers (stopContainer app deploymentID currentServers)
  return .ok ()

/-! ## archiveOldDeployments -/

/-- The prune of one image tag on every agent that ran the deployment. -/
def pruneImage (row : World.ArchivableRow) : Prog World Unit := do
  let agentIDs ← query fun w => w.listDeploymentServers row.id
  forEach agentIDs fun agentID => sendBestEffort agentID
    (.execCommand ⟨"prune-" ++ row.id.short, "docker", ["image", "rm", "-f", row.imageTag]⟩)

def archiveRow (keptTags : List String) (row : World.ArchivableRow) : Prog World Unit := do
  exec fun w => w.deleteTrafficBackendsByDeployment row.id
  if row.imageTag ≠ "" ∧ row.imageTag ∉ keptTags then
    pruneImage row
  exec fun w => w.setDeploymentStatusSimple row.id .archived

/-- Archive what lies past the rollback window. -/
def archiveOldDeployments (appID envID : UUID) (keep : Int) : Prog World Unit := do
  let rows ← query fun w => w.listArchivableDeploymentsByApp appID envID keep
  if rows = [] then
    return
  let keptTags ← query fun w => w.listKeptImageTagsByApp appID envID
  forEach rows (archiveRow keptTags)

/-- The app, its build and its project in the runs on fixed inputs. -/
def webApp : App := { id := 20, projectID := 10, name := "web", slug := "web" }

def builtWeb : Build := { id := 30, commitSha := "0123456789", imageTag := "web:1" }

def shopOfTeam : Project := ⟨10, 11, 12, "shop", "shop"⟩

end Nixway.Deploy
