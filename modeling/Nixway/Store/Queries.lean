/-
# Store.Queries -- the SQL statements of the deploy path

One definition per statement of `sql/queries` and of the hand-written
`internal/db/*.sql.go`, under the statement's name.  A statement is one atomic
function of the store.  A `:one` statement that returns no row, and an INSERT
that violates a key or a reference, return `none`; the Go caller sees an error.

`ORDER BY` is a stable sort, so rows that compare equal stay in table order; the
rollback window, where the order decides what is kept, breaks ties by id.  An id
the database draws with `gen_random_uuid()` is an argument of the INSERT.
-/
import Nixway.Store.Schema
import Mathlib.Data.List.Sort

namespace Nixway.Store

open Nixway.Theory

set_option autoImplicit false

namespace World

/-! ## Reads by key -/

abbrev getTeamByID (w : World) (id : UUID) : Option Team := w.teams.find? id
abbrev getProject (w : World) (id : UUID) : Option Project := w.projects.find? id
abbrev getApp (w : World) (id : UUID) : Option App := w.apps.find? id
abbrev getBuild (w : World) (id : UUID) : Option Build := w.builds.find? id
abbrev getDeployment (w : World) (id : UUID) : Option Deployment := w.deployments.find? id
abbrev getTrafficRoute (w : World) (id : UUID) : Option TrafficRoute := w.routes.find? id

/-- `GetServerByID`: a server is only found under its own team. -/
def getServerByID (w : World) (id teamID : UUID) : Option Server :=
  (w.servers.find? id).filter fun s => s.teamID = teamID

/-! ## Apps -/

structure CreateAppParams where
  projectID : UUID
  name : String
  slug : String
  sourceType : SourceType
  githubInstallationID : Option UUID
  repoFullName : Option String
  branch : Option String
  rootPath : String
  autoDeploy : Bool
  dockerImage : Option String
  registryCredentialID : Option UUID
  builder : Builder
  dockerfilePath : String
  port : Int
  healthCheckPath : String
  healthCheckInterval : Int
  healthCheckTimeout : Int
  replicas : Int32
  subdomain : Option String
  placementStrategy : PlacementStrategy
  placementConstraints : Constraints
  pinnedServerIDs : List UUID

/-- The row `INSERT INTO apps` makes; the columns it does not give have their defaults. -/
def CreateAppParams.row (arg : CreateAppParams) (id : UUID) : App :=
  { id := id
    projectID := arg.projectID
    name := arg.name
    slug := arg.slug
    sourceType := arg.sourceType
    githubInstallationID := arg.githubInstallationID
    repoFullName := arg.repoFullName
    branch := arg.branch
    rootPath := arg.rootPath
    autoDeploy := arg.autoDeploy
    dockerImage := arg.dockerImage
    registryCredentialID := arg.registryCredentialID
    builder := arg.builder
    dockerfilePath := arg.dockerfilePath
    port := arg.port
    healthCheckPath := arg.healthCheckPath
    healthCheckInterval := arg.healthCheckInterval
    healthCheckTimeout := arg.healthCheckTimeout
    replicas := arg.replicas
    subdomain := arg.subdomain
    placementStrategy := arg.placementStrategy
    placementConstraints := arg.placementConstraints
    pinnedServerIDs := arg.pinnedServerIDs }

/-- `INSERT INTO apps`; `(project_id, slug)` is unique and the references must resolve.  The
installations and credentials that exist are `linked`. -/
def createApp (w : World) (linked : UUID → Bool) (id : UUID) (arg : CreateAppParams) :
    World × Option App :=
  let conflict := w.apps.rows.any fun a => a.projectID = arg.projectID && a.slug = arg.slug
  if conflict || (w.projects.find? arg.projectID).isNone ||
      !arg.githubInstallationID.all linked || !arg.registryCredentialID.all linked then
    (w, none)
  else
    match w.apps.insert? (arg.row id) with
    | some apps => ({ w with apps := apps }, some (arg.row id))
    | none => (w, none)

structure UpdateAppParams where
  id : UUID
  name : String
  branch : Option String
  rootPath : String
  autoDeploy : Bool
  builder : Builder
  dockerfilePath : String
  port : Int
  healthCheckPath : String
  healthCheckInterval : Int
  healthCheckTimeout : Int
  replicas : Int32
  subdomain : Option String
  customDomain : Option String
  status : AppStatus
  placementStrategy : PlacementStrategy
  placementConstraints : Constraints
  pinnedServerIDs : List UUID
deriving DecidableEq

/-- The row `UPDATE apps` leaves. -/
def UpdateAppParams.row (arg : UpdateAppParams) (a : App) : App :=
  { a with
    name := arg.name
    branch := arg.branch
    rootPath := arg.rootPath
    autoDeploy := arg.autoDeploy
    builder := arg.builder
    dockerfilePath := arg.dockerfilePath
    port := arg.port
    healthCheckPath := arg.healthCheckPath
    healthCheckInterval := arg.healthCheckInterval
    healthCheckTimeout := arg.healthCheckTimeout
    replicas := arg.replicas
    subdomain := arg.subdomain
    customDomain := arg.customDomain
    status := arg.status
    placementStrategy := arg.placementStrategy
    placementConstraints := arg.placementConstraints
    pinnedServerIDs := arg.pinnedServerIDs }

theorem UpdateAppParams.key_row (arg : UpdateAppParams) (a : App) :
    Keyed.key (arg.row a) = Keyed.key a := rfl

/-- `UPDATE apps`; the verification of the domain is another statement. -/
def updateApp (w : World) (arg : UpdateAppParams) : World :=
  { w with apps := w.apps.update arg.id arg.row arg.key_row }

def setAppDomainVerified (w : World) (id : UUID) (domainVerified : Bool) : World :=
  { w with apps := w.apps.update id fun a => { a with domainVerified := domainVerified } }

def setAppDomains (w : World) (id : UUID) (domains : List String) : World :=
  { w with apps := w.apps.update id fun a => { a with domains := domains } }

/-- `UpdateAppScaling`. -/
def updateAppScaling (w : World) (id : UUID) (replicas : Int32) (strategy : PlacementStrategy)
    (constraints : Constraints) (pinned : List UUID) : World × Option App :=
  let scale (a : App) : App :=
    { a with
      replicas := replicas
      placementStrategy := strategy
      placementConstraints := constraints
      pinnedServerIDs := pinned }
  ({ w with apps := w.apps.update id scale }, (w.getApp id).map scale)

/-! ## Environments -/

def listEnvironmentsByProject (w : World) (projectID : UUID) : List Environment :=
  (w.environments.rows.filter fun e => e.projectID = projectID).insertionSort fun a b =>
    a.isProduction && !b.isProduction || (a.isProduction = b.isProduction && a.name ≤ b.name)

/-! ## Autoscaling -/

def listEnabledAutoscalingRulesByApp (w : World) (appID : UUID) : List AutoscalingRule :=
  (w.rules.rows.filter fun r => r.appID = appID && r.enabled).insertionSort
    fun a b => a.createdAt ≤ b.createdAt

def markAutoscalingRuleTriggered (w : World) (id : UUID) : World :=
  { w with rules := w.rules.update id fun r => { r with lastTriggeredAt := some w.now } }

/-- `INSERT INTO scaling_events`; the app, the environment and the deployment must exist. -/
def createScalingEvent (w : World) (event : ScalingEvent) : World × Option ScalingEvent :=
  if (w.apps.find? event.appID).isSome ∧ (w.environments.find? event.environmentID).isSome ∧
      event.deploymentID.all fun id => (w.deployments.find? id).isSome then
    ({ w with scalingEvents := w.scalingEvents ++ [event] }, some event)
  else (w, none)

/-! ## Deployments -/

def updateDeploymentStatus (w : World) (id : UUID) (status : DeploymentStatus)
    (startedAt : Option Nat) (error : Option String) : World :=
  { w with deployments := w.deployments.update id fun d =>
      { d with status := status, startedAt := d.startedAt.or startedAt, error := error } }

def completeDeployment (w : World) (id : UUID) (status : DeploymentStatus)
    (error : Option String) : World :=
  { w with deployments := w.deployments.update id fun d =>
      { d with status := status, completedAt := some w.now, error := error } }

def incrementReplicasReady (w : World) (id : UUID) : World :=
  { w with deployments := w.deployments.update id fun d =>
      { d with replicasReady := d.replicasReady + 1 } }

def setDeploymentPlatformDomain (w : World) (id : UUID) (platformDomain : String) : World :=
  { w with deployments := w.deployments.update id fun d =>
      { d with platformDomain := platformDomain } }

def setDeploymentStatusSimple (w : World) (id : UUID) (status : DeploymentStatus) : World :=
  { w with deployments := w.deployments.update id fun d => { d with status := status } }

theorem getDeployment_setStatus (w : World) (id id' : UUID) (status : DeploymentStatus) :
    (w.setDeploymentStatusSimple id status).getDeployment id' =
      if id' = id then (w.getDeployment id').map fun d => { d with status := status }
      else w.getDeployment id' := by
  rw [getDeployment, setDeploymentStatusSimple, Table.find?_update]

/-- `GetLastHealthyDeployment`. -/
def getLastHealthyDeployment (w : World) (appID environmentID : UUID) : Option Deployment :=
  ((w.deployments.rows.filter fun d =>
    d.appID = appID && d.environmentID = environmentID && d.status = .healthy).insertionSort
      fun a b => b.createdAt ≤ a.createdAt).head?

/-- `INSERT INTO deployments`, with the defaults of the table. -/
def createDeployment (w : World) (id appID environmentID buildID : UUID)
    (replicasDesired : Int) : World × Option Deployment :=
  let d : Deployment :=
    { id := id, appID := appID, environmentID := environmentID, buildID := buildID,
      replicasDesired := replicasDesired, createdAt := w.now }
  match w.deployments.insert? d with
  | some deployments => ({ w with deployments := deployments }, some d)
  | none => (w, none)

/-! ## Deployment targets -/

/-- `INSERT INTO deployment_targets`; `(deployment_id, server_id)` is unique and
both references must resolve. -/
def createDeploymentTarget (w : World) (id deploymentID serverID : UUID) :
    World × Option DeploymentTarget :=
  let t : DeploymentTarget := { id := id, deploymentID := deploymentID, serverID := serverID }
  let conflict := w.targets.rows.any fun r =>
    r.deploymentID = deploymentID && r.serverID = serverID
  if conflict || (w.deployments.find? deploymentID).isNone || (w.servers.find? serverID).isNone then
    (w, none)
  else
    match w.targets.insert? t with
    | some targets => ({ w with targets := targets }, some t)
    | none => (w, none)

/-- `ORDER BY started_at ASC`: a row that never started comes last. -/
def startedBefore (a b : Option Nat) : Bool :=
  match a, b with
  | some a, some b => a ≤ b
  | none, some _ => false
  | _, none => true

def listDeploymentTargets (w : World) (deploymentID : UUID) : List DeploymentTarget :=
  (w.targets.rows.filter fun t =>
    t.deploymentID = deploymentID && (w.servers.find? t.serverID).isSome).insertionSort
      fun a b => startedBefore a.startedAt b.startedAt = true

/-- `UpdateDeploymentTargetStatusParams`; the status is free text until the CHECK. -/
structure TargetStatusParams where
  id : UUID
  status : String
  containerID : Option String := none
  startedAt : Option Nat := none
  healthyAt : Option Nat := none
  stoppedAt : Option Nat := none
  healthCheckAttempts : Int := 0
  error : Option String := none

/-- `UPDATE deployment_targets`; a status the CHECK refuses changes nothing. -/
def updateDeploymentTargetStatus (w : World) (arg : TargetStatusParams) : World :=
  match TargetStatus.ofText arg.status with
  | none => w
  | some status =>
    { w with targets := w.targets.update arg.id fun t =>
        { t with
          status := status
          containerID := arg.containerID.or t.containerID
          startedAt := t.startedAt.or arg.startedAt
          healthyAt := arg.healthyAt
          stoppedAt := arg.stoppedAt
          healthCheckAttempts := arg.healthCheckAttempts
          error := arg.error } }

def setDeploymentTargetEdge (w : World) (id : UUID) (hostPort : Option Int)
    (bindAddress : Option String) : World :=
  { w with targets := w.targets.update id fun t =>
      { t with hostPort := hostPort, bindAddress := bindAddress } }

/-- A row of `ListHealthyContainersByApp`. -/
structure ContainerRow where
  targetID : UUID
  deploymentID : UUID
  containerID : Option String
  serverID : UUID
  agentID : Option String
  createdAt : Nat

/-- The join behind `ListHealthyContainersByApp`: the row of one target. -/
def containerRow (w : World) (appID : UUID) (t : DeploymentTarget) : Option ContainerRow :=
  match w.deployments.find? t.deploymentID, w.servers.find? t.serverID with
  | some d, some s =>
    if d.appID = appID ∧ d.status = .healthy ∧ t.status = .healthy ∧ t.containerID.isSome then
      some ⟨t.id, d.id, t.containerID, t.serverID, s.agentID, d.createdAt⟩
    else none
  | _, _ => none

def listHealthyContainersByApp (w : World) (appID : UUID) : List ContainerRow :=
  (w.targets.rows.filterMap (w.containerRow appID)).insertionSort
    fun a b => b.createdAt ≤ a.createdAt

/-! ## Host ports -/

/-- `generate_series(30000, 32767)`. -/
def portRange : List Int := (List.range 2768).map fun n => 30000 + (n : Int)

/-- A live reservation of `port` on the server. -/
def portTaken (w : World) (serverID : UUID) (port : Int) : Bool :=
  w.ports.any fun a => a.serverID = serverID && a.port = port && a.releasedAt.isNone

/-- The lowest free port of the server, reserved for the target. -/
def allocateServerPort (w : World) (serverID targetID : UUID) : World × Option Int :=
  match portRange.find? fun port => !w.portTaken serverID port with
  | some port => ({ w with ports := ⟨serverID, port, some targetID, none⟩ :: w.ports }, some port)
  | none => (w, none)

theorem allocateServerPort_cases (w : World) (serverID targetID : UUID) :
    w.allocateServerPort serverID targetID = (w, none) ∨
      ∃ port, w.allocateServerPort serverID targetID =
        ({ w with ports := ⟨serverID, port, some targetID, none⟩ :: w.ports }, some port) := by
  unfold allocateServerPort
  split
  · exact .inr ⟨_, rfl⟩
  · exact .inl rfl

def releasePortsByDeploymentTarget (w : World) (targetID : UUID) : World :=
  { w with ports := w.ports.map fun a =>
      if a.deploymentTargetID = some targetID ∧ a.releasedAt = none then
        { a with releasedAt := some w.now }
      else a }

/-! ## Deleting an app -/

/-- The deployment is one of the app's. -/
def deploymentOf (w : World) (appID deploymentID : UUID) : Bool :=
  (w.deployments.find? deploymentID).any fun d => d.appID = appID

/-- The target is of a deployment of the app. -/
def targetOf (w : World) (appID targetID : UUID) : Bool :=
  (w.targets.find? targetID).any fun t => w.deploymentOf appID t.deploymentID

def routeOf (w : World) (appID routeID : UUID) : Bool :=
  (w.routes.find? routeID).any fun r => r.appID = appID

/-- A deployment of another app runs a build of the app. -/
def buildShared (w : World) (appID : UUID) : Bool :=
  w.deployments.rows.any fun d =>
    d.appID ≠ appID && (w.builds.find? d.buildID).any fun b => b.appID = appID

/-- `DELETE FROM apps` with what the foreign keys do: CASCADE takes the rows of the app and
what hangs on them, the port reservations stay with their target set to NULL, and a build
that a deployment of another app names refuses the statement. -/
def deleteApp (w : World) (appID : UUID) : World × Except String Unit :=
  if w.buildShared appID then
    (w, .error "update or delete on table \"builds\" violates foreign key constraint")
  else
    ({ w with
      apps := w.apps.deleteWhere fun a => a.id = appID
      builds := w.builds.deleteWhere fun b => b.appID = appID
      deployments := w.deployments.deleteWhere fun d => d.appID = appID
      targets := w.targets.deleteWhere fun t => w.deploymentOf appID t.deploymentID
      ports := w.ports.map fun a =>
        if a.deploymentTargetID.any (w.targetOf appID) then { a with deploymentTargetID := none }
        else a
      routes := w.routes.deleteWhere fun r => r.appID = appID
      backends := w.backends.deleteWhere fun b =>
        w.routeOf appID b.routeID || w.deploymentOf appID b.deploymentID
      events := w.events.filter fun e => !w.routeOf appID e.routeID
      rules := w.rules.deleteWhere fun r => r.appID = appID
      scalingEvents := (w.scalingEvents.filter fun e => e.appID ≠ appID).map fun e =>
        if e.deploymentID.any (w.deploymentOf appID) then { e with deploymentID := none } else e },
      .ok ())

theorem deleteApp_ok {w : World} {appID : UUID} (done : (w.deleteApp appID).2 = .ok ()) :
    w.buildShared appID = false := by
  unfold deleteApp at done
  split at done
  · cases done
  · next free => exact Bool.eq_false_of_not_eq_true free

/-! ## Servers -/

def listEdgeServersByCluster (w : World) (clusterID : UUID) : List Server :=
  (w.servers.rows.filter fun s =>
    s.clusterID = some clusterID && (s.role = .edge || s.role = .both)).insertionSort
      fun a b => a.createdAt ≤ b.createdAt

/-- `SELECT DISTINCT s.agent_id` over the targets of a deployment. -/
def listDeploymentServers (w : World) (deploymentID : UUID) : List String :=
  ((w.targets.rows.filter fun t => t.deploymentID = deploymentID).filterMap fun t =>
    (w.servers.find? t.serverID).bind Server.agentID).dedup

/-! ## Traffic -/

/-- `INSERT ... ON CONFLICT (app_id, environment_id, domain)`. -/
def ensureTrafficRoute (w : World) (id appID environmentID : UUID) (domain : String) :
    World × Option TrafficRoute :=
  match w.routes.rows.find? fun r =>
      r.appID = appID && r.environmentID = environmentID && r.domain = domain with
  | some r => (w, some r)
  | none =>
    let r : TrafficRoute :=
      { id := id, appID := appID, environmentID := environmentID, domain := domain,
        createdAt := w.now }
    match w.routes.insert? r with
    | some routes => ({ w with routes := routes }, some r)
    | none => (w, none)

/-- `GetTrafficRouteByAppEnvironment`: the newest route of the app there. -/
def getTrafficRouteByAppEnvironment (w : World) (appID environmentID : UUID) :
    Option TrafficRoute :=
  ((w.routes.rows.filter fun r =>
    r.appID = appID && r.environmentID = environmentID).insertionSort
      fun a b => b.createdAt ≤ a.createdAt).head?

/-- `ListTrafficEventsByRoute`, from the first row on. -/
def listTrafficEventsByRoute (w : World) (routeID : UUID) (limit : Nat) : List TrafficEvent :=
  (w.events.filter fun e => e.routeID = routeID).take limit

/-- The inner joins of `ListTrafficBackendsByRoute` find a deployment and its build. -/
def backendJoins (w : World) (b : TrafficBackend) : Bool :=
  (w.deployments.find? b.deploymentID).any fun d => (w.builds.find? d.buildID).isSome

def listTrafficBackendsByRoute (w : World) (routeID : UUID) : List TrafficBackend :=
  (w.backends.rows.filter fun b => b.routeID = routeID && w.backendJoins b).insertionSort
    fun a b => b.createdAt ≤ a.createdAt

/-- The row `(route_id, deployment_id)` of the unique constraint. -/
def backendOf (w : World) (routeID deploymentID : UUID) : Option TrafficBackend :=
  w.backends.rows.find? fun b => b.routeID = routeID && b.deploymentID = deploymentID

/-- `INSERT ... ON CONFLICT (route_id, deployment_id) DO UPDATE SET label, status`:
an existing row keeps its weight. -/
def upsertTrafficBackend (w : World) (id routeID deploymentID : UUID) (label : String)
    (weight : Int) (status : BackendStatus) : World × Option TrafficBackend :=
  match w.backendOf routeID deploymentID with
  | some b =>
    ({ w with backends := w.backends.update b.id fun b =>
        { b with label := label, status := status } },
      some { b with label := label, status := status })
  | none =>
    if (w.routes.find? routeID).isNone || (w.deployments.find? deploymentID).isNone then (w, none)
    else
      let b : TrafficBackend :=
        { id := id, routeID := routeID, deploymentID := deploymentID, label := label,
          weight := weight, status := status, createdAt := w.now }
      match w.backends.insert? b with
      | some backends => ({ w with backends := backends }, some b)
      | none => (w, none)

/-- The row of `traffic_backends` with this id on this route. -/
def backendAt (w : World) (id routeID : UUID) : Option TrafficBackend :=
  (w.backends.find? id).filter fun b => b.routeID = routeID

def updateTrafficBackendWeight (w : World) (id routeID : UUID) (weight : Int) :
    World × Option TrafficBackend :=
  match w.backendAt id routeID with
  | some b =>
    if 0 ≤ weight ∧ weight ≤ 100 then
      ({ w with backends := w.backends.update id fun b => { b with weight := weight } },
        some { b with weight := weight })
    else (w, none)
  | none => (w, none)

def setTrafficBackendStatus (w : World) (id routeID : UUID) (status : BackendStatus) :
    World × Option TrafficBackend :=
  match w.backendAt id routeID with
  | some b =>
    ({ w with backends := w.backends.update id fun b => { b with status := status } },
      some { b with status := status })
  | none => (w, none)

/-- The filter of `ListTrafficBackendsForSync` on one backend. -/
def syncs (w : World) (b : TrafficBackend) : Bool :=
  b.status = .active && 0 < b.weight &&
    (w.deployments.find? b.deploymentID).any fun d => d.status = .healthy

def listTrafficBackendsForSync (w : World) (routeID : UUID) : List TrafficBackend :=
  (w.backends.rows.filter fun b => b.routeID = routeID && w.syncs b).insertionSort
    fun a b => b.createdAt ≤ a.createdAt

def deleteTrafficBackendsByDeployment (w : World) (deploymentID : UUID) : World :=
  { w with backends := w.backends.deleteWhere fun b => b.deploymentID = deploymentID }

def createTrafficEvent (w : World) (event : TrafficEvent) : World :=
  { w with events := event :: w.events }

/-! ## Archival -/

/-- `status IN ('healthy', 'superseded')` for one app and environment. -/
def archivable (appID environmentID : UUID) (d : Deployment) : Bool :=
  d.appID = appID && d.environmentID = environmentID &&
    (d.status = .healthy || d.status = .superseded)

/-- `a` was created after `b`; equal times are told apart by the id. -/
def newer (a b : Deployment) : Prop :=
  b.createdAt < a.createdAt ∨ b.createdAt = a.createdAt ∧ b.id < a.id

instance : DecidableRel newer := fun _ _ => inferInstanceAs (Decidable (_ ∨ _))

/-- The inner SELECT: the `keep` newest of them. -/
def rollbackWindow (w : World) (appID environmentID : UUID) (keep : Int) : List Deployment :=
  ((w.deployments.rows.filter (archivable appID environmentID)).insertionSort
    fun a b => ¬ newer b a).take keep.toNat

/-- A row of `ListArchivableDeploymentsByApp`. -/
structure ArchivableRow where
  id : UUID
  imageTag : String
deriving DecidableEq

def listArchivableDeploymentsByApp (w : World) (appID environmentID : UUID) (keep : Int) :
    List ArchivableRow :=
  ((w.deployments.rows.filter fun d => archivable appID environmentID d &&
      (w.builds.find? d.buildID).isSome &&
      !(w.rollbackWindow appID environmentID keep).any fun kept => kept.id = d.id).insertionSort
        fun a b => a.createdAt ≤ b.createdAt).filterMap fun d =>
    (w.builds.find? d.buildID).map fun b => ⟨d.id, b.imageTag⟩

def listKeptImageTagsByApp (w : World) (appID environmentID : UUID) : List String :=
  ((w.deployments.rows.filter (archivable appID environmentID)).filterMap fun d =>
    (w.builds.find? d.buildID).bind fun b =>
      if b.imageTag = "" then none else some b.imageTag).dedup

end World

end Nixway.Store
