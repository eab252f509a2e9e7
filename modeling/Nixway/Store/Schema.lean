/-
# Store.Schema -- the rows the deploy path reads and writes

The tables of `sql/migrations` that deployments, traffic routing and the agents'
reports touch, with the columns those functions use.  A column with a CHECK
constraint is an inductive type with the admitted values, a nullable column is
an `Option`, a point on the database's clock is a natural number, and a primary
key is a field of `Theory.Table`.

The control plane's volatile state stands beside the tables: the connections of
`ConnManager`, the messages handed to agents, the goroutines started and the
environment maps a deploy shares with its goroutines.
-/
import Nixway.Theory.Table

namespace Nixway.Store

open Nixway.Theory

set_option autoImplicit false

/-! ## Identifiers -/

/-- A UUID, as its 128 bits. -/
abbrev UUID := BitVec 128

instance : LawfulBEq UUID := inferInstance

namespace UUID

/-- The 32 hexadecimal digits, most significant first. -/
def digits (id : UUID) : List Char :=
  (List.range 32).map fun i => Nat.digitChar (id.toNat / 16 ^ (31 - i) % 16)

/-- `id.String()`: five groups separated by dashes. -/
def text (id : UUID) : String :=
  let d := id.digits
  String.ofList (d.take 8 ++ '-' :: (d.drop 8).take 4 ++ '-' :: (d.drop 12).take 4 ++
    '-' :: (d.drop 16).take 4 ++ '-' :: d.drop 20)

/-- `id.String()[:8]`. -/
def short (id : UUID) : String := String.ofList (id.digits.take 8)

/-- `uuid.Nil`. -/
def nil : UUID := 0

end UUID

/-! ## Rows -/

structure Team where
  id : UUID
  slug : String

structure Project where
  id : UUID
  teamID : UUID
  clusterID : UUID
  name : String
  slug : String
deriving DecidableEq

/-- The placement constraints of an app: tags a server must and must not carry. -/
structure Constraints where
  mustHave : List (String × String) := []
  mustNotHave : List (String × String) := []
deriving DecidableEq

/-- `apps.placement_strategy`. -/
inductive PlacementStrategy where
  | spread | binpack | pinned
deriving DecidableEq

def PlacementStrategy.text : PlacementStrategy → String
  | .spread => "spread"
  | .binpack => "binpack"
  | .pinned => "pinned"

def PlacementStrategy.ofText : String → Option PlacementStrategy
  | "spread" => some .spread
  | "binpack" => some .binpack
  | "pinned" => some .pinned
  | _ => none

/-- `apps.source_type`. -/
inductive SourceType where
  | github | dockerImage
deriving DecidableEq

def SourceType.ofText : String → Option SourceType
  | "github" => some .github
  | "docker_image" => some .dockerImage
  | _ => none

/-- `apps.builder`. -/
inductive Builder where
  | auto | dockerfile | nixpacks | buildpacks | railpack
deriving DecidableEq

def Builder.ofText : String → Option Builder
  | "auto" => some .auto
  | "dockerfile" => some .dockerfile
  | "nixpacks" => some .nixpacks
  | "buildpacks" => some .buildpacks
  | "railpack" => some .railpack
  | _ => none

/-- `apps.status`. -/
inductive AppStatus where
  | active | paused | stopped
deriving DecidableEq

def AppStatus.ofText : String → Option AppStatus
  | "active" => some .active
  | "paused" => some .paused
  | "stopped" => some .stopped
  | _ => none

structure App where
  id : UUID
  projectID : UUID
  name : String
  slug : String
  sourceType : SourceType := .github
  githubInstallationID : Option UUID := none
  repoFullName : Option String := none
  branch : Option String := none
  rootPath : String := "/"
  autoDeploy : Bool := true
  dockerImage : Option String := none
  registryCredentialID : Option UUID := none
  builder : Builder := .auto
  dockerfilePath : String := "Dockerfile"
  port : Int := 8080
  healthCheckPath : String := "/healthz"
  healthCheckInterval : Int := 5
  healthCheckTimeout : Int := 60
  customDomain : Option String := none
  domainVerified : Bool := false
  domains : List String := []
  memoryLimitMb : Int := 0
  cpuLimitMillicores : Int := 0
  replicas : Int32 := 1
  placementStrategy : PlacementStrategy := .spread
  placementConstraints : Constraints := {}
  pinnedServerIDs : List UUID := []
  subdomain : Option String := none
  status : AppStatus := .active
deriving DecidableEq

structure Environment where
  id : UUID
  projectID : UUID
  name : String
  slug : String
  isProduction : Bool := false

structure Build where
  id : UUID
  commitSha : String := ""
  imageTag : String := ""
  appID : UUID := 0
deriving DecidableEq

/-- `servers.role`. -/
inductive ServerRole where
  | worker | edge | both
deriving DecidableEq

structure Server where
  id : UUID
  teamID : UUID
  clusterID : Option UUID := none
  agentID : Option String := none
  publicIp : String := ""
  role : ServerRole := .worker
  createdAt : Nat := 0
deriving DecidableEq

/-- A row of `ListClusterMembers`. -/
structure ClusterMember where
  serverID : UUID
  serverName : String := ""
  wireguardIp : String := ""
deriving DecidableEq

/-- `deployments.status`, with the values migration 17 admits. -/
inductive DeploymentStatus where
  | pending | deploying | healthy | degraded | failed | rolledBack | superseded | archived
deriving DecidableEq

structure Deployment where
  id : UUID
  appID : UUID
  environmentID : UUID
  buildID : UUID
  replicasDesired : Int := 1
  replicasReady : Int := 0
  status : DeploymentStatus := .pending
  startedAt : Option Nat := none
  completedAt : Option Nat := none
  error : Option String := none
  createdAt : Nat := 0
  platformDomain : String := ""
deriving DecidableEq

/-- `deployment_targets.status`. -/
inductive TargetStatus where
  | pending | pulling | starting | healthy | unhealthy | stopped | failed
deriving DecidableEq

/-- The CHECK of `deployment_targets.status`: the text of an admitted value. -/
def TargetStatus.ofText : String → Option TargetStatus
  | "pending" => some .pending
  | "pulling" => some .pulling
  | "starting" => some .starting
  | "healthy" => some .healthy
  | "unhealthy" => some .unhealthy
  | "stopped" => some .stopped
  | "failed" => some .failed
  | _ => none

structure DeploymentTarget where
  id : UUID
  deploymentID : UUID
  serverID : UUID
  containerID : Option String := none
  status : TargetStatus := .pending
  startedAt : Option Nat := none
  healthyAt : Option Nat := none
  stoppedAt : Option Nat := none
  healthCheckAttempts : Int := 0
  error : Option String := none
  hostPort : Option Int := none
  bindAddress : Option String := none
deriving DecidableEq

structure ServerPortAllocation where
  serverID : UUID
  port : Int
  deploymentTargetID : Option UUID
  releasedAt : Option Nat := none
deriving DecidableEq

structure TrafficRoute where
  id : UUID
  appID : UUID
  environmentID : UUID
  domain : String
  createdAt : Nat := 0
deriving DecidableEq

/-- `traffic_backends.status`. -/
inductive BackendStatus where
  | active | draining | disabled
deriving DecidableEq

structure TrafficBackend where
  id : UUID
  routeID : UUID
  deploymentID : UUID
  label : String := ""
  weight : Int := 0
  status : BackendStatus := .active
  createdAt : Nat := 0
deriving DecidableEq

structure TrafficEvent where
  routeID : UUID
  actorType : String
  eventType : String
  message : String
deriving DecidableEq

/-! ## Autoscaling -/

/-- A value of a DOUBLE PRECISION column. -/
inductive Double where
  | nan | negInf | finite (value : Rat) | posInf
deriving DecidableEq

/-- `a < b` on doubles; every comparison with a NaN is false. -/
def Double.lt : Double → Double → Bool
  | .nan, _ => false
  | _, .nan => false
  | _, .negInf => false
  | .negInf, _ => true
  | .posInf, _ => false
  | _, .posInf => true
  | .finite a, .finite b => a < b

/-- `a <= b` on doubles. -/
def Double.le (a b : Double) : Bool := a.lt b || (a = b && a ≠ .nan)

/-- `autoscaling_rules.comparison`. -/
inductive Comparison where
  | gt | gte | lt | lte
deriving DecidableEq

/-- `autoscaling_rules.action_type`. -/
inductive ActionType where
  | scaleBy | scaleTo
deriving DecidableEq

structure AutoscalingRule where
  id : UUID
  appID : UUID
  name : String := ""
  metricName : String := "cpu_percent"
  comparison : Comparison := .gt
  threshold : Double
  durationSeconds : Int32 := 120
  actionType : ActionType := .scaleBy
  actionValue : Int32 := 1
  minReplicas : Int32 := 1
  maxReplicas : Int32 := 10
  cooldownUpSeconds : Int32 := 60
  cooldownDownSeconds : Int32 := 300
  enabled : Bool := true
  lastTriggeredAt : Option Nat := none
  createdAt : Nat := 0
deriving DecidableEq

/-- A row of `GetAverageMetricsForApp`. -/
structure AverageMetrics where
  cpuPercent : Double := .finite 0
  memoryPercent : Double := .finite 0
  sampleCount : Int32 := 0

structure ScalingEvent where
  appID : UUID
  environmentID : UUID
  deploymentID : Option UUID
  actorType : String
  eventType : String
  fromReplicas : Int32
  toReplicas : Int32
  placementStrategy : String
  metricName : Option String
  metricValue : Option Double
  ruleName : Option String
  message : String
deriving DecidableEq

/-- A call of `ScaleApp` by the autoscaler: the rule as the pass read it, the count
the pass took for current, and the count it asked for. -/
structure ScaleCall where
  rule : AutoscalingRule
  current : Int32
  requested : Int32
  calledAt : Nat
deriving DecidableEq

/-! ## Custom domains -/

/-- What happened to `apps.custom_domain`: it was changed to this string, or
`VerifyDomain` succeeded for this string. -/
inductive DomainEvent where
  | changed (appID : UUID) (domain : String)
  | verified (appID : UUID) (domain : String)
deriving DecidableEq

instance : Keyed Environment UUID := ⟨Environment.id⟩
instance : Keyed AutoscalingRule UUID := ⟨AutoscalingRule.id⟩
instance : Keyed Team UUID := ⟨Team.id⟩
instance : Keyed Project UUID := ⟨Project.id⟩
instance : Keyed App UUID := ⟨App.id⟩
instance : Keyed Build UUID := ⟨Build.id⟩
instance : Keyed Server UUID := ⟨Server.id⟩
instance : Keyed Deployment UUID := ⟨Deployment.id⟩
instance : Keyed DeploymentTarget UUID := ⟨DeploymentTarget.id⟩
instance : Keyed TrafficRoute UUID := ⟨TrafficRoute.id⟩
instance : Keyed TrafficBackend UUID := ⟨TrafficBackend.id⟩

@[simp] theorem key_deployment (d : Deployment) : Keyed.key d = d.id := rfl
@[simp] theorem key_target (t : DeploymentTarget) : Keyed.key t = t.id := rfl
@[simp] theorem key_route (r : TrafficRoute) : Keyed.key r = r.id := rfl
@[simp] theorem key_backend (b : TrafficBackend) : Keyed.key b = b.id := rfl
@[simp] theorem key_server (s : Server) : Keyed.key s = s.id := rfl
@[simp] theorem key_app (a : App) : Keyed.key a = a.id := rfl
@[simp] theorem key_build (b : Build) : Keyed.key b = b.id := rfl

/-! ## Messages to agents -/

structure TraefikConfig where
  appSlug : String
  domains : List String
  tls : Bool := false
  port : Int
deriving DecidableEq

/-- An environment map, in assignment order. -/
abbrev EnvMap := List (String × String)

structure DeployCommand where
  deployID : UUID
  targetID : UUID
  imageTag : String
  containerName : String
  port : Int
  env : EnvMap
  healthCheckPath : String
  healthCheckIntervalSeconds : Int
  healthCheckTimeoutSeconds : Int
  traefik : TraefikConfig
  memoryLimitMb : Int
  cpuLimitMillicores : Int
  labels : EnvMap
deriving DecidableEq

structure StopContainerCommand where
  containerName : String
  timeoutSeconds : Int
  removeTraefik : Bool
  appSlug : String
deriving DecidableEq

structure TrafficBackendGroup where
  name : String
  weight : Int
  urls : List String
deriving DecidableEq

structure TrafficRouteCommand where
  appSlug : String
  domains : List String
  tls : Bool := false
  groups : List TrafficBackendGroup
deriving DecidableEq

structure ExecCommand where
  commandID : String
  command : String
  args : List String
deriving DecidableEq

inductive ControlMessage where
  | deployCommand (cmd : DeployCommand)
  | stopContainer (cmd : StopContainerCommand)
  | trafficRoute (cmd : TrafficRouteCommand)
  | execCommand (cmd : ExecCommand)
deriving DecidableEq

/-! ## Volatile state of the control plane -/

/-- `ConnState.Status`. -/
inductive AgentStatus where
  | online | degraded | offline
deriving DecidableEq

/-- The stream of a connected agent: none stored yet, one on which `Send` fails
with this error, or one on which it succeeds. -/
inductive AgentStream where
  | missing | broken (error : String) | live
deriving DecidableEq

structure ConnState where
  agentID : String
  status : AgentStatus := .online
  stream : AgentStream := .live
deriving DecidableEq

instance : Keyed ConnState String := ⟨ConnState.agentID⟩

/-- A goroutine started with `go`, with the arguments it captured. -/
inductive Goroutine where
  | dispatchDeploy (deployment : Deployment) (target : DeploymentTarget) (build : Build)
      (app : App) (project : Project) (member : ClusterMember)
  | ensureTrafficForDeployment (deploymentID : UUID)
  | stopSupersededAfterDrain (deploymentID : UUID)
  | archiveOldDeployments (appID envID : UUID) (keep : Int)
deriving DecidableEq

/-- The database together with the control plane's own state. -/
structure World where
  now : Nat := 0
  teams : Table Team := .empty
  projects : Table Project := .empty
  apps : Table App := .empty
  builds : Table Build := .empty
  servers : Table Server := .empty
  deployments : Table Deployment := .empty
  targets : Table DeploymentTarget := .empty
  ports : List ServerPortAllocation := []
  routes : Table TrafficRoute := .empty
  backends : Table TrafficBackend := .empty
  events : List TrafficEvent := []
  /-- Deploy ids a database provision is waiting for (`pendingDeploy`). -/
  pendingDeploy : List UUID := []
  agents : Table ConnState := .empty
  sent : List (String × ControlMessage) := []
  started : List Goroutine := []
  environments : Table Environment := .empty
  rules : Table AutoscalingRule := .empty
  /-- What `GetAverageMetricsForApp` answers now. -/
  averageMetrics : UUID → AverageMetrics := fun _ => {}
  scalingEvents : List ScalingEvent := []
  /-- The calls of `ScaleApp` the autoscaler made, in order. -/
  scaleCalls : List ScaleCall := []
  /-- Those that returned no error, with the time they did, in that order. -/
  scaled : List (ScaleCall × Nat) := []
  /-- The environment map of each deploy, shared by its dispatch goroutines; that two of them may
  not assign at a time is left to `Deploy.Checked`. -/
  envVars : List (UUID × EnvMap) := []
  /-- The changes and verifications of custom domains, in order. -/
  domainLog : List DomainEvent := []

end Nixway.Store
