/-
# Deploy.Dispatch -- TriggerDeploy and its dispatch goroutines

`launchDeploy` is the part of `TriggerDeploy` from the INSERT of the deployment
on: the targets are chosen, and the environment is resolved.  The loop starts one
`dispatchDeploy` per target while it goes on, and the closing status write comes
after the last of them was started.

The environment map is one map shared by all the goroutines of a deploy.  Each
assignment to it is a step, and the map of a command is read when the command is
sent, since that is when it is encoded.
-/
import Nixway.Deploy.Traffic

namespace Nixway.Deploy

open Nixway.Theory Nixway.Store
open Nixway.Theory.Prog (query exec atomic forEach)

set_option autoImplicit false

/-- `scheduledTarget`. -/
structure ScheduledTarget where
  member : ClusterMember
  reason : String := ""

/-! ## The shared environment map -/

/-- Assignment to a map: an existing key is overwritten in place. -/
def EnvMap.assign (key value : String) : EnvMap → EnvMap
  | [] => [(key, value)]
  | entry :: rest =>
    if entry.1 = key then (key, value) :: rest else entry :: EnvMap.assign key value rest

/-- The map of a deploy. -/
def envOf (w : World) (deploymentID : UUID) : EnvMap :=
  ((w.envVars.find? fun entry => entry.1 = deploymentID).map Prod.snd).getD []

/-- `envVars[key] = value`. -/
def assignEnv (deploymentID : UUID) (key value : String) (w : World) : World :=
  { w with envVars := w.envVars.map fun entry =>
      if entry.1 = deploymentID then (entry.1, EnvMap.assign key value entry.2) else entry }

/-- The platform variables, in the order they are assigned. -/
def platformEnv (deployment : Deployment) (build : Build) (app : App) (project : Project)
    (member : ClusterMember) (domain : String) : EnvMap :=
  [("PORT", toString app.port),
   ("PLATFORM_PUBLIC_DOMAIN", domain),
   ("PLATFORM_PRIVATE_IP", member.wireguardIp),
   ("PLATFORM_PRIVATE_DOMAIN", app.slug ++ "." ++ project.slug ++ ".cluster.internal"),
   ("CLUSTER_NAME", project.clusterID.text),
   ("PROJECT_NAME", project.name),
   ("APP_NAME", app.name),
   ("ENVIRONMENT", deployment.environmentID.text),
   ("DEPLOY_ID", deployment.id.text),
   ("GIT_SHA", build.commitSha)]

def deployLabels (deployment : Deployment) (target : DeploymentTarget) (app : App)
    (project : Project) : EnvMap :=
  [("nixway.managed", "true"),
   ("nixway.app_id", app.id.text),
   ("nixway.app_slug", app.slug),
   ("nixway.project_id", project.id.text),
   ("nixway.cluster_id", project.clusterID.text),
   ("nixway.deployment_id", deployment.id.text),
   ("nixway.target_id", target.id.text),
   ("nixway.environment_id", deployment.environmentID.text)]

/-! ## dispatchDeploy -/

def failTarget (targetID : UUID) (errMsg : String) : Prog World Unit :=
  exec fun w => w.updateDeploymentTargetStatus
    { id := targetID, status := "failed", error := some errMsg }

/-- The Host values of the replica's own Traefik file: the platform domain and the
custom domain. -/
def deployDomains (app : App) (platform : String) : List String :=
  match app.customDomain with
  | some domain => if domain ≠ "" then [platform, domain] else [platform]
  | none => [platform]

theorem mem_deployDomains {app : App} {platform d : String} :
    d ∈ deployDomains app platform ↔ d = platform ∨ d ≠ "" ∧ app.customDomain = some d := by
  unfold deployDomains
  split
  · next domain custom =>
    split
    · simp only [custom, List.mem_cons, List.not_mem_nil, Option.some.injEq, eq_comm (a := domain)]
      grind -ring -linarith
    · grind -ring -linarith
  · simp_all

def deployCommand (deployment : Deployment) (target : DeploymentTarget) (build : Build)
    (app : App) (platform : String) (labels env : EnvMap) : DeployCommand :=
  { deployID := deployment.id
    targetID := target.id
    imageTag := build.imageTag
    containerName := containerName app.slug deployment.id
    port := app.port
    env := env
    healthCheckPath := app.healthCheckPath
    healthCheckIntervalSeconds := app.healthCheckInterval
    healthCheckTimeoutSeconds := app.healthCheckTimeout
    traefik :=
      { appSlug := app.slug, domains := deployDomains app platform, tls := false, port := app.port }
    memoryLimitMb := app.memoryLimitMb
    cpuLimitMillicores := app.cpuLimitMillicores
    labels := labels }

/-- Hand the command to the agent; an error fails the target. -/
def sendDeployCommand (deployment : Deployment) (target : DeploymentTarget) (build : Build)
    (app : App) (member : ClusterMember) (platform : String) (labels : EnvMap) :
    Prog World Unit := do
  match ← atomic fun w => sendToAgent member.serverID.text
      (.deployCommand (deployCommand deployment target build app platform labels
        (envOf w deployment.id))) w with
  | .ok () => return
  | .error err => failTarget target.id ("failed to send deploy command: " ++ err)

/-- With edge servers in the cluster the replica gets a host port on the mesh. -/
def exposeAndSend (deployment : Deployment) (target : DeploymentTarget) (build : Build)
    (app : App) (project : Project) (member : ClusterMember) (platform : String) :
    Prog World Unit := do
  let some port ← atomic fun w => w.allocateServerPort member.serverID target.id
    | failTarget target.id "allocate host port: no rows in result set"
  exec fun w => w.setDeploymentTargetEdge target.id (some port) (some member.wireguardIp)
  sendDeployCommand deployment target build app member platform
    (deployLabels deployment target app project ++
      [("nixway.host_port", toString port), ("nixway.bind_address", member.wireguardIp)])

/-- Everything after the platform domain is known. -/
def prepareAndSend (deployment : Deployment) (target : DeploymentTarget) (build : Build)
    (app : App) (project : Project) (member : ClusterMember) (platform : String)
    (edgeEnabled : Bool) : Prog World Unit := do
  exec fun w => w.setDeploymentPlatformDomain deployment.id platform
  forEach (platformEnv deployment build app project member platform) fun entry =>
    exec (assignEnv deployment.id entry.1 entry.2)
  if edgeEnabled then
    exposeAndSend deployment target build app project member platform
  else
    sendDeployCommand deployment target build app member platform
      (deployLabels deployment target app project)

/-- The address the platform domain resolves to: the first edge server of the
cluster, else the server itself; an unknown server prints as `invalid IP`. -/
def servingIP (edges : List Server) (srv : Option Server) : String :=
  match edges with
  | edge :: _ => edge.publicIp
  | [] => match srv with
    | some srv => srv.publicIp
    | none => "invalid IP"

/-- `GetState(agentID)` finds the agent with status 'online'. -/
def agentOnline (w : World) (agentID : String) : Bool :=
  (w.agents.find? agentID).any fun state => state.status = .online

def dispatchDeploy (dns : DnsConfig) (deployment : Deployment) (target : DeploymentTarget)
    (build : Build) (app : App) (project : Project) (member : ClusterMember) :
    Prog World Unit := do
  let online ← query fun w => agentOnline w member.serverID.text
  if online then
    let team ← query fun w => w.getTeamByID project.teamID
    let srv ← query fun w => w.getServerByID member.serverID project.teamID
    let edges ← query fun w => w.listEdgeServersByCluster project.clusterID
    let teamSlug := (team.map Team.slug).getD ""
    let platform := platformDomain dns app.slug project.slug teamSlug (servingIP edges srv)
    prepareAndSend deployment target build app project member platform (edges ≠ [])
  else
    failTarget target.id "agent not online"

/-- The effects of a dispatch goroutine; its sends and its domain are for a platform
domain it has built. -/
structure DispatchEffects (dns : DnsConfig) (deployment : Deployment) (target : DeploymentTarget)
    (build : Build) (app : App) (project : Project) (member : ClusterMember)
    (P : (World → World) → Prop) : Prop where
  reads : P id
  fails : ∀ msg, P fun w => w.updateDeploymentTargetStatus
    { id := target.id, status := "failed", error := some msg }
  assigns : ∀ key value, P (assignEnv deployment.id key value)
  allocates : P fun w => (w.allocateServerPort member.serverID target.id).1
  binds : ∀ port, P fun w => w.setDeploymentTargetEdge target.id (some port) (some member.wireguardIp)
  domains : ∀ teamSlug publicIP, P fun w => w.setDeploymentPlatformDomain deployment.id
    (platformDomain dns app.slug project.slug teamSlug publicIP)
  sends : ∀ teamSlug publicIP labels, P fun w => (sendToAgent member.serverID.text
    (.deployCommand (deployCommand deployment target build app
      (platformDomain dns app.slug project.slug teamSlug publicIP) labels
      (envOf w deployment.id))) w).1

theorem dispatchDeploy_every {dns : DnsConfig} {deployment : Deployment}
    {target : DeploymentTarget} {build : Build} {app : App} {project : Project}
    {member : ClusterMember} {P : (World → World) → Prop}
    (effects : DispatchEffects dns deployment target build app project member P) :
    (dispatchDeploy dns deployment target build app project member).Every P := by
  have read : ∀ {α : Type} (f : World → α), (query f).Every P := fun f =>
    (Prog.every_query f).mpr effects.reads
  have failing : ∀ msg, (failTarget target.id msg).Every P := fun msg =>
    (Prog.every_exec _).mpr (effects.fails msg)
  have sending : ∀ teamSlug publicIP labels,
      (sendDeployCommand deployment target build app member
        (platformDomain dns app.slug project.slug teamSlug publicIP) labels).Every P := by
    intro teamSlug publicIP labels
    refine Prog.Every.bind ((Prog.every_atomic _).mpr (effects.sends _ _ _)) fun answer => ?_
    cases answer with
    | ok _ => trivial
    | error err => exact failing _
  refine Prog.Every.bind (read _) fun online => ?_
  cases online with
  | false => exact failing _
  | true =>
    refine Prog.Every.bind (read _) fun team => Prog.Every.bind (read _) fun srv =>
      Prog.Every.bind (read _) fun edges => ?_
    refine Prog.Every.bind ((Prog.every_exec _).mpr (effects.domains _ _)) fun _ =>
      Prog.Every.bind (Prog.Every.forEach _ fun entry _ =>
        (Prog.every_exec _).mpr (effects.assigns _ _)) fun _ => ?_
    split
    · refine Prog.Every.bind ((Prog.every_atomic _).mpr effects.allocates) fun port => ?_
      cases port with
      | none => exact failing _
      | some port =>
        exact Prog.Every.bind ((Prog.every_exec _).mpr (effects.binds port)) fun _ =>
          sending _ _ _
    · exact sending _ _ _

/-! ## TriggerDeploy -/

/-- What `TriggerDeploy` has decided when it inserts the deployment; the ids are
the ones the INSERTs draw. -/
structure Launch where
  deploymentID : UUID
  environmentID : UUID
  build : Build
  app : App
  project : Project
  env : EnvMap := []
  targets : List (UUID × ScheduledTarget)

/-- The closing status write. -/
def closeLaunch (deployment : Deployment) : Prog World (Except String Deployment) := do
  exec fun w => w.updateDeploymentStatus deployment.id .deploying (some w.now) none
  return .ok deployment

/-- The loop over the scheduled targets, up to the closing write. -/
def launchTargets (launch : Launch) (deployment : Deployment) :
    List (UUID × ScheduledTarget) → Prog World (Except String Deployment)
  | [] => closeLaunch deployment
  | (targetID, scheduled) :: rest => do
    let some target ← atomic fun w =>
        w.createDeploymentTarget targetID deployment.id scheduled.member.serverID
      | return .error "create target"
    go (.dispatchDeploy deployment target launch.build launch.app launch.project scheduled.member)
    launchTargets launch deployment rest

/-- `CreateDeployment`, together with the map that was built for it. -/
def createLaunched (launch : Launch) (w : World) : World × Option Deployment :=
  match w.createDeployment launch.deploymentID launch.app.id launch.environmentID launch.build.id
      launch.targets.length with
  | (w, some deployment) =>
    ({ w with envVars := (deployment.id, launch.env) :: w.envVars }, some deployment)
  | (w, none) => (w, none)

def launchDeploy (launch : Launch) : Prog World (Except String Deployment) := do
  let some deployment ← atomic (createLaunched launch)
    | return .error "create deployment"
  launchTargets launch deployment launch.targets

end Nixway.Deploy
