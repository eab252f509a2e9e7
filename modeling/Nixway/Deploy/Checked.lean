/-
# Deploy.Checked -- the operations of a deploy that could panic

The goroutines of `internal/deploy/service.go` once more, with every dereference, index and
slice they perform, each behind the guard the source puts before it.  A function here has
the name of the one it checks.  `goroutine_guarded` and `triggerDeploy_guarded` say that the
guards are enough: whatever rows the statements find, the checked programs are the plain
ones.

What no guard covers is the environment map that the goroutines of one deploy share: `Clashes`.
-/
import Nixway.Deploy.Schedule
import Nixway.Theory.Panics

namespace Nixway.Deploy.Checked

open Nixway.Theory Nixway.Store
open Nixway.Theory.Panic (deref index sliceTo both readOr)
open Nixway.Theory.Prog (query exec atomic)
open Nixway.Theory.Risky (ofProg op Guarded)

set_option autoImplicit false

/-! ## Names and domains -/

/-- `id.String()[:8]`. -/
def short (id : UUID) : Except Panic (List UInt8) := sliceTo id.text 8

theorem eight_le_text (id : UUID) : 8 ≤ id.text.utf8ByteSize := by
  refine le_trans ?_ (length_le_utf8ByteSize _)
  simp [UUID.digits]

theorem short_ok (id : UUID) : short id = .ok (id.text.toUTF8.data.toList.take 8) :=
  Panic.sliceTo_of_le (eight_le_text id)

def fallbackDomain (app : App) (deployment : Deployment) : Except Panic String :=
  if deployment.platformDomain ≠ "" then .ok deployment.platformDomain
  else do
    let first ← both (0 < app.domains.length) do
      let first ← index app.domains 0
      return first ≠ ""
    if first then index app.domains 0 else return ""

def trafficDomain (app : App) (deployment : Deployment) : Except Panic String := do
  let custom ← both app.customDomain.isSome do
    let domain ← deref app.customDomain
    return domain ≠ "" && app.domainVerified
  if custom then deref app.customDomain else fallbackDomain app deployment

theorem fallbackDomain_ok (app : App) (deployment : Deployment) :
    fallbackDomain app deployment = .ok (Deploy.trafficDomain.fallback app deployment) := by
  unfold fallbackDomain Deploy.trafficDomain.fallback
  split
  · rfl
  · cases app.domains with
    | nil => rfl
    | cons first rest => by_cases blank : first = "" <;> simp [blank] <;> rfl

theorem trafficDomain_ok (app : App) (deployment : Deployment) :
    trafficDomain app deployment = .ok (Deploy.trafficDomain app deployment) := by
  unfold trafficDomain Deploy.trafficDomain
  rw [fallbackDomain_ok]
  cases app.customDomain with
  | none => rfl
  | some domain =>
    by_cases blank : domain = "" <;> cases app.domainVerified <;> simp [blank] <;> rfl

/-- The calls of `add`, one for each domain. -/
def trafficDomains (app : App) (route : TrafficRoute) : Except Panic (List String) := do
  let withRoute := addDomain [] route.domain
  let withCustom ←
    if app.customDomain.isSome && app.domainVerified then
      (deref app.customDomain).map (addDomain withRoute)
    else .ok withRoute
  return app.domains.foldl addDomain withCustom

theorem trafficDomains_ok (app : App) (route : TrafficRoute) :
    trafficDomains app route = .ok (Deploy.trafficDomains app route) := by
  unfold trafficDomains Deploy.trafficDomains
  cases app.customDomain with
  | none => rfl
  | some domain => cases app.domainVerified <;> rfl

def shortSHA (sha : String) : Except Panic (List UInt8) :=
  if sha.utf8ByteSize ≤ 7 then .ok sha.toUTF8.data.toList else sliceTo sha 7

theorem shortSHA_ok (sha : String) : shortSHA sha = .ok (sha.toUTF8.data.toList.take 7) := by
  unfold shortSHA
  split
  · next few =>
    have all : sha.toUTF8.data.toList.length ≤ 7 := few
    rw [List.take_of_length_le all]
  · next many => exact Panic.sliceTo_of_le (by omega)

def deployDomains (app : App) (platform : String) : Except Panic (List String) := do
  let custom ← both app.customDomain.isSome do
    let domain ← deref app.customDomain
    return domain ≠ ""
  if custom then
    let domain ← deref app.customDomain
    return [platform, domain]
  else
    return [platform]

theorem deployDomains_ok (app : App) (platform : String) :
    deployDomains app platform = .ok (Deploy.deployDomains app platform) := by
  unfold deployDomains Deploy.deployDomains
  cases app.customDomain with
  | none => rfl
  | some domain => by_cases blank : domain = "" <;> simp [blank] <;> rfl

/-! ## SyncTrafficRoute -/

def edgeURLs : List DeploymentTarget → Except Panic (List String)
  | [] => .ok []
  | t :: rest =>
    if t.status ≠ .healthy || t.hostPort.isNone || t.bindAddress.isNone then edgeURLs rest
    else do
      let address ← deref t.bindAddress
      let port ← deref t.hostPort
      let urls ← edgeURLs rest
      return httpURL address port :: urls

theorem edgeURLs_ok (targets : List DeploymentTarget) :
    edgeURLs targets = .ok (Deploy.edgeURLs targets) := by
  induction targets with
  | nil => rfl
  | cons t rest ih =>
    unfold edgeURLs
    rw [ih]
    unfold Deploy.edgeURLs
    cases port : t.hostPort with
    | none => by_cases healthy : t.status = .healthy <;> simp [healthy, port]
    | some port' =>
      cases address : t.bindAddress with
      | none => by_cases healthy : t.status = .healthy <;> simp [healthy, address]
      | some address' =>
        by_cases healthy : t.status = .healthy
        · simp [healthy, port, address]
          rfl
        · simp [healthy]

/-- The group of one backend, if it has a reachable replica. -/
def edgeGroup (app : App) (backend : TrafficBackend) (targets : List DeploymentTarget) :
    Except Panic (Option TrafficBackendGroup) := do
  let urls ← edgeURLs targets
  if urls = [] then return none
  let _ ← short backend.deploymentID
  return some ⟨trafficServiceName app.slug backend.label backend.deploymentID, backend.weight, urls⟩

theorem edgeGroup_ok (app : App) (backend : TrafficBackend) (targets : List DeploymentTarget) :
    edgeGroup app backend targets = .ok (if Deploy.edgeURLs targets = [] then none
      else some ⟨trafficServiceName app.slug backend.label backend.deploymentID, backend.weight,
        Deploy.edgeURLs targets⟩) := by
  unfold edgeGroup
  rw [edgeURLs_ok, short_ok]
  show (if Deploy.edgeURLs targets = [] then Except.ok none else Except.ok (some _)) = _
  split <;> rfl

def edgeGroups (app : App) : List TrafficBackend → Risky World (List TrafficBackendGroup)
  | [] => return []
  | backend :: rest => do
    let targets ← ofProg (query fun w => w.listDeploymentTargets backend.deploymentID)
    let group ← op (edgeGroup app backend targets)
    let groups ← edgeGroups app rest
    return group.toList ++ groups

theorem edgeGroups_guarded (app : App) (backends : List TrafficBackend) :
    Guarded (edgeGroups app backends) (Deploy.edgeGroups app backends) := by
  induction backends with
  | nil => exact Guarded.done []
  | cons backend rest ih =>
    refine Guarded.bind (Guarded.ofProg _) fun targets =>
      Guarded.op (edgeGroup_ok app backend targets) (Guarded.bind ih fun groups => ?_)
    by_cases empty : Deploy.edgeURLs targets = []
    · simp only [empty, if_true]
      exact Guarded.done groups
    · simp only [empty, if_false]
      exact Guarded.done _

def localGroup (app : App) (backend : TrafficBackend) : Except Panic TrafficBackendGroup := do
  let _ ← short backend.deploymentID
  let _ ← short backend.deploymentID
  return Deploy.localGroup app backend

theorem localGroup_ok (app : App) (backend : TrafficBackend) :
    localGroup app backend = .ok (Deploy.localGroup app backend) := by
  unfold localGroup
  rw [short_ok]
  rfl

def localTargets (app : App) (teamID : UUID) (backend : TrafficBackend) :
    List DeploymentTarget → List ServerGroups → Risky World (List ServerGroups)
  | [], acc => return acc
  | target :: rest, acc =>
    if target.status = .healthy then do
      match ← ofProg (query fun w => w.getServerByID target.serverID teamID) with
      | none => localTargets app teamID backend rest acc
      | some server =>
        if server.agentID.isNone then localTargets app teamID backend rest acc
        else do
          let agentID ← op (deref server.agentID)
          let group ← op (localGroup app backend)
          localTargets app teamID backend rest (addGroup target.serverID agentID group acc)
    else localTargets app teamID backend rest acc

theorem localTargets_guarded (app : App) (teamID : UUID) (backend : TrafficBackend)
    (targets : List DeploymentTarget) (acc : List ServerGroups) :
    Guarded (localTargets app teamID backend targets acc)
      (Deploy.localTargets app teamID backend targets acc) := by
  induction targets generalizing acc with
  | nil => exact Guarded.done acc
  | cons target rest ih =>
    unfold localTargets Deploy.localTargets
    split
    · refine Guarded.bind_query fun w => ?_
      cases w.getServerByID target.serverID teamID with
      | none => exact ih acc
      | some server =>
        cases agent : server.agentID with
        | none => simpa [agent] using ih acc
        | some agentID =>
          simp only [agent, Option.isNone_some, Bool.false_eq_true, if_false,
            Option.bind_some]
          exact Guarded.op rfl (Guarded.op (localGroup_ok app backend) (ih _))
    · exact ih acc

def localGroups (app : App) (teamID : UUID) :
    List TrafficBackend → List ServerGroups → Risky World (List ServerGroups)
  | [], acc => return acc
  | backend :: rest, acc => do
    let targets ← ofProg (query fun w => w.listDeploymentTargets backend.deploymentID)
    let acc ← localTargets app teamID backend targets acc
    localGroups app teamID rest acc

theorem localGroups_guarded (app : App) (teamID : UUID) (backends : List TrafficBackend)
    (acc : List ServerGroups) :
    Guarded (localGroups app teamID backends acc) (Deploy.localGroups app teamID backends acc) := by
  induction backends generalizing acc with
  | nil => exact Guarded.done acc
  | cons backend rest ih =>
    exact Guarded.bind (Guarded.ofProg _) fun targets =>
      Guarded.bind (localTargets_guarded app teamID backend targets acc) fun acc => ih acc

/-- The command handed to one edge server. -/
def sendToEdge (cmd : TrafficRouteCommand) (edge : Server) : Risky World Unit :=
  if edge.agentID.isNone then return
  else do
    let agentID ← op (deref edge.agentID)
    ofProg (sendBestEffort agentID (.trafficRoute cmd))

def syncTrafficRoute (routeID : UUID) : Risky World (Except String Unit) := do
  let some route ← ofProg (query fun w => w.getTrafficRoute routeID)
    | return .error "get route"
  let some app ← ofProg (query fun w => w.getApp route.appID)
    | return .error "get app"
  let some project ← ofProg (query fun w => w.getProject app.projectID)
    | return .error "get project"
  let backends ← ofProg (query fun w => w.listTrafficBackendsForSync route.id)
  if backends = [] then
    return .ok ()
  let domains ← op (trafficDomains app route)
  let edgeServers ← ofProg (query fun w => w.listEdgeServersByCluster project.clusterID)
  if edgeServers ≠ [] then
    let groups ← edgeGroups app backends
    if groups = [] then
      return .ok ()
    Risky.forEach edgeServers
      (sendToEdge { appSlug := app.slug, domains := domains, groups := groups })
    return .ok ()
  else
    let entries ← localGroups app project.teamID backends []
    ofProg (Prog.forEach entries fun entry =>
      if entry.agentID = "" then return
      else sendBestEffort entry.agentID
        (.trafficRoute { appSlug := app.slug, domains := domains, groups := entry.groups }))
    return .ok ()

theorem syncTrafficRoute_guarded (routeID : UUID) :
    Guarded (syncTrafficRoute routeID) (Deploy.syncTrafficRoute routeID) := by
  refine Guarded.bind (Guarded.ofProg _) fun route => ?_
  cases route with
  | none => exact Guarded.done _
  | some route =>
  refine Guarded.bind (Guarded.ofProg _) fun app => ?_
  cases app with
  | none => exact Guarded.done _
  | some app =>
  refine Guarded.bind (Guarded.ofProg _) fun project => ?_
  cases project with
  | none => exact Guarded.done _
  | some project =>
  refine Guarded.bind (Guarded.ofProg _) fun backends => ?_
  by_cases empty : backends = []
  · simp only [empty, if_true]
    exact Guarded.done _
  · simp only [empty, if_false]
    refine Guarded.op (trafficDomains_ok app route) (Guarded.bind (Guarded.ofProg _) fun edges => ?_)
    by_cases edgeMode : edges ≠ []
    · simp only [ne_eq, edgeMode, not_false_eq_true, if_true]
      refine Guarded.bind (edgeGroups_guarded app backends) fun groups => ?_
      by_cases none : groups = []
      · simp only [none, if_true]
        exact Guarded.done _
      · simp only [none, if_false]
        refine Guarded.bind (Guarded.forEach edges fun edge _ => ?_) fun _ => Guarded.done _
        unfold sendToEdge
        cases edge.agentID with
        | none => exact Guarded.done _
        | some agentID => exact Guarded.op rfl (Guarded.ofProg _)
    · simp only [edgeMode, if_false]
      exact Guarded.bind (localGroups_guarded app project.teamID backends []) fun entries =>
        Guarded.bind (Guarded.ofProg _) fun _ => Guarded.done _

/-! ## EnsureTrafficForDeployment -/

/-- The end of a promotion, with the slice of its message. -/
def announce (deployment : Deployment) (route : TrafficRoute) (label : String) (demoted : Nat) :
    Risky World (Except String Unit) := do
  let _ ← op (short deployment.id)
  ofProg (exec fun w => w.createTrafficEvent
    ⟨route.id, "system", "deploy_promoted", promotedMessage deployment label demoted⟩)
  match ← syncTrafficRoute route.id with
  | .error err => return .error err
  | .ok () =>
    if 0 < demoted then
      ofProg (go (.stopSupersededAfterDrain deployment.id))
      ofProg (go (.archiveOldDeployments deployment.appID deployment.environmentID 2))
    return .ok ()

theorem announce_guarded (deployment : Deployment) (route : TrafficRoute) (label : String)
    (demoted : Nat) : Guarded (announce deployment route label demoted)
      (Deploy.announce deployment route label demoted) := by
  refine Guarded.op (short_ok deployment.id) (Guarded.bind (Guarded.ofProg _) fun _ =>
    Guarded.bind (syncTrafficRoute_guarded route.id) fun synced => ?_)
  cases synced with
  | error err => exact Guarded.done _
  | ok done =>
    by_cases some : 0 < demoted
    · simp only [some, if_true]
      exact Guarded.bind (Guarded.ofProg _) fun _ =>
        Guarded.bind (Guarded.ofProg _) fun _ => Guarded.done _
    · simp only [some, if_false]
      exact Guarded.done _

def demote (deployment : Deployment) (route : TrafficRoute) (label : String) :
    List TrafficBackend → Nat → Risky World (Except String Unit)
  | [], demoted => announce deployment route label demoted
  | prev :: rest, demoted =>
    if prev.deploymentID = deployment.id then demote deployment route label rest demoted
    else do
      match ← ofProg (atomic fun w => w.updateTrafficBackendWeight prev.id route.id 0) with
      | none => demote deployment route label rest demoted
      | some _ =>
        let _ ← ofProg (atomic fun w => w.setTrafficBackendStatus prev.id route.id .draining)
        ofProg (exec fun w => w.setDeploymentStatusSimple prev.deploymentID .superseded)
        demote deployment route label rest (demoted + 1)

theorem demote_guarded (deployment : Deployment) (route : TrafficRoute) (label : String)
    (existing : List TrafficBackend) (demoted : Nat) :
    Guarded (demote deployment route label existing demoted)
      (Deploy.demote deployment route label existing demoted) := by
  induction existing generalizing demoted with
  | nil => exact announce_guarded deployment route label demoted
  | cons prev rest ih =>
    unfold demote Deploy.demote
    split
    · exact ih demoted
    · refine Guarded.bind (Guarded.ofProg _) fun written => ?_
      cases written with
      | none => exact ih demoted
      | some backend =>
        exact Guarded.bind (Guarded.ofProg _) fun _ =>
          Guarded.bind (Guarded.ofProg _) fun _ => ih (demoted + 1)

/-- The label of the new backend, with the slice of its commit. -/
def backendLabel (build : Option Build) : Except Panic String :=
  match build with
  | some build => do
    if build.commitSha ≠ "" then
      let _ ← shortSHA build.commitSha
    return Deploy.backendLabel (some build)
  | none => return Deploy.backendLabel none

theorem backendLabel_ok (build : Option Build) :
    backendLabel build = .ok (Deploy.backendLabel build) := by
  unfold backendLabel
  cases build with
  | none => rfl
  | some build =>
    simp only [shortSHA_ok]
    split <;> rfl

def publishBackend (deployment : Deployment) (route : TrafficRoute) (backendID : UUID)
    (existing : List TrafficBackend) (label : String) : Risky World (Except String Unit) := do
  let some newBackend ← ofProg (atomic fun w =>
      w.upsertTrafficBackend backendID route.id deployment.id label 100 .active)
    | return .error "upsert backend"
  let some _ ← ofProg (atomic fun w => w.updateTrafficBackendWeight newBackend.id route.id 100)
    | return .error "set new backend weight"
  demote deployment route label existing 0

theorem publishBackend_guarded (deployment : Deployment) (route : TrafficRoute) (backendID : UUID)
    (existing : List TrafficBackend) (label : String) :
    Guarded (publishBackend deployment route backendID existing label)
      (Deploy.publishBackend deployment route backendID existing label) := by
  refine Guarded.bind (Guarded.ofProg _) fun added => ?_
  cases added with
  | none => exact Guarded.done _
  | some newBackend =>
    refine Guarded.bind (Guarded.ofProg _) fun weighed => ?_
    cases weighed with
    | none => exact Guarded.done _
    | some backend => exact demote_guarded deployment route label existing 0

def promoteOnto (deployment : Deployment) (route : TrafficRoute) (backendID : UUID) :
    Risky World (Except String Unit) := do
  let existing ← ofProg (query fun w => w.listTrafficBackendsByRoute route.id)
  if deployment.buildID ≠ UUID.nil then
    let build ← ofProg (query fun w => w.getBuild deployment.buildID)
    let label ← op (backendLabel build)
    publishBackend deployment route backendID existing label
  else
    publishBackend deployment route backendID existing "stable"

theorem promoteOnto_guarded (deployment : Deployment) (route : TrafficRoute) (backendID : UUID) :
    Guarded (promoteOnto deployment route backendID)
      (Deploy.promoteOnto deployment route backendID) := by
  refine Guarded.bind (Guarded.ofProg _) fun existing => ?_
  by_cases built : deployment.buildID ≠ UUID.nil
  · simp only [ne_eq, built, not_false_eq_true, if_true]
    exact Guarded.bind (Guarded.ofProg _) fun build => Guarded.op (backendLabel_ok build)
      (publishBackend_guarded deployment route backendID existing _)
  · simp only [built, if_false]
    exact publishBackend_guarded deployment route backendID existing "stable"

def ensureTrafficForDeployment (deploymentID routeID backendID : UUID) :
    Risky World (Except String Unit) := do
  let some deployment ← ofProg (query fun w => w.getDeployment deploymentID)
    | return .error "get deployment"
  let some app ← ofProg (query fun w => w.getApp deployment.appID)
    | return .error "get app"
  let domain ← op (trafficDomain app deployment)
  if domain = "" then
    return .error "no domain available for traffic route"
  let some route ← ofProg (atomic fun w =>
      w.ensureTrafficRoute routeID app.id deployment.environmentID domain)
    | return .error "ensure route"
  promoteOnto deployment route backendID

theorem ensureTrafficForDeployment_guarded (deploymentID routeID backendID : UUID) :
    Guarded (ensureTrafficForDeployment deploymentID routeID backendID)
      (Deploy.ensureTrafficForDeployment deploymentID routeID backendID) := by
  refine Guarded.bind (Guarded.ofProg _) fun deployment => ?_
  cases deployment with
  | none => exact Guarded.done _
  | some deployment =>
  refine Guarded.bind (Guarded.ofProg _) fun app => ?_
  cases app with
  | none => exact Guarded.done _
  | some app =>
  refine Guarded.op (trafficDomain_ok app deployment) ?_
  by_cases blank : Deploy.trafficDomain app deployment = ""
  · simp only [blank, if_true]
    exact Guarded.done _
  · simp only [blank, if_false]
    refine Guarded.bind (Guarded.ofProg _) fun route => ?_
    cases route with
    | none => exact Guarded.done _
    | some route => exact promoteOnto_guarded deployment route backendID

/-! ## StopSupersededContainers -/

def stopContainer (app : App) (deploymentID : UUID) (currentServers : List UUID)
    (container : World.ContainerRow) : Risky World Unit :=
  if container.deploymentID = deploymentID || container.containerID.isNone ||
      container.agentID.isNone then return
  else do
    let agentID ← op (deref container.agentID)
    let containerID ← op (deref container.containerID)
    match ← ofProg (atomic (sendToAgent agentID
        (.stopContainer (stopCommand app currentServers container containerID)))) with
    | .error _ => return
    | .ok () =>
      ofProg (exec fun w => w.updateDeploymentTargetStatus
        { id := container.targetID, status := "stopped", stoppedAt := some w.now })
      ofProg (exec fun w => w.releasePortsByDeploymentTarget container.targetID)

theorem stopContainer_guarded (app : App) (deploymentID : UUID) (currentServers : List UUID)
    (container : World.ContainerRow) :
    Guarded (stopContainer app deploymentID currentServers container)
      (Deploy.stopContainer app deploymentID currentServers container) := by
  unfold stopContainer Deploy.stopContainer
  by_cases current : container.deploymentID = deploymentID
  · simp only [current, decide_true, Bool.true_or, if_true]
    exact Guarded.done _
  · cases named : container.containerID with
    | none =>
      simp only [current, decide_false, Option.isNone_none, Bool.or_true, Bool.true_or, if_true,
        if_false]
      exact Guarded.done _
    | some containerID =>
      cases agent : container.agentID with
      | none =>
        simp only [current, decide_false, Option.isNone_none, Bool.or_true, if_true, if_false]
        exact Guarded.done _
      | some agentID =>
        simp only [current, decide_false, Option.isNone_some, Bool.or_false,
          Bool.false_eq_true, if_false]
        refine Guarded.op rfl (Guarded.op rfl (Guarded.bind (Guarded.ofProg _) fun sent => ?_))
        cases sent with
        | error err => exact Guarded.done _
        | ok _ => exact Guarded.bind (Guarded.ofProg _) fun _ => Guarded.ofProg _

def stopSupersededContainers (deploymentID : UUID) : Risky World (Except String Unit) := do
  let some current ← ofProg (query fun w => w.getDeployment deploymentID)
    | return .error "get deployment"
  let some app ← ofProg (query fun w => w.getApp current.appID)
    | return .error "get app"
  let currentTargets ← ofProg (query fun w => w.listDeploymentTargets deploymentID)
  let currentServers := currentTargets.map DeploymentTarget.serverID
  let containers ← ofProg (query fun w => w.listHealthyContainersByApp current.appID)
  Risky.forEach containers (stopContainer app deploymentID currentServers)
  return .ok ()

theorem stopSupersededContainers_guarded (deploymentID : UUID) :
    Guarded (stopSupersededContainers deploymentID)
      (Deploy.stopSupersededContainers deploymentID) := by
  refine Guarded.bind (Guarded.ofProg _) fun current => ?_
  cases current with
  | none => exact Guarded.done _
  | some current =>
  refine Guarded.bind (Guarded.ofProg _) fun app => ?_
  cases app with
  | none => exact Guarded.done _
  | some app =>
    exact Guarded.bind (Guarded.ofProg _) fun targets =>
      Guarded.bind (Guarded.ofProg _) fun containers =>
      Guarded.bind (Guarded.forEach containers fun container _ =>
        stopContainer_guarded app deploymentID _ container) fun _ => Guarded.done _

/-! ## archiveOldDeployments -/

def pruneImage (row : World.ArchivableRow) : Risky World Unit := do
  let agentIDs ← ofProg (query fun w => w.listDeploymentServers row.id)
  Risky.forEach agentIDs fun agentID => do
    let _ ← op (short row.id)
    ofProg (sendBestEffort agentID
      (.execCommand ⟨"prune-" ++ row.id.short, "docker", ["image", "rm", "-f", row.imageTag]⟩))

def archiveRow (keptTags : List String) (row : World.ArchivableRow) : Risky World Unit := do
  ofProg (exec fun w => w.deleteTrafficBackendsByDeployment row.id)
  if row.imageTag ≠ "" ∧ row.imageTag ∉ keptTags then
    pruneImage row
  ofProg (exec fun w => w.setDeploymentStatusSimple row.id .archived)

def archiveOldDeployments (appID envID : UUID) (keep : Int) : Risky World Unit := do
  let rows ← ofProg (query fun w => w.listArchivableDeploymentsByApp appID envID keep)
  if rows = [] then
    return
  let keptTags ← ofProg (query fun w => w.listKeptImageTagsByApp appID envID)
  Risky.forEach rows (archiveRow keptTags)

theorem pruneImage_guarded (row : World.ArchivableRow) :
    Guarded (pruneImage row) (Deploy.pruneImage row) :=
  Guarded.bind (Guarded.ofProg _) fun agentIDs => Guarded.forEach agentIDs fun _ _ =>
    Guarded.op (short_ok row.id) (Guarded.ofProg _)

theorem archiveRow_guarded (keptTags : List String) (row : World.ArchivableRow) :
    Guarded (archiveRow keptTags row) (Deploy.archiveRow keptTags row) := by
  refine Guarded.bind (Guarded.ofProg _) fun _ => ?_
  by_cases pruned : row.imageTag ≠ "" ∧ row.imageTag ∉ keptTags
  · simp only [if_pos pruned]
    exact Guarded.bind (pruneImage_guarded row) fun _ => Guarded.ofProg _
  · simp only [if_neg pruned]
    exact Guarded.ofProg _

theorem archiveOldDeployments_guarded (appID envID : UUID) (keep : Int) :
    Guarded (archiveOldDeployments appID envID keep)
      (Deploy.archiveOldDeployments appID envID keep) := by
  refine Guarded.bind (Guarded.ofProg _) fun rows => ?_
  by_cases empty : rows = []
  · simp only [empty, if_true]
    exact Guarded.done _
  · simp only [empty, if_false]
    exact Guarded.bind (Guarded.ofProg _) fun keptTags => Guarded.forEach rows fun row _ =>
      archiveRow_guarded keptTags row

/-! ## Scheduling -/

/-- A row of `ListClusterMembersForScheduling`, with the tags of its server. -/
structure SchedulingRow where
  serverID : UUID
  serverName : String := ""
  serverStatus : String := "online"
  tags : List (String × String) := []
  runningReplicas : Int32 := 0
  cpuCores : Option Int32 := none
  memoryAvailable : Option Int := none

/-- The columns that are always there. -/
def SchedulingRow.bare (row : SchedulingRow) : Scheduler.Candidate :=
  { serverID := row.serverID
    serverName := row.serverName
    status := row.serverStatus
    tags := row.tags
    runningReplicas := row.runningReplicas }

def withCPU (candidate : Scheduler.Candidate) (cores : Int32) : Scheduler.Candidate :=
  { candidate with cpuCapacity := cores * 1000, hasCPUData := true }

def withMemory (candidate : Scheduler.Candidate) (available : Int) : Scheduler.Candidate :=
  { candidate with memoryAvailable := available, hasMemoryData := true }

def candidate (row : SchedulingRow) : Except Panic Scheduler.Candidate := do
  let found ← readOr row.cpuCores (withCPU row.bare) row.bare
  readOr row.memoryAvailable (withMemory found) found

/-- The candidate a row becomes. -/
def SchedulingRow.candidate (row : SchedulingRow) : Scheduler.Candidate :=
  let found := (row.cpuCores.map (withCPU row.bare)).getD row.bare
  (row.memoryAvailable.map (withMemory found)).getD found

theorem candidate_ok (row : SchedulingRow) : candidate row = .ok row.candidate := by
  unfold candidate
  rw [Panic.readOr_eq]
  exact Panic.readOr_eq _ _ _

/-- The loop that takes `eligible[i]` for every replica. -/
def assignments (req : Scheduler.Requirements) (eligible : List Scheduler.Candidate) :
    Except Panic (List Scheduler.Assignment) :=
  (List.range req.replicas.toInt.toNat).mapM fun i =>
    (index eligible i).map (Scheduler.assignment req)

theorem assignments_ok {req : Scheduler.Requirements} {eligible : List Scheduler.Candidate}
    (enough : req.replicas.toInt.toNat ≤ eligible.length) :
    assignments req eligible =
      .ok ((eligible.take req.replicas.toInt.toNat).map (Scheduler.assignment req)) := by
  unfold assignments
  generalize req.replicas.toInt.toNat = n at enough
  induction n with
  | zero => rfl
  | succ n ih =>
    have found : eligible.take (n + 1) = eligible.take n ++ [eligible[n]] := by
      rw [List.take_add_one, List.getElem?_eq_getElem enough]
      rfl
    rw [List.range_succ, List.mapM_append, ih (by omega), List.mapM_cons,
      Panic.index_of_lt enough, found, List.map_append]
    rfl

def schedule (req : Scheduler.Requirements) (candidates : List Scheduler.Candidate) :
    Except Panic (Except String (List Scheduler.Assignment)) :=
  if req.replicas ≤ 0 then .ok (.error "replicas must be greater than zero")
  else
    let able := Scheduler.eligible req candidates
    let reasons := candidates.filterMap (Scheduler.rejection req)
    if able = [] then
      .ok (.error ("no eligible servers match placement strategy \"" ++ req.effective ++ "\": " ++
        Scheduler.rejectionSummary reasons))
    else if (able.length : Int) < req.replicas.toInt then
      .ok (.error ("insufficient eligible servers: need " ++ toString req.replicas ++ ", have " ++
        toString able.length ++ " (" ++ Scheduler.rejectionSummary reasons ++ ")"))
    else
      match Scheduler.ordered req able with
      | none => .ok (.error ("unknown placement strategy \"" ++ req.effective ++ "\""))
      | some able => (assignments req able).map .ok

theorem schedule_ok (req : Scheduler.Requirements) (candidates : List Scheduler.Candidate) :
    schedule req candidates = .ok (Scheduler.schedule req candidates) := by
  unfold schedule Scheduler.schedule
  by_cases positive : req.replicas ≤ 0
  · simp only [if_pos positive]
  · simp only [if_neg positive]
    by_cases empty : Scheduler.eligible req candidates = []
    · simp only [if_pos empty]
    · simp only [if_neg empty]
      by_cases few : ((Scheduler.eligible req candidates).length : Int) < req.replicas.toInt
      · simp only [if_pos few]
      · simp only [if_neg few]
        cases sorted : Scheduler.ordered req (Scheduler.eligible req candidates) with
        | none => rfl
        | some able =>
          have same := Scheduler.length_ordered sorted
          have enough : req.replicas.toInt.toNat ≤ able.length := by omega
          simp only [assignments_ok enough]
          rfl

def scheduleTargets (app : App) (members : List ClusterMember) (rows : List SchedulingRow) :
    Except Panic (Except String (List ScheduledTarget)) := do
  let candidates ← rows.mapM candidate
  let assigned ← schedule (requirements app) candidates
  return assigned >>= fun assignments => assignments.mapM (scheduledTarget members)

theorem scheduleTargets_ok (app : App) (members : List ClusterMember) (rows : List SchedulingRow) :
    scheduleTargets app members rows =
      .ok (Deploy.scheduleTargets app ⟨members, rows.map SchedulingRow.candidate⟩) := by
  unfold scheduleTargets Deploy.scheduleTargets
  rw [Panic.mapM_ok fun row _ => candidate_ok row]
  show (do
    let assigned ← schedule (requirements app) (rows.map SchedulingRow.candidate)
    return assigned >>= fun assignments => assignments.mapM (scheduledTarget members) :
      Except Panic _) = _
  rw [schedule_ok]
  rfl

/-! ## TriggerDeploy -/

/-- `targetServerID[0]` of the variadic parameter. -/
def specificServer (targetServerID : List (Option UUID)) : Except Panic (Option UUID) := do
  let asked ← both (0 < targetServerID.length) do
    let first ← index targetServerID 0
    return first.isSome
  if asked then index targetServerID 0 else return none

/-- What the listings of a cluster's members answer. -/
abbrev Listing := World → UUID → List ClusterMember × List SchedulingRow

/-- The listing as `TriggerDeploy` uses it. -/
def Listing.cluster (listing : Listing) (w : World) (clusterID : UUID) : Cluster :=
  ⟨(listing w clusterID).1, (listing w clusterID).2.map SchedulingRow.candidate⟩

/-- `TriggerDeploy` as the end of a build calls it, without a server asked for. -/
def triggerDeploy (listing : Listing) (draw : Draw) (appID envID buildID : UUID) :
    Risky World (Except String Deployment) := do
  let some app ← ofProg (query fun w => w.getApp appID)
    | return .error "get app"
  let some build ← ofProg (query fun w => w.getBuild buildID)
    | return .error "get build"
  let some project ← ofProg (query fun w => w.getProject app.projectID)
    | return .error "get project"
  let listed ← ofProg (query fun w => listing w project.clusterID)
  if listed.1 = [] then
    return .error "no servers available in cluster"
  let _ ← op (specificServer [])
  match ← op (scheduleTargets app listed.1 listed.2) with
  | .error err => return .error err
  | .ok targets =>
    let some _ ← ofProg (query fun w => w.environments.find? envID)
      | return .error "get environment"
    ofProg (launchDeploy
      { deploymentID := draw.deploymentID
        environmentID := envID
        build := build
        app := app
        project := project
        env := draw.env
        targets := targets.zipIdx.map fun target => (draw.targetIDs target.2, target.1) })

theorem triggerDeploy_guarded (listing : Listing) (draw : Draw) (appID envID buildID : UUID) :
    Guarded (triggerDeploy listing draw appID envID buildID)
      (Service.triggerDeploy listing.cluster draw appID envID buildID) := by
  refine Guarded.bind (Guarded.ofProg _) fun app => ?_
  cases app with
  | none => exact Guarded.done _
  | some app =>
  refine Guarded.bind (Guarded.ofProg _) fun build => ?_
  cases build with
  | none => exact Guarded.done _
  | some build =>
  refine Guarded.bind (Guarded.ofProg _) fun project => ?_
  cases project with
  | none => exact Guarded.done _
  | some project =>
  refine Guarded.bind_query fun w => ?_
  show Guarded (if (listing w project.clusterID).1 = [] then _ else _)
    (if (listing w project.clusterID).1 = [] then _ else _)
  by_cases empty : (listing w project.clusterID).1 = []
  · rw [if_pos empty, if_pos empty]
    exact Guarded.done _
  · rw [if_neg empty, if_neg empty]
    refine Guarded.op rfl (Guarded.op (scheduleTargets_ok app _ _) ?_)
    unfold Listing.cluster
    cases Deploy.scheduleTargets app _ with
    | error err => exact Guarded.done _
    | ok targets =>
      refine Guarded.bind (Guarded.ofProg _) fun env => ?_
      cases env with
      | none => exact Guarded.done _
      | some env => exact Guarded.ofProg _

/-! ## dispatchDeploy -/

/-- `state == nil || state.Status != "online"`, negated. -/
def agentOnline (state : Option ConnState) : Except Panic Bool :=
  both state.isSome do
    let state ← deref state
    return state.status = .online

theorem agentOnline_ok (w : World) (agentID : String) :
    agentOnline (w.agents.find? agentID) = .ok (Deploy.agentOnline w agentID) := by
  unfold agentOnline Deploy.agentOnline
  cases w.agents.find? agentID <;> rfl

/-- `srv.PublicIp`, replaced by that of `edges[0]`. -/
def servingIP (edges : List Server) (srv : Option Server) : Except Panic String :=
  if 0 < edges.length then (index edges 0).map Server.publicIp
  else .ok (Deploy.servingIP [] srv)

theorem servingIP_ok (edges : List Server) (srv : Option Server) :
    servingIP edges srv = .ok (Deploy.servingIP edges srv) := by
  cases edges <;> rfl

def dispatchDeploy (dns : DnsConfig) (deployment : Deployment) (target : DeploymentTarget)
    (build : Build) (app : App) (project : Project) (member : ClusterMember) :
    Risky World Unit := do
  let state ← ofProg (query fun w => w.agents.find? member.serverID.text)
  let online ← op (agentOnline state)
  if online then
    let team ← ofProg (query fun w => w.getTeamByID project.teamID)
    let srv ← ofProg (query fun w => w.getServerByID member.serverID project.teamID)
    let edges ← ofProg (query fun w => w.listEdgeServersByCluster project.clusterID)
    let teamSlug := (team.map Team.slug).getD ""
    let publicIP ← op (servingIP edges srv)
    let _ ← op (short deployment.id)
    let platform := platformDomain dns app.slug project.slug teamSlug publicIP
    let _ ← op (deployDomains app platform)
    ofProg (prepareAndSend deployment target build app project member platform (edges ≠ []))
  else
    ofProg (failTarget target.id "agent not online")

theorem dispatchDeploy_guarded (dns : DnsConfig) (deployment : Deployment)
    (target : DeploymentTarget) (build : Build) (app : App) (project : Project)
    (member : ClusterMember) :
    Guarded (dispatchDeploy dns deployment target build app project member)
      (Deploy.dispatchDeploy dns deployment target build app project member) := by
  refine Guarded.bind_query fun w => Guarded.op (agentOnline_ok w _) ?_
  by_cases online : Deploy.agentOnline w member.serverID.text = true
  · simp only [if_pos online]
    exact Guarded.bind (Guarded.ofProg _) fun team => Guarded.bind (Guarded.ofProg _) fun srv =>
      Guarded.bind (Guarded.ofProg _) fun edges => Guarded.op (servingIP_ok edges srv)
        (Guarded.op (short_ok deployment.id) (Guarded.op (deployDomains_ok app _)
          (Guarded.ofProg _)))
  · simp only [if_neg online]
    exact Guarded.ofProg _

/-! ## Goroutines -/

/-- What the goroutines of a deploy draw: the ids of their INSERTs. -/
structure GoroutineDraw where
  dns : DnsConfig := {}
  routeID : UUID
  backendID : UUID

def goroutine (draw : GoroutineDraw) : Goroutine → Risky World Unit
  | .dispatchDeploy deployment target build app project member =>
    dispatchDeploy draw.dns deployment target build app project member
  | .ensureTrafficForDeployment deploymentID => do
    let _ ← ensureTrafficForDeployment deploymentID draw.routeID draw.backendID
  | .stopSupersededAfterDrain deploymentID => do
    let _ ← stopSupersededContainers deploymentID
  | .archiveOldDeployments appID envID keep => archiveOldDeployments appID envID keep

/-- The goroutine as the plain programs have it. -/
def plainGoroutine (draw : GoroutineDraw) : Goroutine → Prog World Unit
  | .dispatchDeploy deployment target build app project member =>
    Deploy.dispatchDeploy draw.dns deployment target build app project member
  | .ensureTrafficForDeployment deploymentID => do
    let _ ← Deploy.ensureTrafficForDeployment deploymentID draw.routeID draw.backendID
  | .stopSupersededAfterDrain deploymentID => do
    let _ ← Deploy.stopSupersededContainers deploymentID
  | .archiveOldDeployments appID envID keep => Deploy.archiveOldDeployments appID envID keep

theorem goroutine_guarded (draw : GoroutineDraw) (g : Goroutine) :
    Guarded (goroutine draw g) (plainGoroutine draw g) := by
  cases g with
  | dispatchDeploy deployment target build app project member =>
    exact dispatchDeploy_guarded draw.dns deployment target build app project member
  | ensureTrafficForDeployment deploymentID =>
    exact Guarded.bind (ensureTrafficForDeployment_guarded deploymentID _ _) fun _ =>
      Guarded.done _
  | stopSupersededAfterDrain deploymentID =>
    exact Guarded.bind (stopSupersededContainers_guarded deploymentID) fun _ => Guarded.done _
  | archiveOldDeployments appID envID keep => exact archiveOldDeployments_guarded appID envID keep

/-! ## One map for the goroutines of a deploy -/

/-- `go g`. -/
def starting (g : Goroutine) (w : World) : World := { w with started := w.started ++ [g] }

/-- Some course of the goroutine assigns to the environment map of the deployment. -/
def Assigns (draw : GoroutineDraw) (deploymentID : UUID) (g : Goroutine) : Prop :=
  (goroutine draw g).run.May fun effect => ∃ key value, effect = assignEnv deploymentID key value

/-- The deploy starts two goroutines that assign to its environment map.  Nothing orders what they
do, and Go stops the server when it finds two assignments to one map at a time. -/
def Clashes (listing : Listing) (draw : Draw) (goroutines : GoroutineDraw)
    (appID envID buildID : UUID) : Prop :=
  ∃ deploymentID g g', Assigns goroutines deploymentID g ∧ Assigns goroutines deploymentID g' ∧
    (triggerDeploy listing draw appID envID buildID).run.MayBoth (· = starting g) (· = starting g')

theorem dispatch_assigns (draw : GoroutineDraw) (deployment : Deployment)
    (target : DeploymentTarget) (build : Build) (app : App) (project : Project)
    (member : ClusterMember) :
    Assigns draw deployment.id (.dispatchDeploy deployment target build app project member) := by
  have online : Deploy.agentOnline { agents := .single { agentID := member.serverID.text } }
      member.serverID.text = true := by
    simp [Deploy.agentOnline, Table.find?, Table.single, Keyed.key]
  have assigns : (Deploy.dispatchDeploy draw.dns deployment target build app project member).May
      fun effect => ∃ key value, effect = assignEnv deployment.id key value := by
    refine .inr ⟨{ agents := .single { agentID := member.serverID.text } }, ?_⟩
    show (if Deploy.agentOnline _ member.serverID.text = true then _ else _ : Prog World Unit).May _
    rw [if_pos online]
    exact .inr ⟨{}, .inr ⟨{}, .inr ⟨{}, .inr ⟨{}, .inl ⟨_, _, rfl⟩⟩⟩⟩⟩
  unfold Assigns
  rw [goroutine_guarded]
  exact assigns.bind _

/-- Two servers with room. -/
def twoServers : Listing := fun _ _ =>
  ([{ serverID := 71 }, { serverID := 72 }], [{ serverID := 71 }, { serverID := 72 }])

def twoReplicas (appID : UUID) : App :=
  { id := appID, projectID := 10, name := "web", slug := "web", replicas := 2 }

def oneProject : Project := { id := 10, teamID := 1, clusterID := 12, name := "", slug := "" }

def environment (id : UUID) : Environment := { id := id, projectID := 10, name := "", slug := "" }

theorem schedule_twoReplicas (appID : UUID) : ∃ first second,
    Deploy.scheduleTargets (twoReplicas appID) (twoServers.cluster {} oneProject.clusterID) = .ok [first, second] := ⟨_, _, rfl⟩

theorem find?_single {α κ : Type} [DecidableEq κ] [Keyed α κ] (r : α) :
    (Table.single r).find? (Keyed.key r) = some r :=
  List.find?_cons_of_pos (decide_eq_true rfl)

/-- A deployment and a server. -/
def hosting (d : Deployment) (serverID : UUID) : World :=
  { deployments := .single d, servers := .single { id := serverID, teamID := 0 } }

theorem createDeploymentTarget_hosting (d : Deployment) (targetID serverID : UUID) :
    ((hosting d serverID).createDeploymentTarget targetID d.id serverID).2 =
      some { id := targetID, deploymentID := d.id, serverID := serverID } := by
  have row : (hosting d serverID).deployments.find? d.id = some d := find?_single d
  have server : (hosting d serverID).servers.find? serverID = some { id := serverID, teamID := 0 } :=
    find?_single _
  unfold World.createDeploymentTarget
  rw [row, server]
  rfl

/-- The goroutine of one target. -/
def dispatchOf (launch : Launch) (deployment : Deployment) (entry : UUID × ScheduledTarget) :
    Goroutine :=
  .dispatchDeploy deployment
    { id := entry.1, deploymentID := deployment.id, serverID := entry.2.member.serverID }
    launch.build launch.app launch.project entry.2.member

/-- The launch of two targets starts two goroutines that assign to one map. -/
theorem launchDeploy_both (draw : GoroutineDraw) (launch : Launch) {first second : UUID × ScheduledTarget}
    (targets : launch.targets = [first, second]) :
    ∃ deploymentID g g', Assigns draw deploymentID g ∧ Assigns draw deploymentID g' ∧
      (launchDeploy launch).MayBoth (· = starting g) (· = starting g') := by
  obtain ⟨deployment, inserted⟩ : ∃ deployment, (createLaunched launch {}).2 = some deployment :=
    ⟨_, rfl⟩
  refine ⟨deployment.id, dispatchOf launch deployment first, dispatchOf launch deployment second,
    dispatch_assigns .., dispatch_assigns .., ?_⟩
  refine .atomic {} inserted ?_
  dsimp only
  rw [targets]
  refine .atomic (hosting deployment first.2.member.serverID)
    (createDeploymentTarget_hosting _ _ _) (.inl ⟨rfl, {}, ?_⟩)
  exact .atomic (hosting deployment second.2.member.serverID)
    (createDeploymentTarget_hosting _ _ _) (.inl rfl)

/-- Whatever deploy a build asks for, there are rows with which its goroutines clash. -/
theorem clashes_twoReplicas (appID envID buildID : UUID) :
    Clashes twoServers { deploymentID := 10, targetIDs := fun n => n }
      { routeID := 11, backendID := 12 } appID envID buildID := by
  obtain ⟨first, second, scheduled⟩ := schedule_twoReplicas appID
  obtain ⟨deploymentID, g, g', assigns, assigns', both⟩ := launchDeploy_both
    { routeID := 11, backendID := 12 }
    { deploymentID := 10, environmentID := envID, build := { id := buildID, appID := appID },
      app := twoReplicas appID, project := oneProject, targets := [(0, first), (1, second)] } rfl
  have started : (Service.triggerDeploy twoServers.cluster
      { deploymentID := 10, targetIDs := fun n => n } appID envID buildID).MayBoth
        (· = starting g) (· = starting g') := by
    refine .query { apps := .single (twoReplicas appID) } (find?_single _) ?_
    refine .query { builds := .single { id := buildID, appID := appID } } (find?_single _) ?_
    refine .query { projects := .single oneProject } (find?_single _) ?_
    refine .query {} (show _ = twoServers.cluster {} oneProject.clusterID from rfl) ?_
    have some : (twoServers.cluster {} oneProject.clusterID).members ≠ [] := List.cons_ne_nil _ _
    rw [if_neg some, scheduled]
    exact .query { environments := .single (environment envID) } (find?_single _) both
  refine ⟨deploymentID, g, g', assigns, assigns', ?_⟩
  rw [triggerDeploy_guarded]
  exact started.bind _

end Nixway.Deploy.Checked
