/-
# Apps.Requests -- the requests that write the row of an app

`AppHandler.Create` of `internal/api/handler/app.go` and `DeployHandler.ScaleApp` of
`internal/api/handler/deploy.go`, beside `Update` and `SetDomain` of `Deploy.AppDomain`.
A field the body of a request does not give is zero, empty or missing when the handler
sees it.  `Create` puts a default in its place; `Update` does so for the status only.
-/
import Nixway.Deploy.AppDomain
import Nixway.Deploy.Schedule
import Nixway.Scale.Autoscale
import Nixway.Store.Slug

namespace Nixway.Apps

open Nixway.Theory Nixway.Store Nixway.Deploy
open Nixway.Theory.Prog (query exec atomic)
open Nixway.Access (Refusal)

set_option autoImplicit false

/-! ## AppHandler.Create -/

/-- `createAppRequest`.  An id is what `uuid.Parse` makes of the text; blank texts of the
pinned servers are dropped before. -/
structure CreateAppRequest where
  name : String := ""
  sourceType : String := ""
  githubInstallationID : Option (Option UUID) := none
  repoFullName : Option String := none
  branch : Option String := none
  rootPath : String := ""
  autoDeploy : Option Bool := none
  dockerImage : Option String := none
  registryCredentialID : Option (Option UUID) := none
  builder : String := ""
  dockerfilePath : String := ""
  port : Int := 0
  healthCheckPath : String := ""
  healthCheckInterval : Int := 0
  healthCheckTimeout : Int := 0
  replicas : Int32 := 0
  subdomain : Option String := none
  placementStrategy : String := ""
  placementConstraints : Constraints := {}
  pinnedServerIDs : List (Option UUID) := []

/-- The value a field is given when the body leaves it out. -/
def orDefault {α : Type} [DecidableEq α] (absent default value : α) : α :=
  if value = absent then default else value

namespace CreateAppRequest

/-- The defaults of `Create`. -/
def filled (req : CreateAppRequest) : CreateAppRequest :=
  { req with
    builder := orDefault "" "auto" req.builder
    dockerfilePath := orDefault "" "Dockerfile" req.dockerfilePath
    rootPath := orDefault "" "/" req.rootPath
    port := orDefault 0 8080 req.port
    healthCheckPath := orDefault "" "/healthz" req.healthCheckPath
    healthCheckInterval := orDefault 0 5 req.healthCheckInterval
    healthCheckTimeout := orDefault 0 60 req.healthCheckTimeout
    replicas := orDefault 0 1 req.replicas }

/-- The arguments of `CreateApp`; the CHECK refuses a builder it does not list. -/
def params (req : CreateAppRequest) (projectID : UUID) (sourceType : SourceType)
    (installation credential : Option UUID) (pinned : List UUID) :
    Option World.CreateAppParams := do
  let builder ← Builder.ofText req.builder
  return {
    projectID := projectID
    name := req.name
    slug := generateSlug req.name
    sourceType := sourceType
    githubInstallationID := installation
    repoFullName := req.repoFullName
    branch := req.branch
    rootPath := req.rootPath
    autoDeploy := req.autoDeploy.getD true
    dockerImage := req.dockerImage
    registryCredentialID := credential
    builder := builder
    dockerfilePath := req.dockerfilePath
    port := req.port
    healthCheckPath := req.healthCheckPath
    healthCheckInterval := req.healthCheckInterval
    healthCheckTimeout := req.healthCheckTimeout
    replicas := req.replicas
    subdomain := req.subdomain
    placementStrategy := AppHandler.defaultPlacementStrategy req.placementStrategy
    placementConstraints := req.placementConstraints
    pinnedServerIDs := pinned }

end CreateAppRequest

/-- An id of a body, if it gives one; a text that is no id is refused. -/
def parseID (field : Option (Option UUID)) : Option (Option UUID) := field.mapM id

namespace AppHandler

/-- What `Create` inserts, or why it does not get there. -/
def createParams (projectID : UUID) (req : CreateAppRequest) :
    Except Refusal World.CreateAppParams :=
  if req.name = "" then .error ⟨400, "name is required"⟩
  else
    match SourceType.ofText req.sourceType, parseID req.githubInstallationID,
        parseID req.registryCredentialID, req.pinnedServerIDs.mapM id with
    | none, _, _, _ => .error ⟨400, "source_type must be 'github' or 'docker_image'"⟩
    | _, none, _, _ => .error ⟨400, "invalid github_installation_id"⟩
    | _, _, none, _ => .error ⟨400, "invalid registry_credential_id"⟩
    | _, _, _, none => .error ⟨400, "invalid pinned_server_ids"⟩
    | some sourceType, some installation, some credential, some pinned =>
      match req.filled.params projectID sourceType installation credential pinned with
      | none => .error ⟨500, "failed to create app"⟩
      | some arg => .ok arg

/-- `AppHandler.Create`, once the body is decoded; `id` is the one the INSERT draws. -/
def create (linked : UUID → Bool) (id projectID : UUID) (req : CreateAppRequest) :
    Prog World (Except Refusal App) :=
  match createParams projectID req with
  | .error refused => return .error refused
  | .ok arg => do
    let some app ← atomic fun w => w.createApp linked id arg
      | return .error ⟨500, "failed to create app"⟩
    return .ok app

end AppHandler

/-! ## DeployHandler.ScaleApp -/

/-- `scaleAppRequest`. -/
structure ScaleAppRequest where
  replicas : Int32 := 0
  placementStrategy : String := ""
  placementConstraints : Option Constraints := none
  pinnedServerIDs : Option (List (Option UUID)) := none

namespace ScaleAppRequest

def pinned (req : ScaleAppRequest) (app : App) : Option (List UUID) :=
  match req.pinnedServerIDs with
  | none => some app.pinnedServerIDs
  | some ids => ids.mapM id

def request (req : ScaleAppRequest) (app : App) (pinned : List UUID) : Scale.ScaleRequest :=
  { replicas := req.replicas
    placementStrategy :=
      if req.placementStrategy = "" then app.placementStrategy.text else req.placementStrategy
    placementConstraints := req.placementConstraints.getD app.placementConstraints
    pinnedServerIDs := pinned
    actorType := "user" }

end ScaleAppRequest

/-- `DeployHandler.ScaleApp`, once the body is decoded. -/
def DeployHandler.scaleApp (cluster : World → UUID → Cluster) (draw : Draw) (appID : UUID)
    (req : ScaleAppRequest) : Prog World (Except Refusal ScalingEvent) := do
  let some app ← query fun w => w.getApp appID
    | return .error ⟨404, "app not found"⟩
  if req.replicas ≤ 0 then
    return .error ⟨400, "replicas must be greater than zero"⟩
  match req.pinned app with
  | none => return .error ⟨400, "invalid pinned_server_ids"⟩
  | some pinned =>
    let some current ← query fun w => w.getApp appID
      | return .error ⟨400, "get app"⟩
    match ← Scale.scaleApp (Service.triggerDeploy cluster draw) id current
        (req.request app pinned) with
    | .error err => return .error ⟨400, err⟩
    | .ok event => return .ok event

/-! ## What a scaling leaves alone -/

section Scaling

variable {P : (World → World) → Prop} (cluster : World → UUID → Cluster) (draw : Draw)

theorem apps_createScalingEvent (w : World) (event : ScalingEvent) :
    (w.createScalingEvent event).1.apps = w.apps := by
  unfold World.createScalingEvent
  split <;> rfl

theorem recordScaling_every (current : App) (req : Scale.ScaleRequest)
    (strategy : PlacementStrategy) (envID : UUID) (deployment : Option Deployment)
    (message : String)
    (untouched : ∀ effect : World → World, (∀ w, (effect w).apps = w.apps) → P effect) :
    (Scale.recordScaling id current req strategy envID deployment message).Every P := by
  refine Prog.Every.bind ((Prog.every_atomic _).mpr (untouched _ fun w => ?_)) fun event => ?_
  · split
    · next made =>
      rw [← apps_createScalingEvent w, made]
      rfl
    · next made => rw [← apps_createScalingEvent w, made]
  · cases event with
    | none => trivial
    | some event => trivial

/-- The deploy that applies a count writes no app. -/
theorem deployScaled_every (current : App) (req : Scale.ScaleRequest)
    (strategy : PlacementStrategy) (envID : UUID)
    (untouched : ∀ effect : World → World, (∀ w, (effect w).apps = w.apps) → P effect) :
    (Scale.deployScaled (Service.triggerDeploy cluster draw) id current req strategy
      envID).Every P := by
  refine Prog.Every.bind ((Prog.every_query _).mpr (untouched id fun w => rfl)) fun last => ?_
  cases last with
  | none => exact recordScaling_every _ _ _ _ _ _ untouched
  | some last =>
    refine Prog.Every.bind (Service.triggerDeploy_every cluster draw _ _ _ untouched) fun next => ?_
    cases next with
    | error err => trivial
    | ok next => exact recordScaling_every _ _ _ _ _ _ untouched

/-- After `UpdateAppScaling` nothing writes an app. -/
theorem afterScaling_every (current : App) (req : Scale.ScaleRequest)
    (strategy : PlacementStrategy) (projectID : UUID)
    (untouched : ∀ effect : World → World, (∀ w, (effect w).apps = w.apps) → P effect) :
    (query (fun w : World => w.listEnvironmentsByProject projectID) >>= fun envs =>
      match Scale.productionEnvironment envs with
      | .error err => (Prog.done (.error err) : Prog World (Except String ScalingEvent))
      | .ok envID => Scale.deployScaled (Service.triggerDeploy cluster draw) id current req
          strategy envID).Every P := by
  refine Prog.Every.bind ((Prog.every_query _).mpr (untouched id fun w => rfl)) fun envs => ?_
  cases Scale.productionEnvironment envs with
  | error err => trivial
  | ok envID => exact deployScaled_every cluster draw current req strategy envID untouched

/-- `ScaleApp` writes apps with one statement, and only for a positive count. -/
theorem scaleApp_every (current : App) (req : Scale.ScaleRequest)
    (untouched : ∀ effect : World → World, (∀ w, (effect w).apps = w.apps) → P effect)
    (scales : ¬ req.replicas ≤ 0 → ∀ strategy, P fun w => (w.updateAppScaling current.id
      req.replicas strategy req.placementConstraints req.pinnedServerIDs).1) :
    (Scale.scaleApp (Service.triggerDeploy cluster draw) id current req).Every P := by
  unfold Scale.scaleApp
  split
  · trivial
  · next positive =>
    dsimp only
    split
    · trivial
    · next strategy known =>
      refine Prog.Every.bind ((Prog.every_atomic _).mpr (scales positive strategy)) fun updated => ?_
      cases updated with
      | none => trivial
      | some updated => exact afterScaling_every cluster draw current req strategy _ untouched

end Scaling

/-! ## Requests -/

/-- A request about an app, with what it draws. -/
inductive Request where
  | create (id projectID : UUID) (req : CreateAppRequest)
  | update (appID : UUID) (req : UpdateAppRequest)
  | setDomain (appID : UUID) (domain : String)
  | scaleApp (draw : Draw) (appID : UUID) (req : ScaleAppRequest)

/-- What a request answers: an error, or nothing of interest. -/
def answer {α : Type} : Except Refusal α → Option Refusal
  | .error refused => some refused
  | .ok _ => none

section Served

variable (linked : UUID → Bool) (cluster : World → UUID → Cluster)

def Request.prog : Request → Prog World (Option Refusal)
  | .create id projectID req => answer <$> AppHandler.create linked id projectID req
  | .update appID req => answer <$> Deploy.AppHandler.update appID req
  | .setDomain appID domain => answer <$> Deploy.AppHandler.setDomain appID domain
  | .scaleApp draw appID req => answer <$> DeployHandler.scaleApp cluster draw appID req

/-- The store after a list of requests, one after the other. -/
def serve (w : World) (requests : List Request) : World :=
  requests.foldl (fun w request => (request.prog linked cluster).out w) w

/-- Every request returns success. -/
def Succeed : World → List Request → Prop
  | _, [] => True
  | w, request :: rest =>
    (request.prog linked cluster).result w = none ∧
      Succeed ((request.prog linked cluster).out w) rest

instance succeedDecidable : ∀ (w : World) (requests : List Request),
    Decidable (Succeed linked cluster w requests)
  | _, [] => isTrue trivial
  | w, request :: rest =>
    have := succeedDecidable ((request.prog linked cluster).out w) rest
    inferInstanceAs (Decidable (_ ∧ _))

end Served

end Nixway.Apps
