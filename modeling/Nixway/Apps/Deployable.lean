/-
# Apps.Deployable -- every stored app can be deployed, if its requests say so

Four requests write the row of an app.  `ScaleApp` refuses a count that is not positive
and `SetDomain` writes back what it has read.  `Create` puts a count of one and the port
8080 where the body has none, but takes any other number; `Update` takes the numbers of
the body as they are, and a body without them has zeros.

`stored_apps_deployable_iff` says exactly when the rows stay good along requests that
succeed: when no `Create` gives a negative count or a port outside 0..65535 and every
`Update` gives a positive count and a port in 1..65535.  The builder needs no condition;
the CHECK of the table refuses every other text, the empty one of an `Update` included.
-/
import Nixway.Apps.Requests

namespace Nixway.Apps

open Nixway.Theory Nixway.Store Nixway.Deploy
open Nixway.Theory.Prog (query exec atomic)
open Nixway.Access (Refusal)

set_option autoImplicit false

/-! ## Good rows -/

def PortOk (port : Int) : Prop := 1 ≤ port ∧ port ≤ 65535

instance (port : Int) : Decidable (PortOk port) := inferInstanceAs (Decidable (_ ∧ _))

/-- A positive count and a port; the builder of a row is one the table admits. -/
structure Deployable (app : App) : Prop where
  replicas : 1 ≤ app.replicas.toInt
  port : PortOk app.port

/-- Wherever enough servers match, `Schedule` places the app. -/
def Placed (app : App) : Prop :=
  ∀ candidates, app.replicas.toInt ≤ (Scheduler.eligible (requirements app) candidates).length →
    ∃ assignments, Scheduler.schedule (requirements app) candidates = .ok assignments

theorem effective_requirements (app : App) :
    PlacementStrategy.ofText (requirements app).effective = some app.placementStrategy := by
  show PlacementStrategy.ofText (if app.placementStrategy.text = "" then "spread"
    else app.placementStrategy.text) = _
  cases app.placementStrategy <;> rfl

theorem Deployable.placed {app : App} (good : Deployable app) : Placed app := by
  intro candidates enough
  apply (Scheduler.schedule_isOk_iff _ _).mpr
  refine ⟨?_, enough, ?_⟩
  · show 0 < app.replicas.toInt
    have := good.replicas
    omega
  · rw [effective_requirements]
    rfl

def AllDeployable (w : World) : Prop := ∀ app ∈ w.apps, Deployable app

theorem AllDeployable.of_apps {w w' : World} (all : AllDeployable w) (same : w'.apps = w.apps) :
    AllDeployable w' := by
  intro app mem
  rw [same] at mem
  exact all app mem

/-- An update of one row keeps the rows good when the new row is. -/
theorem AllDeployable.update {w w' : World} {id : UUID} (all : AllDeployable w) (f : App → App)
    (keeps : ∀ app, Keyed.key (f app) = Keyed.key app) (apps : w'.apps = w.apps.update id f keeps)
    (good : ∀ app ∈ w.apps, Deployable (f app)) : AllDeployable w' := by
  intro app mem
  rw [apps, Table.mem_update] at mem
  obtain ⟨old, there, rfl⟩ := mem
  split
  · exact good old there
  · exact all old there

/-! ## Requests that are sound -/

/-- The numbers of a request make a good row, with the defaults of `Create`. -/
def Request.Sound : Request → Prop
  | .create _ _ req => 0 ≤ req.replicas.toInt ∧ 0 ≤ req.port ∧ req.port ≤ 65535
  | .update _ req => 1 ≤ req.replicas.toInt ∧ PortOk req.port
  | .setDomain _ _ => True
  | .scaleApp _ _ _ => True

instance : (request : Request) → Decidable request.Sound
  | .create _ _ req => inferInstanceAs (Decidable (0 ≤ req.replicas.toInt ∧ _ ∧ _))
  | .update _ req => inferInstanceAs (Decidable (1 ≤ req.replicas.toInt ∧ PortOk req.port))
  | .setDomain _ _ => inferInstanceAs (Decidable True)
  | .scaleApp _ _ _ => inferInstanceAs (Decidable True)

/-! ## Create -/

theorem filled_replicas_iff (req : CreateAppRequest) :
    1 ≤ req.filled.replicas.toInt ↔ 0 ≤ req.replicas.toInt := by
  show 1 ≤ (orDefault 0 1 req.replicas).toInt ↔ _
  unfold orDefault
  split
  · next absent =>
    rw [absent]
    decide
  · next given =>
    have nonzero : req.replicas.toInt ≠ 0 := fun zero => given (Int32.toInt_inj.mp zero)
    omega

theorem filled_port_iff (req : CreateAppRequest) :
    PortOk req.filled.port ↔ 0 ≤ req.port ∧ req.port ≤ 65535 := by
  show PortOk (orDefault 0 8080 req.port) ↔ _
  unfold orDefault PortOk
  split <;> omega

/-- The numbers `Create` inserts are those of the request with its defaults. -/
theorem createParams_ok {projectID : UUID} {req : CreateAppRequest} {arg : World.CreateAppParams}
    (ok : AppHandler.createParams projectID req = .ok arg) :
    arg.replicas = req.filled.replicas ∧ arg.port = req.filled.port := by
  unfold AppHandler.createParams at ok
  split at ok
  · cases ok
  · split at ok
    · cases ok
    · cases ok
    · cases ok
    · cases ok
    · split at ok
      · cases ok
      · next params =>
        cases ok
        simp only [CreateAppRequest.params, Option.bind_eq_bind, Option.bind_eq_some_iff]
          at params
        obtain ⟨builder, -, row⟩ := params
        cases row
        exact ⟨rfl, rfl⟩

/-- The INSERT is refused, or it adds the row. -/
theorem createApp_cases (w : World) (linked : UUID → Bool) (id : UUID)
    (arg : World.CreateAppParams) :
    w.createApp linked id arg = (w, none) ∨
      ∃ apps, w.apps.insert? (arg.row id) = some apps ∧
        w.createApp linked id arg = ({ w with apps := apps }, some (arg.row id)) := by
  unfold World.createApp
  dsimp only
  split
  · exact .inl rfl
  · cases w.apps.insert? (arg.row id) with
    | none => exact .inl rfl
    | some apps => exact .inr ⟨apps, rfl, rfl⟩

/-- A `Create` that succeeds adds one row, with the numbers of the request. -/
theorem create_ok {linked : UUID → Bool} {id projectID : UUID} {req : CreateAppRequest} {w : World}
    {app : App} (ok : (AppHandler.create linked id projectID req).result w = .ok app) :
    ∃ arg apps, ((AppHandler.create linked id projectID req).out w).apps = apps ∧
      w.apps.insert? (World.CreateAppParams.row arg id) = some apps ∧
        arg.replicas = req.filled.replicas ∧ arg.port = req.filled.port := by
  cases params : AppHandler.createParams projectID req with
  | error refused =>
    simp only [AppHandler.create, params] at ok
    cases ok
  | ok arg =>
    simp only [AppHandler.create, params, Prog.out, Prog.result, Prog.run_atomic_bind] at ok ⊢
    obtain refused | ⟨apps, inserted, made⟩ := createApp_cases w linked id arg
    · rw [refused] at ok
      cases ok
    · rw [made]
      exact ⟨arg, apps, rfl, inserted, createParams_ok params⟩

theorem deployable_row_iff {arg : World.CreateAppParams} {id : UUID} {req : CreateAppRequest}
    (replicas : arg.replicas = req.filled.replicas) (port : arg.port = req.filled.port) :
    Deployable (arg.row id) ↔
      0 ≤ req.replicas.toInt ∧ 0 ≤ req.port ∧ req.port ≤ 65535 := by
  rw [← filled_replicas_iff, ← filled_port_iff, ← replicas, ← port]
  exact ⟨fun good => ⟨good.replicas, good.port⟩, fun numbers => ⟨numbers.1, numbers.2⟩⟩

/-! ## Update -/

theorem updateParams_numbers {appID : UUID} {current : App} {req : UpdateAppRequest}
    {pinned : List UUID} {arg : World.UpdateAppParams}
    (params : AppHandler.updateParams appID current req pinned = some arg) :
    arg.replicas = req.replicas ∧ arg.port = req.port := by
  simp only [AppHandler.updateParams, Option.bind_eq_bind, Option.bind_eq_some_iff] at params
  obtain ⟨builder, -, status, -, row⟩ := params
  cases row
  exact ⟨rfl, rfl⟩

/-- An `Update` that succeeds rewrites a row that is there, with the numbers of the
request. -/
theorem update_ok {appID : UUID} {req : UpdateAppRequest} {w : World} {app : App}
    (ok : (AppHandler.update appID req).result w = .ok app) :
    ∃ arg : World.UpdateAppParams, ((AppHandler.update appID req).out w).apps =
        w.apps.update arg.id arg.row arg.key_row ∧
      arg.replicas = req.replicas ∧ arg.port = req.port ∧ ∃ current ∈ w.apps, current.id = arg.id := by
  simp only [AppHandler.update, Prog.out, Prog.result, Prog.run_query_bind] at ok ⊢
  cases found : w.getApp appID with
  | none => rw [found] at ok; cases ok
  | some current =>
    rw [found] at ok
    dsimp only at ok ⊢
    cases ids : AppHandler.pinned current req with
    | none => rw [ids] at ok; cases ok
    | some pinned =>
      rw [ids] at ok
      dsimp only at ok ⊢
      cases params : AppHandler.updateParams appID current req pinned with
      | none => rw [params] at ok; cases ok
      | some arg =>
        have numbers := updateParams_numbers params
        have own := AppHandler.id_of_updateParams params
        refine ⟨arg, ?_, numbers.1, numbers.2, current, Table.mem_of_find? found, ?_⟩
        · rw [Prog.run_atomic_bind]
          cases (writeApp arg w).2 <;> rfl
        · rw [own]
          exact Table.key_of_find? found

theorem deployable_update_iff (arg : World.UpdateAppParams) (app : App) :
    Deployable (arg.row app) ↔ 1 ≤ arg.replicas.toInt ∧ PortOk arg.port :=
  ⟨fun good => ⟨good.replicas, good.port⟩, fun numbers => ⟨numbers.1, numbers.2⟩⟩

/-! ## SetDomain and ScaleApp -/

/-- `SetDomain` writes back the count and the port it has read. -/
theorem AllDeployable.setDomain {w : World} (all : AllDeployable w) (appID : UUID)
    (domain : String) : AllDeployable ((AppHandler.setDomain appID domain).out w) := by
  have lowered : AllDeployable (w.setAppDomainVerified appID false) :=
    all.update (fun app => { app with domainVerified := false }) (fun _ => rfl) rfl fun app mem =>
      ⟨(all app mem).replicas, (all app mem).port⟩
  unfold AppHandler.setDomain
  split
  · exact all
  · simp only [Prog.out, Prog.run_exec_bind, Prog.run_query_bind]
    cases found : (w.setAppDomainVerified appID false).getApp appID with
    | none => exact lowered
    | some app =>
      have good := lowered app (Table.mem_of_find? found)
      dsimp only
      rw [Prog.run_atomic_bind]
      have written : AllDeployable
          (writeApp (AppHandler.domainParams appID app domain)
            (w.setAppDomainVerified appID false)).1 :=
        lowered.update (AppHandler.domainParams appID app domain).row (fun _ => rfl) rfl fun _ _ => ⟨good.replicas, good.port⟩
      cases (writeApp (AppHandler.domainParams appID app domain)
        (w.setAppDomainVerified appID false)).2 with
      | none => exact written
      | some app => exact written

/-- `ScaleApp` writes no count that is not positive. -/
theorem AllDeployable.scaleApp {w : World} (all : AllDeployable w)
    (cluster : World → UUID → Cluster) (draw : Draw) (appID : UUID) (req : ScaleAppRequest) :
    AllDeployable ((DeployHandler.scaleApp cluster draw appID req).out w) := by
  refine Prog.Every.run_preserves ?_ all
  have untouched : ∀ effect : World → World, (∀ w, (effect w).apps = w.apps) →
      ∀ w, AllDeployable w → AllDeployable (effect w) :=
    fun effect same w all => all.of_apps (same w)
  refine Prog.Every.bind ((Prog.every_query _).mpr fun w all => all) fun app => ?_
  cases app with
  | none => trivial
  | some app =>
    dsimp only
    split
    · trivial
    · split
      · trivial
      · next pinned _ =>
        refine Prog.Every.bind ((Prog.every_query _).mpr fun w all => all) fun current => ?_
        cases current with
        | none => trivial
        | some current =>
          refine Prog.Every.bind (scaleApp_every cluster draw current _ untouched ?_) fun answer => ?_
          · intro positive strategy w all
            have count := (Scheduler.replicas_pos_iff _).mp positive
            refine all.update (fun app => { app with
              replicas := req.replicas
              placementStrategy := strategy
              placementConstraints := _
              pinnedServerIDs := _ }) (fun _ => rfl) rfl fun app mem => ?_
            exact ⟨count, (all app mem).port⟩
          · cases answer <;> trivial

/-! ## Runs -/

section Runs

variable {linked : UUID → Bool} {cluster : World → UUID → Cluster}

/-- A request that succeeds keeps the rows good exactly when it is sound. -/
theorem allDeployable_out_iff {w : World} (all : AllDeployable w) (request : Request)
    (succeeds : (request.prog linked cluster).result w = none) :
    AllDeployable ((request.prog linked cluster).out w) ↔ request.Sound := by
  cases request with
  | create id projectID req =>
    simp only [Request.prog, Prog.result, Prog.out, Prog.run_map] at succeeds ⊢
    cases result : ((AppHandler.create linked id projectID req).run w).2 with
    | error refused => rw [result] at succeeds; cases succeeds
    | ok app =>
      obtain ⟨arg, apps, after, inserted, replicas, port⟩ := create_ok result
      constructor
      · intro later
        refine (deployable_row_iff replicas port).mp (later (arg.row id) ?_)
        rw [show (Prog.run _ w).1.apps = apps from after, Table.mem_insert? inserted]
        exact .inl rfl
      · intro sound app mem
        rw [show (Prog.run _ w).1.apps = apps from after, Table.mem_insert? inserted] at mem
        obtain rfl | old := mem
        · exact (deployable_row_iff replicas port).mpr sound
        · exact all app old
  | update appID req =>
    simp only [Request.prog, Prog.result, Prog.out, Prog.run_map] at succeeds ⊢
    cases result : ((Deploy.AppHandler.update appID req).run w).2 with
    | error refused => rw [result] at succeeds; cases succeeds
    | ok app =>
      obtain ⟨arg, after, replicas, port, current, there, own⟩ := update_ok result
      show _ ↔ 1 ≤ req.replicas.toInt ∧ PortOk req.port
      rw [← replicas, ← port]
      constructor
      · intro later
        refine (deployable_update_iff arg current).mp (later (arg.row current) ?_)
        rw [show (Prog.run _ w).1.apps = _ from after, Table.mem_update]
        exact ⟨current, there, if_pos own⟩
      · intro sound
        refine all.update arg.row arg.key_row after fun app _ => ?_
        exact (deployable_update_iff arg app).mpr sound
  | setDomain appID domain =>
    simp only [Request.prog, Prog.out, Prog.run_map]
    exact iff_of_true (all.setDomain appID domain) trivial
  | scaleApp draw appID req =>
    simp only [Request.prog, Prog.out, Prog.run_map]
    exact iff_of_true (all.scaleApp cluster draw appID req) trivial

/-- The rows stay good along requests that succeed exactly when each of them is sound. -/
theorem allDeployable_serve_iff {w : World} (all : AllDeployable w) {requests : List Request}
    (succeed : Succeed linked cluster w requests) :
    (∀ earlier, earlier <+: requests → AllDeployable (serve linked cluster w earlier)) ↔
      ∀ request ∈ requests, request.Sound := by
  induction requests generalizing w with
  | nil => exact forall_prefix_nil.trans (iff_of_true all fun _ mem => nomatch mem)
  | cons request rest ih =>
    have first := allDeployable_out_iff all request succeed.1
    rw [forall_prefix_cons, List.forall_mem_cons]
    constructor
    · rintro ⟨-, throughout⟩
      have after := throughout [] List.nil_prefix
      exact ⟨first.mp after, (ih after succeed.2).mp throughout⟩
    · rintro ⟨sound, later⟩
      exact ⟨all, (ih (first.mpr sound) succeed.2).mpr later⟩

/-- **When every stored app can be deployed.**  Along requests that succeed, from rows that
are good, every row has a positive count and a port and is placed wherever enough servers
match, exactly when every `Create` and `Update` gives such numbers. -/
theorem stored_apps_deployable_iff {w : World} (start : ∀ app ∈ w.apps, Deployable app)
    {requests : List Request} (succeed : Succeed linked cluster w requests) :
    (∀ earlier, earlier <+: requests → ∀ app ∈ (serve linked cluster w earlier).apps,
        Deployable app ∧ Placed app) ↔
      ∀ request ∈ requests, request.Sound := by
  rw [← allDeployable_serve_iff start succeed]
  constructor
  · exact fun throughout earlier within app mem => (throughout earlier within app mem).1
  · intro throughout earlier within app mem
    have good := throughout earlier within app mem
    exact ⟨good, good.placed⟩

end Runs

/-! ## A shop -/

def emptyShop : World :=
  { projects := ⟨[{ id := 1, teamID := 1, clusterID := 1, name := "shop", slug := "shop" }],
      by decide⟩
    environments := .single ⟨1, 1, "production", "production", true⟩ }

def threeServers : List Scheduler.Candidate :=
  [{ serverID := 1, serverName := "a" }, { serverID := 2, serverName := "b" },
    { serverID := 3, serverName := "c" }]

def shopCluster (_ : World) (_ : UUID) : Cluster := { members := [], candidates := threeServers }

def createWeb : Request := .create 7 1 { name := "web", sourceType := "docker_image" }

def fullBodies : List Request :=
  [createWeb, .update 7 { name := "web", builder := "auto", port := 3000, replicas := 2 },
    .setDomain 7 "shop.example", .scaleApp ⟨1, fun _ => 1, []⟩ 7 { replicas := 3 }]

/-- The row is good all along. -/
theorem full_bodies_deployable :
    Succeed (fun _ => true) shopCluster emptyShop fullBodies ∧
      ∀ app ∈ (serve (fun _ => true) shopCluster emptyShop fullBodies).apps,
        Deployable app ∧ Placed app := by
  have succeed : Succeed (fun _ => true) shopCluster emptyShop fullBodies := by decide
  have good := (stored_apps_deployable_iff (fun _ mem => absurd mem List.not_mem_nil)
    succeed).mpr (by decide)
  exact ⟨succeed, good _ (List.prefix_refl _)⟩

/-- A body with a name and a builder only: the request succeeds, the row has no replica and
the port 0, and the next deploy is refused although three servers match. -/
theorem partial_update_undeployable :
    Succeed (fun _ => true) shopCluster emptyShop
        [createWeb, .update 7 { name := "web", builder := "auto" }] ∧
      ∃ app, (serve (fun _ => true) shopCluster emptyShop
          [createWeb, .update 7 { name := "web", builder := "auto" }]).getApp 7 = some app ∧
        app.replicas = 0 ∧ app.port = 0 ∧
        (Scheduler.eligible (requirements app) threeServers).length = 3 ∧
        Scheduler.schedule (requirements app) threeServers =
          .error "replicas must be greater than zero" := by
  refine ⟨by decide, ?_⟩
  refine ⟨{ id := 7, projectID := 1, name := "web", slug := "web", sourceType := .dockerImage,
            rootPath := "", autoDeploy := false, dockerfilePath := "", port := 0,
            healthCheckPath := "", healthCheckInterval := 0, healthCheckTimeout := 0,
            replicas := 0 }, ?_⟩
  decide

end Nixway.Apps
