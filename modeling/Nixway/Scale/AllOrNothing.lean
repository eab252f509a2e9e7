/-
# Scale.AllOrNothing -- what a scaling that fails leaves behind

`ScaleApp` with statements that fail, and the ticks of `EvaluateAutoscaling` that call it.  The
settings are stored by `UpdateAppScaling` before the environment is looked up, before
`TriggerDeploy` has found servers for them and before the event is inserted; nothing stores the old
ones again.

`harmless_iff` is the exact condition on one call.  `steady_ticks` carries it over the ticks: where
every call fails and is harmless, the stored settings stay.  On a cluster that is full a call is
not harmless, and each tick counts on from what the one before it has stored
(`full_cluster_counts_up`).
-/
import Nixway.Deploy.Trigger
import Nixway.Scale.Autoscale

namespace Nixway.Scale

open Nixway.Theory Nixway.Store
open Nixway.Theory.Prog (query exec atomic)
open Nixway.Deploy (TriggerFaults TriggerRequest Cluster Draw Launch tryDeploy tryTargets tryLaunch
  tryCreate tryClose createTarget createLaunched insertable plan closeLaunch go)

set_option autoImplicit false

/-! ## ScaleApp, with statements that fail -/

/-- The statements of a call that fail; an error of `GetLastHealthyDeployment` counts as no
deployment. -/
structure ScaleFaults where
  getApp : Bool := false
  updateAppScaling : Bool := false
  listEnvironments : Bool := false
  getLastHealthyDeployment : Bool := false
  createScalingEvent : Bool := false
  trigger : TriggerFaults := {}

/-- The strategy of a request; without one it is the app's. -/
def ScaleRequest.strategy (req : ScaleRequest) (current : App) : String :=
  if req.placementStrategy = "" then current.placementStrategy.text else req.placementStrategy

section Call

variable (faults : ScaleFaults) (cluster : World → UUID → Cluster) (draw : Draw)
  (record : World → World)

/-- `TriggerDeploy`, as `ScaleApp` calls it. -/
def deployAgain (faults : TriggerFaults) (appID envID buildID : UUID) :
    Prog World (Except String Deployment) :=
  tryDeploy faults cluster draw ⟨appID, envID, buildID, none⟩

def tryRecordScaling (current : App) (req : ScaleRequest) (strategy : PlacementStrategy)
    (envID : UUID) (deployment : Option Deployment) (message : String) :
    Prog World (Except String ScalingEvent) :=
  if faults.createScalingEvent then return .error "create scaling event"
  else recordScaling record current req strategy envID deployment message

def tryDeployScaled (current : App) (req : ScaleRequest) (strategy : PlacementStrategy)
    (envID : UUID) : Prog World (Except String ScalingEvent) := do
  match ← query fun w =>
      if faults.getLastHealthyDeployment then none else w.getLastHealthyDeployment current.id envID
    with
  | some lastHealthy =>
    match ← deployAgain cluster draw faults.trigger current.id envID lastHealthy.buildID with
    | .error err => return .error err
    | .ok next =>
      tryRecordScaling faults record current req strategy envID (some next)
        ("Scaling from " ++ toString current.replicas ++ " to " ++ toString req.replicas ++
          " replicas")
  | none =>
    tryRecordScaling faults record current req strategy envID none
      "Scaling settings saved; deploy a build to apply them"

/-- `ScaleApp` behind the statement that stores the settings. -/
def applyScaled (current : App) (req : ScaleRequest) (strategy : PlacementStrategy)
    (updated : App) : Prog World (Except String ScalingEvent) := do
  let some envs ← query fun w =>
      if faults.listEnvironments then none
      else some (w.listEnvironmentsByProject updated.projectID)
    | return .error "list environments"
  match productionEnvironment envs with
  | .error err => return .error err
  | .ok envID => tryDeployScaled faults cluster draw record current req strategy envID

/-- `ScaleApp`; `record` is run with the last statement. -/
def tryScaleApp (appID : UUID) (req : ScaleRequest) : Prog World (Except String ScalingEvent) := do
  let some current ← query fun w => if faults.getApp then none else w.getApp appID
    | return .error "get app"
  if req.replicas ≤ 0 then
    return .error "replicas must be greater than zero"
  match PlacementStrategy.ofText (req.strategy current) with
  | none => return .error ("unknown placement strategy \"" ++ req.strategy current ++ "\"")
  | some strategy =>
    let some updated ← atomic fun w =>
        if faults.updateAppScaling then (w, none)
        else w.updateAppScaling current.id req.replicas strategy req.placementConstraints
          req.pinnedServerIDs
      | return .error "update app scaling"
    applyScaled faults cluster draw record current req strategy updated

/-- With a store that works it is the `ScaleApp` of `Autoscale`. -/
theorem tryScaleApp_working (trigger : TriggerFaults) (appID : UUID) (req : ScaleRequest) (w : World)
    {current : App} (found : w.getApp appID = some current) :
    (tryScaleApp { trigger := trigger } cluster draw record appID req).run w =
      (scaleApp (deployAgain cluster draw trigger) record current req).run w := by
  unfold tryScaleApp scaleApp
  rw [Prog.run_query_bind]
  dsimp only
  rw [found]
  rfl

end Call

/-! ## What a deploy leaves alone -/

/-- The apps and the environments are the same, and no deployment is gone. -/
structure Spared (s t : World) : Prop where
  apps : t.apps = s.apps
  environments : t.environments = s.environments
  deployments : ∀ id, (s.deployments.find? id).isSome → (t.deployments.find? id).isSome

theorem Spared.refl (w : World) : Spared w w := ⟨rfl, rfl, fun _ => id⟩

theorem Spared.trans {s t u : World} (first : Spared s t) (second : Spared t u) : Spared s u :=
  ⟨second.apps.trans first.apps, second.environments.trans first.environments,
    fun id there => second.deployments id (first.deployments id there)⟩

theorem spared_updateDeploymentStatus (w : World) (id : UUID) (status : DeploymentStatus)
    (startedAt : Option Nat) (error : Option String) :
    Spared w (w.updateDeploymentStatus id status startedAt error) := by
  unfold World.updateDeploymentStatus
  refine ⟨rfl, rfl, fun id' there => ?_⟩
  rw [Table.isSome_find?_update]
  exact there

theorem spared_createTarget (fault : Option String) (targetID deploymentID serverID : UUID)
    (w : World) : Spared w (createTarget fault targetID deploymentID serverID w).1 := by
  have inserted : Spared w (w.createDeploymentTarget targetID deploymentID serverID).1 := by
    unfold World.createDeploymentTarget
    dsimp only
    split
    · exact .refl w
    · split
      · exact ⟨rfl, rfl, fun _ => id⟩
      · exact .refl w
  unfold createTarget
  cases fault with
  | some err => exact .refl w
  | none =>
    dsimp only
    cases created : w.createDeploymentTarget targetID deploymentID serverID with
    | mk w' answer =>
      rw [created] at inserted
      cases answer <;> exact inserted

theorem spared_tryTargets (faults : TriggerFaults) (launch : Launch) (deployment : Deployment)
    (n : Nat) (targets : List (UUID × Deploy.ScheduledTarget)) (w : World) :
    Spared w ((tryTargets faults launch deployment n targets).run w).1 := by
  induction targets generalizing n w with
  | nil =>
    unfold tryTargets tryClose
    split
    · exact .refl w
    · exact spared_updateDeploymentStatus w deployment.id .deploying (some w.now) none
  | cons entry rest ih =>
    obtain ⟨targetID, scheduled⟩ := entry
    unfold tryTargets
    rw [Prog.run_atomic_bind]
    have first := spared_createTarget (faults.createTarget n) targetID deployment.id
      scheduled.member.serverID w
    cases (createTarget (faults.createTarget n) targetID deployment.id
        scheduled.member.serverID w).2 with
    | error err => exact first
    | ok target =>
      dsimp only
      rw [go, Prog.run_exec_bind]
      refine first.trans (Spared.trans ?_ (ih (n + 1) _))
      exact ⟨rfl, rfl, fun _ => id⟩

theorem spared_createLaunched {launch : Launch} {w w' : World} {deployment : Deployment}
    (created : createLaunched launch w = (w', some deployment)) :
    Spared w w' ∧ (w'.deployments.find? deployment.id).isSome := by
  obtain ⟨inside, -, -⟩ := Deploy.createLaunched_row created
  refine ⟨?_, Option.isSome_iff_exists.mpr ⟨deployment, Table.find?_self inside⟩⟩
  unfold createLaunched World.createDeployment at created
  dsimp only at created
  cases inserted : w.deployments.insert? _ with
  | none =>
    rw [inserted] at created
    cases created
  | some deployments =>
    rw [inserted] at created
    cases created
    refine ⟨rfl, rfl, fun id there => ?_⟩
    show (deployments.find? id).isSome
    rw [Table.find?_insert? inserted]
    split
    · rfl
    · exact there

/-- The call of `TriggerDeploy` gets through: it can schedule, and insert, all it has to. -/
def Launches (faults : TriggerFaults) (cluster : World → UUID → Cluster) (draw : Draw)
    (req : TriggerRequest) (w : World) : Prop :=
  ∃ launch w' deployment, plan faults cluster draw req w = .ok launch ∧
    faults.createDeployment = none ∧ createLaunched launch w = (w', some deployment) ∧
    insertable faults deployment.id 0 launch.targets w' = true

/-- How a deploy ends, with its world. -/
structure Ends (w : World) (launches : Prop) (ended : World × Except String Deployment) : Prop where
  spared : Spared w ended.1
  deployed : launches → ∃ d, ended.2 = .ok d ∧ (ended.1.deployments.find? d.id).isSome
  failed : ¬ launches → ∃ err, ended.2 = .error err

theorem ends_tryDeploy (faults : TriggerFaults) (cluster : World → UUID → Cluster) (draw : Draw)
    (req : TriggerRequest) (w : World) :
    Ends w (Launches faults cluster draw req w) ((tryDeploy faults cluster draw req).run w) := by
  rw [Deploy.tryDeploy_run]
  cases planned : plan faults cluster draw req w with
  | error err =>
    refine ⟨.refl w, fun ⟨launch, _, _, same, _⟩ => ?_, fun _ => ⟨err, rfl⟩⟩
    rw [planned] at same
    cases same
  | ok launch =>
    dsimp only
    unfold tryLaunch
    rw [Prog.run_atomic_bind]
    unfold tryCreate
    cases broken : faults.createDeployment with
    | some err =>
      refine ⟨.refl w, fun ⟨_, _, _, _, works, _⟩ => ?_, fun _ => ⟨_, rfl⟩⟩
      rw [broken] at works
      cases works
    | none =>
      dsimp only
      cases created : createLaunched launch w with
      | mk w' answer =>
        cases answer with
        | none =>
          obtain rfl := Deploy.createLaunched_none created
          refine ⟨.refl w', fun ⟨_, _, _, same, _, there, _⟩ => ?_, fun _ => ⟨_, rfl⟩⟩
          cases planned.symm.trans same
          cases created.symm.trans there
        | some deployment =>
          obtain ⟨first, inside⟩ := spared_createLaunched created
          have rest := spared_tryTargets faults launch deployment 0 launch.targets w'
          dsimp only
          obtain ⟨fine, answered⟩ | ⟨stuck, failed, -⟩ :=
            Deploy.tryTargets_spec faults launch deployment 0 launch.targets w' w'.started
          · refine ⟨first.trans rest, fun _ => ?_, fun none => ?_⟩
            · exact ⟨deployment, answered, rest.deployments deployment.id inside⟩
            · exact absurd ⟨launch, w', deployment, planned, broken, created, fine⟩ none
          · refine ⟨first.trans rest, fun ⟨_, _, _, same, _, there, fine⟩ => ?_,
              fun _ => failed⟩
            cases planned.symm.trans same
            cases created.symm.trans there
            rw [stuck] at fine
            cases fine

/-! ## The settings of an app -/

structure Settings where
  replicas : Int32
  placementStrategy : PlacementStrategy
  placementConstraints : Constraints
  pinnedServerIDs : List UUID
deriving DecidableEq

def settingsOf (app : App) : Settings :=
  ⟨app.replicas, app.placementStrategy, app.placementConstraints, app.pinnedServerIDs⟩

def stored (w : World) (appID : UUID) : Option Settings := (w.getApp appID).map settingsOf

/-- What a request has `UpdateAppScaling` store. -/
def asked (req : ScaleRequest) (strategy : PlacementStrategy) : Settings :=
  ⟨req.replicas, strategy, req.placementConstraints, req.pinnedServerIDs⟩

theorem stored_congr {s t : World} (same : t.apps = s.apps) (appID : UUID) :
    stored t appID = stored s appID := by
  unfold stored World.getApp
  rw [same]

theorem getApp_updateAppScaling {w : World} {appID : UUID} {current : App}
    (found : w.getApp appID = some current) (replicas : Int32) (strategy : PlacementStrategy)
    (constraints : Constraints) (pinned : List UUID) :
    ∃ updated : App,
      (w.updateAppScaling appID replicas strategy constraints pinned).2 = some updated ∧
      (w.updateAppScaling appID replicas strategy constraints pinned).1.getApp appID =
        some updated ∧
      settingsOf updated = ⟨replicas, strategy, constraints, pinned⟩ ∧
      updated.projectID = current.projectID := by
  have read : w.apps.find? appID = some current := found
  refine ⟨{ current with
      replicas := replicas
      placementStrategy := strategy
      placementConstraints := constraints
      pinnedServerIDs := pinned }, ?_, ?_, rfl, rfl⟩
  · rw [World.updateAppScaling, found]
    rfl
  · rw [World.getApp, World.updateAppScaling]
    dsimp only
    rw [Table.find?_update_self, read]
    rfl

section Whole

variable (faults : ScaleFaults) (cluster : World → UUID → Cluster) (draw : Draw)

/-- Behind the statement that stores the settings nothing fails: there is an environment, the
build of the last healthy deployment, if there is one, can be launched for the settings now
stored, and the event can be inserted. -/
structure Completes (appID projectID : UUID) (w : World) : Prop where
  listEnvironments : faults.listEnvironments = false
  createScalingEvent : faults.createScalingEvent = false
  launches : ∃ envID, productionEnvironment (w.listEnvironmentsByProject projectID) = .ok envID ∧
    ∀ lastHealthy,
      (if faults.getLastHealthyDeployment then none else w.getLastHealthyDeployment appID envID) =
        some lastHealthy →
      Launches faults.trigger cluster draw ⟨appID, envID, lastHealthy.buildID, none⟩ w

/-- A call that gets as far as to store the settings stores those that are there, or gets through
with them. -/
def Harmless (appID : UUID) (req : ScaleRequest) (w : World) : Prop :=
  ∀ current strategy, faults.getApp = false → w.getApp appID = some current →
    0 < req.replicas → PlacementStrategy.ofText (req.strategy current) = some strategy →
    faults.updateAppScaling = false →
      settingsOf current = asked req strategy ∨
        Completes faults cluster draw appID current.projectID
          (w.updateAppScaling appID req.replicas strategy req.placementConstraints
            req.pinnedServerIDs).1

theorem productionEnvironment_found {w : World} {projectID envID : UUID}
    (chosen : productionEnvironment (w.listEnvironmentsByProject projectID) = .ok envID) :
    (w.environments.find? envID).isSome := by
  have listed : ∀ env ∈ w.listEnvironmentsByProject projectID, env ∈ w.environments := by
    intro env mem
    unfold World.listEnvironmentsByProject at mem
    exact (List.mem_filter.mp ((List.mem_insertionSort _).mp mem)).1
  have there : ∀ env ∈ w.listEnvironmentsByProject projectID,
      (w.environments.find? env.id).isSome := fun env mem =>
    Option.isSome_iff_exists.mpr ⟨env, Table.find?_self (listed env mem)⟩
  unfold productionEnvironment at chosen
  split at chosen
  · cases chosen
  · next first rest list =>
    cases chosen
    cases found : (w.listEnvironmentsByProject projectID).find? Environment.isProduction with
    | none => exact there first (list ▸ List.mem_cons_self)
    | some env => exact there env (List.mem_of_find?_eq_some found)

/-- How a call ends behind that statement. -/
structure Closes (w : World) (completes : Prop) (ended : World × Except String ScalingEvent) :
    Prop where
  apps : ended.1.apps = w.apps
  done : completes → ∃ event, ended.2 = .ok event
  failed : ¬ completes → ∃ err, ended.2 = .error err

variable {record : World → World} (keeps : ∀ w, (record w).apps = w.apps)

include keeps

theorem closes_tryRecordScaling (current : App) (req : ScaleRequest) (strategy : PlacementStrategy)
    {envID : UUID} {deployment : Option Deployment} (message : String) {w : World}
    (app : (w.apps.find? current.id).isSome) (env : (w.environments.find? envID).isSome)
    (deployed : deployment.all fun d => (w.deployments.find? d.id).isSome) :
    Closes w (faults.createScalingEvent = false)
      ((tryRecordScaling faults record current req strategy envID deployment message).run w) := by
  unfold tryRecordScaling
  cases broken : faults.createScalingEvent with
  | true => exact ⟨rfl, fun works => (nomatch works), fun _ => ⟨_, rfl⟩⟩
  | false =>
    rw [if_neg Bool.false_ne_true]
    unfold recordScaling
    dsimp only
    rw [Prog.run_atomic_bind]
    unfold World.createScalingEvent
    rw [if_pos ⟨app, env, by rw [Option.all_map]; exact deployed⟩]
    exact ⟨keeps _, fun _ => ⟨_, rfl⟩, fun none => absurd rfl none⟩

theorem closes_tryDeployScaled (current : App) (req : ScaleRequest) (strategy : PlacementStrategy)
    {envID : UUID} {w : World} (app : (w.apps.find? current.id).isSome)
    (env : (w.environments.find? envID).isSome) :
    Closes w (faults.createScalingEvent = false ∧ ∀ lastHealthy,
        (if faults.getLastHealthyDeployment then none
          else w.getLastHealthyDeployment current.id envID) = some lastHealthy →
        Launches faults.trigger cluster draw ⟨current.id, envID, lastHealthy.buildID, none⟩ w)
      ((tryDeployScaled faults cluster draw record current req strategy envID).run w) := by
  unfold tryDeployScaled
  rw [Prog.run_query_bind]
  cases (if faults.getLastHealthyDeployment then none
      else w.getLastHealthyDeployment current.id envID) with
  | none =>
    have closes := closes_tryRecordScaling faults keeps current req strategy
      "Scaling settings saved; deploy a build to apply them" app env
      (show (none : Option Deployment).all _ = true from rfl)
    exact ⟨closes.apps, fun both => closes.done both.1,
      fun none => closes.failed fun works => none ⟨works, nofun⟩⟩
  | some lastHealthy =>
    dsimp only
    rw [Prog.run_bind]
    obtain ⟨spared, deployed, failed⟩ := ends_tryDeploy faults.trigger cluster draw
      ⟨current.id, envID, lastHealthy.buildID, none⟩ w
    unfold deployAgain
    by_cases launches : Launches faults.trigger cluster draw
        ⟨current.id, envID, lastHealthy.buildID, none⟩ w
    · obtain ⟨next, answered, there⟩ := deployed launches
      rw [answered]
      have closes := closes_tryRecordScaling faults keeps current req strategy
        ("Scaling from " ++ toString current.replicas ++ " to " ++ toString req.replicas ++
          " replicas") (spared.apps ▸ app) (spared.environments ▸ env)
        (show (some next).all _ = true from there)
      refine ⟨closes.apps.trans spared.apps, fun both => closes.done both.1,
        fun none => closes.failed fun works => none ⟨works, ?_⟩⟩
      rintro _ ⟨⟩
      exact launches
    · obtain ⟨err, answered⟩ := failed launches
      rw [answered]
      exact ⟨spared.apps, fun both => absurd (both.2 lastHealthy rfl) launches,
        fun _ => ⟨err, rfl⟩⟩

theorem closes_applyScaled (current updated : App) (req : ScaleRequest)
    (strategy : PlacementStrategy) {w : World} (app : (w.apps.find? current.id).isSome) :
    Closes w (Completes faults cluster draw current.id updated.projectID w)
      ((applyScaled faults cluster draw record current req strategy updated).run w) := by
  unfold applyScaled
  rw [Prog.run_query_bind]
  cases listed : faults.listEnvironments with
  | true =>
    refine ⟨rfl, fun completes => ?_, fun _ => ⟨_, rfl⟩⟩
    rw [completes.listEnvironments] at listed
    cases listed
  | false =>
    rw [if_neg Bool.false_ne_true]
    dsimp only
    cases chosen : productionEnvironment (w.listEnvironmentsByProject updated.projectID) with
    | error err =>
      refine ⟨rfl, fun completes => ?_, fun _ => ⟨err, rfl⟩⟩
      obtain ⟨envID, found, -⟩ := completes.launches
      rw [chosen] at found
      cases found
    | ok envID =>
      have closes := closes_tryDeployScaled faults cluster draw keeps current req strategy app
        (productionEnvironment_found chosen)
      refine ⟨closes.apps, fun completes => ?_, fun none => closes.failed fun both => ?_⟩
      · obtain ⟨envID', found, launches⟩ := completes.launches
        rw [chosen] at found
        cases found
        exact closes.done ⟨completes.createScalingEvent, launches⟩
      · exact none ⟨listed, both.1, envID, chosen, both.2⟩

/-- A call leaves the settings alone if it fails. -/
def AllOrNothing (record : World → World) (appID : UUID) (req : ScaleRequest) (w : World) : Prop :=
  ∀ err, (tryScaleApp faults cluster draw record appID req).result w = .error err →
    stored ((tryScaleApp faults cluster draw record appID req).out w) appID = stored w appID

/-- **When a scaling is all or nothing.** -/
theorem harmless_iff (appID : UUID) (req : ScaleRequest) (w : World) :
    AllOrNothing faults cluster draw record appID req w ↔
      Harmless faults cluster draw appID req w := by
  unfold AllOrNothing Prog.result Prog.out tryScaleApp
  rw [Prog.run_query_bind]
  cases read : faults.getApp with
  | true => exact iff_of_true (fun _ _ => rfl) fun _ _ works => nomatch read.symm.trans works
  | false =>
  rw [if_neg Bool.false_ne_true]
  cases found : w.getApp appID with
  | none => exact iff_of_true (fun _ _ => rfl) fun _ _ _ there => nomatch found.symm.trans there
  | some current =>
  dsimp only
  by_cases positive : req.replicas ≤ 0
  · rw [if_pos positive]
    exact iff_of_true (fun _ _ => rfl) fun _ _ _ _ many => absurd many (Int32.not_lt.mpr positive)
  rw [if_neg positive]
  cases known : PlacementStrategy.ofText (req.strategy current) with
  | none =>
    refine iff_of_true (fun _ _ => rfl) fun _ _ _ there _ chosen => ?_
    cases found.symm.trans there
    cases known.symm.trans chosen
  | some strategy =>
  dsimp only
  rw [Prog.run_atomic_bind]
  cases broken : faults.updateAppScaling with
  | true =>
    exact iff_of_true (fun _ _ => rfl) fun _ _ _ _ _ _ works => nomatch broken.symm.trans works
  | false =>
  have key : current.id = appID := Table.key_of_find? found
  obtain ⟨updated, answered, there, settings, project⟩ := getApp_updateAppScaling found req.replicas
    strategy req.placementConstraints req.pinnedServerIDs
  rw [if_neg Bool.false_ne_true, key, answered]
  dsimp only
  have closes := closes_applyScaled faults cluster draw keeps current updated req strategy
    (w := (w.updateAppScaling appID req.replicas strategy req.placementConstraints
      req.pinnedServerIDs).1) (by rw [key]; exact Option.isSome_iff_exists.mpr ⟨updated, there⟩)
  rw [key, project] at closes
  generalize (applyScaled faults cluster draw record current req strategy updated).run
    (w.updateAppScaling appID req.replicas strategy req.placementConstraints
      req.pinnedServerIDs).1 = ended at closes ⊢
  have left : stored ended.1 appID = some (asked req strategy) := by
    rw [stored_congr closes.apps, stored, there, Option.map_some, settings]
    rfl
  have before : stored w appID = some (settingsOf current) := by
    rw [stored, found, Option.map_some]
  rw [left, before]
  constructor
  · intro holds current' strategy' _ there' _ chosen _
    cases found.symm.trans there'
    cases known.symm.trans chosen
    by_cases completes : Completes faults cluster draw appID current.projectID
        (w.updateAppScaling appID req.replicas strategy req.placementConstraints
          req.pinnedServerIDs).1
    · exact .inr completes
    · obtain ⟨err, failed⟩ := closes.failed completes
      exact .inl (Option.some.inj (holds err failed)).symm
  · intro harmless err failed
    rcases harmless current strategy read found (Int32.not_le.mp positive) known broken with
      same | completes
    · rw [same]
    · obtain ⟨event, worked⟩ := closes.done completes
      rw [worked] at failed
      cases failed

end Whole

/-! ## Ticks -/

section Ticks

/-- The value and the count a rule calls `ScaleApp` with, if it does. -/
def asksFor (metrics : AverageMetrics) (app : App) (rule : AutoscalingRule) (now : Nat) :
    Option (Double × Int32) :=
  match metricValue rule.metricName metrics with
  | none => none
  | some value =>
    if metrics.sampleCount = 0 then none
    else if !comparisonMatches value rule.comparison rule.threshold then none
    else if autoscaleTarget app.replicas rule = app.replicas then none
    else if coolingDown rule app.replicas (autoscaleTarget app.replicas rule) now then none
    else some (value, autoscaleTarget app.replicas rule)

def callRequest (app : App) (rule : AutoscalingRule) (value : Double) (target : Int32) :
    ScaleRequest :=
  { replicas := target
    placementStrategy := app.placementStrategy.text
    placementConstraints := app.placementConstraints
    pinnedServerIDs := app.pinnedServerIDs
    actorType := "autoscaler"
    eventType := "autoscale"
    metricName := some rule.metricName
    metricValue := some value
    ruleName := some rule.name }

def logCall (app : App) (rule : AutoscalingRule) (target : Int32) (w : World) : World :=
  { w with scaleCalls := w.scaleCalls ++ [⟨rule, app.replicas, target, w.now⟩] }

variable (trigger : TriggerFaults) (cluster : World → UUID → Cluster) (draw : Draw)

/-- The call of a rule is the whole of `ScaleApp`. -/
theorem callScaleApp_run (app : App) (rule : AutoscalingRule) (value : Double) (target : Int32)
    (w : World) :
    ∃ record : World → World, (∀ w, (record w).apps = w.apps) ∧
      (callScaleApp (deployAgain cluster draw trigger) app rule value target).run w =
        (tryScaleApp { trigger := trigger } cluster draw record app.id
          (callRequest app rule value target)).run (logCall app rule target w) := by
  refine ⟨fun t => { t with scaled := t.scaled ++ [(⟨rule, app.replicas, target, w.now⟩, t.now)] },
    fun _ => rfl, ?_⟩
  unfold callScaleApp
  rw [Prog.run_atomic_bind]
  dsimp only
  cases found : w.getApp app.id with
  | none =>
    have read : (logCall app rule target w).getApp app.id = none := found
    unfold tryScaleApp
    rw [Prog.run_query_bind, if_neg Bool.false_ne_true, read]
    rfl
  | some current =>
    have read : (logCall app rule target w).getApp app.id = some current := found
    rw [tryScaleApp_working cluster draw _ trigger app.id _ _ read]
    rfl

def ruleCall (app : App) (rule : AutoscalingRule) (asked : Double × Int32) :
    Prog World (Except String ScalingEvent) :=
  callScaleApp (deployAgain cluster draw trigger) app rule asked.1 asked.2

/-- A harmless call that fails leaves the settings as they were. -/
theorem stored_ruleCall {app : App} {rule : AutoscalingRule} {asked : Double × Int32} {w : World}
    (harmless : Harmless { trigger := trigger } cluster draw app.id
      (callRequest app rule asked.1 asked.2) (logCall app rule asked.2 w))
    {err : String} (failed : (ruleCall trigger cluster draw app rule asked).result w = .error err) :
    stored ((ruleCall trigger cluster draw app rule asked).out w) app.id = stored w app.id := by
  obtain ⟨record, keeps, same⟩ := callScaleApp_run trigger cluster draw app rule asked.1 asked.2 w
  have whole := (harmless_iff { trigger := trigger } cluster draw keeps app.id
    (callRequest app rule asked.1 asked.2) (logCall app rule asked.2 w)).mpr harmless
  unfold AllOrNothing Prog.result Prog.out at whole
  rw [← same] at whole
  exact whole err failed

/-- The turn of a rule: nothing, or its call and, after it, the mark. -/
theorem evaluateRule_idle {metrics : AverageMetrics} {app : App} {rule : AutoscalingRule}
    {w : World} (idle : asksFor metrics app rule w.now = none) :
    ∃ result, (evaluateRule (deployAgain cluster draw trigger) metrics app rule).run w =
      (w, app, result) := by
  unfold asksFor at idle
  unfold evaluateRule
  cases measured : metricValue rule.metricName metrics with
  | none => exact ⟨_, rfl⟩
  | some value =>
    rw [measured] at idle
    dsimp only at idle ⊢
    by_cases fresh : metrics.sampleCount = 0
    · rw [if_pos fresh]
      exact ⟨_, rfl⟩
    rw [if_neg fresh] at idle ⊢
    by_cases met : !comparisonMatches value rule.comparison rule.threshold
    · rw [if_pos met]
      exact ⟨_, rfl⟩
    rw [if_neg met] at idle ⊢
    by_cases bound : autoscaleTarget app.replicas rule = app.replicas
    · rw [if_pos bound]
      exact ⟨_, rfl⟩
    rw [if_neg bound] at idle ⊢
    rw [Prog.run_query_bind]
    by_cases cooling : coolingDown rule app.replicas (autoscaleTarget app.replicas rule) w.now
    · rw [if_pos cooling]
      exact ⟨_, rfl⟩
    · rw [if_neg cooling] at idle
      cases idle

theorem evaluateRule_failed {metrics : AverageMetrics} {app : App} {rule : AutoscalingRule}
    {w : World} {asked : Double × Int32} (asks : asksFor metrics app rule w.now = some asked)
    {err : String} (failed : (ruleCall trigger cluster draw app rule asked).result w = .error err) :
    ∃ result, (evaluateRule (deployAgain cluster draw trigger) metrics app rule).run w =
      ((ruleCall trigger cluster draw app rule asked).out w, app, result) := by
  unfold asksFor at asks
  unfold evaluateRule
  cases measured : metricValue rule.metricName metrics with
  | none =>
    rw [measured] at asks
    cases asks
  | some value =>
    rw [measured] at asks
    dsimp only at asks ⊢
    by_cases fresh : metrics.sampleCount = 0
    · rw [if_pos fresh] at asks
      cases asks
    rw [if_neg fresh] at asks ⊢
    by_cases met : !comparisonMatches value rule.comparison rule.threshold
    · rw [if_pos met] at asks
      cases asks
    rw [if_neg met] at asks ⊢
    by_cases bound : autoscaleTarget app.replicas rule = app.replicas
    · rw [if_pos bound] at asks
      cases asks
    rw [if_neg bound] at asks ⊢
    rw [Prog.run_query_bind]
    by_cases cooling : coolingDown rule app.replicas (autoscaleTarget app.replicas rule) w.now
    · rw [if_pos cooling] at asks
      cases asks
    rw [if_neg cooling] at asks ⊢
    cases asks
    rw [Prog.run_bind]
    unfold Prog.result ruleCall at failed
    dsimp only at failed
    rw [failed]
    exact ⟨_, rfl⟩

/-- Each call the rules make in turn fails, and is harmless in the world it is made in. -/
def EachFails (metrics : AverageMetrics) (app : App) : List AutoscalingRule → World → Prop
  | [], _ => True
  | rule :: rest, w =>
    match asksFor metrics app rule w.now with
    | none => EachFails metrics app rest w
    | some asked =>
      Harmless { trigger := trigger } cluster draw app.id
          (callRequest app rule asked.1 asked.2) (logCall app rule asked.2 w) ∧
        (∃ err, (ruleCall trigger cluster draw app rule asked).result w = .error err) ∧
        EachFails metrics app rest ((ruleCall trigger cluster draw app rule asked).out w)

theorem stored_evaluateRules {metrics : AverageMetrics} {app : App} {rules : List AutoscalingRule}
    {w : World} (fails : EachFails trigger cluster draw metrics app rules w) :
    stored ((evaluateRules (deployAgain cluster draw trigger) metrics app rules).out w) app.id =
      stored w app.id := by
  induction rules generalizing w with
  | nil => rfl
  | cons rule rest ih =>
    unfold EachFails at fails
    unfold evaluateRules Prog.out
    rw [Prog.run_bind]
    cases asks : asksFor metrics app rule w.now with
    | none =>
      rw [asks] at fails
      obtain ⟨result, ran⟩ := evaluateRule_idle trigger cluster draw asks
      rw [ran]
      dsimp only
      rw [Prog.run_bind]
      exact ih fails
    | some asked =>
      rw [asks] at fails
      obtain ⟨harmless, ⟨err, failed⟩, later⟩ := fails
      obtain ⟨result, ran⟩ := evaluateRule_failed trigger cluster draw asks failed
      rw [ran]
      dsimp only
      rw [Prog.run_bind]
      exact (ih later).trans (stored_ruleCall trigger cluster draw harmless failed)

end Ticks

/-- A tick of the autoscaler: what has happened since the one before it, and the cluster it
finds. -/
structure Tick where
  change : World → World := id
  trigger : TriggerFaults := {}
  cluster : World → UUID → Cluster
  draw : Draw

def Tick.run (tick : Tick) (appID : UUID) (w : World) : World :=
  (evaluateAutoscaling (deployAgain tick.cluster tick.draw tick.trigger) appID).out (tick.change w)

/-- What the tick's calls find: each fails, and none does harm. -/
structure Tick.Fails (tick : Tick) (appID : UUID) (w : World) : Prop where
  calls : ∀ app, w.getApp appID = some app →
    EachFails tick.trigger tick.cluster tick.draw (w.averageMetrics appID) app
      (w.listEnabledAutoscalingRulesByApp appID) w

theorem Tick.Fails.stored_run {tick : Tick} {appID : UUID} {w : World}
    (fails : tick.Fails appID (tick.change w)) :
    stored (tick.run appID w) appID = stored (tick.change w) appID := by
  unfold Tick.run evaluateAutoscaling Prog.out
  rw [Prog.run_query_bind]
  cases found : (tick.change w).getApp appID with
  | none => rfl
  | some app =>
    have key : app.id = appID := Table.key_of_find? found
    dsimp only
    rw [Prog.run_query_bind, Prog.run_query_bind, Prog.run_bind]
    have kept := stored_evaluateRules tick.trigger tick.cluster tick.draw (fails.calls app found)
    rw [key] at kept
    exact kept

def runTicks (appID : UUID) : List Tick → World → World
  | [], w => w
  | tick :: rest, w => runTicks appID rest (tick.run appID w)

/-- Nothing else changes the settings, and every call of every tick fails without harm. -/
def Steady (appID : UUID) : List Tick → World → Prop
  | [], _ => True
  | tick :: rest, w =>
    stored (tick.change w) appID = stored w appID ∧ tick.Fails appID (tick.change w) ∧
      Steady appID rest (tick.run appID w)

theorem Steady.take {appID : UUID} {ticks : List Tick} {w : World} (steady : Steady appID ticks w)
    (n : Nat) : Steady appID (ticks.take n) w := by
  induction ticks generalizing n w with
  | nil =>
    rw [List.take_nil]
    exact trivial
  | cons tick rest ih =>
    obtain ⟨same, fails, later⟩ := steady
    cases n with
    | zero => exact trivial
    | succ n => exact ⟨same, fails, ih later n⟩

theorem Steady.stored_runTicks {appID : UUID} {ticks : List Tick} {w : World}
    (steady : Steady appID ticks w) : stored (runTicks appID ticks w) appID = stored w appID := by
  induction ticks generalizing w with
  | nil => rfl
  | cons tick rest ih =>
    obtain ⟨same, fails, later⟩ := steady
    exact (ih later).trans (fails.stored_run.trans same)

/-- **When scaling is all or nothing**, and the ticks under that condition. -/
theorem scaling_all_or_nothing_iff {record : World → World} (keeps : ∀ w, (record w).apps = w.apps) :
    (∀ (faults : ScaleFaults) (cluster : World → UUID → Cluster) (draw : Draw) (appID : UUID)
        (req : ScaleRequest) (w : World),
      AllOrNothing faults cluster draw record appID req w ↔
        Harmless faults cluster draw appID req w) ∧
      ∀ (appID : UUID) (ticks : List Tick) (w : World), Steady appID ticks w →
        ∀ n, stored (runTicks appID (ticks.take n) w) appID = stored w appID :=
  ⟨fun faults cluster draw => harmless_iff faults cluster draw keeps,
    fun _ _ _ steady n => (steady.take n).stored_runTicks⟩

/-! ### Two servers for two replicas -/

/-- The app is deployed on both servers, and a rule adds a replica. -/
def fullCluster (rule : AutoscalingRule) : World :=
  { Deploy.twoReady with
    deployments := ⟨[{ id := 7, appID := 20, environmentID := 40, buildID := 30, status := .healthy }],
      List.nodup_singleton _⟩
    rules := ⟨[rule], List.nodup_singleton _⟩
    averageMetrics := fun _ => { cpuPercent := .finite 90, sampleCount := 1 } }

def oneMore : AutoscalingRule := { id := 4, appID := 20, threshold := .finite 50 }

def fullTick : Tick := { cluster := Deploy.twoReadyCluster, draw := Deploy.twoReadyDraw }

/-- Each tick asks for one replica more than the last has stored, and no call goes through. -/
theorem full_cluster_counts_up :
    ¬ AllOrNothing {} Deploy.twoReadyCluster Deploy.twoReadyDraw id 20
        ⟨3, "", ⟨[], []⟩, [], "", "", none, none, none⟩ (fullCluster oneMore) ∧
      ((stored (runTicks 20 [] (fullCluster oneMore)) 20).map Settings.replicas = some 2 ∧
        (stored (runTicks 20 [fullTick] (fullCluster oneMore)) 20).map Settings.replicas = some 3 ∧
        (stored (runTicks 20 [fullTick, fullTick] (fullCluster oneMore)) 20).map Settings.replicas =
          some 4) ∧
      (runTicks 20 [fullTick, fullTick] (fullCluster oneMore)).scaled = [] := by
  refine ⟨fun holds => ?_, ?_, ?_⟩
  · have failed : (tryScaleApp {} Deploy.twoReadyCluster Deploy.twoReadyDraw id 20
        ⟨3, "", ⟨[], []⟩, [], "", "", none, none, none⟩).result (fullCluster oneMore) =
          .error "insufficient eligible servers: need 3, have 2 (no rejection details)" := by
      decide +kernel
    have same := holds _ failed
    revert same
    decide +kernel
  · decide +kernel
  · decide +kernel

/-- A rule that goes below one replica asks in vain and does no harm. -/
def belowOne : AutoscalingRule :=
  { id := 4, appID := 20, threshold := .finite 50, actionValue := -5, minReplicas := -1 }

def webApp : App := { id := 20, projectID := 10, name := "web", slug := "web", replicas := 2 }

/-- The tick of such a rule, in a world that has it. -/
theorem belowOne_fails (w : World) (here : w.getApp 20 = some webApp)
    (rules : w.listEnabledAutoscalingRulesByApp 20 = [belowOne])
    (asks : asksFor (w.averageMetrics 20) webApp belowOne w.now = some (.finite 90, -1))
    (failed : (ruleCall {} Deploy.twoReadyCluster Deploy.twoReadyDraw webApp belowOne
      (.finite 90, -1)).result w = .error "replicas must be greater than zero") :
    fullTick.Fails 20 w := by
  refine ⟨fun app found => ?_⟩
  cases here.symm.trans found
  rw [rules]
  unfold EachFails
  rw [asks]
  refine ⟨fun current strategy _ _ many => ?_, ⟨_, failed⟩, trivial⟩
  have none : ¬ (0 : Int32) < -1 := by decide
  exact absurd many none

theorem below_one_steady :
    stored (runTicks 20 ([fullTick, fullTick].take 2) (fullCluster belowOne)) 20 =
      stored (fullCluster belowOne) 20 := by
  have first : fullTick.Fails 20 (fullCluster belowOne) :=
    belowOne_fails (fullCluster belowOne) (by decide +kernel) (by decide +kernel)
      (by decide +kernel) (by decide +kernel)
  have second : fullTick.Fails 20 (fullTick.run 20 (fullCluster belowOne)) :=
    belowOne_fails (fullTick.run 20 (fullCluster belowOne)) (by decide +kernel) (by decide +kernel)
      (by decide +kernel) (by decide +kernel)
  exact (@scaling_all_or_nothing_iff id fun _ => rfl).2 20 [fullTick, fullTick]
    (fullCluster belowOne) ⟨rfl, first, rfl, second, trivial⟩ 2

end Nixway.Scale
