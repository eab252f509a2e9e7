/-
# Deploy.Promotion -- what a promotion does when it runs alone

`PromotedOnto` describes the tables a successful promotion leaves: the new
backend is active with weight 100, every other backend of its route is draining
with weight 0 and its deployment superseded, and every other route is untouched.
The rest of a promotion, the sync and the goroutines, writes no table.
-/
import Nixway.Deploy.Traffic
import Nixway.Store.Integrity

namespace Nixway.Deploy

open Nixway.Theory Nixway.Store
open Nixway.Theory.Prog (query exec atomic forEach)

set_option autoImplicit false

/-! ## The sync only reads and sends -/

section Sync

variable {P : (World → World) → Prop}

theorem edgeGroups_every (reads : P id) (app : App) (backends : List TrafficBackend) :
    (edgeGroups app backends).Every P := by
  induction backends with
  | nil => exact Prog.every_done _
  | cons backend rest ih =>
    refine Prog.Every.bind ((Prog.every_query _).mpr reads) fun targets => ?_
    exact Prog.Every.bind ih fun groups => Prog.every_done _

theorem localTargets_every (reads : P id) (app : App) (teamID : UUID) (backend : TrafficBackend)
    (targets : List DeploymentTarget) (acc : List ServerGroups) :
    (localTargets app teamID backend targets acc).Every P := by
  induction targets generalizing acc with
  | nil => exact Prog.every_done _
  | cons target rest ih =>
    rw [localTargets]
    split
    · refine Prog.Every.bind ((Prog.every_query _).mpr reads) fun agentID => ?_
      cases agentID with
      | none => exact ih acc
      | some agentID => exact ih _
    · exact ih acc

theorem localGroups_every (reads : P id) (app : App) (teamID : UUID)
    (backends : List TrafficBackend) (acc : List ServerGroups) :
    (localGroups app teamID backends acc).Every P := by
  induction backends generalizing acc with
  | nil => exact Prog.every_done _
  | cons backend rest ih =>
    refine Prog.Every.bind ((Prog.every_query _).mpr reads) fun targets => ?_
    exact Prog.Every.bind (localTargets_every reads app teamID backend targets acc) fun acc => ih acc

theorem sendBestEffort_every (agentID : String) (msg : ControlMessage)
    (sends : P fun w => (sendToAgent agentID msg w).1) : (sendBestEffort agentID msg).Every P :=
  Prog.Every.bind ((Prog.every_atomic _).mpr sends) fun _ => Prog.every_done _

theorem pushRoute_every (reads : P id) (route : TrafficRoute)
    (app : App) (project : Project)
    (sends : ∀ agentID groups, P fun w => (sendToAgent agentID (.trafficRoute
      { appSlug := app.slug, domains := trafficDomains app route, groups := groups }) w).1) :
    (pushRoute route app project).Every P := by
  refine Prog.Every.bind ((Prog.every_query _).mpr reads) fun backends => ?_
  dsimp only
  split
  · exact Prog.every_done _
  · refine Prog.Every.bind ((Prog.every_query _).mpr reads) fun edgeServers => ?_
    split
    · refine Prog.Every.bind (edgeGroups_every reads app backends) fun groups => ?_
      split
      · exact Prog.every_done _
      · refine Prog.Every.bind (Prog.Every.forEach _ fun edge _ => ?_) fun _ => Prog.every_done _
        cases edge.agentID with
        | none => exact Prog.every_done _
        | some agentID => exact sendBestEffort_every agentID _ (sends agentID _)
    · refine Prog.Every.bind (localGroups_every reads app _ backends []) fun entries => ?_
      refine Prog.Every.bind (Prog.Every.forEach _ fun entry _ => ?_) fun _ => Prog.every_done _
      split
      · exact Prog.every_done _
      · exact sendBestEffort_every _ _ (sends _ _)

theorem syncTrafficRoute_every (reads : P id)
    (sends : ∀ agentID msg, P fun w => (sendToAgent agentID msg w).1) (routeID : UUID) :
    (syncTrafficRoute routeID).Every P := by
  have read : ∀ {α : Type} (f : World → α), (query f).Every P := fun f =>
    (Prog.every_query f).mpr reads
  unfold syncTrafficRoute
  refine Prog.Every.bind (read _) fun route => ?_
  cases route with
  | none => exact Prog.every_done _
  | some route =>
  refine Prog.Every.bind (read _) fun app => ?_
  cases app with
  | none => exact Prog.every_done _
  | some app =>
  refine Prog.Every.bind (read _) fun project => ?_
  cases project with
  | none => exact Prog.every_done _
  | some project => exact pushRoute_every reads route app project fun agentID groups => sends _ _

/-- The goroutines a promotion starts. -/
def followsPromotion : Goroutine → Bool
  | .stopSupersededAfterDrain _ => true
  | .archiveOldDeployments _ _ _ => true
  | _ => false

theorem announce_every (reads : P id)
    (sends : ∀ agentID msg, P fun w => (sendToAgent agentID msg w).1)
    (records : ∀ event, P fun w => w.createTrafficEvent event)
    (starts : ∀ g, followsPromotion g → P fun w => { w with started := w.started ++ [g] })
    (deployment : Deployment) (route : TrafficRoute) (label : String) (demoted : Nat) :
    (announce deployment route label demoted).Every P := by
  refine Prog.Every.bind ((Prog.every_exec _).mpr (records _)) fun _ => ?_
  refine Prog.Every.bind (syncTrafficRoute_every reads sends route.id) fun answer => ?_
  cases answer with
  | error err => exact Prog.every_done _
  | ok _ =>
    dsimp only
    split
    · refine Prog.Every.bind ((Prog.every_exec _).mpr (starts _ rfl)) fun _ => ?_
      exact Prog.Every.bind ((Prog.every_exec _).mpr (starts _ rfl)) fun _ => Prog.every_done _
    · exact Prog.every_done _

/-- The effects of a promotion: reads, messages, goroutines, and statements on
routes, backends and the status of demoted deployments. -/
structure PromotionEffects (P : (World → World) → Prop) : Prop where
  reads : P id
  sends : ∀ agentID msg, P fun w => (sendToAgent agentID msg w).1
  records : ∀ event, P fun w => w.createTrafficEvent event
  starts : ∀ g, followsPromotion g → P fun w => { w with started := w.started ++ [g] }
  routes : ∀ id appID environmentID domain,
    P fun w => (w.ensureTrafficRoute id appID environmentID domain).1
  upserts : ∀ id routeID deploymentID label weight status,
    P fun w => (w.upsertTrafficBackend id routeID deploymentID label weight status).1
  weights : ∀ id routeID weight, P fun w => (w.updateTrafficBackendWeight id routeID weight).1
  statuses : ∀ id routeID status, P fun w => (w.setTrafficBackendStatus id routeID status).1
  supersedes : ∀ id, P fun w => w.setDeploymentStatusSimple id .superseded

theorem demote_every (effects : PromotionEffects P) (deployment : Deployment)
    (route : TrafficRoute) (label : String) (listed : List TrafficBackend) (demoted : Nat) :
    (demote deployment route label listed demoted).Every P := by
  induction listed generalizing demoted with
  | nil =>
    exact announce_every effects.reads effects.sends effects.records effects.starts
      deployment route label demoted
  | cons prev rest ih =>
    rw [demote]
    split
    · exact ih demoted
    · refine Prog.Every.bind ((Prog.every_atomic _).mpr (effects.weights _ _ _)) fun row => ?_
      cases row with
      | none => exact ih demoted
      | some row =>
        refine Prog.Every.bind ((Prog.every_atomic _).mpr (effects.statuses _ _ _)) fun _ => ?_
        refine Prog.Every.bind ((Prog.every_exec _).mpr (effects.supersedes _)) fun _ => ?_
        exact ih (demoted + 1)

theorem publishBackend_every (effects : PromotionEffects P) (deployment : Deployment)
    (route : TrafficRoute) (backendID : UUID) (existing : List TrafficBackend) (label : String) :
    (publishBackend deployment route backendID existing label).Every P := by
  refine Prog.Every.bind ((Prog.every_atomic _).mpr (effects.upserts _ _ _ _ _ _)) fun new => ?_
  cases new with
  | none => exact Prog.every_done _
  | some new =>
    refine Prog.Every.bind ((Prog.every_atomic _).mpr (effects.weights _ _ _)) fun row => ?_
    cases row with
    | none => exact Prog.every_done _
    | some row => exact demote_every effects deployment route label existing 0

theorem ensureTrafficForDeployment_every (effects : PromotionEffects P)
    (deploymentID routeID backendID : UUID) :
    (ensureTrafficForDeployment deploymentID routeID backendID).Every P := by
  have read : ∀ {α : Type} (f : World → α), (query f).Every P := fun f =>
    (Prog.every_query f).mpr effects.reads
  refine Prog.Every.bind (read _) fun deployment => ?_
  cases deployment with
  | none => exact Prog.every_done _
  | some deployment =>
  refine Prog.Every.bind (read _) fun app => ?_
  cases app with
  | none => exact Prog.every_done _
  | some app =>
  dsimp only
  split
  · exact Prog.every_done _
  · refine Prog.Every.bind ((Prog.every_atomic _).mpr (effects.routes _ _ _ _)) fun route => ?_
    cases route with
    | none => exact Prog.every_done _
    | some route =>
      refine Prog.Every.bind (read _) fun existing => ?_
      split
      · refine Prog.Every.bind (read _) fun build => ?_
        exact publishBackend_every effects deployment route backendID existing _
      · exact publishBackend_every effects deployment route backendID existing _

end Sync

/-- The tables the deploy path keeps are the same in both stores. -/
structure SameTables (w w' : World) : Prop where
  deployments : w'.deployments = w.deployments
  backends : w'.backends = w.backends
  routes : w'.routes = w.routes
  apps : w'.apps = w.apps
  projects : w'.projects = w.projects
  builds : w'.builds = w.builds
  targets : w'.targets = w.targets
  servers : w'.servers = w.servers
  agents : w'.agents = w.agents

theorem SameTables.refl (w : World) : SameTables w w := ⟨rfl, rfl, rfl, rfl, rfl, rfl, rfl, rfl, rfl⟩

theorem sameTables_send (agentID : String) (msg : ControlMessage) (w : World) :
    SameTables w (sendToAgent agentID msg w).1 := by
  obtain ⟨err, failed⟩ | sent := sendToAgent_cases agentID msg w
  · rw [failed]
    exact .refl w
  · rw [sent]
    exact ⟨rfl, rfl, rfl, rfl, rfl, rfl, rfl, rfl, rfl⟩

theorem announce_tables (deployment : Deployment) (route : TrafficRoute) (label : String)
    (demoted : Nat) (w : World) :
    SameTables w ((announce deployment route label demoted).out w) := by
  refine Prog.Every.run_preserves (I := fun v => SameTables w v) ?_ (.refl w)
  have through : ∀ {effect : World → World}, (∀ v, SameTables v (effect v)) →
      ∀ v, SameTables w v → SameTables w (effect v) := by
    intro effect keeps v before
    have after := keeps v
    exact ⟨after.deployments.trans before.deployments, after.backends.trans before.backends,
      after.routes.trans before.routes, after.apps.trans before.apps,
      after.projects.trans before.projects, after.builds.trans before.builds,
      after.targets.trans before.targets, after.servers.trans before.servers,
      after.agents.trans before.agents⟩
  refine announce_every (through fun v => .refl v) ?_ ?_ ?_ deployment route label demoted
  · exact fun agentID msg => through (sameTables_send agentID msg)
  · exact fun event => through fun v => ⟨rfl, rfl, rfl, rfl, rfl, rfl, rfl, rfl, rfl⟩
  · exact fun g _ => through fun v => ⟨rfl, rfl, rfl, rfl, rfl, rfl, rfl, rfl, rfl⟩

/-! ## The demotion loop -/

/-- The listed backends that the loop demotes. -/
def demotions (deploymentID : UUID) (listed : List TrafficBackend) : List TrafficBackend :=
  listed.filter fun b => b.deploymentID ≠ deploymentID

/-- A backend that receives no traffic any more. -/
def drained (b : TrafficBackend) : TrafficBackend := { b with weight := 0, status := .draining }

def superseded (d : Deployment) : Deployment := { d with status := .superseded }

/-- The tables after these backends are demoted. -/
structure Demoted (gone : List TrafficBackend) (w w' : World) : Prop where
  backends : ∀ id, w'.backends.find? id = (w.backends.find? id).map fun b =>
    if id ∈ gone.map TrafficBackend.id then drained b else b
  deployments : ∀ id, w'.deployments.find? id = (w.deployments.find? id).map fun d =>
    if id ∈ gone.map TrafficBackend.deploymentID then superseded d else d
  routes : w'.routes = w.routes
  apps : w'.apps = w.apps
  projects : w'.projects = w.projects
  builds : w'.builds = w.builds
  targets : w'.targets = w.targets
  servers : w'.servers = w.servers
  agents : w'.agents = w.agents

section Demotion

variable {w w' : World} {deployment : Deployment} {route : TrafficRoute} {label : String}

theorem Demoted.of_tables (same : SameTables w w') : Demoted [] w w' where
  backends id := by rw [same.backends]; simp
  deployments id := by rw [same.deployments]; simp
  routes := same.routes
  apps := same.apps
  projects := same.projects
  builds := same.builds
  targets := same.targets
  servers := same.servers
  agents := same.agents

theorem backendAt_eq_some {id routeID : UUID} {b : TrafficBackend} :
    w.backendAt id routeID = some b ↔ w.backends.find? id = some b ∧ b.routeID = routeID := by
  simp [World.backendAt, Option.filter_eq_some_iff]

theorem updateWeight_eq {id routeID : UUID} {b : TrafficBackend} {weight : Int}
    (here : w.backendAt id routeID = some b) (valid : 0 ≤ weight ∧ weight ≤ 100) :
    w.updateTrafficBackendWeight id routeID weight =
      ({ w with backends := w.backends.update id fun b => { b with weight := weight } },
        some { b with weight := weight }) := by
  simp only [World.updateTrafficBackendWeight, here, valid, and_self, if_true]

theorem setStatus_eq {id routeID : UUID} {b : TrafficBackend} {status : BackendStatus}
    (here : w.backendAt id routeID = some b) :
    w.setTrafficBackendStatus id routeID status =
      ({ w with backends := w.backends.update id fun b => { b with status := status } },
        some { b with status := status }) := by
  simp only [World.setTrafficBackendStatus, here]

/-- The three statements that demote one backend. -/
def demoteOne (prev : TrafficBackend) (w : World) : World :=
  { w with
    backends := (w.backends.update prev.id fun b => { b with weight := 0 }).update prev.id fun b =>
      { b with status := .draining }
    deployments := w.deployments.update prev.deploymentID fun d =>
      { d with status := .superseded } }

theorem demoteOne_backends (prev : TrafficBackend) (id : UUID) :
    (demoteOne prev w).backends.find? id = (w.backends.find? id).map fun b =>
      if id = prev.id then drained b else b := by
  simp only [demoteOne, Table.find?_update]
  by_cases here : id = prev.id
  · simp only [here, if_true, Option.map_map]
    rfl
  · simp only [here, if_false, Option.map_id']

theorem demoteOne_deployments (prev : TrafficBackend) (id : UUID) :
    (demoteOne prev w).deployments.find? id = (w.deployments.find? id).map fun d =>
      if id = prev.deploymentID then superseded d else d := by
  simp only [demoteOne, Table.find?_update]
  by_cases here : id = prev.deploymentID
  · simp only [here, if_true]
    rfl
  · simp only [here, if_false, Option.map_id']

theorem run_demote_cons {prev : TrafficBackend} {rest : List TrafficBackend} {demoted : Nat}
    (other : prev.deploymentID ≠ deployment.id)
    (here : (w.backendAt prev.id route.id).isSome) :
    (demote deployment route label (prev :: rest) demoted).run w =
      (demote deployment route label rest (demoted + 1)).run (demoteOne prev w) := by
  obtain ⟨b, found⟩ := Option.isSome_iff_exists.mp here
  obtain ⟨row, onRoute⟩ := backendAt_eq_some.mp found
  have again : World.backendAt
      { w with backends := w.backends.update prev.id fun b => { b with weight := 0 } }
      prev.id route.id = some { b with weight := 0 } := by
    rw [backendAt_eq_some, Table.find?_update_self, row]
    exact ⟨rfl, onRoute⟩
  rw [demote, if_neg other, Prog.run_atomic_bind, updateWeight_eq found (by decide)]
  simp only [Prog.run_atomic_bind, setStatus_eq again, Prog.run_exec_bind]
  rfl

theorem Demoted.cons {prev : TrafficBackend} {gone : List TrafficBackend}
    (rest : Demoted gone (demoteOne prev w) w') : Demoted (prev :: gone) w w' where
  backends id := by
    rw [rest.backends, demoteOne_backends, Option.map_map]
    congr 1
    funext b
    simp only [Function.comp_apply, List.map_cons, List.mem_cons]
    by_cases first : id = prev.id <;> by_cases later : id ∈ gone.map TrafficBackend.id <;>
      simp [first, later, drained]
  deployments id := by
    rw [rest.deployments, demoteOne_deployments, Option.map_map]
    congr 1
    funext d
    simp only [Function.comp_apply, List.map_cons, List.mem_cons]
    by_cases first : id = prev.deploymentID <;>
      by_cases later : id ∈ gone.map TrafficBackend.deploymentID <;>
      simp [first, later, superseded]
  routes := rest.routes
  apps := rest.apps
  projects := rest.projects
  builds := rest.builds
  targets := rest.targets
  servers := rest.servers
  agents := rest.agents

/-- **The loop demotes what it lists.** -/
theorem demote_spec (listed : List TrafficBackend) (demoted : Nat)
    (onRoute : ∀ prev ∈ demotions deployment.id listed, (w.backendAt prev.id route.id).isSome) :
    Demoted (demotions deployment.id listed) w
      ((demote deployment route label listed demoted).out w) := by
  induction listed generalizing w demoted with
  | nil =>
    simp only [demote]
    exact .of_tables (announce_tables deployment route label demoted w)
  | cons prev rest ih =>
    by_cases own : prev.deploymentID = deployment.id
    · have kept : demotions deployment.id (prev :: rest) = demotions deployment.id rest := by
        simp [demotions, own]
      rw [kept, Prog.out, demote, if_pos own]
      rw [kept] at onRoute
      exact ih demoted onRoute
    · have gone : demotions deployment.id (prev :: rest) =
          prev :: demotions deployment.id rest := by
        simp [demotions, own]
      rw [gone] at onRoute
      rw [gone, Prog.out, run_demote_cons own (onRoute prev List.mem_cons_self)]
      refine Demoted.cons (ih (demoted + 1) fun b member => ?_)
      obtain ⟨row, found⟩ :=
        Option.isSome_iff_exists.mp (onRoute b (List.mem_cons_of_mem prev member))
      obtain ⟨inTable, ofRoute⟩ := backendAt_eq_some.mp found
      refine Option.isSome_iff_exists.mpr ⟨if b.id = prev.id then drained row else row, ?_⟩
      rw [backendAt_eq_some, demoteOne_backends, inTable]
      refine ⟨rfl, ?_⟩
      split
      · exact ofRoute
      · exact ofRoute

end Demotion

/-! ## Publishing the new backend -/

/-- The store after the new backend is written: `new` is the only backend of the
deployment on the route, and every other backend is as before. -/
structure Published (deploymentID routeID : UUID) (new : TrafficBackend) (w w' : World) : Prop where
  route : new.routeID = routeID
  deployment : new.deploymentID = deploymentID
  status : new.status = .active
  weight : new.weight = 100
  backends : ∀ b, b ∈ w'.backends ↔
    b = new ∨ b ∈ w.backends ∧ ¬ (b.routeID = routeID ∧ b.deploymentID = deploymentID)
  rest : w' = { w with backends := w'.backends }

section Publish

variable {w : World} {deployment : Deployment} {route : TrafficRoute}

theorem backendOf_eq_some {routeID deploymentID : UUID} {b : TrafficBackend}
    (found : w.backendOf routeID deploymentID = some b) :
    b ∈ w.backends ∧ b.routeID = routeID ∧ b.deploymentID = deploymentID := by
  have fits := List.find?_some found
  simp only [Bool.and_eq_true, decide_eq_true_eq] at fits
  exact ⟨List.mem_of_find?_eq_some found, fits⟩

theorem backendOf_eq_none {routeID deploymentID : UUID}
    (missing : w.backendOf routeID deploymentID = none) :
    ∀ b ∈ w.backends, ¬ (b.routeID = routeID ∧ b.deploymentID = deploymentID) := by
  intro b member fits
  have absent := List.find?_eq_none.mp missing b member
  simp [fits] at absent

/-- An upsert that succeeds finds the row of the pair or inserts one. -/
theorem upsert_cases {id routeID deploymentID : UUID} {label : String} {weight : Int}
    {status : BackendStatus} {new : TrafficBackend}
    (done : (w.upsertTrafficBackend id routeID deploymentID label weight status).2 = some new) :
    (∃ b, w.backendOf routeID deploymentID = some b ∧
      new = { b with label := label, status := status } ∧
      (w.upsertTrafficBackend id routeID deploymentID label weight status).1 =
        { w with backends := w.backends.update b.id fun b =>
            { b with label := label, status := status } }) ∨
    (∃ backends, w.backendOf routeID deploymentID = none ∧
      new = { id := id, routeID := routeID, deploymentID := deploymentID, label := label,
              weight := weight, status := status, createdAt := w.now } ∧
      w.backends.insert? new = some backends ∧
      (w.routes.find? routeID).isSome ∧ (w.deployments.find? deploymentID).isSome ∧
      (w.upsertTrafficBackend id routeID deploymentID label weight status).1 =
        { w with backends := backends }) := by
  unfold World.upsertTrafficBackend at done ⊢
  cases pair : w.backendOf routeID deploymentID with
  | some b =>
    rw [pair] at done
    exact .inl ⟨b, rfl, (Option.some.inj done).symm, rfl⟩
  | none =>
    simp only [pair] at done ⊢
    split at done
    · cases done
    · rename_i resolves
      simp only [Bool.or_eq_true, Option.isNone_iff_eq_none, not_or] at resolves
      split at done
      · rename_i backends inserted
        cases done
        refine .inr ⟨backends, trivial, rfl, inserted, ?_, ?_, ?_⟩
        · exact Option.isSome_iff_ne_none.mpr resolves.1
        · exact Option.isSome_iff_ne_none.mpr resolves.2
        · rw [if_neg (by simpa using resolves)]
      · cases done

theorem upsert_none {id routeID deploymentID : UUID} {label : String} {weight : Int}
    {status : BackendStatus}
    (failed : (w.upsertTrafficBackend id routeID deploymentID label weight status).2 = none) :
    (w.upsertTrafficBackend id routeID deploymentID label weight status).1 = w := by
  unfold World.upsertTrafficBackend at failed ⊢
  cases pair : w.backendOf routeID deploymentID with
  | some b =>
    rw [pair] at failed
    cases failed
  | none =>
    simp only [pair] at failed ⊢
    split
    · rfl
    · rename_i resolves
      rw [if_neg resolves] at failed
      split
      · rename_i backends inserted
        simp only [inserted] at failed
        cases failed
      · rfl

/-- The statements of a promotion keep the database's constraints. -/
theorem references_effects : PromotionEffects fun effect =>
    ∀ w : World, w.References → World.References (effect w) where
  reads := fun w refs => refs
  sends agentID msg w refs := by
    have same := sameTables_send agentID msg w
    exact refs.of_tables same.deployments same.builds same.backends same.routes same.targets
      same.servers
  records event w refs := refs.of_tables rfl rfl rfl rfl rfl rfl
  starts g _ w refs := refs.of_tables rfl rfl rfl rfl rfl rfl
  routes id appID environmentID domain w refs := by
    show World.References (w.ensureTrafficRoute id appID environmentID domain).1
    unfold World.ensureTrafficRoute
    split
    · exact refs
    · rename_i missing
      dsimp only
      split
      · rename_i routes inserted
        refine refs.insertRoute inserted fun r member sameApp sameEnvironment sameDomain => ?_
        have absent := List.find?_eq_none.mp missing r member
        simp only [sameApp, sameEnvironment, sameDomain] at absent
        simp at absent
      · exact refs
  upserts id routeID deploymentID label weight status w refs := by
    show World.References (w.upsertTrafficBackend id routeID deploymentID label weight status).1
    cases done : (w.upsertTrafficBackend id routeID deploymentID label weight status).2 with
    | none =>
      rw [upsert_none done]
      exact refs
    | some new =>
      obtain ⟨b, -, -, after⟩ | ⟨backends, free, made, inserted, route, deployment, after⟩ :=
        upsert_cases done
      · rw [after]
        exact refs.updateBackend b.id _ _ (fun _ => rfl) fun _ => rfl
      · rw [after]
        subst made
        exact refs.insertBackend inserted route deployment free
  weights id routeID weight w refs := by
    show World.References (w.updateTrafficBackendWeight id routeID weight).1
    unfold World.updateTrafficBackendWeight
    split
    · split
      · exact refs.updateBackend id _ _ (fun _ => rfl) fun _ => rfl
      · exact refs
    · exact refs
  statuses id routeID status w refs := by
    show World.References (w.setTrafficBackendStatus id routeID status).1
    unfold World.setTrafficBackendStatus
    split
    · exact refs.updateBackend id _ _ (fun _ => rfl) fun _ => rfl
    · exact refs
  supersedes id w refs := refs.updateDeployment id _ _ fun _ => rfl

/-- An existing row keeps its weight in the upsert; the second statement forces it. -/
theorem published_update (refs : w.References) {b : TrafficBackend} {label : String}
    (pair : w.backendOf route.id deployment.id = some b) :
    ∃ w', World.updateTrafficBackendWeight
        { w with backends := w.backends.update b.id fun b =>
            { b with label := label, status := .active } } b.id route.id 100 =
          (w', some { b with label := label, status := .active, weight := 100 }) ∧
      Published deployment.id route.id
        { b with label := label, status := .active, weight := 100 } w w' := by
  obtain ⟨member, ofRoute, ofDeployment⟩ := backendOf_eq_some pair
  have found : w.backends.find? b.id = some b := Table.find?_self member
  have here : World.backendAt { w with backends := w.backends.update b.id fun b =>
      { b with label := label, status := .active } } b.id route.id =
        some { b with label := label, status := .active } := by
    rw [backendAt_eq_some, Table.find?_update_self, found]
    exact ⟨rfl, ofRoute⟩
  have written := updateWeight_eq here (show (0 : Int) ≤ 100 ∧ (100 : Int) ≤ 100 by decide)
  refine ⟨_, written, ⟨ofRoute, ofDeployment, rfl, rfl, fun b' => ?_, rfl⟩⟩
  have unpaired : ∀ b' ∈ w.backends, b'.id ≠ b.id →
      ¬ (b'.routeID = route.id ∧ b'.deploymentID = deployment.id) := by
    intro b' member' other same
    have equal := refs.uniqueBackend b' member' b member (same.1.trans ofRoute.symm)
      (same.2.trans ofDeployment.symm)
    exact other (congrArg TrafficBackend.id equal)
  simp only [Table.mem_update, key_backend]
  constructor
  · rintro ⟨mid, ⟨old, inTable, rfl⟩, rfl⟩
    by_cases own : old.id = b.id
    · obtain rfl : old = b := Table.eq_of_key_eq inTable member own
      exact .inl (by simp)
    · refine .inr ?_
      simp only [own, if_false]
      exact ⟨inTable, unpaired old inTable own⟩
  · rintro (rfl | ⟨inTable, apart⟩)
    · exact ⟨_, ⟨b, member, rfl⟩, by simp⟩
    · have other : b'.id ≠ b.id := by
        intro same
        obtain rfl : b' = b := Table.eq_of_key_eq inTable member same
        exact apart ⟨ofRoute, ofDeployment⟩
      exact ⟨b', ⟨b', inTable, by simp [other]⟩, by simp [other]⟩

theorem published_insert {new : TrafficBackend} {backends : Table TrafficBackend}
    (ofRoute : new.routeID = route.id) (ofDeployment : new.deploymentID = deployment.id)
    (active : new.status = .active) (inserted : w.backends.insert? new = some backends)
    (free : w.backendOf route.id deployment.id = none) :
    ∃ w', World.updateTrafficBackendWeight { w with backends := backends } new.id route.id 100 =
          (w', some { new with weight := 100 }) ∧
      Published deployment.id route.id { new with weight := 100 } w w' := by
  have fresh := (Table.insert?_eq_some_iff.mp inserted).1
  have here : World.backendAt { w with backends := backends } new.id route.id = some new := by
    rw [backendAt_eq_some, Table.find?_insert? inserted, key_backend, if_pos rfl]
    exact ⟨rfl, ofRoute⟩
  have written := updateWeight_eq here (show (0 : Int) ≤ 100 ∧ (100 : Int) ≤ 100 by decide)
  refine ⟨_, written, ⟨ofRoute, ofDeployment, active, rfl, fun b' => ?_, rfl⟩⟩
  simp only [Table.mem_update, key_backend, Table.mem_insert? inserted]
  constructor
  · rintro ⟨old, rfl | inTable, rfl⟩
    · exact .inl (by simp)
    · have other : old.id ≠ new.id := fresh old inTable
      refine .inr ?_
      simp only [other, if_false]
      exact ⟨inTable, backendOf_eq_none free old inTable⟩
  · rintro (rfl | ⟨inTable, -⟩)
    · exact ⟨new, .inl rfl, by simp⟩
    · have other : b'.id ≠ new.id := fresh b' inTable
      exact ⟨b', .inr inTable, by simp [other]⟩

/-- **The upsert and the weight write publish the backend.** -/
theorem published_of_upsert (refs : w.References) {backendID : UUID} {label : String}
    {new : TrafficBackend}
    (upserted : (w.upsertTrafficBackend backendID route.id deployment.id label 100 .active).2 =
      some new) :
    ∃ w', World.updateTrafficBackendWeight
        (w.upsertTrafficBackend backendID route.id deployment.id label 100 .active).1
        new.id route.id 100 = (w', some { new with weight := 100 }) ∧
      Published deployment.id route.id { new with weight := 100 } w w' := by
  obtain ⟨b, pair, rfl, after⟩ | ⟨backends, free, made, inserted, -, -, after⟩ :=
    upsert_cases upserted
  · rw [after]
    exact published_update refs pair
  · rw [after]
    refine published_insert ?_ ?_ ?_ inserted free
    · rw [made]
    · rw [made]
    · rw [made]

end Publish

/-! ## A promotion that succeeds -/

/-- Another deployment has a backend on the route. -/
def PriorOn (w : World) (routeID deploymentID id : UUID) : Prop :=
  id ≠ deploymentID ∧ ∃ b ∈ w.backends.rows, b.routeID = routeID ∧ b.deploymentID = id

instance (w : World) (routeID deploymentID id : UUID) : Decidable (PriorOn w routeID deploymentID id) :=
  inferInstanceAs (Decidable (_ ∧ _))

/-- The tables a successful promotion leaves. -/
structure PromotedOnto (deploymentID routeID : UUID) (new : TrafficBackend) (w w' : World) :
    Prop where
  route : new.routeID = routeID
  deployment : new.deploymentID = deploymentID
  status : new.status = .active
  weight : new.weight = 100
  backends : ∀ b, b ∈ w'.backends ↔ b = new ∨ ∃ old ∈ w.backends,
    ¬ (old.routeID = routeID ∧ old.deploymentID = deploymentID) ∧
      b = if old.routeID = routeID then drained old else old
  deployments : ∀ id, w'.deployments.find? id = (w.deployments.find? id).map fun d =>
    if PriorOn w routeID deploymentID id then superseded d else d
  routes : w'.routes = w.routes
  apps : w'.apps = w.apps
  projects : w'.projects = w.projects
  builds : w'.builds = w.builds
  targets : w'.targets = w.targets
  servers : w'.servers = w.servers
  agents : w'.agents = w.agents

section Alone

variable {w w' mid : World} {deployment : Deployment} {route : TrafficRoute} {new : TrafficBackend}

theorem mem_demotions (refs : w.References) {b : TrafficBackend} :
    b ∈ demotions deployment.id (w.listTrafficBackendsByRoute route.id) ↔
      b ∈ w.backends ∧ b.routeID = route.id ∧ b.deploymentID ≠ deployment.id := by
  simp only [demotions, List.mem_filter, refs.mem_listTrafficBackendsByRoute, ne_eq,
    decide_not, Bool.not_eq_true', decide_eq_false_iff_not, and_assoc]

/-- Publishing and demoting together make the promotion. -/
theorem Published.demoted (refs : w.References) (published : Published deployment.id route.id new w mid)
    (demoted : Demoted (demotions deployment.id (w.listTrafficBackendsByRoute route.id)) mid w') :
    PromotedOnto deployment.id route.id new w w' := by
  have rest := published.rest
  have ids : ∀ {b : TrafficBackend}, b ∈ mid.backends →
      (b.id ∈ (demotions deployment.id (w.listTrafficBackendsByRoute route.id)).map
        TrafficBackend.id ↔ b.routeID = route.id ∧ b ≠ new) := by
    intro b inMid
    simp only [List.mem_map, mem_demotions refs]
    constructor
    · rintro ⟨old, ⟨member, ofRoute, other⟩, same⟩
      have kept : old ∈ mid.backends :=
        (published.backends old).mpr (.inr ⟨member, fun fits => other fits.2⟩)
      obtain rfl : old = b := Table.eq_of_key_eq kept inMid same
      refine ⟨ofRoute, ?_⟩
      rintro rfl
      exact other published.deployment
    · rintro ⟨ofRoute, notNew⟩
      obtain rfl | ⟨member, apart⟩ := (published.backends b).mp inMid
      · exact absurd rfl notNew
      · exact ⟨b, ⟨member, ofRoute, fun ofDeployment => apart ⟨ofRoute, ofDeployment⟩⟩, rfl⟩
  refine
    { route := published.route
      deployment := published.deployment
      status := published.status
      weight := published.weight
      backends := fun b => ?_
      deployments := fun id => ?_
      routes := by rw [demoted.routes, rest]
      apps := by rw [demoted.apps, rest]
      projects := by rw [demoted.projects, rest]
      builds := by rw [demoted.builds, rest]
      targets := by rw [demoted.targets, rest]
      servers := by rw [demoted.servers, rest]
      agents := by rw [demoted.agents, rest] }
  · have after : b ∈ w'.backends ↔ ∃ old ∈ mid.backends,
        b = if old.routeID = route.id ∧ old ≠ new then drained old else old := by
      constructor
      · intro member
        have found := demoted.backends b.id
        rw [show w'.backends.find? b.id = some b from Table.find?_self member] at found
        obtain ⟨old, atKey, same⟩ := Option.map_eq_some_iff.mp found.symm
        have inMid := Table.mem_of_find? atKey
        have key : old.id = b.id := Table.key_of_find? atKey
        refine ⟨old, inMid, ?_⟩
        rw [← same, ← key, if_congr (ids inMid) rfl rfl]
      · rintro ⟨old, inMid, rfl⟩
        have found := demoted.backends old.id
        rw [show mid.backends.find? old.id = some old from Table.find?_self inMid,
          Option.map_some, if_congr (ids inMid) rfl rfl] at found
        exact Table.mem_of_find? found
    rw [after]
    constructor
    · rintro ⟨old, inMid, rfl⟩
      obtain rfl | ⟨member, apart⟩ := (published.backends old).mp inMid
      · exact .inl (by simp)
      · refine .inr ⟨old, member, apart, ?_⟩
        have notNew : old ≠ new := by
          rintro rfl
          exact apart ⟨published.route, published.deployment⟩
        simp [notNew]
    · rintro (rfl | ⟨old, member, apart, rfl⟩)
      · exact ⟨b, (published.backends b).mpr (.inl rfl), by simp⟩
      · refine ⟨old, (published.backends old).mpr (.inr ⟨member, apart⟩), ?_⟩
        have notNew : old ≠ new := by
          rintro rfl
          exact apart ⟨published.route, published.deployment⟩
        simp [notNew]
  · have prior : id ∈ (demotions deployment.id (w.listTrafficBackendsByRoute route.id)).map
        TrafficBackend.deploymentID ↔ PriorOn w route.id deployment.id id := by
      simp only [List.mem_map, mem_demotions refs, PriorOn]
      constructor
      · rintro ⟨b, ⟨member, ofRoute, other⟩, rfl⟩
        exact ⟨other, b, member, ofRoute, rfl⟩
      · rintro ⟨other, b, member, ofRoute, rfl⟩
        exact ⟨b, ⟨member, ofRoute, other⟩, rfl⟩
    rw [demoted.deployments, show mid.deployments = w.deployments by rw [rest]]
    congr 1
    funext d
    exact if_congr prior rfl rfl

/-- The promotion on a chosen route, when it returns no error. -/
theorem promoteOnto_spec (refs : w.References) {backendID : UUID}
    (ok : (promoteOnto deployment route backendID).result w = .ok ()) :
    ∃ new, PromotedOnto deployment.id route.id new w
      ((promoteOnto deployment route backendID).out w) := by
  have labelled : ∃ label, (promoteOnto deployment route backendID).run w =
      (publishBackend deployment route backendID (w.listTrafficBackendsByRoute route.id) label).run
        w := by
    simp only [promoteOnto, Prog.run_query_bind]
    split
    · exact ⟨_, rfl⟩
    · exact ⟨_, rfl⟩
  obtain ⟨label, same⟩ := labelled
  rw [Prog.result, same, publishBackend, Prog.run_atomic_bind] at ok
  rw [Prog.out, same, publishBackend, Prog.run_atomic_bind]
  cases upserted : (w.upsertTrafficBackend backendID route.id deployment.id label 100 .active).2 with
  | none =>
    rw [upserted] at ok
    cases ok
  | some new =>
    obtain ⟨mid, written, published⟩ := published_of_upsert refs upserted
    dsimp only
    rw [Prog.run_atomic_bind, written]
    refine ⟨{ new with weight := 100 }, published.demoted refs (demote_spec _ 0 fun b listed => ?_)⟩
    obtain ⟨member, ofRoute, other⟩ := (mem_demotions refs).mp listed
    have kept : b ∈ mid.backends :=
      (published.backends b).mpr (.inr ⟨member, fun fits => other fits.2⟩)
    exact Option.isSome_iff_exists.mpr ⟨b, backendAt_eq_some.mpr ⟨Table.find?_self kept, ofRoute⟩⟩

/-- The route a promotion works on is the one keyed by its app, environment and domain. -/
structure RouteEnsured (appID environmentID : UUID) (domain : String) (route : TrafficRoute)
    (w w' : World) : Prop where
  app : route.appID = appID
  environment : route.environmentID = environmentID
  domain : route.domain = domain
  routes : ∀ r, r ∈ w'.routes ↔ r = route ∨ r ∈ w.routes
  rest : w' = { w with routes := w'.routes }

theorem routeEnsured_of_ensure {routeID appID environmentID : UUID} {domain : String}
    (ensured : (w.ensureTrafficRoute routeID appID environmentID domain).2 = some route) :
    RouteEnsured appID environmentID domain route w
      (w.ensureTrafficRoute routeID appID environmentID domain).1 := by
  unfold World.ensureTrafficRoute at ensured ⊢
  cases found : w.routes.rows.find? (fun r =>
      r.appID = appID && r.environmentID = environmentID && r.domain = domain) with
  | some r =>
    rw [found] at ensured
    obtain rfl := Option.some.inj ensured
    have fits := List.find?_some found
    simp only [Bool.and_eq_true, decide_eq_true_eq] at fits
    have member : r ∈ w.routes := List.mem_of_find?_eq_some found
    refine ⟨fits.1.1, fits.1.2, fits.2, fun r' => ⟨.inr, ?_⟩, rfl⟩
    rintro (rfl | old)
    · exact member
    · exact old
  | none =>
    simp only [found] at ensured ⊢
    split at ensured
    · rename_i routes inserted
      cases ensured
      exact ⟨rfl, rfl, rfl, fun r => Table.mem_insert? inserted, rfl⟩
    · cases ensured

/-- A successful call found its deployment, its app and a domain, and promoted the
deployment on the route of that domain. -/
theorem ensure_ok (refs : w.References) {deploymentID routeID backendID : UUID}
    (ok : (ensureTrafficForDeployment deploymentID routeID backendID).result w = .ok ()) :
    ∃ deployment app route new mid, w.getDeployment deploymentID = some deployment ∧
      w.getApp deployment.appID = some app ∧
      RouteEnsured app.id deployment.environmentID (trafficDomain app deployment) route w mid ∧
      PromotedOnto deployment.id route.id new mid
        ((ensureTrafficForDeployment deploymentID routeID backendID).out w) := by
  rw [Prog.result, ensureTrafficForDeployment, Prog.run_query_bind] at ok
  rw [Prog.out, ensureTrafficForDeployment, Prog.run_query_bind]
  cases row : w.getDeployment deploymentID with
  | none =>
    rw [row] at ok
    cases ok
  | some deployment =>
  simp only [row, Prog.run_query_bind] at ok ⊢
  cases owner : w.getApp deployment.appID with
  | none =>
    rw [owner] at ok
    cases ok
  | some app =>
  simp only [owner] at ok ⊢
  split at ok
  · cases ok
  · rename_i available
    rw [if_neg available]
    rw [Prog.run_atomic_bind] at ok ⊢
    cases ensured : (w.ensureTrafficRoute routeID app.id deployment.environmentID
        (trafficDomain app deployment)).2 with
    | none =>
      rw [ensured] at ok
      cases ok
    | some route =>
      simp only [ensured] at ok ⊢
      have routed := routeEnsured_of_ensure ensured
      have kept := references_effects.routes routeID app.id deployment.environmentID
        (trafficDomain app deployment) w refs
      obtain ⟨new, promoted⟩ := promoteOnto_spec kept ok
      exact ⟨deployment, app, route, new, _, rfl, owner, routed, promoted⟩

end Alone

end Nixway.Deploy
