/-
# Deploy.Agreement -- promotions of one route running beside each other

A promotion lists the backends of its route, publishes its own and demotes what
it listed, one statement after another and without a transaction.  `Point` lists
its control points and `promotionFlow` is its control-flow graph.

When several promotions of one route run interleaved, the run that lists last
decides: nobody demotes it afterwards.  `promotions_agree` says that one
deployment is left serving whenever that last listing sees the backends of all the
others, and no weight of 100 is written after the demotions that should have
zeroed it.
-/
import Nixway.Deploy.History
import Nixway.Theory.Pool

namespace Nixway.Deploy

open Nixway.Theory Nixway.Store
open Nixway.Theory.Prog (query exec atomic forEach)

set_option autoImplicit false

/-! ## EnsureTrafficForDeployment as a graph -/

/-- The arguments of one promotion: its deployment, and the ids drawn for the rows
it may insert. -/
structure Promotion where
  deploymentID : UUID
  routeID : UUID
  backendID : UUID

/-- What a promotion holds once its route is chosen. -/
structure Held where
  deployment : Deployment
  route : TrafficRoute

/-- The control points of `ensureTrafficForDeployment`, named after the statement
that comes next. -/
inductive Point where
  | start
  | readApp (deployment : Deployment)
  | ensure (deployment : Deployment) (app : App)
  | list (held : Held)
  | readBuild (held : Held) (existing : List TrafficBackend)
  | upsert (held : Held) (existing : List TrafficBackend) (label : String)
  | weigh (held : Held) (existing : List TrafficBackend) (label : String) (newID : UUID)
  | zero (held : Held) (label : String) (prev : TrafficBackend) (rest : List TrafficBackend)
      (demoted : Nat)
  | drain (held : Held) (label : String) (prev : TrafficBackend) (rest : List TrafficBackend)
      (demoted : Nat)
  | supersede (held : Held) (label : String) (prev : TrafficBackend) (rest : List TrafficBackend)
      (demoted : Nat)
  | finish (held : Held) (rest : Prog World (Except String Unit))
  | halt

namespace Point

def program (job : Promotion) : Point → Prog World (Except String Unit)
  | .start => ensureTrafficForDeployment job.deploymentID job.routeID job.backendID
  | .readApp deployment => do
    let some app ← query fun w => w.getApp deployment.appID
      | return .error "get app"
    let domain := trafficDomain app deployment
    if domain = "" then
      return .error "no domain available for traffic route"
    let some route ← atomic fun w =>
        w.ensureTrafficRoute job.routeID app.id deployment.environmentID domain
      | return .error "ensure route"
    promoteOnto deployment route job.backendID
  | .ensure deployment app => do
    let some route ← atomic fun w => w.ensureTrafficRoute job.routeID app.id
        deployment.environmentID (trafficDomain app deployment)
      | return .error "ensure route"
    promoteOnto deployment route job.backendID
  | .list held => promoteOnto held.deployment held.route job.backendID
  | .readBuild held existing => do
    let build ← query fun w => w.getBuild held.deployment.buildID
    publishBackend held.deployment held.route job.backendID existing (backendLabel build)
  | .upsert held existing label =>
    publishBackend held.deployment held.route job.backendID existing label
  | .weigh held existing label newID => do
    let some _ ← atomic fun w => w.updateTrafficBackendWeight newID held.route.id 100
      | return .error "set new backend weight"
    demote held.deployment held.route label existing 0
  | .zero held label prev rest demoted => do
    match ← atomic fun w => w.updateTrafficBackendWeight prev.id held.route.id 0 with
    | none => demote held.deployment held.route label rest demoted
    | some _ =>
      let _ ← atomic fun w => w.setTrafficBackendStatus prev.id held.route.id .draining
      exec fun w => w.setDeploymentStatusSimple prev.deploymentID .superseded
      demote held.deployment held.route label rest (demoted + 1)
  | .drain held label prev rest demoted => do
    let _ ← atomic fun w => w.setTrafficBackendStatus prev.id held.route.id .draining
    exec fun w => w.setDeploymentStatusSimple prev.deploymentID .superseded
    demote held.deployment held.route label rest (demoted + 1)
  | .supersede held label prev rest demoted => do
    exec fun w => w.setDeploymentStatusSimple prev.deploymentID .superseded
    demote held.deployment held.route label rest (demoted + 1)
  | .finish _ rest => rest
  | .halt => return .ok ()

/-- The program as a thread, whose result nobody reads. -/
def code (job : Promotion) (point : Point) : Prog World Unit := point.program job >>= fun _ => return

/-- The next turn of the demotion loop that demotes something, or its end. -/
def nextDemotion (held : Held) (label : String) : List TrafficBackend → Nat → Point
  | [], demoted => .finish held (announce held.deployment held.route label demoted)
  | prev :: rest, demoted =>
    if prev.deploymentID = held.deployment.id then nextDemotion held label rest demoted
    else .zero held label prev rest demoted

def act (job : Promotion) : Point → Option ((World → World) × (World → Point))
  | .start => some (id, fun w =>
    match w.getDeployment job.deploymentID with
    | none => .halt
    | some deployment => .readApp deployment)
  | .readApp deployment => some (id, fun w =>
    match w.getApp deployment.appID with
    | none => .halt
    | some app => if trafficDomain app deployment = "" then .halt else .ensure deployment app)
  | .ensure deployment app =>
    some (fun w => (w.ensureTrafficRoute job.routeID app.id deployment.environmentID
        (trafficDomain app deployment)).1,
      fun w => match (w.ensureTrafficRoute job.routeID app.id deployment.environmentID
          (trafficDomain app deployment)).2 with
        | none => .halt
        | some route => .list ⟨deployment, route⟩)
  | .list held => some (id, fun w =>
    let existing := w.listTrafficBackendsByRoute held.route.id
    if held.deployment.buildID ≠ UUID.nil then .readBuild held existing
    else .upsert held existing "stable")
  | .readBuild held existing => some (id, fun w =>
    .upsert held existing (backendLabel (w.getBuild held.deployment.buildID)))
  | .upsert held existing label =>
    some (fun w => (w.upsertTrafficBackend job.backendID held.route.id held.deployment.id label
        100 .active).1,
      fun w => match (w.upsertTrafficBackend job.backendID held.route.id held.deployment.id
          label 100 .active).2 with
        | none => .halt
        | some new => .weigh held existing label new.id)
  | .weigh held existing label newID =>
    some (fun w => (w.updateTrafficBackendWeight newID held.route.id 100).1,
      fun w => match (w.updateTrafficBackendWeight newID held.route.id 100).2 with
        | none => .halt
        | some _ => nextDemotion held label existing 0)
  | .zero held label prev rest demoted =>
    some (fun w => (w.updateTrafficBackendWeight prev.id held.route.id 0).1,
      fun w => match (w.updateTrafficBackendWeight prev.id held.route.id 0).2 with
        | none => nextDemotion held label rest demoted
        | some _ => .drain held label prev rest demoted)
  | .drain held label prev rest demoted =>
    some (fun w => (w.setTrafficBackendStatus prev.id held.route.id .draining).1,
      fun _ => .supersede held label prev rest demoted)
  | .supersede held label prev rest demoted =>
    some (fun w => w.setDeploymentStatusSimple prev.deploymentID .superseded,
      fun _ => nextDemotion held label rest (demoted + 1))
  | .finish _ (.done _) => none
  | .finish held (.step effect next) => some (effect, fun w => .finish held (next w))
  | .halt => none

theorem code_nextDemotion (job : Promotion) (held : Held) (label : String)
    (listed : List TrafficBackend) (demoted : Nat) :
    (nextDemotion held label listed demoted).code job =
      demote held.deployment held.route label listed demoted >>= fun _ => return := by
  induction listed with
  | nil => rfl
  | cons prev rest ih =>
    rw [nextDemotion, demote]
    split
    · exact ih
    · rfl

/-- **The graph of `ensureTrafficForDeployment` is its code.** -/
theorem presents (job : Promotion) :
    (⟨Point.act job⟩ : Flow World Point).Presents (Point.code job) where
  halted k here := by
    cases k with
    | halt => rfl
    | finish held rest =>
      cases rest with
      | done result => rfl
      | step effect next => cases here
    | _ => cases here
  moves k effect next here := by
    cases k with
    | halt => cases here
    | start =>
      cases here
      refine Prog.step_congr fun w => ?_
      beta_reduce
      cases w.getDeployment job.deploymentID <;> rfl
    | readApp deployment =>
      cases here
      refine Prog.step_congr fun w => ?_
      beta_reduce
      cases w.getApp deployment.appID with
      | none => rfl
      | some app =>
        by_cases blank : trafficDomain app deployment = ""
        · simp [blank, code, program, Prog.bind]
        · simp [blank, code, program, Prog.bind]
          rfl
    | ensure deployment app =>
      cases here
      refine Prog.step_congr fun w => ?_
      beta_reduce
      cases (w.ensureTrafficRoute job.routeID app.id deployment.environmentID
        (trafficDomain app deployment)).2 <;> rfl
    | list held =>
      cases here
      refine Prog.step_congr fun w => ?_
      dsimp only
      split <;> rfl
    | readBuild held existing => cases here; rfl
    | upsert held existing label =>
      cases here
      refine Prog.step_congr fun w => ?_
      beta_reduce
      cases (w.upsertTrafficBackend job.backendID held.route.id held.deployment.id label 100
        .active).2 <;> rfl
    | weigh held existing label newID =>
      cases here
      refine Prog.step_congr fun w => ?_
      beta_reduce
      cases (w.updateTrafficBackendWeight newID held.route.id 100).2 with
      | none => rfl
      | some row =>
        simp only [code_nextDemotion]
        rfl
    | zero held label prev rest demoted =>
      cases here
      refine Prog.step_congr fun w => ?_
      beta_reduce
      cases (w.updateTrafficBackendWeight prev.id held.route.id 0).2 with
      | none =>
        simp only [code_nextDemotion]
        rfl
      | some row => rfl
    | drain held label prev rest demoted => cases here; rfl
    | supersede held label prev rest demoted =>
      cases here
      refine Prog.step_congr fun w => ?_
      simp only [code_nextDemotion]
      rfl
    | finish held rest =>
      cases rest with
      | done result => cases here
      | step effect' next' => cases here; rfl

/-! ## What lies ahead of a control point -/

/-- The listing is still to come. -/
def listAhead : Point → Bool
  | .start | .readApp _ | .ensure _ _ | .list _ => true
  | _ => false

/-- Between the listing and the upsert. -/
def upsertAhead : Point → Bool
  | .readBuild _ _ | .upsert _ _ _ => true
  | _ => false

/-- The next statement forces the weight of the new backend. -/
def weighing : Point → Bool
  | .weigh _ _ _ _ => true
  | _ => false

/-- The listed backends whose weight is still to be set to 0. -/
def zeroes : Point → List TrafficBackend
  | .readBuild held existing | .upsert held existing _ | .weigh held existing _ _ =>
    demotions held.deployment.id existing
  | .zero held _ prev rest _ => prev :: demotions held.deployment.id rest
  | .drain held _ _ rest _ | .supersede held _ _ rest _ => demotions held.deployment.id rest
  | _ => []

/-- The listed backends that are still to be set to 'draining'. -/
def drains : Point → List TrafficBackend
  | .drain held _ prev rest _ => prev :: demotions held.deployment.id rest
  | point => point.zeroes

/-- The listed backends whose deployment is still to be set to 'superseded'. -/
def supersedes : Point → List TrafficBackend
  | .supersede held _ prev rest _ => prev :: demotions held.deployment.id rest
  | point => point.drains

theorem nextDemotion_ahead (held : Held) (label : String) (listed : List TrafficBackend)
    (demoted : Nat) :
    let point := nextDemotion held label listed demoted
    point.listAhead = false ∧ point.upsertAhead = false ∧ point.weighing = false ∧
      point.zeroes = demotions held.deployment.id listed ∧
      point.drains = demotions held.deployment.id listed ∧
      point.supersedes = demotions held.deployment.id listed := by
  induction listed with
  | nil => exact ⟨rfl, rfl, rfl, rfl, rfl, rfl⟩
  | cons prev rest ih =>
    by_cases own : prev.deploymentID = held.deployment.id
    · have skipped : demotions held.deployment.id (prev :: rest) =
          demotions held.deployment.id rest := by
        simp [demotions, own]
      rw [nextDemotion, if_pos own, skipped]
      exact ih
    · have taken : demotions held.deployment.id (prev :: rest) =
          prev :: demotions held.deployment.id rest := by
        simp [demotions, own]
      rw [nextDemotion, if_neg own, taken]
      exact ⟨rfl, rfl, rfl, rfl, rfl, rfl⟩

end Point

/-- The runs beside each other, each with its arguments. -/
def promotionFlow : Flow World (Promotion × Point) := Flow.indexed fun job => ⟨Point.act job⟩

def promotionPool (w : World) (jobs : List Promotion) : Pool World :=
  ⟨w, jobs.map fun job =>
    ensureTrafficForDeployment job.deploymentID job.routeID job.backendID >>= fun _ => return⟩

def promotionStart (w : World) (jobs : List Promotion) : World × List (Promotion × Point) :=
  (w, jobs.map fun job => (job, .start))

def promotionRun (w : World) (jobs : List Promotion) (schedule : List Nat) :
    World × List (Promotion × Point) :=
  promotionFlow.run (fun _ _ => []) (promotionStart w jobs) schedule

theorem promotionPool_run (w : World) (jobs : List Promotion) (schedule : List Nat) :
    (promotionPool w jobs).run Pool.noSpawn schedule =
      Flow.pool (fun k => Point.code k.1 k.2) (promotionRun w jobs schedule) := by
  have started : promotionPool w jobs =
      Flow.pool (fun k => Point.code k.1 k.2) (promotionStart w jobs) := by
    simp only [promotionPool, Flow.pool, promotionStart, List.map_map]
    rfl
  rw [started]
  exact Flow.run_coded_noSpawn (Flow.indexed_presents Point.presents) (promotionStart w jobs) schedule

/-! ## Agreement, and the order that gives it -/

/-- The deployment is healthy, with an active backend of weight 100 on the route. -/
def Serves (w : World) (routeID id : UUID) : Prop :=
  (∃ d ∈ w.getDeployment id, d.status = .healthy) ∧
    ∃ b ∈ w.backends.rows, b.routeID = routeID ∧ b.deploymentID = id ∧ b.status = .active ∧
      b.weight = 100

instance (w : World) (routeID id : UUID) : Decidable (Serves w routeID id) :=
  inferInstanceAs (Decidable (_ ∧ _))

/-- The backend has weight 0, is draining and its deployment is not healthy. -/
def Retired (w : World) (b : TrafficBackend) : Prop :=
  b.weight = 0 ∧ b.status = .draining ∧
    ∀ d ∈ w.getDeployment b.deploymentID, d.status ≠ .healthy

instance (w : World) (b : TrafficBackend) : Decidable (Retired w b) :=
  inferInstanceAs (Decidable (_ ∧ _ ∧ _))

/-- Exactly one of the deployments serves on the route, and every other backend of the
route is retired. -/
def Agreed (w : World) (routeID : UUID) (ids : List UUID) : Prop :=
  ∃ winner ∈ ids, Serves w routeID winner ∧
    (∀ other ∈ ids, Serves w routeID other → other = winner) ∧
    ∀ b ∈ w.backends.rows, b.routeID = routeID → b.deploymentID ≠ winner → Retired w b

-- the instances on lists, not those that enumerate all ids
instance (w : World) (routeID : UUID) (ids : List UUID) : Decidable (Agreed w routeID ids) :=
  have (winner : UUID) :
      Decidable (∀ other ∈ ids, Serves w routeID other → other = winner) := List.decidableBAll _ _
  List.decidableBEx _ _

/-- The next statement of the run, if it can fail, succeeds. -/
def Point.Accepted (w : World) (job : Promotion) : Point → Prop
  | .ensure deployment app =>
    (w.ensureTrafficRoute job.routeID app.id deployment.environmentID
      (trafficDomain app deployment)).2.isSome
  | .upsert held _ label =>
    (w.upsertTrafficBackend job.backendID held.route.id held.deployment.id label 100
      .active).2.isSome
  | _ => True

/-- The picked statement meets no store error. -/
def StoreAccepts (c : World × List (Promotion × Point)) (i : Nat) : Prop :=
  ∀ t ∈ c.2[i]?, t.2.Accepted c.1 t.1

/-- The order the next statement of a run must keep towards the other runs.  A listing
that is the last one comes after the upserts of all others, finds its deployment
healthy, and nobody has that deployment still to demote.  Once all have listed, the
weight of a demoted backend is forced to 100 only while somebody has it still to set
to 0. -/
def Point.Timely (w : World) (others : List (Promotion × Point)) (job : Promotion) : Point → Prop
  | .list _ =>
    (∀ t ∈ others, t.2.listAhead = false) →
      (∀ t ∈ others, t.2.upsertAhead = false ∧
        ∀ b ∈ t.2.supersedes, b.deploymentID ≠ job.deploymentID) ∧
      ∃ d ∈ w.getDeployment job.deploymentID, d.status = .healthy
  | .weigh _ _ _ newID =>
    (∀ t ∈ others, t.2.listAhead = false) →
      (∀ d ∈ w.getDeployment job.deploymentID, d.status ≠ .healthy) ∨
        (∃ t ∈ others, ∃ b ∈ t.2.supersedes, b.deploymentID = job.deploymentID) →
      ∃ t ∈ others, ∃ b ∈ t.2.zeroes, b.id = newID
  | _ => True

/-- The picked statement keeps the order. -/
def InOrder (c : World × List (Promotion × Point)) (i : Nat) : Prop :=
  ∀ t ∈ c.2[i]?, t.2.Timely c.1 (c.2.eraseIdx i) t.1

instance (w : World) (job : Promotion) (point : Point) : Decidable (point.Accepted w job) := by
  cases point <;> first | exact isTrue trivial | exact inferInstanceAs (Decidable (_ = true))

instance (w : World) (others : List (Promotion × Point)) (job : Promotion) (point : Point) :
    Decidable (point.Timely w others job) := by
  cases point <;> first
    | exact isTrue trivial
    | exact inferInstanceAs (Decidable ((∀ _ ∈ _, _) → _ ∧ _))
    | exact inferInstanceAs (Decidable ((∀ _ ∈ _, _) → _ ∨ _ → _))

instance (c : World × List (Promotion × Point)) (i : Nat) : Decidable (StoreAccepts c i) :=
  inferInstanceAs (Decidable (∀ _ ∈ _, _))

instance (c : World × List (Promotion × Point)) (i : Nat) : Decidable (InOrder c i) :=
  inferInstanceAs (Decidable (∀ _ ∈ _, _))

/-! ## What no step takes away -/

/-- Routes stay, backends keep their id, route and deployment, deployments change
in their status only. -/
structure Grows (w w' : World) : Prop where
  routes : ∀ r ∈ w.routes, r ∈ w'.routes
  backends : ∀ b ∈ w.backends, ∃ b' ∈ w'.backends,
    b'.id = b.id ∧ b'.routeID = b.routeID ∧ b'.deploymentID = b.deploymentID
  deployments : ∀ id d, w.getDeployment id = some d →
    ∃ status, w'.getDeployment id = some { d with status := status }
  apps : w'.apps = w.apps

theorem Grows.of_tables {w w' : World} (same : SameTables w w') : Grows w w' where
  routes r member := by rw [same.routes]; exact member
  backends b member := ⟨b, by rw [same.backends]; exact member, rfl, rfl, rfl⟩
  deployments id d found := ⟨d.status, by rw [World.getDeployment, same.deployments]; exact found⟩
  apps := same.apps

theorem Grows.updateBackend (w : World) (id : UUID) (f : TrafficBackend → TrafficBackend)
    (keeps : ∀ r : TrafficBackend, Keyed.key (f r) = Keyed.key r)
    (route : ∀ r, (f r).routeID = r.routeID)
    (deployment : ∀ r, (f r).deploymentID = r.deploymentID) :
    Grows w { w with backends := w.backends.update id f keeps } where
  routes r member := member
  backends b member := by
    refine ⟨_, (Table.mem_update keeps).mpr ⟨b, member, rfl⟩, ?_⟩
    split
    · exact ⟨keeps b, route b, deployment b⟩
    · exact ⟨rfl, rfl, rfl⟩
  deployments id d found := ⟨d.status, found⟩
  apps := rfl

theorem Grows.refl (w : World) : Grows w w := .of_tables (.refl w)

theorem grows_effects : PromotionEffects fun effect => ∀ w : World, Grows w (effect w) where
  reads w := .refl w
  sends agentID msg w := .of_tables (sameTables_send agentID msg w)
  records event w := .of_tables ⟨rfl, rfl, rfl, rfl, rfl, rfl, rfl, rfl, rfl⟩
  starts g _ w := .of_tables ⟨rfl, rfl, rfl, rfl, rfl, rfl, rfl, rfl, rfl⟩
  routes id appID environmentID domain w := by
    show Grows w (w.ensureTrafficRoute id appID environmentID domain).1
    unfold World.ensureTrafficRoute
    split
    · exact .refl w
    · dsimp only
      split
      · rename_i routes inserted
        exact ⟨fun r member => (Table.mem_insert? inserted).mpr (.inr member),
          fun b member => ⟨b, member, rfl, rfl, rfl⟩, fun id d found => ⟨d.status, found⟩, rfl⟩
      · exact .refl w
  upserts id routeID deploymentID label weight status w := by
    show Grows w (w.upsertTrafficBackend id routeID deploymentID label weight status).1
    cases done : (w.upsertTrafficBackend id routeID deploymentID label weight status).2 with
    | none =>
      rw [upsert_none done]
      exact .refl w
    | some new =>
      obtain ⟨b, -, -, after⟩ | ⟨backends, -, -, inserted, -, -, after⟩ := upsert_cases done
      · rw [after]
        exact Grows.updateBackend w b.id _ _ (fun _ => rfl) fun _ => rfl
      · rw [after]
        exact ⟨fun r member => member,
          fun b member => ⟨b, (Table.mem_insert? inserted).mpr (.inr member), rfl, rfl, rfl⟩,
          fun id d found => ⟨d.status, found⟩, rfl⟩
  weights id routeID weight w := by
    show Grows w (w.updateTrafficBackendWeight id routeID weight).1
    unfold World.updateTrafficBackendWeight
    split
    · split
      · exact Grows.updateBackend w id _ _ (fun _ => rfl) fun _ => rfl
      · exact .refl w
    · exact .refl w
  statuses id routeID status w := by
    show Grows w (w.setTrafficBackendStatus id routeID status).1
    unfold World.setTrafficBackendStatus
    split
    · exact Grows.updateBackend w id _ _ (fun _ => rfl) fun _ => rfl
    · exact .refl w
  supersedes id w := by
    refine ⟨fun r member => member, fun b member => ⟨b, member, rfl, rfl, rfl⟩, ?_, rfl⟩
    intro id' d found
    rw [World.getDeployment_setStatus]
    split
    · exact ⟨.superseded, by rw [found]; rfl⟩
    · exact ⟨d.status, found⟩

section Soundness

variable (appID envID : UUID) (domain : String)

/-- The deployment belongs to the (app, environment) and its promotion chooses the
domain. -/
def Ready (w : World) (id : UUID) : Prop :=
  ∃ d app, w.getDeployment id = some d ∧ d.appID = appID ∧ d.environmentID = envID ∧
    w.getApp appID = some app ∧ trafficDomain app d = domain

/-- The run holds its own deployment and the route of the domain. -/
def Holds (w : World) (job : Promotion) (held : Held) : Prop :=
  held.deployment.id = job.deploymentID ∧ IsRoute w appID envID domain held.route

/-- The listed backend is still on the route, for the same deployment. -/
def Known (w : World) (routeID : UUID) (b : TrafficBackend) : Prop :=
  ∃ b' ∈ w.backends, b'.id = b.id ∧ b'.routeID = routeID ∧ b'.deploymentID = b.deploymentID

/-- The run's own backend is on the route. -/
def HasOwn (w : World) (held : Held) : Prop :=
  ∃ b ∈ w.backends, b.routeID = held.route.id ∧ b.deploymentID = held.deployment.id

/-- What a run knows at a control point. -/
def Sound (w : World) (job : Promotion) : Point → Prop
  | .start => Ready appID envID domain w job.deploymentID
  | .readApp d => d.id = job.deploymentID ∧ d.appID = appID ∧ d.environmentID = envID ∧
      ∃ app, w.getApp appID = some app ∧ trafficDomain app d = domain
  | .ensure d app => d.id = job.deploymentID ∧ d.environmentID = envID ∧ app.id = appID ∧
      trafficDomain app d = domain
  | .list held => Holds appID envID domain w job held
  | .readBuild held existing | .upsert held existing _ => Holds appID envID domain w job held ∧
      ∀ b ∈ demotions held.deployment.id existing, Known w held.route.id b
  | .weigh held existing _ newID => Holds appID envID domain w job held ∧
      (∀ b ∈ demotions held.deployment.id existing, Known w held.route.id b) ∧
      ∃ b ∈ w.backends, b.id = newID ∧ b.routeID = held.route.id ∧
        b.deploymentID = held.deployment.id
  | .zero held _ prev rest _ | .drain held _ prev rest _ | .supersede held _ prev rest _ =>
    Holds appID envID domain w job held ∧
    (∀ b ∈ prev :: demotions held.deployment.id rest, Known w held.route.id b) ∧ HasOwn w held
  | .finish held rest => Holds appID envID domain w job held ∧ HasOwn w held ∧
      rest.Every fun effect => ∀ w, SameTables w (effect w)
  | .halt => False

variable {appID envID domain} {w w' : World} {job : Promotion}

theorem Grows.isRoute (grows : Grows w w') {r : TrafficRoute}
    (is : IsRoute w appID envID domain r) : IsRoute w' appID envID domain r :=
  ⟨grows.routes r is.1, is.2⟩

theorem Grows.holds (grows : Grows w w') {held : Held} (holds : Holds appID envID domain w job held) :
    Holds appID envID domain w' job held :=
  ⟨holds.1, grows.isRoute holds.2⟩

theorem Grows.known (grows : Grows w w') {routeID : UUID} {b : TrafficBackend}
    (known : Known w routeID b) : Known w' routeID b := by
  obtain ⟨b', member, id, route, deployment⟩ := known
  obtain ⟨b'', member', id', route', deployment'⟩ := grows.backends b' member
  exact ⟨b'', member', id'.trans id, route'.trans route, deployment'.trans deployment⟩

theorem Grows.hasOwn (grows : Grows w w') {held : Held} (own : HasOwn w held) : HasOwn w' held := by
  obtain ⟨b, member, route, deployment⟩ := own
  obtain ⟨b', member', -, route', deployment'⟩ := grows.backends b member
  exact ⟨b', member', route'.trans route, deployment'.trans deployment⟩

theorem Grows.sound (grows : Grows w w') {point : Point} (sound : Sound appID envID domain w job point) :
    Sound appID envID domain w' job point := by
  cases point with
  | start =>
    obtain ⟨d, app, found, ofApp, ofEnv, owner, chooses⟩ := sound
    obtain ⟨status, found'⟩ := grows.deployments _ d found
    exact ⟨_, app, found', ofApp, ofEnv, by rw [World.getApp, grows.apps]; exact owner, chooses⟩
  | readApp d =>
    obtain ⟨own, ofApp, ofEnv, app, owner, chooses⟩ := sound
    exact ⟨own, ofApp, ofEnv, app, by rw [World.getApp, grows.apps]; exact owner, chooses⟩
  | ensure d app => exact sound
  | list held => exact grows.holds sound
  | readBuild held existing =>
    exact ⟨grows.holds sound.1, fun b member => grows.known (sound.2 b member)⟩
  | upsert held existing label =>
    exact ⟨grows.holds sound.1, fun b member => grows.known (sound.2 b member)⟩
  | weigh held existing label newID =>
    obtain ⟨holds, known, b, member, id, route, deployment⟩ := sound
    obtain ⟨b', member', id', route', deployment'⟩ := grows.backends b member
    exact ⟨grows.holds holds, fun b member => grows.known (known b member), b', member',
      id'.trans id, route'.trans route, deployment'.trans deployment⟩
  | zero held label prev rest demoted =>
    exact ⟨grows.holds sound.1, fun b member => grows.known (sound.2.1 b member),
      grows.hasOwn sound.2.2⟩
  | drain held label prev rest demoted =>
    exact ⟨grows.holds sound.1, fun b member => grows.known (sound.2.1 b member),
      grows.hasOwn sound.2.2⟩
  | supersede held label prev rest demoted =>
    exact ⟨grows.holds sound.1, fun b member => grows.known (sound.2.1 b member),
      grows.hasOwn sound.2.2⟩
  | finish held rest => exact ⟨grows.holds sound.1, grows.hasOwn sound.2.1, sound.2.2⟩
  | halt => exact sound

/-- A run's step is one of the effects of a promotion. -/
theorem Point.act_effect {P : (World → World) → Prop} (effects : PromotionEffects P)
    (tables : ∀ effect : World → World, (∀ w, SameTables w (effect w)) → P effect) {point : Point}
    {effect : World → World} {next : World → Point} (sound : Sound appID envID domain w job point)
    (edge : point.act job = some (effect, next)) : P effect := by
  cases point with
  | start => cases edge; exact effects.reads
  | readApp d => cases edge; exact effects.reads
  | ensure d app => cases edge; exact effects.routes _ _ _ _
  | list held => cases edge; exact effects.reads
  | readBuild held existing => cases edge; exact effects.reads
  | upsert held existing label => cases edge; exact effects.upserts _ _ _ _ _ _
  | weigh held existing label newID => cases edge; exact effects.weights _ _ _
  | zero held label prev rest demoted => cases edge; exact effects.weights _ _ _
  | drain held label prev rest demoted => cases edge; exact effects.statuses _ _ _
  | supersede held label prev rest demoted => cases edge; exact effects.supersedes _
  | finish held rest =>
    cases rest with
    | done result => cases edge
    | step effect' next' => cases edge; exact tables effect sound.2.2.1
  | halt => cases edge

theorem Point.act_grows {point : Point} {effect : World → World} {next : World → Point}
    (sound : Sound appID envID domain w job point) (edge : point.act job = some (effect, next))
    (v : World) : Grows v (effect v) :=
  act_effect grows_effects (fun _ same v => .of_tables (same v)) sound edge v

theorem Point.act_references {point : Point} {effect : World → World} {next : World → Point}
    (sound : Sound appID envID domain w job point) (edge : point.act job = some (effect, next))
    {v : World} (refs : v.References) : World.References (effect v) := by
  refine act_effect references_effects (fun _ same v refs => ?_) sound edge v refs
  exact refs.of_tables (same v).deployments (same v).builds (same v).backends (same v).routes
    (same v).targets (same v).servers

theorem Known.backendAt {routeID : UUID} {b : TrafficBackend} (known : Known w routeID b) :
    ∃ b', w.backendAt b.id routeID = some b' := by
  obtain ⟨b', member, id, route, -⟩ := known
  refine ⟨b', backendAt_eq_some.mpr ⟨?_, route⟩⟩
  rw [← id]
  exact Table.find?_self member

/-- The demotion loop starts its next turn in a sound state. -/
theorem sound_nextDemotion {held : Held} (label : String) {listed : List TrafficBackend}
    (demoted : Nat) (holds : Holds appID envID domain w job held) (own : HasOwn w held)
    (known : ∀ b ∈ demotions held.deployment.id listed, Known w held.route.id b) :
    Sound appID envID domain w job (Point.nextDemotion held label listed demoted) := by
  induction listed with
  | nil =>
    refine ⟨holds, own, announce_every (fun w => .refl w) sameTables_send ?_ ?_ _ _ _ _⟩
    · exact fun event w => ⟨rfl, rfl, rfl, rfl, rfl, rfl, rfl, rfl, rfl⟩
    · exact fun g _ w => ⟨rfl, rfl, rfl, rfl, rfl, rfl, rfl, rfl, rfl⟩
  | cons prev rest ih =>
    rw [Point.nextDemotion]
    split
    · rename_i same
      refine ih fun b member => known b ?_
      simpa [demotions, same] using member
    · rename_i other
      refine ⟨holds, fun b member => known b ?_, own⟩
      simpa [demotions, other] using member

/-- **A run stays sound.** -/
theorem Sound.next (available : domain ≠ "") (refs : w.References) {point : Point}
    {effect : World → World} {next : World → Point} (sound : Sound appID envID domain w job point)
    (edge : point.act job = some (effect, next)) {ts : List (Promotion × Point)} {i : Nat}
    (here : ts[i]? = some (job, point)) (accepts : StoreAccepts (w, ts) i) :
    Sound appID envID domain (effect w) job (next w) := by
  have grows : Grows w (effect w) := Point.act_grows sound edge w
  have accepted := accepts (job, point) here
  cases point with
  | start =>
    cases edge
    obtain ⟨d, app, found, ofApp, ofEnv, owner, chooses⟩ := sound
    simp only [found]
    exact ⟨Table.key_of_find? found, ofApp, ofEnv, app, owner, chooses⟩
  | readApp d =>
    cases edge
    obtain ⟨own, ofApp, ofEnv, app, owner, chooses⟩ := sound
    rw [← ofApp] at owner
    simp only [owner, chooses, if_neg available]
    exact ⟨own, ofEnv, (Table.key_of_find? owner).trans ofApp, chooses⟩
  | ensure d app =>
    cases edge
    obtain ⟨own, ofEnv, ofApp, chooses⟩ := sound
    obtain ⟨route, ensured⟩ := Option.isSome_iff_exists.mp accepted
    have routed := routeEnsured_of_ensure ensured
    simp only at ensured
    simp only [ensured]
    refine ⟨own, (routed.routes route).mpr (.inl rfl), routed.app.trans ofApp,
      routed.environment.trans ofEnv, routed.domain.trans chooses⟩
  | list held =>
    cases edge
    have known : ∀ b ∈ demotions held.deployment.id (w.listTrafficBackendsByRoute held.route.id),
        Known w held.route.id b := by
      intro b member
      obtain ⟨inTable, onRoute, -⟩ := (mem_demotions refs).mp member
      exact ⟨b, inTable, rfl, onRoute, rfl⟩
    dsimp only
    split
    · exact ⟨sound, known⟩
    · exact ⟨sound, known⟩
  | readBuild held existing => cases edge; exact sound
  | upsert held existing label =>
    cases edge
    obtain ⟨new, upserted⟩ := Option.isSome_iff_exists.mp accepted
    simp only at upserted
    simp only [upserted]
    obtain ⟨holds, known⟩ := sound
    refine ⟨grows.holds holds, fun b member => grows.known (known b member), new, ?_⟩
    obtain ⟨b, pair, made, after⟩ | ⟨backends, -, made, inserted, -, -, after⟩ :=
      upsert_cases upserted
    · obtain ⟨member, ofRoute, ofDeployment⟩ := backendOf_eq_some pair
      rw [after]
      refine ⟨?_, rfl, ?_, ?_⟩
      · simp only [Table.mem_update, key_backend]
        exact ⟨b, member, by rw [if_pos rfl, made]⟩
      · rw [made]; exact ofRoute
      · rw [made]; exact ofDeployment
    · rw [after]
      refine ⟨(Table.mem_insert? inserted).mpr (.inl rfl), rfl, ?_, ?_⟩
      · rw [made]
      · rw [made]
  | weigh held existing label newID =>
    cases edge
    obtain ⟨holds, known, b, member, rfl, ofRoute, ofDeployment⟩ := sound
    have found : w.backendAt b.id held.route.id = some b :=
      backendAt_eq_some.mpr ⟨Table.find?_self member, ofRoute⟩
    have written := updateWeight_eq found (show (0 : Int) ≤ 100 ∧ (100 : Int) ≤ 100 by decide)
    simp only [written] at grows ⊢
    exact sound_nextDemotion label 0 (grows.holds holds)
      (grows.hasOwn ⟨b, member, ofRoute, ofDeployment⟩) fun b member =>
        grows.known (known b member)
  | zero held label prev rest demoted =>
    cases edge
    obtain ⟨holds, known, own⟩ := sound
    obtain ⟨b, found⟩ := (known prev List.mem_cons_self).backendAt
    have written := updateWeight_eq found (show (0 : Int) ≤ 0 ∧ (0 : Int) ≤ 100 by decide)
    simp only [written] at grows ⊢
    exact ⟨grows.holds holds, fun b member => grows.known (known b member), grows.hasOwn own⟩
  | drain held label prev rest demoted =>
    cases edge
    obtain ⟨holds, known, own⟩ := sound
    exact ⟨grows.holds holds, fun b member => grows.known (known b member), grows.hasOwn own⟩
  | supersede held label prev rest demoted =>
    cases edge
    obtain ⟨holds, known, own⟩ := sound
    exact sound_nextDemotion label (demoted + 1) (grows.holds holds) (grows.hasOwn own)
      fun b member => grows.known (known b (List.mem_cons_of_mem prev member))
  | finish held rest =>
    cases rest with
    | done result => cases edge
    | step effect' next' =>
      cases edge
      exact ⟨grows.holds sound.1, grows.hasOwn sound.2.1, sound.2.2.2 w⟩
  | halt => exact sound.elim

end Soundness

/-! ## After the last listing -/

/-- The backend is retired, or somebody still has the missing statements ahead. -/
structure Sinking (w : World) (ts : List (Promotion × Point)) (b : TrafficBackend) : Prop where
  weight : b.weight = 0 ∨ ∃ t ∈ ts, ∃ z ∈ t.2.zeroes, z.id = b.id
  status : b.status = .draining ∨ ∃ t ∈ ts, ∃ z ∈ t.2.drains, z.id = b.id
  deployment : (∀ d ∈ w.getDeployment b.deploymentID, d.status ≠ .healthy) ∨
    ∃ t ∈ ts, ∃ z ∈ t.2.supersedes, z.deploymentID = b.deploymentID

/-- Everybody has listed, and `winner` listed last: nobody will demote it, and every
other backend of the route sinks. -/
structure Decided (route : TrafficRoute) (winner : UUID) (w : World)
    (ts : List (Promotion × Point)) : Prop where
  listed : ∀ t ∈ ts, t.2.listAhead = false
  others : ∀ t ∈ ts, t.1.deploymentID ≠ winner → t.2.upsertAhead = false
  present : ∃ t ∈ ts, t.1.deploymentID = winner
  spared : ∀ t ∈ ts, ∀ b ∈ t.2.supersedes, b.deploymentID ≠ winner
  healthy : ∃ d ∈ w.getDeployment winner, d.status = .healthy
  own : ∀ t ∈ ts, t.1.deploymentID = winner → t.2.upsertAhead = false →
    ∃ b ∈ w.backends, b.routeID = route.id ∧ b.deploymentID = winner ∧ b.status = .active ∧
      (t.2.weighing = false → b.weight = 100)
  sinking : ∀ b ∈ w.backends, b.routeID = route.id → b.deploymentID ≠ winner → Sinking w ts b

section Deciding

variable {appID envID : UUID} {domain : String} {route : TrafficRoute} {winner : UUID}
  {w w' : World} {ts : List (Promotion × Point)} {i : Nat} {job : Promotion} {point point' : Point}

/-- What somebody else has ahead stays ahead when one thread moves, and what the
moving thread had ahead is done or stays ahead. -/
theorem ahead_set {α : Type} {P : Prop} {todo : Point → List TrafficBackend}
    {mark : TrafficBackend → α} {a : α} (here : ts[i]? = some (job, point))
    (moved : ∀ z ∈ todo point, mark z = a → P ∨ z ∈ todo point')
    (ahead : ∃ t ∈ ts, ∃ z ∈ todo t.2, mark z = a) :
    P ∨ ∃ t ∈ ts.set i (job, point'), ∃ z ∈ todo t.2, mark z = a := by
  obtain ⟨t, member, z, inTodo, marked⟩ := ahead
  obtain rfl | stays := mem_set_or_eq here member (job, point')
  · obtain done | later := moved z inTodo marked
    · exact .inl done
    · exact .inr ⟨_, mem_set_new here _, z, later, marked⟩
  · exact .inr ⟨t, stays, z, inTodo, marked⟩

/-- A backend keeps sinking when the step neither raises its weight, nor takes it back
from draining, nor makes its deployment healthy, and drops no duty undone. -/
theorem Sinking.move {b b' : TrafficBackend} (here : ts[i]? = some (job, point))
    (sinking : Sinking w ts b) (id : b'.id = b.id) (deployment : b'.deploymentID = b.deploymentID)
    (weight : b'.weight = 0 ∨ b'.weight = b.weight)
    (zeroed : ∀ z ∈ point.zeroes, z.id = b.id → b'.weight = 0 ∨ z ∈ point'.zeroes)
    (status : b'.status = .draining ∨ b'.status = b.status)
    (drained : ∀ z ∈ point.drains, z.id = b.id → b'.status = .draining ∨ z ∈ point'.drains)
    (unhealthy : (∀ d ∈ w.getDeployment b.deploymentID, d.status ≠ .healthy) →
      ∀ d ∈ w'.getDeployment b.deploymentID, d.status ≠ .healthy)
    (superseded : ∀ z ∈ point.supersedes, z.deploymentID = b.deploymentID →
      (∀ d ∈ w'.getDeployment b.deploymentID, d.status ≠ .healthy) ∨ z ∈ point'.supersedes) :
    Sinking w' (ts.set i (job, point')) b' where
  weight := by
    rw [id]
    obtain zero | ahead := sinking.weight
    · exact .inl (weight.elim (fun done => done) fun same => same.trans zero)
    · exact ahead_set here zeroed ahead
  status := by
    rw [id]
    obtain draining | ahead := sinking.status
    · exact .inl (status.elim (fun done => done) fun same => same.trans draining)
    · exact ahead_set here drained ahead
  deployment := by
    rw [deployment]
    obtain not | ahead := sinking.deployment
    · exact .inl (unhealthy not)
    · exact ahead_set here superseded ahead

/-- One thread moves: what it must establish, and what it must keep for the others. -/
theorem Decided.move (decided : Decided route winner w ts) (here : ts[i]? = some (job, point))
    (listed : point'.listAhead = false)
    (upserted : job.deploymentID ≠ winner → point'.upsertAhead = false)
    (spared : ∀ b ∈ point'.supersedes, b ∈ point.supersedes)
    (healthy : w'.getDeployment winner = w.getDeployment winner)
    (kept : ∀ b ∈ w.backends, b.routeID = route.id → b.deploymentID = winner →
      b.status = .active → ∃ b' ∈ w'.backends, b'.routeID = route.id ∧ b'.deploymentID = winner ∧
        b'.status = .active ∧ (b.weight = 100 → b'.weight = 100))
    (own : job.deploymentID = winner → point'.upsertAhead = false →
      ∃ b ∈ w'.backends, b.routeID = route.id ∧ b.deploymentID = winner ∧ b.status = .active ∧
        (point'.weighing = false → b.weight = 100))
    (sinking : ∀ b ∈ w'.backends, b.routeID = route.id → b.deploymentID ≠ winner →
      Sinking w' (ts.set i (job, point')) b) :
    Decided route winner w' (ts.set i (job, point')) := by
  have mover : (job, point) ∈ ts := List.mem_of_getElem? here
  have each : ∀ t ∈ ts.set i (job, point'), t ∈ ts ∨ t = (job, point') := fun t member =>
    List.mem_or_eq_of_mem_set member
  refine ⟨?_, ?_, ?_, ?_, by rw [healthy]; exact decided.healthy, ?_, sinking⟩
  · intro t member
    obtain old | rfl := each t member
    · exact decided.listed t old
    · exact listed
  · intro t member other
    obtain old | rfl := each t member
    · exact decided.others t old other
    · exact upserted other
  · obtain ⟨t, member, wins⟩ := decided.present
    obtain rfl | stays := mem_set_or_eq here member (job, point')
    · exact ⟨_, mem_set_new here _, wins⟩
    · exact ⟨t, stays, wins⟩
  · intro t member b duty
    obtain old | rfl := each t member
    · exact decided.spared t old b duty
    · exact decided.spared _ mover b (spared b duty)
  · intro t member wins past
    obtain old | rfl := each t member
    · obtain ⟨b, inTable, onRoute, ofWinner, active, weight⟩ := decided.own t old wins past
      obtain ⟨b', inTable', onRoute', ofWinner', active', weight'⟩ :=
        kept b inTable onRoute ofWinner active
      exact ⟨b', inTable', onRoute', ofWinner', active', fun done => weight' (weight done)⟩
    · exact own wins past

theorem Decided.idle (decided : Decided route winner w ts) (here : ts[i]? = some (job, point))
    (same : SameTables w w') (listed : point'.listAhead = false)
    (upserting : point'.upsertAhead = point.upsertAhead) (weighing : point'.weighing = point.weighing)
    (zeroes : point'.zeroes = point.zeroes) (drains : point'.drains = point.drains)
    (supersedes : point'.supersedes = point.supersedes) :
    Decided route winner w' (ts.set i (job, point')) := by
  have mover : (job, point) ∈ ts := List.mem_of_getElem? here
  refine decided.move here listed ?_ ?_ ?_ ?_ ?_ ?_
  · rw [upserting]
    exact decided.others _ mover
  · rw [supersedes]
    exact fun b member => member
  · rw [World.getDeployment, same.deployments]
  · rw [same.backends]
    exact fun b member onRoute ofWinner active => ⟨b, member, onRoute, ofWinner, active, fun h => h⟩
  · rw [same.backends, upserting, weighing]
    exact decided.own _ mover
  · rw [same.backends]
    intro b member onRoute other
    refine (decided.sinking b member onRoute other).move here rfl rfl (.inr rfl) ?_ (.inr rfl) ?_ ?_ ?_
    · rw [zeroes]
      exact fun z duty _ => .inr duty
    · rw [drains]
      exact fun z duty _ => .inr duty
    · simp only [World.getDeployment, same.deployments]
      exact fun not => not
    · rw [supersedes]
      exact fun z duty _ => .inr duty

/-- The upsert of the winner writes no other backend. -/
theorem Decided.upsert (refs : w.References) (decided : Decided route winner w ts) {held : Held}
    {existing : List TrafficBackend} {label : String} {new : TrafficBackend}
    (here : ts[i]? = some (job, .upsert held existing label))
    (own : held.deployment.id = job.deploymentID) (onRoute : held.route = route)
    (upserted : (w.upsertTrafficBackend job.backendID held.route.id held.deployment.id label 100
      .active).2 = some new) :
    Decided route winner
      (w.upsertTrafficBackend job.backendID held.route.id held.deployment.id label 100 .active).1
      (ts.set i (job, .weigh held existing label new.id)) := by
  have wins : job.deploymentID = winner := by
    by_contra other
    have past := decided.others _ (List.mem_of_getElem? here) other
    cases past
  subst onRoute
  rw [own, wins] at upserted ⊢
  -- the row of the pair is the new one, and every other row is as before
  have rows : ∃ backends : Table TrafficBackend,
      (w.upsertTrafficBackend job.backendID held.route.id winner label 100 .active).1 =
        { w with backends := backends } ∧ new ∈ backends ∧ new.routeID = held.route.id ∧
      new.deploymentID = winner ∧ new.status = .active ∧
      (∀ b ∈ backends, b = new ∨ b ∈ w.backends) ∧
      ∀ b ∈ w.backends, b.routeID = held.route.id → b.deploymentID = winner →
        new.weight = b.weight := by
    obtain ⟨b, pair, rfl, after⟩ | ⟨backends, free, made, inserted, -, -, after⟩ :=
      upsert_cases upserted
    · obtain ⟨member, ofRoute, ofWinner⟩ := backendOf_eq_some pair
      refine ⟨_, after, ?_, ofRoute, ofWinner, rfl, fun b' member' => ?_, fun b' member' r d => ?_⟩
      · simp only [Table.mem_update, key_backend]
        exact ⟨b, member, if_pos rfl⟩
      · simp only [Table.mem_update, key_backend] at member'
        obtain ⟨old, inTable, rfl⟩ := member'
        split
        · rename_i same
          obtain rfl : old = b := Table.eq_of_key_eq inTable member same
          exact .inl rfl
        · exact .inr inTable
      · rw [refs.uniqueBackend b' member' b member (r.trans ofRoute.symm) (d.trans ofWinner.symm)]
    · refine ⟨backends, after, (Table.mem_insert? inserted).mpr (.inl rfl), ?_, ?_, ?_, fun b' =>
        (Table.mem_insert? inserted).mp, fun b member r d =>
          absurd ⟨r, d⟩ (backendOf_eq_none free b member)⟩
      · rw [made]
      · rw [made]
      · rw [made]
  obtain ⟨backends, after, isNew, newRoute, newDeployment, active, old, keepsWeight⟩ := rows
  rw [after]
  refine decided.move here rfl (fun other => absurd wins other) (fun b member => member) rfl
    ?_ ?_ ?_
  · intro b member ofRoute ofWinner _
    exact ⟨new, isNew, newRoute, newDeployment, active, fun full =>
      (keepsWeight b member ofRoute ofWinner).trans full⟩
  · exact fun _ _ => ⟨new, isNew, newRoute, newDeployment, active, fun weighed => by cases weighed⟩
  · intro b member ofRoute other
    have before : b ∈ w.backends := by
      obtain rfl | before := old b member
      · exact absurd newDeployment other
      · exact before
    exact (decided.sinking b before ofRoute other).move here rfl rfl (.inr rfl)
      (fun z duty _ => .inr duty) (.inr rfl) (fun z duty _ => .inr duty) (fun not => not)
      (fun z duty _ => .inr duty)

/-- The weight write of a run.  For the winner it completes its backend; the backend
of another run sinks as long as somebody has it still to set to 0. -/
theorem Decided.weigh (refs : w.References) (decided : Decided route winner w ts) {held : Held}
    {existing : List TrafficBackend} {label : String} {b : TrafficBackend}
    (here : ts[i]? = some (job, .weigh held existing label b.id))
    (own : held.deployment.id = job.deploymentID) (onRoute : held.route = route)
    (member : b ∈ w.backends) (ofRoute : b.routeID = held.route.id)
    (ofDeployment : b.deploymentID = held.deployment.id)
    (ordered : InOrder (w, ts) i) :
    Decided route winner
      { w with backends := w.backends.update b.id fun b => { b with weight := 100 } }
      (ts.set i (job, Point.nextDemotion held label existing 0)) := by
  subst onRoute
  obtain ⟨listed, upserted, -, zeroes, drains, supersedes⟩ :=
    Point.nextDemotion_ahead held label existing 0
  have old : ∀ b', b' ∈ (w.backends.update b.id fun b => { b with weight := 100 }) →
      b' = { b with weight := 100 } ∨ b' ∈ w.backends ∧ b'.id ≠ b.id := by
    intro b' member'
    simp only [Table.mem_update, key_backend] at member'
    obtain ⟨old, inTable, rfl⟩ := member'
    split
    · rename_i same
      obtain rfl : old = b := Table.eq_of_key_eq inTable member same
      exact .inl rfl
    · rename_i other
      exact .inr ⟨inTable, other⟩
  have new : { b with weight := 100 } ∈ w.backends.update b.id fun b => { b with weight := 100 } := by
    simp only [Table.mem_update, key_backend]
    exact ⟨b, member, if_pos rfl⟩
  have drop : ∀ (w' : World) {b' : TrafficBackend},
      (∀ id, w'.getDeployment id = w.getDeployment id) → Sinking w ts b' →
      Sinking w' (ts.set i (job, Point.nextDemotion held label existing 0)) b' := by
    intro w' b' same sinking
    refine sinking.move here rfl rfl (.inr rfl) ?_ (.inr rfl) ?_ ?_ ?_
    · rw [zeroes]
      exact fun z duty _ => .inr duty
    · rw [drains]
      exact fun z duty _ => .inr duty
    · rw [same]
      exact fun not => not
    · rw [supersedes]
      exact fun z duty _ => .inr duty
  refine decided.move here listed (fun _ => upserted) ?_ rfl ?_ ?_ ?_
  · rw [supersedes]
    exact fun b member => member
  · intro b' member' onRoute' ofWinner active
    by_cases same : b'.id = b.id
    · obtain rfl : b' = b := Table.eq_of_key_eq member' member same
      exact ⟨_, new, onRoute', ofWinner, active, fun _ => rfl⟩
    · refine ⟨b', ?_, onRoute', ofWinner, active, fun h => h⟩
      simp only [Table.mem_update, key_backend]
      exact ⟨b', member', if_neg same⟩
  · intro wins _
    obtain ⟨b', member', onRoute', ofWinner, active, -⟩ :=
      decided.own _ (List.mem_of_getElem? here) wins rfl
    obtain rfl : b' = b := refs.uniqueBackend b' member' b member (onRoute'.trans ofRoute.symm)
      (ofWinner.trans (wins.symm.trans (own.symm.trans ofDeployment.symm)))
    exact ⟨_, new, onRoute', ofWinner, active, fun _ => rfl⟩
  · intro b' member' onRoute' other
    obtain rfl | ⟨before, -⟩ := old b' member'
    · have sinking := decided.sinking b member onRoute' other
      have reported : (∀ d ∈ w.getDeployment job.deploymentID, d.status ≠ .healthy) ∨
          ∃ t ∈ ts.eraseIdx i, ∃ z ∈ t.2.supersedes, z.deploymentID = job.deploymentID := by
        refine sinking.deployment.imp ?_ ?_
        · rw [ofDeployment, own]
          exact fun not => not
        · rintro ⟨t, inside, z, duty, ofOwn⟩
          rw [ofDeployment] at ofOwn
          obtain rfl | others := mem_eraseIdx_or_eq here inside
          · -- a run does not list its own deployment for demotion
            have skipped : z.deploymentID ≠ held.deployment.id := by
              simpa [demotions] using (List.mem_filter.mp duty).2
            exact absurd ofOwn skipped
          · exact ⟨t, others, z, duty, ofOwn.trans own⟩
      obtain ⟨t, others, z, duty, same⟩ := ordered _ here
        (fun t others => decided.listed t (List.mem_of_mem_eraseIdx others)) reported
      have moved := drop w (fun _ => rfl) sinking
      exact ⟨.inr ⟨t, (mem_set_iff here).mpr (.inr others), z, duty, same⟩, moved.status,
        moved.deployment⟩
    · exact drop _ (fun _ => rfl) (decided.sinking b' before onRoute' other)

/-- A statement of the demotion loop on a backend that is not the winner's. -/
theorem Decided.lower (decided : Decided route winner w ts) (here : ts[i]? = some (job, point))
    (id : UUID) (f : TrafficBackend → TrafficBackend)
    (keeps : ∀ r : TrafficBackend, Keyed.key (f r) = Keyed.key r)
    (sameRoute : ∀ r, (f r).routeID = r.routeID)
    (sameDeployment : ∀ r, (f r).deploymentID = r.deploymentID)
    (other : ∀ b ∈ w.backends, b.id = id → b.deploymentID ≠ winner)
    (listed : point'.listAhead = false) (past : point.upsertAhead = false ∧ point.weighing = false)
    (upserted : point'.upsertAhead = false)
    (weight : ∀ r, (f r).weight = 0 ∨ (f r).weight = r.weight)
    (status : ∀ r, (f r).status = .draining ∨ (f r).status = r.status)
    (zeroed : ∀ z ∈ point.zeroes, (∀ r, z.id = id ∧ (f r).weight = 0) ∨ z ∈ point'.zeroes)
    (drained : ∀ z ∈ point.drains, (∀ r, z.id = id ∧ (f r).status = .draining) ∨ z ∈ point'.drains)
    (supersedes : point'.supersedes = point.supersedes) :
    Decided route winner { w with backends := w.backends.update id f keeps }
      (ts.set i (job, point')) := by
  have untouched : ∀ b ∈ w.backends, b.deploymentID = winner → b ∈ w.backends.update id f keeps := by
    intro b member ofWinner
    rw [Table.mem_update]
    exact ⟨b, member, if_neg fun same => other b member same ofWinner⟩
  refine decided.move here listed (fun _ => upserted) ?_ rfl ?_ ?_ ?_
  · rw [supersedes]
    exact fun b member => member
  · exact fun b member onRoute ofWinner active =>
      ⟨b, untouched b member ofWinner, onRoute, ofWinner, active, fun h => h⟩
  · intro wins _
    obtain ⟨b, member, onRoute, ofWinner, active, full⟩ :=
      decided.own _ (List.mem_of_getElem? here) wins past.1
    exact ⟨b, untouched b member ofWinner, onRoute, ofWinner, active, fun _ => full past.2⟩
  · intro b' member' onRoute' notWinner
    obtain ⟨old, member, rfl⟩ := (Table.mem_update keeps).mp member'
    have still : ∀ z ∈ point.supersedes, z.deploymentID = old.deploymentID →
        (∀ d ∈ w.getDeployment old.deploymentID, d.status ≠ .healthy) ∨
          z ∈ point'.supersedes := by
      rw [supersedes]
      exact fun z duty _ => .inr duty
    by_cases hit : Keyed.key old = id
    · rw [if_pos hit] at onRoute' notWinner ⊢
      rw [sameRoute] at onRoute'
      rw [sameDeployment] at notWinner
      refine (decided.sinking old member onRoute' notWinner).move here (keeps old)
        (sameDeployment old) (weight old) (fun z duty _ => ?_) (status old) (fun z duty _ => ?_)
        (fun not => not) still
      · exact (zeroed z duty).imp (fun done => (done old).2) fun later => later
      · exact (drained z duty).imp (fun done => (done old).2) fun later => later
    · rw [if_neg hit] at onRoute' notWinner ⊢
      refine (decided.sinking old member onRoute' notWinner).move here rfl rfl (.inr rfl)
        (fun z duty same => ?_) (.inr rfl) (fun z duty same => ?_) (fun not => not) still
      · exact .inr ((zeroed z duty).resolve_left fun done => hit (same.symm.trans (done old).1))
      · exact .inr ((drained z duty).resolve_left fun done => hit (same.symm.trans (done old).1))

theorem Decided.supersede (decided : Decided route winner w ts) {held : Held} {label : String}
    {prev : TrafficBackend} {rest : List TrafficBackend} {demoted : Nat}
    (here : ts[i]? = some (job, .supersede held label prev rest demoted)) :
    Decided route winner (w.setDeploymentStatusSimple prev.deploymentID .superseded)
      (ts.set i (job, Point.nextDemotion held label rest (demoted + 1))) := by
  obtain ⟨listed, upserted, weighing, zeroes, drains, supersedes⟩ :=
    Point.nextDemotion_ahead held label rest (demoted + 1)
  have mover := List.mem_of_getElem? here
  have other : prev.deploymentID ≠ winner := decided.spared _ mover prev List.mem_cons_self
  have rows : ∀ id, (w.setDeploymentStatusSimple prev.deploymentID .superseded).getDeployment id =
      if id = prev.deploymentID then (w.getDeployment id).map superseded else w.getDeployment id :=
    fun id => World.getDeployment_setStatus w prev.deploymentID id .superseded
  refine decided.move here listed (fun _ => upserted) ?_ ?_ ?_ ?_ ?_
  · rw [supersedes]
    exact fun b member => List.mem_cons_of_mem prev member
  · rw [rows, if_neg (Ne.symm other)]
  · exact fun b member onRoute ofWinner active => ⟨b, member, onRoute, ofWinner, active, fun h => h⟩
  · intro wins _
    rw [weighing]
    exact decided.own _ mover wins rfl
  · intro b member onRoute notWinner
    refine (decided.sinking b member onRoute notWinner).move here rfl rfl (.inr rfl) ?_ (.inr rfl)
      ?_ ?_ ?_
    · rw [zeroes]
      exact fun z duty _ => .inr duty
    · rw [drains]
      exact fun z duty _ => .inr duty
    · intro not d found
      rw [rows] at found
      split at found
      · obtain ⟨d', -, rfl⟩ := Option.map_eq_some_iff.mp found
        exact fun h => nomatch h
      · exact not d found
    · intro z duty same
      rcases List.mem_cons.mp duty with rfl | later
      · refine .inl fun d found => ?_
        rw [rows, if_pos same.symm] at found
        obtain ⟨d', -, rfl⟩ := Option.map_eq_some_iff.mp found
        exact fun h => nomatch h
      · rw [supersedes]
        exact .inr later

/-- **A decided run stays decided.** -/
theorem Decided.step (refs : w.References) (isRoute : IsRoute w appID envID domain route)
    (decided : Decided route winner w ts) (here : ts[i]? = some (job, point))
    {effect : World → World} {next : World → Point} (edge : point.act job = some (effect, next))
    (sound : Sound appID envID domain w job point) (accepts : StoreAccepts (w, ts) i)
    (ordered : InOrder (w, ts) i) :
    Decided route winner (effect w) (ts.set i (job, next w)) := by
  have mover : (job, point) ∈ ts := List.mem_of_getElem? here
  have listed := decided.listed _ mover
  have onRoute : ∀ {held : Held}, Holds appID envID domain w job held → held.route = route :=
    fun holds => isRoute_unique refs holds.2 isRoute
  -- the row of a listed backend belongs to the deployment it was listed with
  have notWinner : ∀ {held : Held} {prev : TrafficBackend}, prev ∈ point.supersedes →
      Known w held.route.id prev → ∀ b ∈ w.backends, b.id = prev.id → b.deploymentID ≠ winner := by
    intro held prev duty known b member same
    obtain ⟨b', member', same', -, deployment⟩ := known
    obtain rfl : b = b' := Table.eq_of_key_eq member member' (same.trans same'.symm)
    rw [deployment]
    exact decided.spared _ mover prev duty
  cases point with
  | start => cases listed
  | readApp d => cases listed
  | ensure d app => cases listed
  | list held => cases listed
  | readBuild held existing =>
    cases edge
    exact decided.idle here (.refl w) rfl rfl rfl rfl rfl rfl
  | upsert held existing label =>
    cases edge
    obtain ⟨new, upserted⟩ := Option.isSome_iff_exists.mp (accepts (job, _) here)
    simp only at upserted
    simp only [upserted]
    exact decided.upsert refs here sound.1.1 (onRoute sound.1) upserted
  | weigh held existing label newID =>
    cases edge
    obtain ⟨holds, -, b, member, rfl, ofRoute, ofDeployment⟩ := sound
    have found : w.backendAt b.id held.route.id = some b :=
      backendAt_eq_some.mpr ⟨Table.find?_self member, ofRoute⟩
    have written := updateWeight_eq found (show (0 : Int) ≤ 100 ∧ (100 : Int) ≤ 100 by decide)
    simp only [written]
    exact decided.weigh refs here holds.1 (onRoute holds) member ofRoute ofDeployment ordered
  | zero held label prev rest demoted =>
    cases edge
    obtain ⟨holds, known, own⟩ := sound
    have isKnown := known prev List.mem_cons_self
    obtain ⟨b, found⟩ := isKnown.backendAt
    have written := updateWeight_eq found (show (0 : Int) ≤ 0 ∧ (0 : Int) ≤ 100 by decide)
    simp only [written]
    refine decided.lower here prev.id _ _ (fun _ => rfl) (fun _ => rfl)
      (notWinner List.mem_cons_self isKnown) rfl ⟨rfl, rfl⟩ rfl (fun _ => .inl rfl)
      (fun _ => .inr rfl) (fun z duty => ?_) (fun z duty => .inr duty) rfl
    rcases List.mem_cons.mp duty with rfl | later
    · exact .inl fun _ => ⟨rfl, rfl⟩
    · exact .inr later
  | drain held label prev rest demoted =>
    cases edge
    obtain ⟨holds, known, own⟩ := sound
    have isKnown := known prev List.mem_cons_self
    obtain ⟨b, found⟩ := isKnown.backendAt
    simp only [setStatus_eq found]
    refine decided.lower here prev.id _ _ (fun _ => rfl) (fun _ => rfl)
      (notWinner List.mem_cons_self isKnown) rfl ⟨rfl, rfl⟩ rfl (fun _ => .inr rfl)
      (fun _ => .inl rfl) (fun z duty => .inr duty) (fun z duty => ?_) rfl
    rcases List.mem_cons.mp duty with rfl | later
    · exact .inl fun _ => ⟨rfl, rfl⟩
    · exact .inr later
  | supersede held label prev rest demoted =>
    cases edge
    exact decided.supersede here
  | finish held rest =>
    cases rest with
    | done result => cases edge
    | step effect' next' =>
      cases edge
      exact decided.idle here (sound.2.2.1 w) rfl rfl rfl rfl rfl rfl
  | halt => exact sound.elim

/-- Only a listing leaves nobody with a listing ahead. -/
theorem Point.list_of_last {effect : World → World} {next : World → Point}
    (sound : Sound appID envID domain w job point) (available : domain ≠ "")
    (edge : point.act job = some (effect, next)) (ahead : point.listAhead = true)
    (done : (next w).listAhead = false) (here : ts[i]? = some (job, point))
    (accepts : StoreAccepts (w, ts) i) : ∃ held, point = .list held := by
  cases point with
  | start =>
    cases edge
    obtain ⟨d, app, found, -⟩ := sound
    simp only [found] at done
    cases done
  | readApp d =>
    cases edge
    obtain ⟨-, ofApp, -, app, owner, chooses⟩ := sound
    rw [← ofApp] at owner
    simp only [owner, chooses, if_neg available] at done
    cases done
  | ensure d app =>
    cases edge
    obtain ⟨route, ensured⟩ := Option.isSome_iff_exists.mp (accepts (job, _) here)
    simp only at ensured
    simp only [ensured] at done
    cases done
  | list held => exact ⟨held, rfl⟩
  | _ => cases ahead

/-- The last listing decides. -/
theorem decided_of_last (refs : w.References) {held : Held} {next : World → Point}
    {effect : World → World} (here : ts[i]? = some (job, .list held))
    (edge : (Point.list held).act job = some (effect, next))
    (own : held.deployment.id = job.deploymentID)
    (distinct : ∀ t ∈ ts.eraseIdx i, t.1.deploymentID ≠ job.deploymentID)
    (last : ∀ t ∈ ts.eraseIdx i, t.2.listAhead = false) (ordered : InOrder (w, ts) i) :
    Decided held.route job.deploymentID (effect w) (ts.set i (job, next w)) := by
  obtain ⟨past, healthy⟩ := ordered _ here last
  cases edge
  -- after the listing the run has exactly the other backends of the route to demote
  have duties : ∀ point : Point, point = .readBuild held (w.listTrafficBackendsByRoute held.route.id) ∨
      point = .upsert held (w.listTrafficBackendsByRoute held.route.id) "stable" →
      Decided held.route job.deploymentID w (ts.set i (job, point)) := by
    intro point kinds
    have facts : point.listAhead = false ∧ point.upsertAhead = true ∧
        point.zeroes = demotions held.deployment.id (w.listTrafficBackendsByRoute held.route.id) ∧
        point.drains = point.zeroes ∧ point.supersedes = point.zeroes := by
      rcases kinds with rfl | rfl
      · exact ⟨rfl, rfl, rfl, rfl, rfl⟩
      · exact ⟨rfl, rfl, rfl, rfl, rfl⟩
    obtain ⟨listed, upserting, zeroes, drains, supersedes⟩ := facts
    have each : ∀ t ∈ ts.set i (job, point), t = (job, point) ∨ t ∈ ts.eraseIdx i := fun t =>
      (mem_set_iff here).mp
    have duty : ∀ b ∈ w.backends, b.routeID = held.route.id → b.deploymentID ≠ job.deploymentID →
        b ∈ point.zeroes := by
      intro b member onRoute other
      rw [zeroes, mem_demotions refs]
      exact ⟨member, onRoute, by rw [own]; exact other⟩
    refine ⟨?_, ?_, ⟨_, mem_set_new here _, rfl⟩, ?_, healthy, ?_, ?_⟩
    · intro t member
      obtain rfl | other := each t member
      · exact listed
      · exact last t other
    · intro t member notWinner
      obtain rfl | other := each t member
      · exact absurd rfl notWinner
      · exact (past t other).1
    · intro t member b inDuty
      obtain rfl | other := each t member
      · rw [supersedes, zeroes, mem_demotions refs] at inDuty
        rw [← own]
        exact inDuty.2.2
      · exact (past t other).2 b inDuty
    · intro t member wins ready
      obtain rfl | other := each t member
      · rw [upserting] at ready
        cases ready
      · exact absurd wins (distinct t other)
    · intro b member onRoute other
      have ahead := duty b member onRoute other
      refine ⟨.inr ⟨_, mem_set_new here _, b, ahead, rfl⟩,
        .inr ⟨_, mem_set_new here _, b, ?_, rfl⟩, .inr ⟨_, mem_set_new here _, b, ?_, rfl⟩⟩
      · rw [drains]
        exact ahead
      · rw [supersedes]
        exact ahead
  dsimp only
  split
  · exact duties _ (.inl rfl)
  · exact duties _ (.inr rfl)

end Deciding

/-! ## Whole runs -/

section Runs

variable {appID envID : UUID} {domain : String} {w : World} {jobs : List Promotion}

/-- What holds along every orderly run: somebody still has to list, or the route is
decided. -/
structure Steady (appID envID : UUID) (domain : String) (jobs : List Promotion)
    (c : World × List (Promotion × Point)) : Prop where
  threads : c.2.map Prod.fst = jobs
  refs : c.1.References
  sound : ∀ t ∈ c.2, Sound appID envID domain c.1 t.1 t.2
  phase : (∃ t ∈ c.2, t.2.listAhead = true) ∨
    ∃ route winner, IsRoute c.1 appID envID domain route ∧ Decided route winner c.1 c.2

theorem distinct_threads {ts : List (Promotion × Point)} {i : Nat} {job : Promotion} {point : Point}
    (distinct : (jobs.map Promotion.deploymentID).Nodup) (threads : ts.map Prod.fst = jobs)
    (here : ts[i]? = some (job, point)) :
    ∀ t ∈ ts.eraseIdx i, t.1.deploymentID ≠ job.deploymentID := by
  intro t member same
  obtain ⟨j, other, found⟩ := List.mem_eraseIdx_iff_getElem?.mp member
  have ids : (jobs.map Promotion.deploymentID)[j]? = (jobs.map Promotion.deploymentID)[i]? := by
    simp [← threads, found, here, same]
  obtain ⟨bound, -⟩ := List.getElem?_eq_some_iff.mp found
  have inside : j < (jobs.map Promotion.deploymentID).length := by
    rw [← threads]
    simpa using bound
  exact other ((List.getElem?_inj inside distinct).mp ids)

theorem Steady.step (available : domain ≠ "") (distinct : (jobs.map Promotion.deploymentID).Nodup)
    {c : World × List (Promotion × Point)} {i : Nat} (orderly : StoreAccepts c i ∧ InOrder c i)
    (steady : Steady appID envID domain jobs c) :
    Steady appID envID domain jobs (promotionFlow.advance (fun _ _ => []) c i) := by
  obtain ⟨accepts, ordered⟩ := orderly
  obtain same | ⟨⟨job, point⟩, effect, next, here, edge, moved⟩ :=
    Flow.advance_cases promotionFlow (fun _ _ => []) c i
  · rw [same]
    exact steady
  · obtain ⟨next', pointEdge, marked⟩ := Flow.indexed_act edge
    obtain ⟨w, ts⟩ := c
    rw [moved, List.append_nil, marked w]
    have member : (job, point) ∈ ts := List.mem_of_getElem? here
    have sound := steady.sound _ member
    have grows : Grows w (effect w) := Point.act_grows sound pointEdge w
    refine ⟨?_, Point.act_references sound pointEdge steady.refs, ?_, ?_⟩
    · rw [← steady.threads, List.map_set]
      apply List.ext_getElem?
      intro j
      by_cases same : i = j
      · subst same
        obtain ⟨bound, value⟩ := List.getElem?_eq_some_iff.mp here
        simp [bound, value]
      · rw [List.getElem?_set_ne same]
    · intro t inside
      obtain old | rfl := List.mem_or_eq_of_mem_set inside
      · exact grows.sound (steady.sound t old)
      · exact sound.next available steady.refs pointEdge here accepts
    · by_cases still : ∃ t ∈ ts.set i (job, next' w), t.2.listAhead = true
      · exact .inl still
      · refine .inr ?_
        simp only [not_exists, not_and, Bool.not_eq_true] at still
        have done := still _ (mem_set_new here _)
        cases ahead : point.listAhead with
        | true =>
          obtain ⟨held, rfl⟩ := Point.list_of_last sound available pointEdge ahead done here accepts
          refine ⟨held.route, job.deploymentID, grows.isRoute sound.2, ?_⟩
          refine decided_of_last steady.refs here pointEdge sound.1
            (distinct_threads distinct steady.threads here) ?_ ordered
          intro t other
          exact still t ((mem_set_iff here).mpr (.inr other))
        | false =>
          obtain ⟨t, inside, waits⟩ | ⟨route, winner, isRoute, decided⟩ := steady.phase
          · obtain rfl | stays := mem_set_or_eq here inside (job, next' w)
            · rw [ahead] at waits
              cases waits
            · rw [still t stays] at waits
              cases waits
          · exact ⟨route, winner, grows.isRoute isRoute,
              decided.step steady.refs isRoute here pointEdge sound accepts ordered⟩

theorem Decided.agreed {route : TrafficRoute} {winner : UUID} {ts : List (Promotion × Point)}
    (decided : Decided route winner w ts) (threads : ts.map Prod.fst = jobs)
    (ended : ∀ t ∈ ts, ∃ held result, t.2 = .finish held (.done result)) :
    Agreed w route.id (jobs.map Promotion.deploymentID) := by
  have nothing : ∀ t ∈ ts, t.2.zeroes = [] ∧ t.2.drains = [] ∧ t.2.supersedes = [] := by
    intro t member
    obtain ⟨held, result, atEnd⟩ := ended t member
    rw [atEnd]
    exact ⟨rfl, rfl, rfl⟩
  have retired : ∀ b ∈ w.backends, b.routeID = route.id → b.deploymentID ≠ winner → Retired w b := by
    intro b member onRoute other
    obtain ⟨weight, status, deployment⟩ := decided.sinking b member onRoute other
    refine ⟨weight.resolve_right ?_, status.resolve_right ?_, deployment.resolve_right ?_⟩
    · rintro ⟨t, inside, z, duty, -⟩
      rw [(nothing t inside).1] at duty
      cases duty
    · rintro ⟨t, inside, z, duty, -⟩
      rw [(nothing t inside).2.1] at duty
      cases duty
    · rintro ⟨t, inside, z, duty, -⟩
      rw [(nothing t inside).2.2] at duty
      cases duty
  obtain ⟨t, inside, wins⟩ := decided.present
  obtain ⟨held, result, atEnd⟩ := ended t inside
  obtain ⟨b, member, onRoute, ofWinner, active, full⟩ := decided.own t inside wins (by rw [atEnd]; rfl)
  refine ⟨winner, ?_, ⟨decided.healthy, b, member, onRoute, ofWinner, active, ?_⟩, ?_, retired⟩
  · rw [← threads, List.map_map, List.mem_map]
    exact ⟨t, inside, wins⟩
  · apply full
    rw [atEnd]
    rfl
  · rintro other - ⟨-, b', member', onRoute', ofOther, active', -⟩
    by_contra different
    have drained := (retired b' member' onRoute' (by rw [ofOther]; exact different)).2.1
    rw [active'] at drained
    cases drained

/-- **Promotions that run beside each other agree.**  When every statement succeeds
and keeps the order, then after all runs are done exactly one of the deployments
serves on the route, and every other backend of the route is retired. -/
theorem promotions_agree (refs : w.References) (some : jobs ≠ [])
    (distinct : (jobs.map Promotion.deploymentID).Nodup) (available : domain ≠ "")
    (ready : ∀ job ∈ jobs, Ready appID envID domain w job.deploymentID) {schedule : List Nat}
    (accepts : promotionFlow.Along (fun _ _ => []) StoreAccepts (promotionStart w jobs) schedule)
    (ordered : promotionFlow.Along (fun _ _ => []) InOrder (promotionStart w jobs) schedule)
    (finished : ((promotionPool w jobs).run Pool.noSpawn schedule).Finished) :
    ∃ route, IsRoute ((promotionPool w jobs).run Pool.noSpawn schedule).store appID envID domain
        route ∧
      Agreed ((promotionPool w jobs).run Pool.noSpawn schedule).store route.id
        (jobs.map Promotion.deploymentID) := by
  have start : Steady appID envID domain jobs (promotionStart w jobs) := by
    refine ⟨?_, refs, ?_, .inl ?_⟩
    · simp [promotionStart, Function.comp_def]
    · intro t member
      obtain ⟨job, inside, rfl⟩ := List.mem_map.mp member
      exact ready job inside
    · obtain ⟨job, inside⟩ := List.exists_mem_of_ne_nil jobs some
      exact ⟨(job, .start), List.mem_map.mpr ⟨job, inside, rfl⟩, rfl⟩
  have steady : Steady appID envID domain jobs (promotionRun w jobs schedule) :=
    (accepts.and ordered).invariant (fun c i orderly => Steady.step available distinct orderly) start
  rw [promotionPool_run] at finished ⊢
  have halted := (Flow.finished_coded (Flow.indexed_presents Point.presents) _).mp finished
  have ended : ∀ t ∈ (promotionRun w jobs schedule).2,
      ∃ held result, t.2 = .finish held (.done result) := by
    rintro ⟨job, point⟩ member
    have stopped : point.act job = none := Option.map_eq_none_iff.mp (halted _ member)
    have sound := steady.sound _ member
    cases point with
    | finish held rest =>
      cases rest with
      | done result => exact ⟨held, result, rfl⟩
      | step effect next => cases stopped
    | halt => exact sound.elim
    | _ => cases stopped
  obtain ⟨t, inside, waits⟩ | ⟨route, winner, isRoute, decided⟩ := steady.phase
  · obtain ⟨held, result, atEnd⟩ := ended t inside
    rw [atEnd] at waits
    cases waits
  · exact ⟨route, isRoute, decided.agreed steady.threads ended⟩

end Runs

section TwoRuns

def bothHealthy : World :=
  { projects := .single shopOfTeam
    apps := .single webApp
    builds := .single builtWeb
    deployments := ⟨[1, 2].map fun n =>
      { id := n, appID := 20, environmentID := 40, buildID := 30, createdAt := n.toNat,
        status := .healthy, platformDomain := "web-shop-team.example.org" }, by decide⟩ }

theorem bothHealthy_references : bothHealthy.References where
  deploymentBuild := by decide
  backendDeployment := by decide
  backendRoute := by decide
  targetServer := by decide
  targetDeployment := by decide
  uniqueBackend := by decide
  uniqueRoute := by decide

def twoRuns : List Promotion := [⟨1, 51, 61⟩, ⟨2, 52, 62⟩]

theorem twoRuns_ready :
    ∀ job ∈ twoRuns, Ready 20 40 "web-shop-team.example.org" bothHealthy job.deploymentID := by
  intro job member
  rcases List.mem_cons.mp member with rfl | member
  · exact ⟨_, _, rfl, rfl, rfl, rfl, by decide⟩
  · obtain rfl := List.mem_singleton.mp member
    exact ⟨_, _, rfl, rfl, rfl, rfl, by decide⟩

/-- Both runs list the route before either of them writes its backend. -/
def listedTogether : List Nat :=
  List.replicate 4 0 ++ List.replicate 4 1 ++ List.replicate 20 0 ++ List.replicate 20 1

def oneByOne : List Nat := List.replicate 14 0 ++ List.replicate 24 1

/-- No statement fails, and at the end both deployments are healthy with an active
backend of weight 100 on the route they share. -/
theorem both_serve_after_listing_together :
    promotionFlow.Along (fun _ _ => []) StoreAccepts (promotionStart bothHealthy twoRuns)
        listedTogether ∧
      ((promotionPool bothHealthy twoRuns).run Pool.noSpawn listedTogether).Finished ∧
      ∀ route ∈ ((promotionPool bothHealthy twoRuns).run Pool.noSpawn
          listedTogether).store.routes.rows,
        ¬ Agreed ((promotionPool bothHealthy twoRuns).run Pool.noSpawn listedTogether).store
          route.id (twoRuns.map Promotion.deploymentID) := by
  refine ⟨?_, ?_, ?_⟩
  · decide +kernel
  · decide +kernel
  · decide +kernel

theorem one_serves_one_by_one :
    ∃ route, IsRoute ((promotionPool bothHealthy twoRuns).run Pool.noSpawn oneByOne).store 20 40
        "web-shop-team.example.org" route ∧
      Agreed ((promotionPool bothHealthy twoRuns).run Pool.noSpawn oneByOne).store route.id
        (twoRuns.map Promotion.deploymentID) :=
  promotions_agree bothHealthy_references (by decide) (by decide) (by decide) twoRuns_ready
    (by decide) (by decide) (by decide)

end TwoRuns

end Nixway.Deploy
