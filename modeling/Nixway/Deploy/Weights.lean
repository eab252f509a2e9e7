/-
# Deploy.Weights -- the traffic split a user sets, and the one the agents get

`UpdateTrafficWeights` and `PromoteTrafficBackend` write weights to any backends of the
app's production route and then sync the route.  The sync leaves out a backend that is
draining, whose deployment is no longer healthy, or that no agent can be told about, and
it keeps one that the request did not mention: so an accepted split is the one that is
pushed exactly if none of this is the case (`Servable`).
-/
import Nixway.Deploy.Sync
import Nixway.Scale.Autoscale

namespace Nixway.Deploy

open Nixway.Theory Nixway.Store
open Nixway.Theory.Prog (query exec atomic forEach)

set_option autoImplicit false

/-! ## The service -/

structure TrafficWeight where
  backendID : UUID
  weight : Int32
deriving DecidableEq

structure TrafficView where
  route : Option TrafficRoute := none
  backends : List TrafficBackend := []
  events : List TrafficEvent := []
deriving DecidableEq

def getTraffic (appID : UUID) : Prog World (Except String TrafficView) := do
  let some app ← query fun w => w.getApp appID
    | return .error "get app"
  let envs ← query fun w => w.listEnvironmentsByProject app.projectID
  match Scale.productionEnvironment envs with
  | .error err => return .error err
  | .ok envID =>
    let some route ← query fun w => w.getTrafficRouteByAppEnvironment appID envID
      | return .ok {}
    let backends ← query fun w => w.listTrafficBackendsByRoute route.id
    let events ← query fun w => w.listTrafficEventsByRoute route.id 20
    return .ok { route := some route, backends := backends, events := events }

/-- Every weight is a percentage, and the sum, an `int32`, is a hundred. -/
def checkWeights (weights : List TrafficWeight) : Except String Unit :=
  if weights.any fun x => x.weight < 0 || 100 < x.weight then
    .error "traffic weights must be between 0 and 100"
  else if weights.foldl (fun total x => total + x.weight) 0 ≠ 100 then
    .error "traffic weights must total 100"
  else .ok ()

def writeWeights (routeID : UUID) : List TrafficWeight → Prog World (Except String Unit)
  | [] => return .ok ()
  | x :: rest => do
    let some _ ← atomic fun w =>
        w.updateTrafficBackendWeight x.backendID routeID x.weight.toInt
      | return .error "update backend weight: no rows in result set"
    writeWeights routeID rest

/-- The write and the sync, once the request is checked. -/
def applyWeights (appID : UUID) (route : TrafficRoute) (weights : List TrafficWeight)
    (actorType : String) : Prog World (Except String TrafficView) := do
  match ← writeWeights route.id weights with
  | .error err => return .error err
  | .ok () =>
    exec fun w => w.createTrafficEvent
      ⟨route.id, if actorType = "" then "user" else actorType, "weights_updated",
        "Updated traffic weights"⟩
    match ← syncTrafficRoute route.id with
    | .error err => return .error err
    | .ok () => getTraffic appID

def updateTrafficWeights (appID : UUID) (weights : List TrafficWeight) (actorType : String) :
    Prog World (Except String TrafficView) := do
  match ← getTraffic appID with
  | .error err => return .error err
  | .ok view =>
    match view.route with
    | none => return .error "no traffic route exists yet"
    | some route =>
      match checkWeights weights with
      | .error err => return .error err
      | .ok () => applyWeights appID route weights actorType

/-- Everything for one backend, nothing for the others. -/
def promoteWeights (backends : List TrafficBackend) (backendID : UUID) : List TrafficWeight :=
  backends.map fun backend => ⟨backend.id, if backend.id = backendID then 100 else 0⟩

def promoteTrafficBackend (appID backendID : UUID) : Prog World (Except String TrafficView) := do
  match ← getTraffic appID with
  | .error err => return .error err
  | .ok view =>
    match view.route with
    | none => return .error "no traffic route exists yet"
    | some _ => updateTrafficWeights appID (promoteWeights view.backends backendID) "user"

/-- A call of the service that sets the split of an app. -/
inductive TrafficCall where
  | update (weights : List TrafficWeight) (actorType : String)
  | promote (backendID : UUID)

def TrafficCall.prog (appID : UUID) : TrafficCall → Prog World (Except String TrafficView)
  | .update weights actorType => updateTrafficWeights appID weights actorType
  | .promote backendID => promoteTrafficBackend appID backendID

/-! ## What is read -/

def routeOf (w : World) (app : App) : Option TrafficRoute :=
  match Scale.productionEnvironment (w.listEnvironmentsByProject app.projectID) with
  | .error _ => none
  | .ok envID => w.getTrafficRouteByAppEnvironment app.id envID

def viewOf (w : World) (route : TrafficRoute) : TrafficView where
  route := some route
  backends := w.listTrafficBackendsByRoute route.id
  events := w.listTrafficEventsByRoute route.id 20

/-- What `getTraffic` answers. -/
def trafficAt (w : World) (appID : UUID) : Except String TrafficView :=
  match w.getApp appID with
  | none => .error "get app"
  | some app =>
    match Scale.productionEnvironment (w.listEnvironmentsByProject app.projectID) with
    | .error err => .error err
    | .ok envID =>
      match w.getTrafficRouteByAppEnvironment appID envID with
      | none => .ok {}
      | some route => .ok (viewOf w route)

theorem getTraffic_run (appID : UUID) (w : World) :
    (getTraffic appID).run w = (w, trafficAt w appID) := by
  unfold getTraffic trafficAt
  rw [Prog.run_query_bind]
  match w.getApp appID with
  | none => rfl
  | some app =>
    dsimp only
    rw [Prog.run_query_bind]
    match Scale.productionEnvironment (w.listEnvironmentsByProject app.projectID) with
    | .error err => rfl
    | .ok envID =>
      dsimp only
      rw [Prog.run_query_bind]
      match w.getTrafficRouteByAppEnvironment appID envID with
      | none => rfl
      | some route => rfl

/-- A view that has a route shows the app's route and its backends. -/
theorem trafficAt_eq_ok {appID : UUID} {w : World} {view : TrafficView} {route : TrafficRoute}
    (read : trafficAt w appID = .ok view) (routed : view.route = some route) :
    ∃ app, w.getApp appID = some app ∧ routeOf w app = some route ∧ view = viewOf w route := by
  unfold trafficAt at read
  split at read
  · cases read
  · next app found =>
    split at read
    · cases read
    · next envID production =>
      split at read
      · cases read
        cases routed
      · next route' here =>
        cases read
        cases routed
        have sameApp : app.id = appID := Table.key_of_find? found
        refine ⟨app, found, ?_, rfl⟩
        rw [routeOf, production, sameApp]
        exact here

/-! ## What is written -/

/-- The weight the request gives a backend; the last one, should it name it twice. -/
def given (backendID : UUID) : List TrafficWeight → Option Int32
  | [] => none
  | x :: rest => (given backendID rest).or (if x.backendID = backendID then some x.weight else none)

def reweigh (weights : List TrafficWeight) (b : TrafficBackend) : TrafficBackend :=
  { b with weight := ((given b.id weights).map Int32.toInt).getD b.weight }

theorem reweigh_cons (x : TrafficWeight) (rest : List TrafficWeight) (b : TrafficBackend) :
    reweigh (x :: rest) b =
      reweigh rest (if b.id = x.backendID then { b with weight := x.weight.toInt } else b) := by
  by_cases here : b.id = x.backendID
  · simp only [reweigh, given, here, if_true]
    cases given x.backendID rest with
    | none => rfl
    | some weight => rfl
  · have other : ¬ x.backendID = b.id := fun same => here same.symm
    simp only [reweigh, given, here, other, if_false, Option.or_none]

theorem updateTrafficBackendWeight_cases (w : World) (id routeID : UUID) (weight : Int) :
    w.updateTrafficBackendWeight id routeID weight = (w, none) ∨
      ∃ b, w.updateTrafficBackendWeight id routeID weight =
        ({ w with backends := w.backends.update id fun b => { b with weight := weight } },
          some b) := by
  unfold World.updateTrafficBackendWeight
  split
  · split
    · exact .inr ⟨_, rfl⟩
    · exact .inl rfl
  · exact .inl rfl

theorem mem_setWeight {t : Table TrafficBackend} {id : UUID} {weight : Int} {r : TrafficBackend} :
    r ∈ (t.update id fun b => { b with weight := weight }) ↔
      ∃ b ∈ t, (if b.id = id then { b with weight := weight } else b) = r :=
  Table.mem_update _

theorem writeWeights_spec {routeID : UUID} {weights : List TrafficWeight} {w : World}
    (written : ((writeWeights routeID weights).run w).2 = .ok ()) :
    ∃ backends : Table TrafficBackend,
      ((writeWeights routeID weights).run w).1 = { w with backends := backends } ∧
        ∀ r, r ∈ backends ↔ ∃ b ∈ w.backends, r = reweigh weights b := by
  induction weights generalizing w with
  | nil =>
    refine ⟨w.backends, rfl, fun r => ?_⟩
    simp [reweigh, given]
  | cons x rest ih =>
    unfold writeWeights at written ⊢
    rw [Prog.run_atomic_bind] at written ⊢
    obtain failed | ⟨b, updated⟩ :=
      updateTrafficBackendWeight_cases w x.backendID routeID x.weight.toInt
    · rw [failed] at written
      cases written
    · rw [updated] at written ⊢
      obtain ⟨backends, out, rows⟩ := ih written
      refine ⟨backends, out, fun r => ?_⟩
      rw [rows]
      constructor
      · rintro ⟨b', member, rfl⟩
        obtain ⟨b, old, rfl⟩ := mem_setWeight.mp member
        exact ⟨b, old, (reweigh_cons x rest b).symm⟩
      · rintro ⟨b, old, rfl⟩
        exact ⟨_, mem_setWeight.mpr ⟨b, old, rfl⟩, reweigh_cons x rest b⟩

/-! ## What an accepted call does -/

/-- The weights the call gives. -/
def TrafficCall.weights (w : World) (route : TrafficRoute) : TrafficCall → List TrafficWeight
  | .update weights _ => weights
  | .promote backendID => promoteWeights (w.listTrafficBackendsByRoute route.id) backendID

/-- An accepted call writes its weights and sends what a sync of the new rows sends. -/
structure Applied (w w' : World) (app : App) (route : TrafficRoute) (project : Project)
    (weights : List TrafficWeight) : Prop where
  routed : routeOf w app = some route
  ofProject : w.getProject app.projectID = some project
  sent : ∃ v : World, w'.sent = w.sent ++ syncMessages v route app project ∧
    (∀ r, r ∈ v.backends ↔ ∃ b ∈ w.backends, r = reweigh weights b) ∧
      ∃ backends events, v = { w with backends := backends, events := events }

theorem route_appID {w : World} {app : App} {route : TrafficRoute}
    (routed : routeOf w app = some route) :
    route.appID = app.id ∧ w.getTrafficRoute route.id = some route := by
  unfold routeOf at routed
  split at routed
  · cases routed
  · have member := List.mem_of_head? routed
    rw [List.mem_insertionSort, List.mem_filter] at member
    obtain ⟨stored, filtered⟩ := member
    simp only [Bool.and_eq_true, decide_eq_true_eq] at filtered
    exact ⟨filtered.1, Table.find?_self stored⟩

theorem applyWeights_spec {w : World} {app : App} {route : TrafficRoute}
    {weights : List TrafficWeight} {actorType : String} {view : TrafficView}
    (ofApp : w.getApp app.id = some app) (routed : routeOf w app = some route)
    (accepted : ((applyWeights app.id route weights actorType).run w).2 = .ok view) :
    ∃ project, Applied w ((applyWeights app.id route weights actorType).run w).1 app route project
      weights := by
  obtain ⟨sameApp, sameRoute⟩ := route_appID routed
  unfold applyWeights at accepted ⊢
  rw [Prog.run_bind] at accepted ⊢
  match written : ((writeWeights route.id weights).run w).2 with
  | .error err =>
    rw [written] at accepted
    cases accepted
  | .ok () =>
    obtain ⟨backends, out, rows⟩ := writeWeights_spec written
    rw [written] at accepted
    rw [out] at accepted ⊢
    dsimp only at accepted ⊢
    rw [Prog.run_exec_bind, Prog.run_bind] at accepted ⊢
    generalize known : World.createTrafficEvent { w with backends := backends } _ = v
      at accepted ⊢
    obtain ⟨events, rfl⟩ : ∃ events, v = { w with backends := backends, events := events } :=
      ⟨_, known.symm⟩
    match synced : ((syncTrafficRoute route.id).run
        { w with backends := backends, events := events }).2 with
    | .error err =>
      rw [synced] at accepted
      cases accepted
    | .ok () =>
      obtain ⟨route', app', project, routed', ofApp', ofProject⟩ := syncTrafficRoute_eq_ok synced
      obtain rfl : route = route' := Option.some.inj (sameRoute.symm.trans routed')
      obtain rfl : app = app' := by
        rw [sameApp] at ofApp'
        exact Option.some.inj (ofApp.symm.trans ofApp')
      refine ⟨project, routed, ofProject, _, ?_, rows, backends, events, rfl⟩
      rw [syncTrafficRoute_run routed' ofApp' ofProject]
      dsimp only
      rw [getTraffic_run]

theorem update_applied {w : World} {appID : UUID} {weights : List TrafficWeight}
    {actorType : String} {view : TrafficView}
    (accepted : ((updateTrafficWeights appID weights actorType).run w).2 = .ok view) :
    ∃ app route project, w.getApp appID = some app ∧
      Applied w ((updateTrafficWeights appID weights actorType).run w).1 app route project
        weights := by
  unfold updateTrafficWeights at accepted ⊢
  rw [Prog.run_bind, getTraffic_run] at accepted ⊢
  match read : trafficAt w appID with
  | .error err =>
    rw [read] at accepted
    cases accepted
  | .ok current =>
    rw [read] at accepted
    dsimp only at accepted ⊢
    match routed : current.route with
    | none =>
      rw [routed] at accepted
      cases accepted
    | some route =>
      rw [routed] at accepted
      dsimp only at accepted ⊢
      match checked : checkWeights weights with
      | .error err =>
        rw [checked] at accepted
        cases accepted
      | .ok () =>
        rw [checked] at accepted
        obtain ⟨app, found, ofApp, -⟩ := trafficAt_eq_ok read routed
        obtain rfl : app.id = appID := Table.key_of_find? found
        obtain ⟨project, applied⟩ := applyWeights_spec found ofApp accepted
        exact ⟨app, route, project, found, applied⟩

/-- **What an accepted call does.** -/
theorem accepted_applied {w : World} {appID : UUID} {call : TrafficCall} {view : TrafficView}
    (accepted : ((call.prog appID).run w).2 = .ok view) :
    ∃ app route project, w.getApp appID = some app ∧
      Applied w ((call.prog appID).run w).1 app route project (call.weights w route) := by
  cases call with
  | update weights actorType => exact update_applied accepted
  | promote backendID =>
    simp only [TrafficCall.prog, promoteTrafficBackend] at accepted ⊢
    rw [Prog.run_bind, getTraffic_run] at accepted ⊢
    match read : trafficAt w appID with
    | .error err =>
      rw [read] at accepted
      cases accepted
    | .ok current =>
      rw [read] at accepted
      dsimp only at accepted ⊢
      match routed : current.route with
      | none =>
        rw [routed] at accepted
        cases accepted
      | some route =>
        rw [routed] at accepted
        dsimp only at accepted ⊢
        obtain ⟨app, found, ofApp, rfl⟩ := trafficAt_eq_ok read routed
        obtain ⟨app', route', project, found', applied⟩ := update_applied accepted
        obtain rfl : app = app' := Option.some.inj (found.symm.trans found')
        obtain rfl : route = route' := Option.some.inj (ofApp.symm.trans applied.routed)
        exact ⟨app, route, project, found, applied⟩

/-! ## When the split is the one pushed -/

def onRoute (w : World) (route : TrafficRoute) (b : TrafficBackend) : Prop :=
  b ∈ w.backends ∧ b.routeID = route.id

/-- **The split is pushed**: the groups sent are exactly the backends given a positive
weight, each with that weight. -/
def Pushes (w : World) (sent : List (String × ControlMessage)) (app : App) (route : TrafficRoute)
    (weights : List TrafficWeight) : Prop :=
  ∀ pair, pair ∈ pushed sent ↔
    ∃ b, onRoute w route b ∧ ∃ weight ∈ given b.id weights, 0 < weight ∧
      pair = (trafficServiceName app.slug b.label b.deploymentID, weight.toInt)

/-- The sync takes up the backend, should its weight be positive. -/
def Open (w : World) (project : Project) (b : TrafficBackend) : Prop :=
  b.status = .active ∧ ((w.deployments.find? b.deploymentID).any fun d => d.status = .healthy) ∧
    Reaches w project b

/-- Every backend given a positive weight is active, with a healthy deployment an agent
can be told about; and no backend that the request leaves out is served. -/
def Servable (w : World) (route : TrafficRoute) (project : Project)
    (weights : List TrafficWeight) : Prop :=
  ∀ b, onRoute w route b →
    (∀ weight ∈ given b.id weights, 0 < weight → Open w project b) ∧
      (given b.id weights = none → 0 < b.weight → ¬ Open w project b)

section Split

variable {w w' : World} {app : App} {route : TrafficRoute} {project : Project}
  {weights : List TrafficWeight}

theorem Applied.mem_pushed (applied : Applied w w' app route project weights)
    {pair : String × Int} :
    pair ∈ pushed (w'.sent.drop w.sent.length) ↔
      ∃ b, onRoute w route b ∧ Open w project b ∧ 0 < (reweigh weights b).weight ∧
        pair = groupOf app (reweigh weights b) := by
  obtain ⟨v, sent, rows, backends, events, rfl⟩ := applied.sent
  rw [sent, List.drop_left, mem_pushed_iff]
  simp only [World.listTrafficBackendsForSync, List.mem_insertionSort, List.mem_filter,
    World.syncs, Bool.and_eq_true, decide_eq_true_eq]
  constructor
  · rintro ⟨r, ⟨member, here, ⟨active, positive⟩, healthy⟩, reaches, rfl⟩
    obtain ⟨b, old, rfl⟩ := (rows r).mp member
    exact ⟨b, ⟨old, here⟩, ⟨active, healthy, reaches⟩, positive, rfl⟩
  · rintro ⟨b, ⟨old, here⟩, ⟨active, healthy, reaches⟩, positive, rfl⟩
    exact ⟨reweigh weights b, ⟨(rows _).mpr ⟨b, old, rfl⟩, here, ⟨active, positive⟩, healthy⟩,
      reaches, rfl⟩

theorem pos_toInt {weight : Int32} : 0 < weight ↔ 0 < weight.toInt := by
  rw [Int32.lt_iff_toInt_lt]
  rfl

theorem reweigh_given {b : TrafficBackend} {weight : Int32}
    (here : given b.id weights = some weight) : (reweigh weights b).weight = weight.toInt := by
  simp [reweigh, here]

theorem reweigh_unmentioned {b : TrafficBackend} (here : given b.id weights = none) :
    (reweigh weights b).weight = b.weight := by
  simp [reweigh, here]

theorem Applied.pushes (applied : Applied w w' app route project weights)
    (servable : Servable w route project weights) :
    Pushes w (w'.sent.drop w.sent.length) app route weights := by
  intro pair
  rw [applied.mem_pushed]
  constructor
  · rintro ⟨b, here, opened, positive, rfl⟩
    match mentioned : given b.id weights with
    | none =>
      rw [reweigh_unmentioned mentioned] at positive
      exact absurd opened ((servable b here).2 mentioned positive)
    | some weight =>
      rw [reweigh_given mentioned] at positive
      refine ⟨b, here, weight, mentioned, pos_toInt.mpr positive, ?_⟩
      rw [groupOf, reweigh_given mentioned]
      rfl
  · rintro ⟨b, here, weight, mentioned, positive, rfl⟩
    refine ⟨b, here, (servable b here).1 weight mentioned positive, ?_, ?_⟩
    · rw [reweigh_given mentioned]
      exact pos_toInt.mp positive
    · rw [groupOf, reweigh_given mentioned]
      rfl

/-- The names under which the route's backends are pushed tell them apart. -/
def NamesDiffer (w : World) (app : App) (route : TrafficRoute) : Prop :=
  ∀ b b', onRoute w route b → onRoute w route b' →
    trafficServiceName app.slug b.label b.deploymentID =
      trafficServiceName app.slug b'.label b'.deploymentID → b = b'

theorem Applied.servable (applied : Applied w w' app route project weights)
    (differ : NamesDiffer w app route)
    (pushes : Pushes w (w'.sent.drop w.sent.length) app route weights) :
    Servable w route project weights := by
  intro b here
  constructor
  · intro weight mentioned positive
    obtain ⟨b', here', opened, -, same⟩ := applied.mem_pushed.mp
      ((pushes _).mpr ⟨b, here, weight, mentioned, positive, rfl⟩)
    obtain rfl := differ b b' here here' (congrArg Prod.fst same)
    exact opened
  · intro unmentioned positive opened
    have sent := applied.mem_pushed.mpr
      ⟨b, here, opened, by rwa [reweigh_unmentioned unmentioned], rfl⟩
    obtain ⟨b', here', weight, mentioned, -, same⟩ := (pushes _).mp sent
    obtain rfl := differ b b' here here' (congrArg Prod.fst same)
    rw [unmentioned] at mentioned
    cases mentioned

end Split

/-- **When an accepted split is the one pushed.**  For every call of
`UpdateTrafficWeights` or `PromoteTrafficBackend` that returns no error: if every
backend given a positive weight is active, with a healthy deployment that an agent can be
told about, and no other backend of the route is served, then the groups sent are exactly
the backends given a positive weight; and where the names of the backends differ, only
then. -/
theorem split_pushed_iff (w : World) (appID : UUID) (call : TrafficCall) (view : TrafficView)
    (accepted : ((call.prog appID).run w).2 = .ok view) :
    ∃ app route project, w.getApp appID = some app ∧ routeOf w app = some route ∧
      w.getProject app.projectID = some project ∧
      (Servable w route project (call.weights w route) →
        Pushes w (((call.prog appID).run w).1.sent.drop w.sent.length) app route
          (call.weights w route)) ∧
      (NamesDiffer w app route →
        Pushes w (((call.prog appID).run w).1.sent.drop w.sent.length) app route
          (call.weights w route) → Servable w route project (call.weights w route)) := by
  obtain ⟨app, route, project, found, applied⟩ := accepted_applied accepted
  exact ⟨app, route, project, found, applied.routed, applied.ofProject, applied.pushes,
    applied.servable⟩

section AfterPromotion

/-- Deployment 2 has taken over from deployment 1, whose replica still runs. -/
def afterPromotion : World :=
  { projects := .single shopOfTeam
    apps := .single webApp
    builds := .single builtWeb
    environments := ⟨[⟨40, 10, "production", "production", true⟩], by decide⟩
    servers := ⟨[{ id := 71, teamID := 11, agentID := some "agent-a" }], by decide⟩
    agents := .single { agentID := "agent-a" }
    deployments := ⟨[(1, .superseded), (2, .healthy)].map fun n =>
      { id := n.1, appID := 20, environmentID := 40, buildID := 30, status := n.2 }, by decide⟩
    targets := ⟨[(81, 1), (82, 2)].map fun n =>
      { id := n.1, deploymentID := n.2, serverID := 71, status := .healthy }, by decide⟩
    routes := ⟨[⟨50, 20, 40, "web.example.com", 0⟩], by decide⟩
    backends := ⟨[(61, 1, "v1", 0, .draining), (62, 2, "v2", 100, .active)].map fun n =>
      { id := n.1, routeID := 50, deploymentID := n.2.1, label := n.2.2.1,
        weight := n.2.2.2.1, status := n.2.2.2.2 }, by decide⟩ }

def afterPromotionApp : App := { id := 20, projectID := 10, name := "web", slug := "web" }

def afterPromotionRoute : TrafficRoute := ⟨50, 20, 40, "web.example.com", 0⟩

def afterPromotionProject : Project := ⟨10, 11, 12, "shop", "shop"⟩

theorem afterPromotion_app : afterPromotion.getApp 20 = some afterPromotionApp := by decide +kernel

theorem afterPromotion_route :
    routeOf afterPromotion afterPromotionApp = some afterPromotionRoute := by decide +kernel

def promotionOf (backendID : UUID) : List TrafficWeight :=
  [⟨61, if backendID = 61 then 100 else 0⟩, ⟨62, if backendID = 62 then 100 else 0⟩]

theorem servable_promote_serving :
    Servable afterPromotion afterPromotionRoute afterPromotionProject (promotionOf 62) := by
  have rows : ∀ b ∈ afterPromotion.backends.rows,
      ((given b.id (promotionOf 62)).all fun weight => decide (0 < weight →
        b.status = .active ∧
          ((afterPromotion.deployments.find? b.deploymentID).any fun d => d.status = .healthy) ∧
          Reaches afterPromotion afterPromotionProject b)) ∧
        given b.id (promotionOf 62) ≠ none := by
    decide +kernel
  intro b here
  obtain ⟨opened, mentioned⟩ := rows b here.1
  refine ⟨fun weight here => ?_, fun unmentioned => absurd unmentioned mentioned⟩
  rw [show given b.id (promotionOf 62) = some weight from here] at opened
  exact of_decide_eq_true (p := 0 < weight → b.status = .active ∧ _) opened

def promotedTo (backendID : UUID) : World :=
  (((TrafficCall.promote backendID).prog 20).run afterPromotion).1

theorem split_pushed_serving_backend :
    Servable afterPromotion afterPromotionRoute afterPromotionProject (promotionOf 62) ∧
      Pushes afterPromotion (promotedTo 62).sent afterPromotionApp afterPromotionRoute
        (promotionOf 62) := by
  have accepted : (((TrafficCall.promote 62).prog 20).run afterPromotion).2 =
      .ok (viewOf (promotedTo 62) afterPromotionRoute) := by
    decide +kernel
  obtain ⟨app, route, project, found, routed, ofProject, pushes, -⟩ :=
    split_pushed_iff afterPromotion 20 (.promote 62) _ accepted
  obtain rfl : afterPromotionApp = app := Option.some.inj (afterPromotion_app.symm.trans found)
  obtain rfl : afterPromotionRoute = route := Option.some.inj (afterPromotion_route.symm.trans routed)
  obtain rfl : afterPromotionProject = project := by
    have same : afterPromotion.getProject 10 = some afterPromotionProject := by decide +kernel
    exact Option.some.inj (same.symm.trans ofProject)
  have weights : (TrafficCall.promote 62).weights afterPromotion afterPromotionRoute =
      promotionOf 62 := by
    decide +kernel
  rw [weights] at pushes
  exact ⟨servable_promote_serving, pushes servable_promote_serving⟩

/-- A listed backend is promoted without error, and no agent is told anything: the
backend is still draining, and the one that served has lost its weight. -/
theorem promoted_backend_not_pushed :
    (((TrafficCall.promote 61).prog 20).run afterPromotion).2 =
        .ok (viewOf (promotedTo 61) afterPromotionRoute) ∧
      (promotedTo 61).sent = [] ∧
      ¬ Pushes afterPromotion (promotedTo 61).sent afterPromotionApp afterPromotionRoute
        (promotionOf 61) := by
  have silent : (promotedTo 61).sent = [] := by decide +kernel
  refine ⟨by decide +kernel, silent, fun pushes => ?_⟩
  have demoted : onRoute afterPromotion afterPromotionRoute
      { id := 61, routeID := 50, deploymentID := 1, label := "v1", status := .draining } := by
    refine ⟨?_, rfl⟩
    show _ ∈ afterPromotion.backends.rows
    decide +kernel
  have listed := (pushes _).mpr ⟨_, demoted, 100, by decide +kernel, by decide, rfl⟩
  rw [silent] at listed
  cases listed

end AfterPromotion

end Nixway.Deploy
