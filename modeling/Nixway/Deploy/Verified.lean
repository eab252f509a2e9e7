/-
# Deploy.Verified -- custom domains are routed only when verified

The deploys, promotions and syncs of the app are safe beside careful handlers: every
string they put into a Host rule is a platform domain, a domain of a route or of the row,
or a custom domain that was verified when they read it and that was not changed to since.
Hence in every run whose steps are careful, custom domains reach an agent only verified
(`routed_only_verified`).
-/
import Nixway.Deploy.Routed

namespace Nixway.Deploy

open Nixway.Theory Nixway.Store
open Nixway.Theory.Prog (query exec atomic forEach ignore)

set_option autoImplicit false

namespace AppScope

variable {k : AppScope} {there : Option String} {mark : Nat}

/-! ## What a request knows -/

/-- The rows are sound, and the request holds the domain of the app, whatever it is now. -/
structure Aware (k : AppScope) (there : Option String) (mark : Nat) (w : World) : Prop where
  sound : k.Sound w
  arrived : mark ≤ w.domainLog.length
  holds : ∀ domain, customDomain w k.appID = some domain →
    (Hold.since there mark).Has k.appID w domain

/-- The request has read this row of the app. -/
structure Holding (k : AppScope) (there : Option String) (mark : Nat) (app : App) (w : World) :
    Prop where
  own : app.id = k.appID
  slug : app.slug = k.slug
  holds : ∀ domain, app.customDomain = some domain → (Hold.since there mark).Has k.appID w domain
  cleared : ∀ domain, app.customDomain = some domain → app.domainVerified →
    Cleared k.appID w.domainLog domain
  extra : ∃ app', w.getApp k.appID = some app' ∧ app'.domains = app.domains

section Knowledge

variable {s t : World} {app : App}

theorem Aware.rely (aware : k.Aware there mark s) (moved : k.Rely (.since there mark) s t) :
    k.Aware there mark t := by
  obtain ⟨events, log, custom, -⟩ := moved.log
  refine ⟨moved.sound aware.sound, ?_, ?_⟩
  · rw [log, List.length_append]
    exact Nat.le_add_right_of_le aware.arrived
  · intro domain here
    rcases custom domain here with before | new
    · exact Hold.has_append (aware.holds domain before) log
    · refine .inr ?_
      rw [log, List.drop_append_of_le_length aware.arrived]
      exact List.mem_append_right _ new

theorem Aware.holding (aware : k.Aware there mark s) (found : s.getApp k.appID = some app) :
    k.Holding there mark app s where
  own := Table.key_of_find? found
  slug := aware.sound.slug app found
  holds := by
    intro domain custom
    refine aware.holds domain ?_
    rw [customDomain, found, Option.bind_some, custom]
  cleared := aware.sound.row app found
  extra := ⟨app, found, rfl⟩

theorem Holding.rely (holding : k.Holding there mark app s)
    (moved : k.Rely (.since there mark) s t) : k.Holding there mark app t := by
  obtain ⟨events, log, -, spared⟩ := moved.log
  refine ⟨holding.own, holding.slug, ?_, ?_, ?_⟩
  · intro domain custom
    exact Hold.has_append (holding.holds domain custom) log
  · intro domain custom raised
    rw [log]
    exact (holding.cleared domain custom raised).append
      (spared domain (holding.holds domain custom))
  · obtain ⟨app', found, same⟩ := holding.extra
    obtain ⟨app'', found', same'⟩ := moved.stays app' found
    exact ⟨app'', found', same'.trans same⟩

theorem Holding.cleared_extra (holding : k.Holding there mark app s) (sound : k.Sound s)
    {domain : String} (member : domain ∈ app.domains) :
    Cleared k.appID s.domainLog domain := by
  obtain ⟨app', found, same⟩ := holding.extra
  exact sound.extra app' found domain (same ▸ member)

end Knowledge

/-! ## Routing under interference -/

section Routing

variable {α β : Type} {hold : Hold} {I : World → Prop} {Q : β → World → Prop} {s : World}

theorem safe_query (stable : ∀ s t, I s → k.Rely hold s t → I t) {g : World → α}
    {f : α → Prog World β} (start : I s)
    (rest : ∀ t, I t → (f (g t)).Safe (k.Rely hold) k.Routing Q t) :
    (query g >>= f).Safe (k.Rely hold) k.Routing Q s :=
  Prog.Safe.bind_query (fun t => .refl t) fun t moved => rest t (stable s t start moved)

theorem safe_atomic (stable : ∀ s t, I s → k.Rely hold s t → I t) {g : World → World × α}
    {f : α → Prog World β} (start : I s) (acts : ∀ t, I t → k.Routing t (g t).1)
    (rest : ∀ t, I t → I (g t).1 → (f (g t).2).Safe (k.Rely hold) k.Routing Q (g t).1) :
    (atomic g >>= f).Safe (k.Rely hold) k.Routing Q s := by
  refine Prog.Safe.bind_atomic (fun t moved => acts t (stable s t start moved)) fun t moved => ?_
  have here := stable s t start moved
  exact rest t here (stable t _ here (.of_routing (acts t here)))

theorem safe_exec (stable : ∀ s t, I s → k.Rely hold s t → I t) {g : World → World}
    {f : PUnit → Prog World β} (start : I s) (acts : ∀ t, I t → k.Routing t (g t))
    (rest : ∀ t, I t → (f ⟨⟩).Safe (k.Rely hold) k.Routing Q t) :
    (exec g >>= f).Safe (k.Rely hold) k.Routing Q s := by
  refine Prog.Safe.bind_exec (fun t moved => acts t (stable s t start moved)) fun t moved => ?_
  have here := stable s t start moved
  exact rest _ (stable t _ here (.of_routing (acts t here)))

theorem safe_every (stable : ∀ s t, I s → k.Rely hold s t → I t) {p : Prog World β} (start : I s)
    (every : p.Every fun effect => ∀ t, I t → k.Routing t (effect t)) :
    p.Safe (k.Rely hold) k.Routing (fun _ => I) s :=
  Prog.Safe.of_known stable (fun t _ here routing => stable t _ here (.of_routing routing)) every
    start

end Routing

/-! ## Syncs -/

section Sync

variable {s : World}

/-- The Host values of a sync are cleared. -/
theorem cleared_trafficDomains {app : App} {route : TrafficRoute} {w : World}
    (sound : k.Sound w) (holding : k.Holding there mark app w) (here : route ∈ w.routes)
    (own : route.appID = k.appID) {domain : String} (member : domain ∈ trafficDomains app route) :
    Cleared k.appID w.domainLog domain := by
  obtain ⟨-, rfl | ⟨raised, custom⟩ | listed⟩ := mem_trafficDomains_iff.mp member
  · exact sound.routes route here own
  · exact holding.cleared domain custom raised
  · exact holding.cleared_extra sound listed

theorem pushRoute_safe {app : App} {route : TrafficRoute} (project : Project)
    (aware : k.Aware there mark s) (holding : k.Holding there mark app s) (here : route ∈ s.routes)
    (own : route.appID = k.appID) :
    (pushRoute route app project).Safe (k.Rely (.since there mark)) k.Routing
      (fun _ => k.Aware there mark) s := by
  refine Prog.Safe.weaken (fun _ _ step => step) (fun _ _ known => known.1)
    (safe_every (I := fun w => k.Aware there mark w ∧ k.Holding there mark app w ∧
      route ∈ w.routes) ?_ ⟨aware, holding, here⟩ ?_)
  · rintro s t ⟨aware, holding, here⟩ moved
    exact ⟨aware.rely moved, holding.rely moved, moved.routes route here⟩
  · refine pushRoute_every (fun t _ => .refl t) route app project fun agentID groups t known => ?_
    obtain ⟨aware, holding, here⟩ := known
    refine .send t agentID _ fun domain member => ?_
    exact cleared_trafficDomains aware.sound holding here own member

theorem sync_safe {routeID : UUID} (aware : k.Aware there mark s) (owns : k.OwnsRoute s routeID) :
    (syncTrafficRoute routeID).Safe (k.Rely (.since there mark)) k.Routing
      (fun _ => k.Aware there mark) s := by
  unfold syncTrafficRoute
  refine safe_query (I := fun w => k.Aware there mark w ∧ k.OwnsRoute w routeID) ?_ ⟨aware, owns⟩ ?_
  · rintro s t ⟨aware, owns⟩ moved
    exact ⟨aware.rely moved, moved.ownsRoute routeID owns⟩
  rintro t ⟨aware, owns⟩
  match found : t.getTrafficRoute routeID with
  | none => exact fun u moved => aware.rely moved
  | some route =>
    have here : route ∈ t.routes := Table.mem_of_find? found
    have own : route.appID = k.appID := owns route here (Table.key_of_find? found)
    refine safe_query (I := fun w => k.Aware there mark w ∧ route ∈ w.routes) ?_ ⟨aware, here⟩ ?_
    · rintro s t ⟨aware, here⟩ moved
      exact ⟨aware.rely moved, moved.routes route here⟩
    rintro u ⟨aware, here⟩
    rw [own]
    match found : u.getApp k.appID with
    | none => exact fun v moved => aware.rely moved
    | some app =>
      refine safe_query (I := fun w => k.Aware there mark w ∧ k.Holding there mark app w ∧
        route ∈ w.routes) ?_ ⟨aware, aware.holding found, here⟩ ?_
      · rintro s t ⟨aware, holding, here⟩ moved
        exact ⟨aware.rely moved, holding.rely moved, moved.routes route here⟩
      rintro v ⟨aware, holding, here⟩
      match v.getProject app.projectID with
      | none => exact fun x moved => aware.rely moved
      | some project => exact pushRoute_safe project aware holding here own

end Sync

/-! ## Promotions -/

section Promotion

variable {s : World}

theorem routing_backends (s : World) (backends : Table TrafficBackend) :
    k.Routing s { s with backends := backends } :=
  .of_frame rfl rfl rfl rfl rfl (.of_eq rfl)

theorem routing_weight (s : World) (id routeID : UUID) (weight : Int) :
    k.Routing s (s.updateTrafficBackendWeight id routeID weight).1 := by
  obtain same | ⟨b, updated⟩ := updateTrafficBackendWeight_cases s id routeID weight
  · rw [same]
    exact .refl s
  · rw [updated]
    exact routing_backends s _

theorem routing_status (s : World) (id routeID : UUID) (status : BackendStatus) :
    k.Routing s (s.setTrafficBackendStatus id routeID status).1 := by
  unfold World.setTrafficBackendStatus
  split
  · exact routing_backends s _
  · exact .refl s

theorem routing_upsert (s : World) (id routeID deploymentID : UUID) (label : String)
    (weight : Int) (status : BackendStatus) :
    k.Routing s (s.upsertTrafficBackend id routeID deploymentID label weight status).1 := by
  unfold World.upsertTrafficBackend
  split
  · exact routing_backends s _
  · split
    · exact .refl s
    · dsimp only
      split
      · exact routing_backends s _
      · exact .refl s

theorem routing_event (s : World) (event : TrafficEvent) :
    k.Routing s (s.createTrafficEvent event) :=
  .of_frame rfl rfl rfl rfl rfl (.of_eq rfl)

/-- The request is aware, and the route is the app's. -/
def OnRoute (k : AppScope) (there : Option String) (mark : Nat) (routeID : UUID) (w : World) :
    Prop :=
  k.Aware there mark w ∧ k.OwnsRoute w routeID

theorem OnRoute.stable {routeID : UUID} (s t : World) (known : k.OnRoute there mark routeID s)
    (moved : k.Rely (.since there mark) s t) : k.OnRoute there mark routeID t :=
  ⟨known.1.rely moved, moved.ownsRoute routeID known.2⟩

theorem announce_safe (deployment : Deployment) (route : TrafficRoute) (label : String)
    (demoted : Nat) (known : k.OnRoute there mark route.id s) :
    (announce deployment route label demoted).Safe (k.Rely (.since there mark)) k.Routing
      (fun _ => k.Aware there mark) s := by
  refine safe_exec OnRoute.stable known (fun t _ => routing_event t _) ?_
  rintro t ⟨aware, owns⟩
  refine Prog.Safe.bind Rely.refl (sync_safe aware owns) fun answer u aware => ?_
  cases answer with
  | error err => exact fun v moved => aware.rely moved
  | ok _ =>
    dsimp only
    split
    · refine safe_exec (fun s t => Aware.rely) aware (fun v _ => .start v _ trivial) ?_
      intro v aware
      refine safe_exec (fun s t => Aware.rely) aware (fun v _ => .start v _ trivial) ?_
      exact fun x aware y moved => aware.rely moved
    · exact fun v moved => aware.rely moved

theorem demote_safe (deployment : Deployment) (route : TrafficRoute) (label : String)
    (listed : List TrafficBackend) (demoted : Nat) (known : k.OnRoute there mark route.id s) :
    (demote deployment route label listed demoted).Safe (k.Rely (.since there mark)) k.Routing
      (fun _ => k.Aware there mark) s := by
  induction listed generalizing demoted s with
  | nil => exact announce_safe deployment route label demoted known
  | cons prev rest ih =>
    rw [demote]
    split
    · exact ih demoted known
    · refine safe_atomic OnRoute.stable known (fun t _ => routing_weight t _ _ _) ?_
      intro t _ known
      cases (t.updateTrafficBackendWeight prev.id route.id 0).2 with
      | none => exact ih demoted known
      | some row =>
        refine safe_atomic OnRoute.stable known (fun u _ => routing_status u _ _ _) ?_
        intro u _ known
        refine safe_exec OnRoute.stable known
          (fun v _ => .updateDeployment v _ _ _ fun _ => ⟨rfl, rfl⟩) ?_
        exact fun v known => ih (demoted + 1) known

theorem publishBackend_safe (deployment : Deployment) (route : TrafficRoute) (backendID : UUID)
    (existing : List TrafficBackend) (label : String) (known : k.OnRoute there mark route.id s) :
    (publishBackend deployment route backendID existing label).Safe (k.Rely (.since there mark))
      k.Routing (fun _ => k.Aware there mark) s := by
  refine safe_atomic OnRoute.stable known (fun t _ => routing_upsert t _ _ _ _ _ _) ?_
  intro t _ known
  split
  · refine safe_atomic OnRoute.stable known (fun u _ => routing_weight u _ _ _) ?_
    intro u _ known
    split
    · exact demote_safe deployment route label existing 0 known
    · exact fun v moved => known.1.rely moved
  · exact fun u moved => known.1.rely moved

theorem promoteOnto_safe (deployment : Deployment) (route : TrafficRoute) (backendID : UUID)
    (known : k.OnRoute there mark route.id s) :
    (promoteOnto deployment route backendID).Safe (k.Rely (.since there mark)) k.Routing
      (fun _ => k.Aware there mark) s := by
  refine safe_query OnRoute.stable known fun t known => ?_
  split
  · refine safe_query OnRoute.stable known fun u known => ?_
    exact publishBackend_safe deployment route backendID _ _ known
  · exact publishBackend_safe deployment route backendID _ _ known

theorem cleared_trafficDomain {app : App} {deployment : Deployment} {w : World}
    (sound : k.Sound w) (holding : k.Holding there mark app w)
    (platform : deployment.platformDomain = "" ∨ k.reserved deployment.platformDomain)
    (nonempty : trafficDomain app deployment ≠ "") :
    Cleared k.appID w.domainLog (trafficDomain app deployment) := by
  have fallback : trafficDomain.fallback app deployment ≠ "" →
      Cleared k.appID w.domainLog (trafficDomain.fallback app deployment) := by
    unfold trafficDomain.fallback
    split
    · next named =>
      intro _
      exact sound.cleared_of_reserved (platform.resolve_left named)
    · split
      · next first rest listed =>
        split
        · intro _
          refine holding.cleared_extra sound ?_
          rw [listed]
          exact List.mem_cons_self
        · intro blank
          exact absurd rfl blank
      · intro blank
        exact absurd rfl blank
  unfold trafficDomain at nonempty ⊢
  split at nonempty
  · next domain custom =>
    by_cases usable : domain ≠ "" ∧ app.domainVerified
    · rw [if_pos usable]
      exact holding.cleared domain custom usable.2
    · rw [if_neg usable] at nonempty ⊢
      exact fallback nonempty
  · exact fallback nonempty

theorem promotion_safe {deploymentID routeID backendID : UUID} (aware : k.Aware there mark s)
    (owns : k.OwnsDeployment s deploymentID) :
    (ensureTrafficForDeployment deploymentID routeID backendID).Safe (k.Rely (.since there mark))
      k.Routing (fun _ => k.Aware there mark) s := by
  refine safe_query (I := fun w => k.Aware there mark w ∧ k.OwnsDeployment w deploymentID) ?_
    ⟨aware, owns⟩ ?_
  · rintro s t ⟨aware, owns⟩ moved
    exact ⟨aware.rely moved, moved.ownsDeployment deploymentID owns⟩
  rintro t ⟨aware, owns⟩
  match found : t.getDeployment deploymentID with
  | none => exact fun u moved => aware.rely moved
  | some deployment =>
    have here : deployment ∈ t.deployments := Table.mem_of_find? found
    have own : deployment.appID = k.appID := owns deployment here (Table.key_of_find? found)
    have platform := aware.sound.platforms deployment here own
    refine safe_query (fun s t => Aware.rely) aware fun u aware => ?_
    rw [own]
    match found : u.getApp k.appID with
    | none => exact fun v moved => aware.rely moved
    | some app =>
      dsimp only
      split
      · exact fun v moved => aware.rely moved
      · next nonempty =>
        have holding := aware.holding found
        rw [holding.own]
        have ensured : ∀ v, k.Rely (.since there mark) u v → _ := fun v moved =>
          Routing.ensureTrafficRoute v routeID deployment.environmentID
            (cleared_trafficDomain (aware.rely moved).sound (holding.rely moved) platform
              nonempty)
        refine Prog.Safe.bind_atomic (fun v moved => (ensured v moved).1) fun v moved => ?_
        obtain ⟨routing, owned⟩ := ensured v moved
        have after := (aware.rely moved).rely (.of_routing routing)
        split
        · next route made =>
          exact promoteOnto_safe deployment route backendID ⟨after, owned route made⟩
        · exact fun x further => after.rely further

end Promotion

/-! ## Changes of the split -/

section Traffic

variable {s : World}

/-- The route of the answer, if any, is the app's. -/
def Viewed (k : AppScope) (there : Option String) (mark : Nat) (answer : Except String TrafficView)
    (w : World) : Prop :=
  k.Aware there mark w ∧
    ∀ view route, answer = .ok view → view.route = some route → k.OwnsRoute w route.id

theorem Viewed.of_error (aware : k.Aware there mark s) (err : String) :
    k.Viewed there mark (.error err) s := by
  refine ⟨aware, ?_⟩
  rintro view route ⟨⟩

theorem ownsRoute_found {environmentID : UUID} {route : TrafficRoute}
    (found : s.getTrafficRouteByAppEnvironment k.appID environmentID = some route) :
    k.OwnsRoute s route.id := by
  have member := List.mem_of_head? found
  rw [List.mem_insertionSort, List.mem_filter] at member
  obtain ⟨stored, filtered⟩ := member
  simp only [Bool.and_eq_true, decide_eq_true_eq] at filtered
  intro r here same
  rw [Table.eq_of_key_eq here stored same]
  exact filtered.1

theorem getTraffic_safe (aware : k.Aware there mark s) :
    (getTraffic k.appID).Safe (k.Rely (.since there mark)) k.Routing
      (fun answer => k.Viewed there mark answer) s := by
  refine safe_query (fun s t => Aware.rely) aware fun t aware => ?_
  match t.getApp k.appID with
  | none => exact fun u moved => .of_error (aware.rely moved) _
  | some app =>
    refine safe_query (fun s t => Aware.rely) aware fun u aware => ?_
    match Scale.productionEnvironment (u.listEnvironmentsByProject app.projectID) with
    | .error err => exact fun v moved => .of_error (aware.rely moved) _
    | .ok envID =>
      refine safe_query (fun s t => Aware.rely) aware fun v aware => ?_
      match found : v.getTrafficRouteByAppEnvironment k.appID envID with
      | none =>
        refine fun x moved => ⟨aware.rely moved, ?_⟩
        rintro view route ⟨⟩ ⟨⟩
      | some route =>
        have known : k.OnRoute there mark route.id v := ⟨aware, ownsRoute_found found⟩
        refine safe_query OnRoute.stable known fun x known => ?_
        refine safe_query OnRoute.stable known fun y known => ?_
        refine fun z moved => ⟨known.1.rely moved, ?_⟩
        rintro view route' ⟨⟩ ⟨⟩
        exact moved.ownsRoute route.id known.2

theorem writeWeights_safe (routeID : UUID) (weights : List TrafficWeight)
    (known : k.OnRoute there mark routeID s) :
    (writeWeights routeID weights).Safe (k.Rely (.since there mark)) k.Routing
      (fun _ => k.OnRoute there mark routeID) s := by
  induction weights generalizing s with
  | nil => exact fun t moved => OnRoute.stable s t known moved
  | cons x rest ih =>
    refine safe_atomic OnRoute.stable known (fun t _ => routing_weight t _ _ _) ?_
    intro t _ known
    split
    · exact ih known
    · exact fun u moved => OnRoute.stable _ u known moved

theorem applyWeights_safe (route : TrafficRoute) (weights : List TrafficWeight)
    (actorType : String) (known : k.OnRoute there mark route.id s) :
    (applyWeights k.appID route weights actorType).Safe (k.Rely (.since there mark)) k.Routing
      (fun _ => k.Aware there mark) s := by
  refine Prog.Safe.bind Rely.refl (writeWeights_safe route.id weights known) ?_
  intro written t known
  cases written with
  | error err => exact fun u moved => known.1.rely moved
  | ok _ =>
    refine safe_exec OnRoute.stable known (fun u _ => routing_event u _) fun u known => ?_
    refine Prog.Safe.bind Rely.refl (sync_safe known.1 known.2) fun synced v aware => ?_
    cases synced with
    | error err => exact fun x moved => aware.rely moved
    | ok _ =>
      exact Prog.Safe.weaken (fun _ _ step => step) (fun _ _ viewed => viewed.1)
        (getTraffic_safe aware)

theorem updateTrafficWeights_safe (weights : List TrafficWeight) (actorType : String)
    (aware : k.Aware there mark s) :
    (updateTrafficWeights k.appID weights actorType).Safe (k.Rely (.since there mark)) k.Routing
      (fun _ => k.Aware there mark) s := by
  refine Prog.Safe.bind Rely.refl (getTraffic_safe aware) fun answer t viewed => ?_
  cases answer with
  | error err => exact fun u moved => viewed.1.rely moved
  | ok view =>
    dsimp only
    match routed : view.route with
    | none => exact fun u moved => viewed.1.rely moved
    | some route =>
      dsimp only
      split
      · exact fun u moved => viewed.1.rely moved
      · exact applyWeights_safe route weights actorType ⟨viewed.1, viewed.2 view route rfl routed⟩

theorem trafficCall_safe (call : TrafficCall) (aware : k.Aware there mark s) :
    (call.prog k.appID).Safe (k.Rely (.since there mark)) k.Routing
      (fun _ => k.Aware there mark) s := by
  cases call with
  | update weights actorType => exact updateTrafficWeights_safe weights actorType aware
  | promote backendID =>
    refine Prog.Safe.bind Rely.refl (getTraffic_safe aware) fun answer t viewed => ?_
    cases answer with
    | error err => exact fun u moved => viewed.1.rely moved
    | ok view =>
      dsimp only
      split
      · exact fun u moved => viewed.1.rely moved
      · exact updateTrafficWeights_safe _ _ viewed.1

end Traffic

/-! ## Deploys -/

section Deploy

variable {s : World}

theorem platformDomain_reserved (k : AppScope) (projectSlug teamSlug publicIP : String) :
    k.reserved (platformDomain k.dns k.slug projectSlug teamSlug publicIP) := by
  unfold reserved zone platformDomain
  rw [Bool.and_eq_true, Text.hasPrefix_iff, Text.hasSuffix_iff]
  split
  · refine ⟨?_, k.slug ++ "-" ++ projectSlug ++ "-" ++ teamSlug, ?_⟩
    · simp [String.toList_append, List.append_assoc]
    · simp [String.append_assoc]
  · refine ⟨?_, k.slug ++ "-" ++ projectSlug ++ "-" ++ teamSlug ++ "." ++ publicIP, ?_⟩
    · simp [String.toList_append, List.append_assoc]
    · simp [String.append_assoc]

/-- A dispatch goroutine knows that the domain of its row is cleared, if it has one. -/
structure Dispatching (k : AppScope) (app : App) (w : World) : Prop where
  sound : k.Sound w
  slug : app.slug = k.slug
  cleared : ∀ domain, app.customDomain = some domain → domain ≠ "" →
    Cleared k.appID w.domainLog domain

theorem Dispatching.rely {app : App} (s t : World) (dispatching : k.Dispatching app s)
    (moved : k.Rely (.row app) s t) : k.Dispatching app t := by
  obtain ⟨events, log, -, spared⟩ := moved.log
  refine ⟨moved.sound dispatching.sound, dispatching.slug, ?_⟩
  intro domain custom nonempty
  rw [log]
  exact (dispatching.cleared domain custom nonempty).append (spared domain custom)

theorem routing_target (s : World) (arg : World.TargetStatusParams) :
    k.Routing s (s.updateDeploymentTargetStatus arg) := by
  unfold World.updateDeploymentTargetStatus
  split
  · exact .refl s
  · exact .of_frame rfl rfl rfl rfl rfl (.of_eq rfl)

theorem dispatch_safe (deployment : Deployment) (target : DeploymentTarget) (build : Build)
    (app : App) (project : Project) (member : ClusterMember) (dispatching : k.Dispatching app s) :
    (dispatchDeploy k.dns deployment target build app project member).Safe (k.Rely (.row app))
      k.Routing (fun _ => k.Dispatching app) s := by
  have reserved : ∀ teamSlug publicIP,
      k.reserved (platformDomain k.dns app.slug project.slug teamSlug publicIP) := by
    intro teamSlug publicIP
    rw [dispatching.slug]
    exact k.platformDomain_reserved project.slug teamSlug publicIP
  refine safe_every Dispatching.rely dispatching (dispatchDeploy_every
    ⟨fun t _ => .refl t, fun msg t _ => routing_target t _, ?_, ?_, ?_, ?_, ?_⟩)
  · exact fun key value t _ => .of_frame rfl rfl rfl rfl rfl (.of_eq rfl)
  · intro t _
    beta_reduce
    obtain full | ⟨port, allocated⟩ := t.allocateServerPort_cases member.serverID target.id
    · rw [full]
      exact .refl t
    · rw [allocated]
      exact .of_frame rfl rfl rfl rfl rfl (.of_eq rfl)
  · exact fun port t _ => .of_frame rfl rfl rfl rfl rfl (.of_eq rfl)
  · exact fun teamSlug publicIP t _ => .setPlatformDomain t _ (reserved teamSlug publicIP)
  · intro teamSlug publicIP labels t dispatching
    refine .send t _ _ fun domain listed => ?_
    rcases mem_deployDomains.mp listed with rfl | ⟨nonempty, custom⟩
    · exact dispatching.sound.cleared_of_reserved (reserved teamSlug publicIP)
    · exact dispatching.cleared domain custom nonempty

/-- The request has read the row it deploys. -/
def Deploying (k : AppScope) (there : Option String) (mark : Nat) (app : App) (w : World) : Prop :=
  k.Aware there mark w ∧ k.Holding there mark app w

theorem Deploying.stable {app : App} (s t : World) (known : k.Deploying there mark app s)
    (moved : k.Rely (.since there mark) s t) : k.Deploying there mark app t :=
  ⟨known.1.rely moved, known.2.rely moved⟩

theorem launchTargets_safe (launch : Launch) (deployment : Deployment)
    (scheduled : List (UUID × ScheduledTarget)) (known : k.Deploying there mark launch.app s) :
    (launchTargets launch deployment scheduled).Safe (k.Rely (.since there mark)) k.Routing
      (fun _ => k.Aware there mark) s := by
  induction scheduled generalizing s with
  | nil =>
    refine safe_exec Deploying.stable known
      (fun t _ => .updateDeployment t _ _ _ fun _ => ⟨rfl, rfl⟩) ?_
    exact fun t known u moved => known.1.rely moved
  | cons head rest ih =>
    refine safe_atomic Deploying.stable known (fun t _ => ?_) fun t _ known => ?_
    · unfold World.createDeploymentTarget
      dsimp only
      split
      · exact .refl t
      · split
        · exact .of_frame rfl rfl rfl rfl rfl (.of_eq rfl)
        · exact .refl t
    · split
      · refine safe_exec Deploying.stable known (fun u known => ?_) fun u known => ih known
        exact .start u _ ⟨known.2.slug, known.2.cleared⟩
      · exact fun u moved => known.1.rely moved

theorem deploy_safe (launch : Launch) (aware : k.Aware there mark s) :
    (triggerDeploy k.appID launch).Safe (k.Rely (.since there mark)) k.Routing
      (fun _ => k.Aware there mark) s := by
  refine safe_query (fun s t => Aware.rely) aware fun t aware => ?_
  match found : t.getApp k.appID with
  | none => exact fun u moved => aware.rely moved
  | some app =>
    have known : k.Deploying there mark app t := ⟨aware, aware.holding found⟩
    refine safe_atomic Deploying.stable known
      (fun u known => .createLaunched u known.2.own) fun u _ known => ?_
    split
    · exact launchTargets_safe { launch with app := app } _ _ known
    · exact fun v moved => known.1.rely moved

end Deploy

/-! ## Requests -/

/-- A step of a request. -/
def Guar (k : AppScope) (s t : World) : Prop := k.Routing s t ∨ k.Handling s t

/-- A promotion is of a deployment of the app; the other requests name the app. -/
def Of (k : AppScope) (w : World) : AppRequest → Prop
  | .promote deploymentID _ _ => k.OwnsDeployment w deploymentID
  | _ => True

section Requests

variable {s : World}

theorem handler_safe {α : Type} {p : Prog World α}
    (every : p.Every fun effect => ∀ t, k.Guar t (effect t)) :
    (ignore p).Safe (k.Rely .nothing) k.Guar (fun _ _ => True) s := by
  refine Prog.Safe.weaken (fun _ _ step => step) (fun _ _ _ => trivial)
    (Prog.Safe.of_every (I := fun _ => True) (fun _ _ _ _ => trivial) ?_ trivial)
  refine Prog.Every.bind (every.mono ?_) fun _ => trivial
  exact fun effect step t => ⟨step t, id⟩

theorem routing_safe {α : Type} {p : Prog World α} {hold : Hold} {I : World → Prop}
    (safe : p.Safe (k.Rely hold) k.Routing (fun _ => I) s) :
    (ignore p).Safe (k.Rely hold) k.Guar (fun _ _ => True) s := by
  refine Prog.Safe.bind Rely.refl (Prog.Safe.weaken (fun _ _ step => .inl step)
    (fun _ _ known => known) safe) fun _ _ _ => ?_
  exact fun _ _ => trivial

theorem reads_guar {α : Type} (f : World → α) :
    (query f).Every fun effect => ∀ t, k.Guar t (effect t) := by
  rw [Prog.every_query]
  exact fun t => .inl (.refl t)

theorem update_every (req : UpdateAppRequest) :
    (AppHandler.update k.appID req).Every fun effect => ∀ t, k.Guar t (effect t) := by
  refine Prog.Every.bind (reads_guar _) fun current => ?_
  cases current with
  | none => trivial
  | some current =>
    dsimp only
    split
    · trivial
    · split
      · trivial
      · next arg params =>
        refine Prog.Every.bind ?_ fun app => ?_
        · rw [Prog.every_atomic]
          exact fun t => .inr (handling_writeApp t arg (AppHandler.id_of_updateParams params))
        · cases app with
          | none => trivial
          | some app => trivial

theorem setDomain_every (domain : String) :
    (AppHandler.setDomain k.appID domain).Every fun effect => ∀ t, k.Guar t (effect t) := by
  unfold AppHandler.setDomain
  split
  · trivial
  · refine Prog.Every.bind ?_ fun _ => Prog.Every.bind (reads_guar _) fun app => ?_
    · rw [Prog.every_exec]
      exact fun t => .inr (handling_unverify t)
    · cases app with
      | none => trivial
      | some app =>
        refine Prog.Every.bind ?_ fun app => ?_
        · rw [Prog.every_atomic]
          exact fun t => .inr (handling_writeApp t _ rfl)
        · cases app with
          | none => trivial
          | some app => trivial

theorem verifyDomain_every (resolve : String → Lookup) :
    (AppHandler.verifyDomain k.appID resolve).Every fun effect => ∀ t, k.Guar t (effect t) := by
  refine Prog.Every.bind (reads_guar _) fun app => ?_
  cases app with
  | none => trivial
  | some app =>
    dsimp only
    split
    · trivial
    · split
      · trivial
      · refine Prog.Every.bind ?_ fun _ => trivial
        rw [Prog.every_exec]
        exact fun t => .inr (handling_verify t _)

/-- **A request that arrives is safe.** -/
theorem request_safe (request : AppRequest) (sound : k.Sound s) (own : k.Of s request) :
    (request.prog k.appID).Safe (k.Rely (request.hold k.appID s)) k.Guar (fun _ _ => True) s := by
  have aware : k.Aware (customDomain s k.appID) s.domainLog.length s :=
    ⟨sound, Nat.le_refl _, fun domain custom => .inl custom⟩
  cases request with
  | update req => exact handler_safe (update_every req)
  | setDomain domain => exact handler_safe (setDomain_every domain)
  | verifyDomain resolve => exact handler_safe (verifyDomain_every resolve)
  | deploy launch => exact routing_safe (deploy_safe launch aware)
  | promote deploymentID routeID backendID => exact routing_safe (promotion_safe aware own)
  | traffic call => exact routing_safe (trafficCall_safe call aware)

end Requests

/-! ## Runs -/

/-- The rest of the task is safe. -/
def TaskSafe (k : AppScope) (w : World) : Task → Prop
  | .waiting request => k.Of w request
  | .running hold rest => rest.Safe (k.Rely hold) k.Guar (fun _ _ => True) w

/-- The rows are sound and every task is safe. -/
def Steady (k : AppScope) (c : World × List Task) : Prop :=
  k.Sound c.1 ∧ ∀ task ∈ c.2, k.TaskSafe c.1 task

section Steps

variable {w w' : World}

theorem Of.kept {request : AppRequest} (own : k.Of w request)
    (kept : ∀ id, k.OwnsDeployment w id → k.OwnsDeployment w' id) : k.Of w' request := by
  cases request with
  | promote deploymentID routeID backendID => exact kept deploymentID own
  | _ => trivial

theorem TaskSafe.routing {task : Task} (safe : k.TaskSafe w task) (routing : k.Routing w w') :
    k.TaskSafe w' task := by
  cases task with
  | waiting request => exact Of.kept safe routing.ownsDeployment
  | running hold rest => exact Prog.Safe.stable safe (.of_routing routing) Rely.trans

theorem TaskSafe.handling {task : Task} {tasks : List Task} (safe : k.TaskSafe w task)
    (member : task ∈ tasks) (handling : k.Handling w w')
    (careful : ∀ event ∈ w'.domainLog.drop w.domainLog.length, k.EventOk w tasks event) :
    k.TaskSafe w' task := by
  cases task with
  | waiting request =>
    refine Of.kept safe fun id owns => ?_
    rwa [OwnsDeployment, handling.same.1]
  | running hold rest =>
    cases rest with
    | done a => exact fun _ _ => trivial
    | step effect next =>
      refine Prog.Safe.stable safe (.of_handling handling careful ?_) Rely.trans
      intro domain changed has
      exact (careful _ changed rfl).2.2.2 _ member ⟨rfl, has⟩

theorem TaskSafe.spawned {task : Task} (sound : k.Sound w) (routing : k.Routing w w')
    (checked : ∀ g ∈ w'.started.drop w.started.length, checkedDispatch g)
    (member : task ∈ taskSpawn k.dns w w') : k.TaskSafe w' task := by
  obtain ⟨new, started, informed⟩ := routing.started
  obtain ⟨g, inside, made⟩ := List.mem_filterMap.mp member
  have check := checked g inside
  rw [started, List.drop_left] at inside
  have knows := informed g inside
  cases g with
  | dispatchDeploy deployment target build app project server =>
    cases made
    obtain ⟨slug, cleared⟩ := knows
    have dispatching : k.Dispatching app w' := by
      refine ⟨routing.sound sound, slug, fun domain custom nonempty => ?_⟩
      rw [routing.log]
      refine cleared domain custom ?_
      simpa [checkedDispatch, custom, nonempty] using check
    exact Prog.Safe.weaken (fun _ _ step => .inl step) (fun _ _ _ => trivial)
      (dispatch_safe deployment target build app project server dispatching)
  | _ => cases made

end Steps

/-- **One careful step**: what it sends is cleared, and everything stays safe. -/
theorem Steady.step {c : World × List Task} {i : Nat} (careful : k.Careful c i)
    (steady : k.Steady c) : k.OnlyVerified c i ∧ k.Steady (k.advance c i) := by
  obtain ⟨events, dispatches⟩ := careful
  obtain ⟨sound, safe⟩ := steady
  unfold OnlyVerified
  obtain same | ⟨task, effect, next, here, edge, moved⟩ :=
    Flow.advance_cases (taskFlow k.appID) (taskSpawn k.dns) c i
  · rw [advance, same]
    exact ⟨by simp, sound, safe⟩
  · have old : k.TaskSafe c.1 task := safe task (List.mem_of_getElem? here)
    rw [advance, moved] at events dispatches ⊢
    dsimp only at events dispatches ⊢
    cases task with
    | waiting request =>
      cases edge
      refine ⟨by simp, sound, fun task member => ?_⟩
      have quiet : taskSpawn k.dns c.1 (id c.1) = [] := by simp [taskSpawn]
      rw [quiet, List.append_nil] at member
      rcases List.mem_or_eq_of_mem_set member with stays | rfl
      · exact safe task stays
      · exact request_safe request sound old
    | running hold rest =>
      cases rest with
      | done a => cases edge
      | step _ cont =>
        cases edge
        obtain ⟨guar, after⟩ := old c.1 (Rely.refl c.1)
        rcases guar with routing | handling
        · obtain ⟨new, sent, cleared⟩ := routing.sent
          refine ⟨?_, routing.sound sound, fun task member => ?_⟩
          · rw [sent, List.drop_left]
            exact cleared
          · rcases List.mem_append.mp member with kept | spawned
            · rcases List.mem_or_eq_of_mem_set kept with stays | rfl
              · exact (safe task stays).routing routing
              · exact after
            · exact TaskSafe.spawned sound routing dispatches spawned
        · obtain ⟨-, -, sent, started⟩ := handling.same
          refine ⟨by simp [sent], sound.handling handling events, fun task member => ?_⟩
          have quiet : taskSpawn k.dns c.1 (effect c.1) = [] := by simp [taskSpawn, started]
          rw [quiet, List.append_nil] at member
          rcases List.mem_or_eq_of_mem_set member with stays | rfl
          · exact (safe task stays).handling stays handling events
          · exact after

/-- The app as it was created: it has no custom domain and no history, and the platform
domains of its deployments are those `dispatchDeploy` builds. -/
structure Fresh (k : AppScope) (w : World) : Prop where
  log : w.domainLog = []
  row : ∀ app, w.getApp k.appID = some app → app.slug = k.slug ∧ app.customDomain = none
  platforms : ∀ d ∈ w.deployments, d.appID = k.appID →
    d.platformDomain = "" ∨ k.reserved d.platformDomain

theorem Fresh.sound {w : World} (fresh : k.Fresh w) : k.Sound w where
  slug := fun app here => (fresh.row app here).1
  row := by
    intro app here domain custom
    rw [(fresh.row app here).2] at custom
    cases custom
  extra := by
    intro app here domain listed
    rw [fresh.log]
    exact cleared_nil k.appID domain
  platforms := fresh.platforms
  routes := by
    intro r here own
    rw [fresh.log]
    exact cleared_nil k.appID r.domain
  unreserved := by
    rw [fresh.log]
    intro domain changed
    cases changed

/-- **Custom domains are routed only when verified, in careful runs.**  For every number
of requests about the app and every interleaving of their statements whose steps are all
careful: a custom domain is in the Host rule of a command only if `VerifyDomain` succeeded
for it after the last time the column was changed to it. -/
theorem routed_only_verified (k : AppScope) (w : World) (requests : List AppRequest)
    (schedule : List Nat) (fresh : k.Fresh w) (own : ∀ request ∈ requests, k.Of w request)
    (careful : (taskFlow k.appID).Along (taskSpawn k.dns) k.Careful
      (w, requests.map .waiting) schedule) :
    (taskFlow k.appID).Along (taskSpawn k.dns) k.OnlyVerified
      (w, requests.map .waiting) schedule := by
  refine Flow.Along.of_invariant (I := k.Steady) (fun c i careful steady => steady.step careful)
    careful ⟨fresh.sound, fun task member => ?_⟩
  obtain ⟨request, listed, rfl⟩ := List.mem_map.mp member
  exact own request listed

section OneServer

/-- An app without a custom domain, and a server whose agent is connected. -/
def newApp : World :=
  { teams := .single ⟨11, "acme"⟩
    projects := .single shopOfTeam
    apps := .single webApp
    builds := .single builtWeb
    servers := ⟨[{ id := 71, teamID := 11, publicIp := "192.0.2.7" }], by decide⟩
    agents := .single { agentID := UUID.text 71 } }

def web : AppScope := { dns := {}, appID := 20, slug := "web" }

def newAppLaunch : Launch :=
  { deploymentID := 1
    environmentID := 40
    build := builtWeb
    app := webApp
    project := shopOfTeam
    targets := [(81, ⟨{ serverID := 71 }, ""⟩)] }

def domainRequests : List AppRequest :=
  [.setDomain "www.example.com", .verifyDomain fun _ => { hosts := ["192.0.2.7"] },
   .deploy newAppLaunch]

theorem newApp_fresh : web.Fresh newApp := by
  refine ⟨rfl, ?_, ?_⟩
  · intro app here
    cases here
    exact ⟨rfl, rfl⟩
  · intro d member
    cases member

theorem domainRequests_own : ∀ request ∈ domainRequests, web.Of newApp request := by
  intro request member
  simp only [domainRequests, List.mem_cons, List.not_mem_nil, or_false] at member
  rcases member with rfl | rfl | rfl
  · trivial
  · trivial
  · trivial

/-- One request after the other, then the goroutine of the deploy. -/
def inTurn : List Nat :=
  List.replicate 4 0 ++ List.replicate 3 1 ++ List.replicate 6 2 ++ List.replicate 16 3

theorem routed_after_verification :
    ((taskFlow 20).run (taskSpawn {}) (newApp, domainRequests.map .waiting) inTurn).1.sent.map
        (fun m => hosts m.2) = [["web-shop-acme.192.0.2.7.nip.io", "www.example.com"]] ∧
      (taskFlow 20).Along (taskSpawn {}) web.OnlyVerified (newApp, domainRequests.map .waiting)
        inTurn := by
  have careful : (taskFlow web.appID).Along (taskSpawn web.dns) web.Careful
      (newApp, domainRequests.map .waiting) inTurn := by
    decide
  exact ⟨by decide,
    routed_only_verified web newApp domainRequests inTurn newApp_fresh domainRequests_own careful⟩

def unverifiedInTurn : List Nat :=
  List.replicate 4 0 ++ List.replicate 6 2 ++ List.replicate 16 3

/-- A deploy sends the agent a domain that was never verified. -/
theorem routed_unverified :
    web.Fresh newApp ∧ (∀ request ∈ domainRequests, web.Of newApp request) ∧
      ¬ (taskFlow 20).Along (taskSpawn {}) web.OnlyVerified (newApp, domainRequests.map .waiting)
        unverifiedInTurn := by
  exact ⟨newApp_fresh, domainRequests_own, by decide⟩

end OneServer

end AppScope

end Nixway.Deploy
