/-
# Deploy.History -- promotions of one environment, one after another

A history is a list of statements on apps and deployments and of promotions that
run alone, in any order.  Routes are keyed by the domain a promotion chooses, and
a promotion demotes the backends of its own route only.  So the deployment
promoted last is the only live one of its (app, environment) after every
promotion exactly when all promotions choose one domain
(`exclusive_throughout_iff`).

A promotion is started when its deployment was just completed as 'healthy', so a
history only promotes deployments that are healthy at that point.
-/
import Nixway.Deploy.Promotion

namespace Nixway.Deploy

open Nixway.Theory Nixway.Store

set_option autoImplicit false

/-! ## Histories -/

/-- One event of a history. -/
inductive Change where
  | updateApp (arg : World.UpdateAppParams)
  | setAppDomainVerified (appID : UUID) (domainVerified : Bool)
  | setAppDomains (appID : UUID) (domains : List String)
  | setDeploymentPlatformDomain (deploymentID : UUID) (platformDomain : String)
  | complete (deploymentID : UUID)
  | promote (deploymentID routeID backendID : UUID)

def Change.apply : Change → World → World
  | .updateApp arg, w => w.updateApp arg
  | .setAppDomainVerified appID verified, w => w.setAppDomainVerified appID verified
  | .setAppDomains appID domains, w => w.setAppDomains appID domains
  | .setDeploymentPlatformDomain deploymentID domain, w =>
    w.setDeploymentPlatformDomain deploymentID domain
  | .complete deploymentID, w => w.completeDeployment deploymentID .healthy none
  | .promote deploymentID routeID backendID, w =>
    (ensureTrafficForDeployment deploymentID routeID backendID).out w

/-- The deployment an event promotes. -/
def Change.promoted : Change → Option UUID
  | .promote deploymentID _ _ => some deploymentID
  | _ => none

def chosenDomain (w : World) (deploymentID : UUID) : Option String :=
  (w.getDeployment deploymentID).bind fun deployment =>
    (w.getApp deployment.appID).map fun app => trafficDomain app deployment

/-- The domains the promotions of a history choose, in order. -/
def chosenDomains (w : World) : List Change → List String
  | [] => []
  | change :: rest =>
    (change.promoted.bind (chosenDomain w)).toList ++ chosenDomains (change.apply w) rest

/-- Every promotion is called on a healthy deployment of the (app, environment) and
returns no error. -/
def AllSucceed (appID envID : UUID) (w : World) : List Change → Prop
  | [] => True
  | change :: rest =>
    (match change with
      | .promote deploymentID routeID backendID =>
        (∃ d ∈ w.getDeployment deploymentID,
          d.appID = appID ∧ d.environmentID = envID ∧ d.status = .healthy) ∧
        (ensureTrafficForDeployment deploymentID routeID backendID).result w = .ok ()
      | _ => True) ∧
    AllSucceed appID envID (change.apply w) rest

/-! ## Live backends -/

/-- The backend receives traffic. -/
def Live (b : TrafficBackend) : Prop := b.status = .active ∧ 0 < b.weight

instance (b : TrafficBackend) : Decidable (Live b) := inferInstanceAs (Decidable (_ ∧ _))

/-- The backend is on a route of the (app, environment). -/
def Within (w : World) (appID envID : UUID) (b : TrafficBackend) : Prop :=
  ∃ r ∈ w.routes.rows, r.id = b.routeID ∧ r.appID = appID ∧ r.environmentID = envID

/-- The deployment just promoted is the only healthy one among those promoted so
far, and its backend, of weight 100, is the only live one of the (app, environment). -/
def Exclusive (appID envID : UUID) (w : World) (deploymentID : UUID) (promoted : List UUID) : Prop :=
  (∃ d ∈ w.getDeployment deploymentID, d.status = .healthy) ∧
  (∀ id ∈ promoted, ∀ d ∈ w.getDeployment id, d.status = .healthy → id = deploymentID) ∧
  ∃ b ∈ w.backends.rows, b.deploymentID = deploymentID ∧ b.status = .active ∧ b.weight = 100 ∧
    Within w appID envID b ∧
    ∀ other ∈ w.backends.rows, Within w appID envID other → Live other → other = b

/-- After every promotion of the history its deployment is exclusive. -/
def ExclusiveThroughout (appID envID : UUID) (w : World) (promoted : List UUID) :
    List Change → Prop
  | [] => True
  | change :: rest =>
    (∀ id ∈ change.promoted, Exclusive appID envID (change.apply w) id (id :: promoted)) ∧
    ExclusiveThroughout appID envID (change.apply w) (change.promoted.toList ++ promoted) rest

/-- The routes of the (app, environment) with a live backend. -/
def liveRoutes (w : World) (appID envID : UUID) : List TrafficRoute :=
  w.routes.rows.filter fun r => r.appID = appID && r.environmentID = envID &&
    w.backends.rows.any fun b => b.routeID = r.id && decide (Live b)

def liveDomains (w : World) (appID envID : UUID) : List String :=
  (liveRoutes w appID envID).map TrafficRoute.domain

section Domains

variable {w w' : World} {appID envID : UUID}

/-- The route of the (app, environment) with this domain. -/
def IsRoute (w : World) (appID envID : UUID) (domain : String) (r : TrafficRoute) : Prop :=
  r ∈ w.routes ∧ r.appID = appID ∧ r.environmentID = envID ∧ r.domain = domain

theorem mem_liveDomains {domain : String} :
    domain ∈ liveDomains w appID envID ↔
      ∃ r, IsRoute w appID envID domain r ∧ ∃ b ∈ w.backends, b.routeID = r.id ∧ Live b := by
  simp only [liveDomains, liveRoutes, List.mem_map, List.mem_filter, Bool.and_eq_true,
    decide_eq_true_eq, List.any_eq_true, IsRoute, Table.mem_def]
  constructor
  · rintro ⟨r, ⟨member, ⟨app, env⟩, b, inTable, ofRoute, live⟩, domain⟩
    exact ⟨r, ⟨member, app, env, domain⟩, b, inTable, ofRoute, live⟩
  · rintro ⟨r, ⟨member, app, env, domain⟩, b, inTable, ofRoute, live⟩
    exact ⟨r, ⟨member, ⟨app, env⟩, b, inTable, ofRoute, live⟩, domain⟩

/-- The deployment has a backend on the route of this domain. -/
def HasBackend (w : World) (appID envID : UUID) (domain : String) (deploymentID : UUID) : Prop :=
  ∃ r, IsRoute w appID envID domain r ∧
    ∃ b ∈ w.backends, b.routeID = r.id ∧ b.deploymentID = deploymentID

end Domains

/-! ## One event -/

section Event

variable {w : World} {appID envID : UUID} {change : Change}

/-- An event that promotes nothing writes neither routes nor backends. -/
theorem Change.quiet (none : change.promoted = none) :
    (change.apply w).routes = w.routes ∧ (change.apply w).backends = w.backends ∧
      (w.References → (change.apply w).References) := by
  cases change with
  | updateApp arg => exact ⟨rfl, rfl, fun refs => refs.of_tables rfl rfl rfl rfl rfl rfl⟩
  | setAppDomainVerified id verified =>
    exact ⟨rfl, rfl, fun refs => refs.of_tables rfl rfl rfl rfl rfl rfl⟩
  | setAppDomains id domains =>
    exact ⟨rfl, rfl, fun refs => refs.of_tables rfl rfl rfl rfl rfl rfl⟩
  | setDeploymentPlatformDomain id domain =>
    exact ⟨rfl, rfl, fun refs => refs.updateDeployment id _ _ fun _ => rfl⟩
  | complete id => exact ⟨rfl, rfl, fun refs => refs.updateDeployment id _ _ fun _ => rfl⟩
  | promote id routeID backendID => cases none

theorem Change.references (refs : w.References) : (change.apply w).References := by
  cases change with
  | promote id routeID backendID =>
    exact (ensureTrafficForDeployment_every references_effects id routeID backendID).run_preserves
      refs
  | _ => exact (Change.quiet rfl).2.2 refs

theorem Change.quiet_live (none : change.promoted = none) :
    liveDomains (change.apply w) appID envID = liveDomains w appID envID := by
  obtain ⟨routes, backends, -⟩ := Change.quiet (w := w) none
  simp only [liveDomains, liveRoutes, routes, backends]

/-- What a successful promotion with the domain `domain` does to the (app,
environment), in terms of domains. -/
structure Promoted (appID envID : UUID) (domain : String) (deploymentID : UUID) (w w' : World) :
    Prop where
  /-- The new backend, alone on its route. -/
  backend : ∃ r b, IsRoute w' appID envID domain r ∧ b ∈ w'.backends ∧ b.routeID = r.id ∧
    b.deploymentID = deploymentID ∧ b.status = .active ∧ b.weight = 100 ∧
    ∀ other ∈ w'.backends, other.routeID = r.id → Live other → other = b
  /-- Routes of other domains keep their backends. -/
  elsewhere : ∀ other, other ≠ domain →
    (other ∈ liveDomains w' appID envID ↔ other ∈ liveDomains w appID envID)
  stays : ∀ id, HasBackend w appID envID domain id → HasBackend w' appID envID domain id
  demoted : ∀ id, id ≠ deploymentID → HasBackend w appID envID domain id →
    ∀ d ∈ w'.getDeployment id, d.status ≠ .healthy
  own : w'.getDeployment deploymentID = w.getDeployment deploymentID

theorem isRoute_unique {domain : String} {r r' : TrafficRoute} (refs : w.References)
    (first : IsRoute w appID envID domain r) (second : IsRoute w appID envID domain r') : r = r' :=
  refs.uniqueRoute r first.1 r' second.1 (first.2.1.trans second.2.1.symm)
    (first.2.2.1.trans second.2.2.1.symm) (first.2.2.2.trans second.2.2.2.symm)

/-- On the promoted route the new backend is the only live one. -/
theorem PromotedOnto.alone {mid w' : World} {deploymentID routeID : UUID} {new b : TrafficBackend}
    (promoted : PromotedOnto deploymentID routeID new mid w') (member : b ∈ w'.backends)
    (ofRoute : b.routeID = routeID) (live : Live b) : b = new := by
  obtain same | ⟨old, -, -, same⟩ := (promoted.backends b).mp member
  · exact same
  · by_cases here : old.routeID = routeID
    · rw [if_pos here] at same
      subst same
      cases live.1
    · rw [if_neg here] at same
      subst same
      exact absurd ofRoute here

theorem PromotedOnto.mem_other {mid w' : World} {deploymentID routeID : UUID}
    {new b : TrafficBackend} (promoted : PromotedOnto deploymentID routeID new mid w')
    (other : b.routeID ≠ routeID) : b ∈ w'.backends ↔ b ∈ mid.backends := by
  rw [promoted.backends]
  constructor
  · rintro (rfl | ⟨old, member, -, rfl⟩)
    · exact absurd promoted.route other
    · by_cases here : old.routeID = routeID
      · rw [if_pos here] at other
        exact absurd here other
      · rwa [if_neg here]
  · intro member
    exact .inr ⟨b, member, fun fits => other fits.1, (if_neg other).symm⟩

/-- A backend on the promoted route is still there, as the new one or drained. -/
theorem PromotedOnto.keeps {mid w' : World} {deploymentID routeID : UUID} {new b : TrafficBackend}
    (promoted : PromotedOnto deploymentID routeID new mid w') (member : b ∈ mid.backends)
    (ofRoute : b.routeID = routeID) :
    ∃ b' ∈ w'.backends, b'.routeID = routeID ∧ b'.deploymentID = b.deploymentID := by
  by_cases own : b.deploymentID = deploymentID
  · exact ⟨new, (promoted.backends new).mpr (.inl rfl), promoted.route,
      promoted.deployment.trans own.symm⟩
  · refine ⟨drained b, (promoted.backends _).mpr (.inr ⟨b, member, fun fits => own fits.2, ?_⟩),
      ofRoute, rfl⟩
    rw [if_pos ofRoute]

/-- **A successful promotion, by domains.** -/
theorem promoted_of_ok (refs : w.References) {deploymentID routeID backendID : UUID}
    {deployment : Deployment} (row : w.getDeployment deploymentID = some deployment)
    (ofApp : deployment.appID = appID) (ofEnv : deployment.environmentID = envID)
    (ok : (ensureTrafficForDeployment deploymentID routeID backendID).result w = .ok ()) :
    ∃ domain, chosenDomain w deploymentID = some domain ∧
      Promoted appID envID domain deploymentID w
        ((ensureTrafficForDeployment deploymentID routeID backendID).out w) := by
  obtain ⟨found, app, route, new, mid, here, owner, ensured, promoted⟩ := ensure_ok refs ok
  obtain rfl : deployment = found := Option.some.inj (row.symm.trans here)
  have same : deployment.id = deploymentID := Table.key_of_find? row
  have sameApp : app.id = appID := (Table.key_of_find? owner).trans ofApp
  have refs' : World.References
      ((ensureTrafficForDeployment deploymentID routeID backendID).out w) :=
    (ensureTrafficForDeployment_every references_effects _ _ _).run_preserves refs
  generalize (ensureTrafficForDeployment deploymentID routeID backendID).out w = w' at promoted refs' ⊢
  rw [same] at promoted
  have backends : mid.backends = w.backends := by rw [ensured.rest]
  have deployments : mid.deployments = w.deployments := by rw [ensured.rest]
  have mem_routes : ∀ r, r ∈ w'.routes ↔ r = route ∨ r ∈ w.routes := by
    rw [promoted.routes]
    exact ensured.routes
  have isRoute : IsRoute w' appID envID (trafficDomain app deployment) route :=
    ⟨(mem_routes route).mpr (.inl rfl), ensured.app.trans sameApp, ensured.environment.trans ofEnv,
      ensured.domain⟩
  have onRoute : ∀ {r}, IsRoute w appID envID (trafficDomain app deployment) r → r = route :=
    fun is => isRoute_unique refs' ⟨(mem_routes _).mpr (.inr is.1), is.2⟩ isRoute
  refine ⟨trafficDomain app deployment, by rw [chosenDomain, row, Option.bind_some, owner]; rfl, ?_⟩
  refine
    { backend := ⟨route, new, isRoute, (promoted.backends new).mpr (.inl rfl), promoted.route,
        promoted.deployment, promoted.status, promoted.weight,
        fun other member ofRoute live => promoted.alone member ofRoute live⟩
      elsewhere := fun other different => ?_
      stays := fun id has => ?_
      demoted := fun id other has d found => ?_
      own := ?_ }
  · rw [mem_liveDomains, mem_liveDomains]
    -- a route of another domain is an old one, with another id
    have apart : ∀ {r}, IsRoute w' appID envID other r → r ∈ w.routes ∧ r.id ≠ route.id := by
      rintro r ⟨member, -, -, domain⟩
      have notRoute : r ≠ route := by
        rintro rfl
        exact different (domain.symm.trans ensured.domain)
      refine ⟨((mem_routes r).mp member).resolve_left notRoute, fun sameID => notRoute ?_⟩
      exact Table.eq_of_key_eq member isRoute.1 sameID
    constructor
    · rintro ⟨r, is, b, member, ofRoute, live⟩
      obtain ⟨old, otherID⟩ := apart is
      have off : b.routeID ≠ route.id := ofRoute.trans_ne otherID
      refine ⟨r, ⟨old, is.2⟩, b, ?_, ofRoute, live⟩
      rw [← backends]
      exact (promoted.mem_other off).mp member
    · rintro ⟨r, is, b, member, ofRoute, live⟩
      have is' : IsRoute w' appID envID other r := ⟨(mem_routes r).mpr (.inr is.1), is.2⟩
      have off : b.routeID ≠ route.id := ofRoute.trans_ne (apart is').2
      rw [← backends] at member
      exact ⟨r, is', b, (promoted.mem_other off).mpr member, ofRoute, live⟩
  · obtain ⟨r, is, b, member, ofRoute, ofDeployment⟩ := has
    obtain rfl := onRoute is
    rw [← backends] at member
    obtain ⟨b', member', ofRoute', ofDeployment'⟩ := promoted.keeps member ofRoute
    exact ⟨r, isRoute, b', member', ofRoute', ofDeployment'.trans ofDeployment⟩
  · obtain ⟨r, is, b, member, ofRoute, ofDeployment⟩ := has
    obtain rfl := onRoute is
    have prior : PriorOn mid r.id deploymentID id :=
      ⟨other, b, by rw [backends]; exact member, ofRoute, ofDeployment⟩
    rw [World.getDeployment, promoted.deployments, deployments, Option.mem_def,
      Option.map_eq_some_iff] at found
    obtain ⟨d', -, rfl⟩ := found
    rw [if_pos prior]
    exact (fun h => by cases h)
  · have spared : ¬ PriorOn mid route.id deploymentID deploymentID := fun prior => prior.1 rfl
    rw [World.getDeployment, promoted.deployments, deployments]
    simp only [if_neg spared, Option.map_id']

end Event

/-! ## The whole history -/

section Whole

variable {w w' : World} {appID envID deploymentID : UUID} {domain : String} {promoted : List UUID}

/-- All live backends are on one domain, and every deployment promoted so far has a
backend on its route. -/
structure OnOneDomain (appID envID : UUID) (domain : String) (w : World) (promoted : List UUID) :
    Prop where
  live : domain ∈ liveDomains w appID envID
  only : ∀ other ∈ liveDomains w appID envID, other = domain
  backends : ∀ id ∈ promoted, HasBackend w appID envID domain id

theorem Promoted.live (step : Promoted appID envID domain deploymentID w w') :
    domain ∈ liveDomains w' appID envID := by
  obtain ⟨r, b, is, member, ofRoute, -, active, weight, -⟩ := step.backend
  refine mem_liveDomains.mpr ⟨r, is, b, member, ofRoute, active, ?_⟩
  rw [weight]
  decide

/-- A promotion settles the history on its domain when all that was live, and
everything promoted before, is on that domain. -/
theorem Promoted.converges (step : Promoted appID envID domain deploymentID w w')
    (only : ∀ other ∈ liveDomains w appID envID, other = domain)
    (backends : ∀ id ∈ promoted, HasBackend w appID envID domain id) :
    OnOneDomain appID envID domain w' (deploymentID :: promoted) where
  live := step.live
  only other member := by
    by_contra different
    exact different (only other ((step.elsewhere other different).mp member))
  backends id member := by
    rcases List.mem_cons.mp member with rfl | earlier
    · obtain ⟨r, b, is, member, ofRoute, ofDeployment, -⟩ := step.backend
      exact ⟨r, is, b, member, ofRoute, ofDeployment⟩
    · exact step.stays id (backends id earlier)

theorem Promoted.exclusive (refs : w'.References)
    (step : Promoted appID envID domain deploymentID w w')
    (only : ∀ other ∈ liveDomains w appID envID, other = domain)
    (backends : ∀ id ∈ promoted, HasBackend w appID envID domain id)
    (healthy : ∃ d ∈ w.getDeployment deploymentID, d.status = .healthy) :
    Exclusive appID envID w' deploymentID (deploymentID :: promoted) := by
  obtain ⟨r, b, is, member, ofRoute, ofDeployment, active, weight, alone⟩ := step.backend
  refine ⟨by rw [step.own]; exact healthy, fun id seen d found status => ?_,
    b, member, ofDeployment, active, weight, ⟨r, is.1, ofRoute.symm, is.2.1, is.2.2.1⟩,
    fun other inTable within live => ?_⟩
  · by_contra different
    have earlier := (List.mem_cons.mp seen).resolve_left different
    exact step.demoted id different (backends id earlier) d found status
  · obtain ⟨r', inRoutes, key, ofApp, ofEnv⟩ := within
    have onDomain : r'.domain = domain := by
      apply (step.converges only backends).only
      exact mem_liveDomains.mpr ⟨r', ⟨inRoutes, ofApp, ofEnv, rfl⟩, other, inTable, key.symm, live⟩
    have sameRoute : r' = r := isRoute_unique refs ⟨inRoutes, ofApp, ofEnv, onDomain⟩ is
    exact alone other inTable (by rw [← key, sameRoute]) live

/-- What is exclusive leaves no other domain live. -/
theorem Promoted.only_of_exclusive
    (step : Promoted appID envID domain deploymentID w w')
    (exclusive : Exclusive appID envID w' deploymentID promoted) :
    ∀ other ∈ liveDomains w appID envID, other = domain := by
  intro other member
  by_contra different
  obtain ⟨-, -, b, -, -, -, -, -, unique⟩ := exclusive
  -- the new backend and the one on the other domain would be the same
  obtain ⟨r, new, is, inTable, ofRoute, -, active, weight, -⟩ := step.backend
  obtain ⟨r', is', b', inTable', ofRoute', live'⟩ :=
    mem_liveDomains.mp ((step.elsewhere other different).mpr member)
  have newIs : new = b := unique new inTable ⟨r, is.1, ofRoute.symm, is.2.1, is.2.2.1⟩
    ⟨active, by rw [weight]; decide⟩
  have otherIs : b' = b := unique b' inTable' ⟨r', is'.1, ofRoute'.symm, is'.2.1, is'.2.2.1⟩ live'
  have sameRoute : r'.id = r.id := by
    rw [← ofRoute', ← ofRoute, newIs, otherIs]
  have : r' = r := Table.eq_of_key_eq is'.1 is.1 sameRoute
  rw [← is'.2.2.2, this, is.2.2.2] at different
  exact different rfl

/-- **From a settled store on.**  The rest of the history is exclusive exactly when
it keeps choosing the settled domain. -/
theorem OnOneDomain.exclusive_iff {changes : List Change} (refs : w.References)
    (settled : OnOneDomain appID envID domain w promoted)
    (succeed : AllSucceed appID envID w changes) :
    ExclusiveThroughout appID envID w promoted changes ↔
      ∀ chosen ∈ chosenDomains w changes, chosen = domain := by
  induction changes generalizing w promoted with
  | nil => simp [ExclusiveThroughout, chosenDomains]
  | cons change rest ih =>
    obtain ⟨first, later⟩ := succeed
    have refs' : (change.apply w).References := Change.references refs
    cases kind : change.promoted with
    | none =>
      obtain ⟨routes, backends, -⟩ := Change.quiet (w := w) kind
      have settled' : OnOneDomain appID envID domain (change.apply w) promoted := by
        refine ⟨?_, ?_, fun id member => ?_⟩
        · rw [Change.quiet_live kind]
          exact settled.live
        · rw [Change.quiet_live kind]
          exact settled.only
        · simpa only [HasBackend, IsRoute, routes, backends] using settled.backends id member
      simpa [ExclusiveThroughout, chosenDomains, kind] using ih refs' settled' later
    | some id =>
      cases change with
      | promote deploymentID routeID backendID =>
        obtain rfl : deploymentID = id := Option.some.inj kind
        obtain ⟨⟨d, row, ofApp, ofEnv, healthy⟩, ok⟩ := first
        obtain ⟨chosen, chooses, step⟩ := promoted_of_ok refs row ofApp ofEnv ok
        have heads : chosenDomains w (.promote deploymentID routeID backendID :: rest) =
            chosen :: chosenDomains
              (Change.apply (.promote deploymentID routeID backendID) w) rest := by
          simp [chosenDomains, Change.promoted, chooses]
        rw [heads, List.forall_mem_cons]
        constructor
        · rintro ⟨now, after⟩
          have exclusive := now deploymentID rfl
          have same := step.only_of_exclusive exclusive domain settled.live
          subst same
          refine ⟨rfl, ?_⟩
          exact (ih refs' (step.converges settled.only settled.backends) later).mp after
        · rintro ⟨rfl, others⟩
          refine ⟨?_, (ih refs' (step.converges settled.only settled.backends) later).mpr others⟩
          rintro id ⟨⟩
          exact step.exclusive refs' settled.only settled.backends ⟨d, row, healthy⟩
      | _ => cases kind

/-- **One active deployment per environment.**  In a history of successful
promotions the deployment promoted last is, after every promotion, the only
healthy one among those promoted and the only live one of the (app, environment),
exactly when all promotions choose one domain and nothing was live on another
domain before. -/
theorem exclusive_throughout_iff (refs : w.References) {changes : List Change}
    (succeed : AllSucceed appID envID w changes) :
    ExclusiveThroughout appID envID w [] changes ↔
      ∀ domain ∈ chosenDomains w changes,
        ∀ other ∈ liveDomains w appID envID ++ chosenDomains w changes, other = domain := by
  induction changes generalizing w with
  | nil => simp [ExclusiveThroughout, chosenDomains]
  | cons change rest ih =>
    obtain ⟨first, later⟩ := succeed
    have refs' : (change.apply w).References := Change.references refs
    cases kind : change.promoted with
    | none =>
      have rest := ih refs' later
      rw [Change.quiet_live kind] at rest
      simpa [ExclusiveThroughout, chosenDomains, kind] using rest
    | some id =>
      cases change with
      | promote deploymentID routeID backendID =>
        obtain rfl : deploymentID = id := Option.some.inj kind
        obtain ⟨⟨d, row, ofApp, ofEnv, healthy⟩, ok⟩ := first
        obtain ⟨chosen, chooses, step⟩ := promoted_of_ok refs row ofApp ofEnv ok
        have heads : chosenDomains w (.promote deploymentID routeID backendID :: rest) =
            chosen :: chosenDomains
              (Change.apply (.promote deploymentID routeID backendID) w) rest := by
          simp [chosenDomains, Change.promoted, chooses]
        rw [heads]
        constructor
        · rintro ⟨now, after⟩
          have only := step.only_of_exclusive (now deploymentID rfl)
          have others := (OnOneDomain.exclusive_iff refs' (step.converges only (by simp)) later).mp after
          have all : ∀ other ∈ liveDomains w appID envID ++ chosen :: chosenDomains
              (Change.apply (.promote deploymentID routeID backendID) w) rest,
              other = chosen := by
            intro other member
            simp only [List.mem_append, List.mem_cons] at member
            rcases member with member | rfl | member
            · exact only other member
            · rfl
            · exact others other member
          intro domain member other member'
          rw [all other member', all domain (List.mem_append_right _ member)]
        · intro all
          have only : ∀ other ∈ liveDomains w appID envID, other = chosen := fun other member =>
            all chosen List.mem_cons_self other (List.mem_append_left _ member)
          refine ⟨?_, (OnOneDomain.exclusive_iff refs' (step.converges only (by simp)) later).mpr ?_⟩
          · rintro id ⟨⟩
            exact step.exclusive refs' only (by simp) ⟨d, row, healthy⟩
          · intro other member
            exact all chosen List.mem_cons_self other
              (List.mem_append_right _ (List.mem_cons_of_mem chosen member))
      | _ => cases kind

end Whole

section Verification

/-- Two deployments of one environment with the same platform domain, and an app
whose custom domain is not verified yet. -/
def unverified : World :=
  { projects := .single shopOfTeam
    apps := ⟨[{ id := 20, projectID := 10, name := "web", slug := "web",
                customDomain := some "www.example.com" }], by decide⟩
    builds := .single builtWeb
    deployments := ⟨[1, 2].map fun n =>
      { id := n, appID := 20, environmentID := 40, buildID := 30, createdAt := n.toNat,
        status := .deploying, platformDomain := "web-shop-team.example.org" }, by decide⟩ }

theorem unverified_references : unverified.References where
  deploymentBuild := by decide
  backendDeployment := by decide
  backendRoute := by decide
  targetServer := by decide
  targetDeployment := by decide
  uniqueBackend := by decide
  uniqueRoute := by decide

def plainHistory : List Change :=
  [.complete 1, .promote 1 51 61, .complete 2, .promote 2 52 62]

/-- The custom domain is verified between the two promotions. -/
def verifiedBetween : List Change :=
  [.complete 1, .promote 1 51 61, .setAppDomainVerified 20 true, .complete 2, .promote 2 52 62]

theorem plainHistory_succeeds : AllSucceed 20 40 unverified plainHistory :=
  ⟨trivial, ⟨⟨_, rfl, by decide⟩, by decide⟩, trivial, ⟨⟨_, rfl, by decide⟩, by decide⟩, trivial⟩

/-- Every promotion succeeds, and at the end both deployments are healthy, each with a
live backend on a route of its own. -/
theorem two_live_after_verification :
    AllSucceed 20 40 unverified verifiedBetween ∧
      ¬ ExclusiveThroughout 20 40 unverified [] verifiedBetween := by
  refine ⟨⟨trivial, ⟨⟨_, rfl, by decide⟩, by decide⟩, trivial, trivial,
    ⟨⟨_, rfl, by decide⟩, by decide⟩, trivial⟩, ?_⟩
  rintro ⟨-, -, -, -, last, -⟩
  obtain ⟨-, onlyHealthy, -⟩ := last 2 rfl
  exact absurd (onlyHealthy 1 (by decide) _ rfl (by decide)) (by decide)

theorem one_live_without_verification : ExclusiveThroughout 20 40 unverified [] plainHistory := by
  have live : liveDomains unverified 20 40 = [] := by decide
  have chosen : chosenDomains unverified plainHistory =
      ["web-shop-team.example.org", "web-shop-team.example.org"] := by decide
  refine (exclusive_throughout_iff unverified_references plainHistory_succeeds).mpr ?_
  rw [live, chosen]
  decide

end Verification

end Nixway.Deploy
