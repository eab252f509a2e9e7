/-
# Store.Integrity -- what the database's constraints promise

`World.References` collects the foreign keys and the unique constraints of the
tables in `Store.Schema` that no primary key covers.  The database keeps them, so
a theorem may start from a world that has them.
-/
import Nixway.Store.Queries

namespace Nixway.Store

open Nixway.Theory

set_option autoImplicit false

namespace World

/-- Foreign keys and unique constraints. -/
structure References (w : World) : Prop where
  deploymentBuild : ∀ d ∈ w.deployments, (w.builds.find? d.buildID).isSome
  backendDeployment : ∀ b ∈ w.backends, (w.deployments.find? b.deploymentID).isSome
  backendRoute : ∀ b ∈ w.backends, (w.routes.find? b.routeID).isSome
  targetServer : ∀ t ∈ w.targets, (w.servers.find? t.serverID).isSome
  targetDeployment : ∀ t ∈ w.targets, (w.deployments.find? t.deploymentID).isSome
  uniqueBackend : ∀ b ∈ w.backends, ∀ b' ∈ w.backends,
    b.routeID = b'.routeID → b.deploymentID = b'.deploymentID → b = b'
  uniqueRoute : ∀ r ∈ w.routes, ∀ r' ∈ w.routes,
    r.appID = r'.appID → r.environmentID = r'.environmentID → r.domain = r'.domain → r = r'

section Kept

variable {w w' : World}

theorem References.of_tables (refs : w.References) (deployments : w'.deployments = w.deployments)
    (builds : w'.builds = w.builds) (backends : w'.backends = w.backends)
    (routes : w'.routes = w.routes) (targets : w'.targets = w.targets)
    (servers : w'.servers = w.servers) : w'.References := by
  obtain ⟨h1, h2, h3, h4, h5, h6, h7⟩ := refs
  constructor <;> simp only [deployments, builds, backends, routes, targets, servers] <;> assumption

theorem References.updateDeployment (refs : w.References) (id : UUID) (f : Deployment → Deployment)
    (keeps : ∀ r : Deployment, Keyed.key (f r) = Keyed.key r)
    (build : ∀ r, (f r).buildID = r.buildID) :
    References { w with deployments := w.deployments.update id f keeps } where
  deploymentBuild := by
    intro d member
    obtain ⟨old, inTable, rfl⟩ := (Table.mem_update keeps).mp member
    have found := refs.deploymentBuild old inTable
    split
    · rw [build]
      exact found
    · exact found
  backendDeployment b member := by
    rw [Table.isSome_find?_update]
    exact refs.backendDeployment b member
  backendRoute := refs.backendRoute
  targetServer := refs.targetServer
  targetDeployment t member := by
    rw [Table.isSome_find?_update]
    exact refs.targetDeployment t member
  uniqueBackend := refs.uniqueBackend
  uniqueRoute := refs.uniqueRoute

theorem References.updateBackend (refs : w.References) (id : UUID)
    (f : TrafficBackend → TrafficBackend)
    (keeps : ∀ r : TrafficBackend, Keyed.key (f r) = Keyed.key r)
    (route : ∀ r, (f r).routeID = r.routeID) (deployment : ∀ r, (f r).deploymentID = r.deploymentID) :
    References { w with backends := w.backends.update id f keeps } := by
  have fields : ∀ old : TrafficBackend,
      (if Keyed.key old = id then f old else old).routeID = old.routeID ∧
        (if Keyed.key old = id then f old else old).deploymentID = old.deploymentID := by
    intro old
    split
    · exact ⟨route old, deployment old⟩
    · exact ⟨rfl, rfl⟩
  refine
    { deploymentBuild := refs.deploymentBuild
      backendDeployment := ?_
      backendRoute := ?_
      targetServer := refs.targetServer
      targetDeployment := refs.targetDeployment
      uniqueBackend := ?_
      uniqueRoute := refs.uniqueRoute }
  · intro b member
    obtain ⟨old, inTable, rfl⟩ := (Table.mem_update keeps).mp member
    rw [(fields old).2]
    exact refs.backendDeployment old inTable
  · intro b member
    obtain ⟨old, inTable, rfl⟩ := (Table.mem_update keeps).mp member
    rw [(fields old).1]
    exact refs.backendRoute old inTable
  · intro b member b' member' sameRoute sameDeployment
    obtain ⟨old, inTable, rfl⟩ := (Table.mem_update keeps).mp member
    obtain ⟨old', inTable', rfl⟩ := (Table.mem_update keeps).mp member'
    rw [(fields old).1, (fields old').1] at sameRoute
    rw [(fields old).2, (fields old').2] at sameDeployment
    rw [refs.uniqueBackend old inTable old' inTable' sameRoute sameDeployment]

/-- An INSERT of a backend whose references resolve and whose pair is free. -/
theorem References.insertBackend (refs : w.References) {b : TrafficBackend}
    {rows : Table TrafficBackend} (inserted : w.backends.insert? b = some rows)
    (route : (w.routes.find? b.routeID).isSome)
    (deployment : (w.deployments.find? b.deploymentID).isSome)
    (free : w.backendOf b.routeID b.deploymentID = none) :
    References { w with backends := rows } := by
  have unpaired : ∀ b' ∈ w.backends, b'.routeID = b.routeID → b'.deploymentID ≠ b.deploymentID := by
    intro b' member sameRoute sameDeployment
    have none := List.find?_eq_none.mp free b' member
    simp [sameRoute, sameDeployment] at none
  refine
    { deploymentBuild := refs.deploymentBuild
      backendDeployment := ?_
      backendRoute := ?_
      targetServer := refs.targetServer
      targetDeployment := refs.targetDeployment
      uniqueBackend := ?_
      uniqueRoute := refs.uniqueRoute }
  · intro b' member
    rcases (Table.mem_insert? inserted).mp member with rfl | old
    · exact deployment
    · exact refs.backendDeployment b' old
  · intro b' member
    rcases (Table.mem_insert? inserted).mp member with rfl | old
    · exact route
    · exact refs.backendRoute b' old
  · intro b₁ member₁ b₂ member₂ sameRoute sameDeployment
    rcases (Table.mem_insert? inserted).mp member₁ with rfl | old₁
    · rcases (Table.mem_insert? inserted).mp member₂ with rfl | old₂
      · rfl
      · exact absurd sameDeployment.symm (unpaired b₂ old₂ sameRoute.symm)
    · rcases (Table.mem_insert? inserted).mp member₂ with rfl | old₂
      · exact absurd sameDeployment (unpaired b₁ old₁ sameRoute)
      · exact refs.uniqueBackend b₁ old₁ b₂ old₂ sameRoute sameDeployment

theorem References.insertRoute (refs : w.References) {r : TrafficRoute}
    {rows : Table TrafficRoute} (inserted : w.routes.insert? r = some rows)
    (free : ∀ r' ∈ w.routes, r'.appID = r.appID → r'.environmentID = r.environmentID →
      r'.domain ≠ r.domain) :
    References { w with routes := rows } := by
  refine
    { deploymentBuild := refs.deploymentBuild
      backendDeployment := refs.backendDeployment
      backendRoute := ?_
      targetServer := refs.targetServer
      targetDeployment := refs.targetDeployment
      uniqueBackend := refs.uniqueBackend
      uniqueRoute := ?_ }
  · intro b member
    rw [Table.find?_insert? inserted]
    split
    · rfl
    · exact refs.backendRoute b member
  · intro r₁ member₁ r₂ member₂ app environment domain
    rcases (Table.mem_insert? inserted).mp member₁ with rfl | old₁
    · rcases (Table.mem_insert? inserted).mp member₂ with rfl | old₂
      · rfl
      · exact absurd domain.symm (free r₂ old₂ app.symm environment.symm)
    · rcases (Table.mem_insert? inserted).mp member₂ with rfl | old₂
      · exact absurd domain (free r₁ old₁ app environment)
      · exact refs.uniqueRoute r₁ old₁ r₂ old₂ app environment domain

end Kept

/-- One of the deployment's backends is active with a positive weight. -/
def Routed (w : World) (deploymentID : UUID) : Prop :=
  ∃ b ∈ w.backends.rows, b.deploymentID = deploymentID ∧ b.status = .active ∧ 0 < b.weight

instance (w : World) (deploymentID : UUID) : Decidable (w.Routed deploymentID) :=
  inferInstanceAs (Decidable (∃ _ ∈ _, _))

/-- A deployment that receives traffic: it is healthy and routed. -/
def Serving (w : World) (deploymentID : UUID) : Prop :=
  (∃ d ∈ w.deployments.rows, d.id = deploymentID ∧ d.status = .healthy) ∧ w.Routed deploymentID

instance (w : World) (deploymentID : UUID) : Decidable (w.Serving deploymentID) :=
  inferInstanceAs (Decidable (_ ∧ _))

/-- The backends of one deployment, over all routes. -/
def backendsOf (w : World) (deploymentID : UUID) : List TrafficBackend :=
  w.backends.rows.filter fun b => b.deploymentID = deploymentID

/-- With its references in place every backend passes the joins of
`ListTrafficBackendsByRoute`. -/
theorem References.backendJoins {w : World} (refs : w.References) {b : TrafficBackend}
    (member : b ∈ w.backends) : w.backendJoins b = true := by
  obtain ⟨d, found⟩ := Option.isSome_iff_exists.mp (refs.backendDeployment b member)
  simp only [World.backendJoins, found, Option.any_some]
  exact refs.deploymentBuild d (Table.mem_of_find? found)

/-- The listing of a route is exactly its backends. -/
theorem References.mem_listTrafficBackendsByRoute {w : World} (refs : w.References)
    (routeID : UUID) (b : TrafficBackend) :
    b ∈ w.listTrafficBackendsByRoute routeID ↔ b ∈ w.backends ∧ b.routeID = routeID := by
  simp only [World.listTrafficBackendsByRoute, List.mem_insertionSort, List.mem_filter,
    Bool.and_eq_true, decide_eq_true_eq]
  constructor
  · rintro ⟨member, route, -⟩
    exact ⟨member, route⟩
  · rintro ⟨member, route⟩
    exact ⟨member, route, refs.backendJoins member⟩

end World

end Nixway.Store
