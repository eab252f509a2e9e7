/-
# Deploy.AppDomain -- the handlers that write custom domains

`AppHandler.Update`, `SetDomain` and `VerifyDomain` of `internal/api/handler/app.go`, one
atomic step per SQL statement.  The custom domain and the flag that says it is verified
are written by different statements; `Update` writes the domain and leaves the flag.

The history of a custom domain stands beside its row: every change of the column to a
string, and every success of `VerifyDomain`, with the string it looked up.  No handler
reads it.  `Cleared` says what it is kept for: a string may be routed if it never was the
app's custom domain, or if it was verified since the column was last changed to it.
-/
import Mathlib.Data.List.Infix
import Nixway.Access.Tokens
import Nixway.Deploy.Dispatch

namespace Nixway.Deploy

open Nixway.Theory Nixway.Store
open Nixway.Theory.Prog (query exec atomic)
open Nixway.Access (Refusal)

set_option autoImplicit false

/-! ## The history of a custom domain -/

/-- The custom domain of the app now. -/
def customDomain (w : World) (appID : UUID) : Option String :=
  (w.getApp appID).bind App.customDomain

/-- `VerifyDomain` succeeded for the string after the last change to it. -/
def verifiedSince (appID : UUID) (domain : String) (log : List DomainEvent) : Bool :=
  log.foldl (fun known event =>
    if event = .verified appID domain then true
    else if event = .changed appID domain then false
    else known) false

/-- The string never was the custom domain of the app, or is verified since. -/
def Cleared (appID : UUID) (log : List DomainEvent) (domain : String) : Prop :=
  .changed appID domain ∈ log → verifiedSince appID domain log

instance (appID : UUID) (log : List DomainEvent) (domain : String) :
    Decidable (Cleared appID log domain) :=
  inferInstanceAs (Decidable (_ → _))

section Cleared

variable {appID : UUID} {log : List DomainEvent} {domain : String}

theorem cleared_nil (appID : UUID) (domain : String) : Cleared appID [] domain := by
  intro changed
  cases changed

theorem verifiedSince_concat (event : DomainEvent) :
    verifiedSince appID domain (log ++ [event]) =
      if event = .verified appID domain then true
      else if event = .changed appID domain then false
      else verifiedSince appID domain log := by
  rw [verifiedSince, List.foldl_append]
  rfl

theorem cleared_verified : Cleared appID (log ++ [.verified appID domain]) domain := by
  intro _
  simp [verifiedSince_concat]

/-- Nothing but a change to the string takes its clearance away. -/
theorem Cleared.concat (cleared : Cleared appID log domain) {event : DomainEvent}
    (other : event ≠ .changed appID domain) : Cleared appID (log ++ [event]) domain := by
  intro changed
  have before : .changed appID domain ∈ log := by
    rcases List.mem_append.mp changed with old | new
    · exact old
    · exact absurd (List.mem_singleton.mp new).symm other
  rw [verifiedSince_concat]
  split
  · rfl
  · exact cleared before

theorem Cleared.append (cleared : Cleared appID log domain) {events : List DomainEvent}
    (unchanged : .changed appID domain ∉ events) : Cleared appID (log ++ events) domain := by
  induction events generalizing log with
  | nil => simpa using cleared
  | cons event rest ih =>
    have other : event ≠ .changed appID domain := by
      rintro rfl
      exact unchanged List.mem_cons_self
    have later : .changed appID domain ∉ rest := fun mem => unchanged (List.mem_cons_of_mem _ mem)
    simpa using ih (cleared.concat other) later

theorem cleared_of_not_changed (never : .changed appID domain ∉ log) :
    Cleared appID log domain :=
  fun changed => absurd changed never

end Cleared

/-! ## The statement that writes the domain -/

/-- The events of a statement that leaves `after`: a change, if the column has a new string. -/
def domainChange (before after : World) (appID : UUID) : List DomainEvent :=
  match customDomain after appID with
  | some domain => if customDomain before appID = some domain then [] else [.changed appID domain]
  | none => []

/-- `UpdateApp`, with the change it makes; a missing row is an error. -/
def writeApp (arg : World.UpdateAppParams) (w : World) : World × Option App :=
  let after := w.updateApp arg
  ({ after with domainLog := w.domainLog ++ domainChange w after arg.id }, after.getApp arg.id)

theorem getApp_setAppDomainVerified (w : World) (id : UUID) (verified : Bool) :
    (w.setAppDomainVerified id verified).getApp id =
      (w.getApp id).map fun app => { app with domainVerified := verified } := by
  rw [World.getApp, World.setAppDomainVerified, Table.find?_update_self]

/-- `UpdateApp` writes the domain, and leaves the flag, the slug and the other domains. -/
theorem getApp_updateApp (w : World) (arg : World.UpdateAppParams) :
    ∃ f : App → App, (w.updateApp arg).getApp arg.id = (w.getApp arg.id).map f ∧
      ∀ app, (f app).customDomain = arg.customDomain ∧
        (f app).domainVerified = app.domainVerified ∧ (f app).slug = app.slug ∧
          (f app).domains = app.domains := by
  refine ⟨arg.row, ?_, fun app => ⟨rfl, rfl, rfl, rfl⟩⟩
  rw [World.getApp, World.updateApp, Table.find?_update_self]

/-! ## AppHandler -/

/-- `updateAppRequest`; a field the body does not give is zero, empty or missing.  An id is
what `uuid.Parse` makes of the text; blank texts are dropped before. -/
structure UpdateAppRequest where
  name : String := ""
  branch : Option String := none
  rootPath : String := ""
  autoDeploy : Bool := false
  builder : String := ""
  dockerfilePath : String := ""
  port : Int := 0
  healthCheckPath : String := ""
  healthCheckInterval : Int := 0
  healthCheckTimeout : Int := 0
  replicas : Int32 := 0
  subdomain : Option String := none
  customDomain : Option String := none
  status : String := ""
  placementStrategy : String := ""
  placementConstraints : Option Constraints := none
  pinnedServerIDs : Option (List (Option UUID)) := none

/-- What the resolver answers for a name: the canonical name, or an error, and the addresses. -/
structure Lookup where
  cname : Option String := none
  hosts : List String := []

namespace AppHandler

/-- `parseUUIDList` of the ids a request gives, else the ids of the row. -/
def pinned (current : App) (req : UpdateAppRequest) : Option (List UUID) :=
  match req.pinnedServerIDs with
  | none => some current.pinnedServerIDs
  | some ids => ids.mapM id

/-- `defaultPlacementStrategy`: what is not another strategy is 'spread'. -/
def defaultPlacementStrategy (strategy : String) : PlacementStrategy :=
  match PlacementStrategy.ofText strategy with
  | some .binpack => .binpack
  | some .pinned => .pinned
  | _ => .spread

/-- A blank strategy keeps that of the row. -/
def strategy (current : App) (req : UpdateAppRequest) : PlacementStrategy :=
  if req.placementStrategy = "" then current.placementStrategy
  else defaultPlacementStrategy req.placementStrategy

/-- The arguments of `UpdateApp`; the CHECKs refuse a builder or a status they do not list. -/
def updateParams (appID : UUID) (current : App) (req : UpdateAppRequest) (pinned : List UUID) :
    Option World.UpdateAppParams := do
  let builder ← Builder.ofText req.builder
  let status ← AppStatus.ofText (if req.status = "" then "active" else req.status)
  return {
    id := appID
    name := req.name
    branch := req.branch
    rootPath := req.rootPath
    autoDeploy := req.autoDeploy
    builder := builder
    dockerfilePath := req.dockerfilePath
    port := req.port
    healthCheckPath := req.healthCheckPath
    healthCheckInterval := req.healthCheckInterval
    healthCheckTimeout := req.healthCheckTimeout
    replicas := req.replicas
    subdomain := req.subdomain
    customDomain := req.customDomain
    status := status
    placementStrategy := strategy current req
    placementConstraints := req.placementConstraints.getD current.placementConstraints
    pinnedServerIDs := pinned }

theorem id_of_updateParams {appID : UUID} {current : App} {req : UpdateAppRequest}
    {pinned : List UUID} {arg : World.UpdateAppParams}
    (params : updateParams appID current req pinned = some arg) : arg.id = appID := by
  simp only [updateParams, Option.bind_eq_bind, Option.bind_eq_some_iff] at params
  obtain ⟨builder, -, status, -, rest⟩ := params
  cases rest
  rfl

/-- `AppHandler.Update`, once the body is decoded. -/
def update (appID : UUID) (req : UpdateAppRequest) : Prog World (Except Refusal App) := do
  let some current ← query fun w => w.getApp appID
    | return .error ⟨404, "app not found"⟩
  match pinned current req with
  | none => return .error ⟨400, "invalid pinned_server_ids"⟩
  | some pinned =>
    match updateParams appID current req pinned with
    | none => return .error ⟨500, "failed to update app"⟩
    | some arg =>
      let some app ← atomic (writeApp arg)
        | return .error ⟨500, "failed to update app"⟩
      return .ok app

/-- The row as it was read, with another domain. -/
def domainParams (appID : UUID) (app : App) (domain : String) : World.UpdateAppParams :=
  { id := appID
    name := app.name
    branch := app.branch
    rootPath := app.rootPath
    autoDeploy := app.autoDeploy
    builder := app.builder
    dockerfilePath := app.dockerfilePath
    port := app.port
    healthCheckPath := app.healthCheckPath
    healthCheckInterval := app.healthCheckInterval
    healthCheckTimeout := app.healthCheckTimeout
    replicas := app.replicas
    subdomain := app.subdomain
    customDomain := some domain
    status := app.status
    placementStrategy := app.placementStrategy
    placementConstraints := app.placementConstraints
    pinnedServerIDs := app.pinnedServerIDs }

/-- `AppHandler.SetDomain`: the flag is taken down first, then the row is read and
written back with the new domain. -/
def setDomain (appID : UUID) (domain : String) : Prog World (Except Refusal App) := do
  if domain = "" then
    return .error ⟨400, "custom_domain is required"⟩
  exec fun w => w.setAppDomainVerified appID false
  let some app ← query fun w => w.getApp appID
    | return .error ⟨404, "app not found"⟩
  let some app ← atomic (writeApp (domainParams appID app domain))
    | return .error ⟨500, "failed to update domain"⟩
  return .ok app

/-- The target of a verified domain: a canonical name under `nip.io`, else the first
address, whatever it is. -/
def verifiedTarget (lookup : Lookup) : Option String :=
  match lookup.cname.filter fun name => "nip.io".toList <:+: name.toList with
  | some name => some name
  | none => lookup.hosts.head?

/-- `AppHandler.VerifyDomain`: the flag is set for the domain of a row read before the
lookup.  The answer has the domain and the target, if it is verified. -/
def verifyDomain (appID : UUID) (resolve : String → Lookup) :
    Prog World (Except Refusal (String × Option String)) := do
  let some app ← query fun w => w.getApp appID
    | return .error ⟨404, "app not found"⟩
  match app.customDomain.filter fun domain => domain ≠ "" with
  | none => return .error ⟨400, "no custom domain set"⟩
  | some domain =>
    match verifiedTarget (resolve domain) with
    | none => return .ok (domain, none)
    | some target =>
      exec fun w =>
        { w.setAppDomainVerified appID true with
          domainLog := w.domainLog ++ [.verified appID domain] }
      return .ok (domain, some target)

end AppHandler

end Nixway.Deploy
