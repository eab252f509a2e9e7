/-
# Deploy.Names -- the names and domains the control plane builds

The pure functions of `internal/deploy/service.go` that choose the domain of a
route, list the domains of a routing command and concatenate the names of
services, containers and platform domains.
-/
import Nixway.Store.Schema
import Mathlib.Tactic.Tauto

namespace Nixway.Deploy

open Nixway.Store

set_option autoImplicit false

/-- The domain a promotion keys its route by: the verified custom domain, else the
platform domain of the deployment, else the first extra domain. -/
def trafficDomain (app : App) (deployment : Deployment) : String :=
  match app.customDomain with
  | some domain => if domain ≠ "" ∧ app.domainVerified then domain else fallback
  | none => fallback
where
  fallback : String :=
    if deployment.platformDomain ≠ "" then deployment.platformDomain
    else match app.domains with
      | first :: _ => if first ≠ "" then first else ""
      | [] => ""

/-- The closure `add` of `trafficDomains`. -/
def addDomain (domains : List String) (domain : String) : List String :=
  if domain = "" ∨ domain ∈ domains then domains else domains ++ [domain]

/-- The Host values of a routing command: the route's domain, the verified custom
domain and the extra domains, without blanks and repetitions. -/
def trafficDomains (app : App) (route : TrafficRoute) : List String :=
  let withRoute := addDomain [] route.domain
  let withCustom :=
    match app.customDomain with
    | some domain => if app.domainVerified then addDomain withRoute domain else withRoute
    | none => withRoute
  app.domains.foldl addDomain withCustom

theorem mem_addDomain {domains : List String} {domain d : String} :
    d ∈ addDomain domains domain ↔ d ∈ domains ∨ d ≠ "" ∧ d = domain := by
  unfold addDomain
  split
  · next skipped =>
    constructor
    · exact .inl
    · rintro (mem | ⟨nonempty, rfl⟩)
      · exact mem
      · exact skipped.resolve_left nonempty
  · next added =>
    obtain ⟨nonempty, -⟩ := not_or.mp added
    constructor
    · intro mem
      rcases List.mem_append.mp mem with mem | last
      · exact .inl mem
      · obtain rfl := List.mem_singleton.mp last
        exact .inr ⟨nonempty, rfl⟩
    · rintro (mem | ⟨-, rfl⟩)
      · exact List.mem_append_left _ mem
      · exact List.mem_append_right _ List.mem_cons_self

theorem mem_foldl_addDomain {added domains : List String} {d : String} :
    d ∈ added.foldl addDomain domains ↔ d ∈ domains ∨ d ≠ "" ∧ d ∈ added := by
  induction added generalizing domains with
  | nil => simp
  | cons domain rest ih =>
    rw [List.foldl_cons, ih, mem_addDomain, List.mem_cons]
    tauto

theorem mem_trafficDomains_iff {app : App} {route : TrafficRoute} {d : String} :
    d ∈ trafficDomains app route ↔ d ≠ "" ∧
      (d = route.domain ∨ app.domainVerified ∧ app.customDomain = some d ∨ d ∈ app.domains) := by
  unfold trafficDomains
  simp only [mem_foldl_addDomain]
  cases app.customDomain with
  | none =>
    simp only [mem_addDomain, List.not_mem_nil, reduceCtorEq]
    tauto
  | some domain =>
    by_cases verified : app.domainVerified
    · simp only [verified, if_true, mem_addDomain, List.not_mem_nil, Option.some.injEq,
        eq_comm (a := domain)]
      tauto
    · simp only [verified, Bool.false_eq_true, if_false, mem_addDomain, List.not_mem_nil]
      tauto

/-- The first seven bytes of a commit id. -/
def shortSHA (sha : String) : String :=
  if sha.length ≤ 7 then sha else String.ofList (sha.toList.take 7)

def trafficServiceName (appSlug label : String) (deploymentID : UUID) : String :=
  appSlug ++ "-" ++ label ++ "-" ++ deploymentID.short

/-- The docker name of a replica of the deployment. -/
def containerName (appSlug : String) (deploymentID : UUID) : String :=
  "nixway-" ++ appSlug ++ "-" ++ deploymentID.short

/-- The service's DNS settings: whether a provider is enabled, and the base domain. -/
structure DnsConfig where
  enabled : Bool := false
  baseDomain : String := ""

/-- The platform domain of `dispatchDeploy`: a name under the base domain, or under
`nip.io` with the public address in it. -/
def platformDomain (dns : DnsConfig) (appSlug projectSlug teamSlug publicIP : String) : String :=
  if dns.enabled ∧ dns.baseDomain ≠ "" then
    appSlug ++ "-" ++ projectSlug ++ "-" ++ teamSlug ++ "." ++ dns.baseDomain
  else
    appSlug ++ "-" ++ projectSlug ++ "-" ++ teamSlug ++ "." ++ publicIP ++ ".nip.io"

/-- `http://host:port`. -/
def httpURL (host : String) (port : Int) : String := "http://" ++ host ++ ":" ++ toString port

end Nixway.Deploy
