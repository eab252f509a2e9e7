/-
# Agent.Traefik -- the dynamic files an agent writes

The parts of `apps/agent/deploy.go` and `apps/agent/traffic_route.go` that write
and remove files of the Traefik directory.  A file is what it is written from:
routers with the domains of their rule, and services.  The directory is writable,
so the errors of the file system do not occur.

What a deploy command does to the directory depends on whether its container
comes up; that outcome is an argument.  The deploy path always sets `Traefik` and
never `SkipTraefik`.
-/
import Nixway.Agent.HostRule
import Nixway.Store.Schema
import Nixway.Theory.Text

namespace Nixway.Agent

open Nixway.Store Nixway.Theory.Text

set_option autoImplicit false

/-! ## Documents -/

inductive EntryPoint where
  | web | websecure
deriving DecidableEq

/-- A router; its rule is the `hostRule` of its domains. -/
structure Router where
  name : String
  domains : List String
  entryPoint : EntryPoint
  tls : Bool
  service : String
deriving DecidableEq

/-- A service: a load balancer over URLs, or a weighted choice of services. -/
inductive Service where
  | loadBalancer (name : String) (urls : List String)
  | weighted (name : String) (services : List (String × Int))
deriving DecidableEq

def Service.name : Service → String
  | .loadBalancer name _ => name
  | .weighted name _ => name

def Service.urls : Service → List String
  | .loadBalancer _ urls => urls
  | .weighted _ _ => []

structure DynamicConfig where
  routers : List Router
  services : List Service
deriving DecidableEq

namespace DynamicConfig

def routerNames (cfg : DynamicConfig) : List String := cfg.routers.map Router.name

def serviceNames (cfg : DynamicConfig) : List String := cfg.services.map Service.name

def rules (cfg : DynamicConfig) : List String :=
  cfg.routers.map fun router => RouteText.hostRule router.domains

def urls (cfg : DynamicConfig) : List String := cfg.services.flatMap Service.urls

end DynamicConfig

def routerPair (name service : String) (domains : List String) : List Router :=
  [⟨name, domains, .web, false, service⟩, ⟨name ++ "-tls", domains, .websecure, true, service⟩]

/-- `<slug>.yml`. -/
def configFile (appSlug : String) : String := appSlug ++ ".yml"

/-! ## Names -/

/-- The class `[a-zA-Z0-9-]`. -/
def safeChar (c : Char) : Bool :=
  ('a' ≤ c && c ≤ 'z') || ('A' ≤ c && c ≤ 'Z') || ('0' ≤ c && c ≤ '9') || c = '-'

/-- `safeTraefikName.ReplaceAllString(value, "-")`. -/
def cleanName (value : String) : String := replaceUnless safeChar '-' value

def safeName (value : String) : String :=
  let cleaned := trim '-' (cleanName value)
  if cleaned = "" then "backend" else cleaned

/-! ## Writing -/

/-- The file of one replica. -/
def writeTraefikConfig (cfg : TraefikConfig) (port : Int) (containerName : String) :
    String × DynamicConfig :=
  let target := if containerName ≠ "" then containerName else "localhost"
  (configFile cfg.appSlug,
    { routers := routerPair cfg.appSlug cfg.appSlug cfg.domains
      services := [.loadBalancer cfg.appSlug ["http://" ++ target ++ ":" ++ toString port]] })

def liveGroups (groups : List TrafficBackendGroup) : List TrafficBackendGroup :=
  groups.filter fun g => 0 < g.weight ∧ g.urls ≠ []

def weightedServices (name : String) (groups : List TrafficBackendGroup) : List Service :=
  .weighted name (groups.map fun g => (safeName g.name, g.weight)) ::
    groups.map fun g => .loadBalancer (safeName g.name) g.urls

/-- The file of a routing command. -/
def writeWeightedTraefikConfig (cmd : TrafficRouteCommand) :
    Except String (String × DynamicConfig) :=
  if cmd.appSlug = "" then .error "app slug is required"
  else if cmd.domains = [] then .error "at least one domain is required"
  else if cmd.groups = [] then .error "at least one backend group is required"
  else
    let hosts := cmd.domains.filter (· ≠ "")
    if hosts = [] then .error "at least one non-empty domain is required"
    else
      let weightedService := safeName (cmd.appSlug ++ "-weighted")
      .ok (configFile cmd.appSlug,
        { routers := routerPair (safeName cmd.appSlug) weightedService hosts
          services := weightedServices weightedService (liveGroups cmd.groups) })

/-- `cmd.Labels[key]`. -/
def label (labels : EnvMap) (key : String) : String := (labels.lookup key).getD ""

/-- The replica is exposed on the mesh, and the edge routes to it. -/
def edgeMode (cmd : DeployCommand) : Bool :=
  label cmd.labels "nixway.host_port" ≠ "" && label cmd.labels "nixway.bind_address" ≠ "" &&
    0 < cmd.port

/-- What a message makes the agent write, its container coming up. -/
def written : ControlMessage → Option (String × DynamicConfig)
  | .deployCommand cmd =>
    if edgeMode cmd then none
    else some (writeTraefikConfig cmd.traefik cmd.port cmd.containerName)
  | .trafficRoute cmd => (writeWeightedTraefikConfig cmd).toOption
  | .stopContainer _ => none
  | .execCommand _ => none

/-- The file a message makes the agent remove. -/
def removed : ControlMessage → Option String
  | .stopContainer cmd =>
    if cmd.removeTraefik ∧ cmd.appSlug ≠ "" then some (configFile cmd.appSlug) else none
  | .deployCommand _ => none
  | .trafficRoute _ => none
  | .execCommand _ => none

/-! ## What a written file holds -/

theorem routerNames_pair (name service : String) (domains : List String)
    (services : List Service) :
    DynamicConfig.routerNames ⟨routerPair name service domains, services⟩ =
      [name, name ++ "-tls"] := rfl

theorem toOption_eq_some {result : Except String (String × DynamicConfig)}
    {file : String × DynamicConfig} : result.toOption = some file ↔ result = .ok file := by
  cases result with
  | error err => simp [Except.toOption]
  | ok other => simp [Except.toOption]

/-- A routing command is written when it has a slug, a group and a domain. -/
theorem writeWeighted_eq_ok {cmd : TrafficRouteCommand} {file : String × DynamicConfig} :
    writeWeightedTraefikConfig cmd = .ok file ↔
      cmd.appSlug ≠ "" ∧ cmd.groups ≠ [] ∧ cmd.domains.filter (· ≠ "") ≠ [] ∧
        file = (configFile cmd.appSlug,
          { routers := routerPair (safeName cmd.appSlug) (safeName (cmd.appSlug ++ "-weighted"))
              (cmd.domains.filter (· ≠ ""))
            services := weightedServices (safeName (cmd.appSlug ++ "-weighted"))
              (liveGroups cmd.groups) }) := by
  unfold writeWeightedTraefikConfig
  split
  · next empty => simp [empty]
  split
  · next empty => simp [empty]
  split
  · next empty => simp [empty]
  next noSlug _ noGroups =>
  dsimp only
  split
  · next empty => exact ⟨(nomatch ·), fun found => absurd empty found.2.2.1⟩
  · next hosts =>
    constructor
    · intro ok
      exact ⟨noSlug, noGroups, hosts, (Except.ok.inj ok).symm⟩
    · rintro ⟨-, -, -, rfl⟩
      rfl

/-! ## The directory -/

/-- The files of `/etc/traefik/dynamic`. -/
abbrev DynamicDir := String → Option DynamicConfig

/-- One message handled; a deploy command whose container fails writes nothing. -/
def handle (comesUp : DeployCommand → Bool) (dir : DynamicDir) (msg : ControlMessage) :
    DynamicDir :=
  match msg with
  | .deployCommand cmd => if comesUp cmd then write dir (written msg) else dir
  | _ => remove (write dir (written msg)) (removed msg)
where
  write (dir : DynamicDir) : Option (String × DynamicConfig) → DynamicDir
    | some (file, cfg) => Function.update dir file (some cfg)
    | none => dir
  remove (dir : DynamicDir) : Option String → DynamicDir
    | some file => Function.update dir file none
    | none => dir

end Nixway.Agent
