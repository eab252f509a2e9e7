/-
# Agent.Overlap -- when the Traefik files of two workloads stay apart

A workload is an app in an environment.  `Routing` collects what the control
plane builds a Traefik command of a workload from, and `dispatch_sends` and
`sync_sends` say that the two programs that send such commands build them so.

Every name an agent derives from such a command comes from the app's slug, which
is unique within its project only, and the environment enters none of them.
`NamesApart` is the condition on slugs, labels and deployment ids under which two
commands leave disjoint files, routers and services.  The domains go into a rule
as they are: what Host values Traefik takes out of the rule is left to a reader,
of which only the disjunctions of hosts are known (`RuleReader`).  The values of
plain domains are the domains.
-/
import Nixway.Agent.Traefik
import Nixway.Store.Slug
import Nixway.Deploy.Dispatch
import Nixway.Deploy.Promotion

namespace Nixway.Agent

open Nixway.Theory Nixway.Theory.Text Nixway.Store Nixway.Deploy
open Nixway.Agent.RouteText (RuleReader hostRule Plain)
open Nixway.Theory.Prog (query exec atomic forEach)

set_option autoImplicit false

/-! ## What a command is built from -/

/-- A backend of a routing command, with the URLs of its replicas. -/
structure Member where
  backend : TrafficBackend
  urls : List String

def Member.group (slug : String) (member : Member) : TrafficBackendGroup :=
  ⟨trafficServiceName slug member.backend.label member.backend.deploymentID,
    member.backend.weight, member.urls⟩

/-- What the control plane builds a Traefik command from. -/
inductive Routing where
  | dispatch (dns : DnsConfig) (app : App) (project : Project) (teamSlug publicIP : String)
      (deployment : Deployment) (target : DeploymentTarget) (build : Build) (labels env : EnvMap)
  | sync (app : App) (route : TrafficRoute) (members : List Member)

namespace Routing

def app : Routing → App
  | .dispatch _ app _ _ _ _ _ _ _ _ => app
  | .sync app _ _ => app

def environmentID : Routing → UUID
  | .dispatch _ _ _ _ _ deployment _ _ _ _ => deployment.environmentID
  | .sync _ route _ => route.environmentID

/-- The app and environment a command is for. -/
def workload (r : Routing) : UUID × UUID := (r.app.id, r.environmentID)

def members : Routing → List Member
  | .dispatch .. => []
  | .sync _ _ members => members

def message : Routing → ControlMessage
  | .dispatch dns app project teamSlug publicIP deployment target build labels env =>
    .deployCommand (deployCommand deployment target build app
      (platformDomain dns app.slug project.slug teamSlug publicIP) labels env)
  | .sync app route members =>
    .trafficRoute
      { appSlug := app.slug
        domains := trafficDomains app route
        groups := members.map (Member.group app.slug) }

/-- The slug is a stored one, and every backend has weight and a reachable replica. -/
structure Built (r : Routing) : Prop where
  slug : ∃ name, r.app.slug = generateSlug name
  live : ∀ member ∈ r.members, 0 < member.backend.weight ∧ member.urls ≠ []

end Routing

/-! ## The programs that send Traefik commands -/

/-- The messages an effect adds satisfy `P`. -/
def SendsOnly (P : ControlMessage → Prop) (effect : World → World) : Prop :=
  ∀ w, ∀ m ∈ (effect w).sent, m ∈ w.sent ∨ P m.2

section Sends

variable {P : ControlMessage → Prop}

theorem SendsOnly.of_silent {effect : World → World} (same : ∀ w, (effect w).sent = w.sent) :
    SendsOnly P effect := by
  intro w m mem
  rw [same] at mem
  exact .inl mem

theorem SendsOnly.of_send {agentID : String} {msg : World → ControlMessage}
    (fits : ∀ w, P (msg w)) : SendsOnly P fun w => (sendToAgent agentID (msg w) w).1 := by
  intro w m mem
  beta_reduce at mem
  obtain ⟨err, failed⟩ | sent := sendToAgent_cases agentID (msg w) w
  · rw [failed] at mem
    exact .inl mem
  · rw [sent] at mem
    rcases List.mem_append.mp mem with old | new
    · exact .inl old
    · rw [List.mem_singleton.mp new]
      exact .inr (fits w)

theorem read_sendsOnly {α : Type} (f : World → α) : (query f).Every (SendsOnly P) :=
  (Prog.every_query f).mpr (.of_silent fun _ => rfl)

theorem failTarget_sendsOnly (targetID : UUID) (errMsg : String) :
    (failTarget targetID errMsg).Every (SendsOnly P) := by
  rw [failTarget, Prog.every_exec]
  refine .of_silent fun w => ?_
  unfold World.updateDeploymentTargetStatus
  split <;> rfl

/-- The Traefik commands of one deployment's dispatch. -/
def IsDispatch (dns : DnsConfig) (deployment : Deployment) (target : DeploymentTarget)
    (build : Build) (app : App) (project : Project) (msg : ControlMessage) : Prop :=
  ∃ teamSlug publicIP labels env,
    msg = (Routing.dispatch dns app project teamSlug publicIP deployment target build labels env).message

/-- **Every message of `dispatchDeploy` is built for the deployment's app and
environment.** -/
theorem dispatch_sends (dns : DnsConfig) (deployment : Deployment) (target : DeploymentTarget)
    (build : Build) (app : App) (project : Project) (member : ClusterMember) :
    (dispatchDeploy dns deployment target build app project member).Every
      (SendsOnly (IsDispatch dns deployment target build app project)) := by
  refine Prog.Every.bind (read_sendsOnly _) fun online => ?_
  cases online with
  | false => exact failTarget_sendsOnly _ _
  | true =>
    refine Prog.Every.bind (read_sendsOnly _) fun team => Prog.Every.bind (read_sendsOnly _)
      fun srv => Prog.Every.bind (read_sendsOnly _) fun edges => ?_
    have sending : ∀ labels, (sendDeployCommand deployment target build app member
        (platformDomain dns app.slug project.slug ((team.map Team.slug).getD "")
          (servingIP edges srv)) labels).Every
          (SendsOnly (IsDispatch dns deployment target build app project)) := by
      intro labels
      refine Prog.Every.bind ((Prog.every_atomic _).mpr (.of_send fun w => ?_)) fun answer => ?_
      · exact ⟨_, _, labels, envOf w deployment.id, rfl⟩
      · cases answer with
        | ok _ => trivial
        | error err => exact failTarget_sendsOnly _ _
    refine Prog.Every.bind ?_ fun _ => Prog.Every.bind (Prog.Every.forEach _ ?_) fun _ => ?_
    · exact (Prog.every_exec _).mpr (.of_silent fun _ => rfl)
    · exact fun entry _ => (Prog.every_exec _).mpr (.of_silent fun _ => rfl)
    · split
      · refine Prog.Every.bind ((Prog.every_atomic _).mpr (.of_silent fun w => ?_)) fun port => ?_
        · obtain none | ⟨port, some⟩ :=
            World.allocateServerPort_cases w member.serverID target.id
          · rw [none]
          · rw [some]
        · cases port with
          | none => exact failTarget_sendsOnly _ _
          | some port =>
            refine Prog.Every.bind ?_ fun _ => sending _
            exact (Prog.every_exec _).mpr (.of_silent fun _ => rfl)
      · exact sending _

/-- The groups of backends with weight, each with a reachable replica. -/
def GroupsOf (app : App) (groups : List TrafficBackendGroup) : Prop :=
  ∃ members : List Member, groups = members.map (Member.group app.slug) ∧
    ∀ member ∈ members, 0 < member.backend.weight ∧ member.urls ≠ []

theorem edgeGroups_yields {app : App} {backends : List TrafficBackend}
    (weighted : ∀ b ∈ backends, 0 < b.weight) : (edgeGroups app backends).Yields (GroupsOf app) := by
  induction backends with
  | nil => exact ⟨[], rfl, fun _ mem => nomatch mem⟩
  | cons backend rest ih =>
    refine Prog.Yields.bind_query fun s => ?_
    refine Prog.Yields.bind (ih fun b mem => weighted b (List.mem_cons_of_mem _ mem)) ?_
    rintro groups ⟨members, rfl, live⟩
    show GroupsOf app _
    split
    · exact ⟨members, rfl, live⟩
    · next urls =>
      refine ⟨⟨backend, _⟩ :: members, rfl, fun member mem => ?_⟩
      rcases List.mem_cons.mp mem with rfl | mem
      · exact ⟨weighted backend List.mem_cons_self, urls⟩
      · exact live member mem

/-- One more group of a backend keeps every server's groups well built. -/
theorem addGroup_groupsOf {app : App} {backend : TrafficBackend} (weighted : 0 < backend.weight)
    (serverID : UUID) (agentID : String) {acc : List ServerGroups}
    (built : ∀ entry ∈ acc, GroupsOf app entry.groups) :
    ∀ entry ∈ addGroup serverID agentID (localGroup app backend) acc, GroupsOf app entry.groups := by
  have own : GroupsOf app [localGroup app backend] := by
    refine ⟨[⟨backend, [httpURL (containerName app.slug backend.deploymentID) app.port]⟩], rfl, ?_⟩
    intro member mem
    obtain rfl := List.mem_singleton.mp mem
    exact ⟨weighted, List.cons_ne_nil _ _⟩
  induction acc with
  | nil =>
    intro entry mem
    obtain rfl := List.mem_singleton.mp mem
    exact own
  | cons first rest ih =>
    intro entry mem
    rw [addGroup] at mem
    have older : ∀ entry ∈ rest, GroupsOf app entry.groups := fun entry mem =>
      built entry (List.mem_cons_of_mem _ mem)
    split at mem
    · rcases List.mem_cons.mp mem with rfl | mem
      · obtain ⟨members, groups, live⟩ := built first List.mem_cons_self
        obtain ⟨added, single, addedLive⟩ := own
        refine ⟨members ++ added, by rw [List.map_append, groups, single], fun member mem => ?_⟩
        rcases List.mem_append.mp mem with mem | mem
        · exact live member mem
        · exact addedLive member mem
      · exact older entry mem
    · rcases List.mem_cons.mp mem with rfl | mem
      · exact built _ List.mem_cons_self
      · exact ih older entry mem

theorem localTargets_yields {app : App} {teamID : UUID} {backend : TrafficBackend}
    (weighted : 0 < backend.weight) (targets : List DeploymentTarget) {acc : List ServerGroups}
    (built : ∀ entry ∈ acc, GroupsOf app entry.groups) :
    (localTargets app teamID backend targets acc).Yields
      fun entries => ∀ entry ∈ entries, GroupsOf app entry.groups := by
  induction targets generalizing acc with
  | nil => exact built
  | cons target rest ih =>
    rw [localTargets]
    split
    · refine Prog.Yields.bind_query fun s => ?_
      cases (s.getServerByID target.serverID teamID).bind Server.agentID with
      | none => exact ih built
      | some agentID => exact ih (addGroup_groupsOf weighted target.serverID agentID built)
    · exact ih built

theorem localGroups_yields {app : App} {teamID : UUID} {backends : List TrafficBackend}
    (weighted : ∀ b ∈ backends, 0 < b.weight) {acc : List ServerGroups}
    (built : ∀ entry ∈ acc, GroupsOf app entry.groups) :
    (localGroups app teamID backends acc).Yields
      fun entries => ∀ entry ∈ entries, GroupsOf app entry.groups := by
  induction backends generalizing acc with
  | nil => exact built
  | cons backend rest ih =>
    refine Prog.Yields.bind_query fun s => ?_
    refine Prog.Yields.bind (localTargets_yields (weighted backend List.mem_cons_self) _ built) ?_
    exact fun entries built => ih (fun b mem => weighted b (List.mem_cons_of_mem _ mem)) built

/-- The Traefik commands of the sync of one route. -/
def IsSync (routeID : UUID) (msg : ControlMessage) : Prop :=
  ∃ app route members, route.id = routeID ∧ app.id = route.appID ∧
    (∀ member ∈ members, 0 < member.backend.weight ∧ member.urls ≠ []) ∧
    msg = (Routing.sync app route members).message

/-- **Every message of `syncTrafficRoute` is built for the app and environment of the
route.** -/
theorem sync_sends (routeID : UUID) :
    (syncTrafficRoute routeID).Every (SendsOnly (IsSync routeID)) := by
  have silent : SendsOnly (IsSync routeID) id := .of_silent fun _ => rfl
  refine Prog.Every.bind_query silent fun s => ?_
  cases routeRow : s.getTrafficRoute routeID with
  | none => exact Prog.every_done _
  | some route =>
  refine Prog.Every.bind_query silent fun s => ?_
  cases appRow : s.getApp route.appID with
  | none => exact Prog.every_done _
  | some app =>
  refine Prog.Every.bind (read_sendsOnly _) fun project => ?_
  cases project with
  | none => exact Prog.every_done _
  | some project =>
  have sends : ∀ agentID groups, GroupsOf app groups →
      (sendBestEffort agentID (.trafficRoute
        { appSlug := app.slug, domains := trafficDomains app route, groups := groups })).Every
          (SendsOnly (IsSync routeID)) := by
    rintro agentID groups ⟨members, rfl, live⟩
    refine sendBestEffort_every agentID _ (.of_send fun _ => ?_)
    exact ⟨app, route, members, Table.key_of_find? routeRow, Table.key_of_find? appRow, live, rfl⟩
  refine Prog.Every.bind_query silent fun s => ?_
  have weighted : ∀ b ∈ s.listTrafficBackendsForSync route.id, 0 < b.weight := by
    intro b mem
    have listed := (List.mem_insertionSort _).mp mem
    simp only [List.mem_filter, Bool.and_eq_true, World.syncs, decide_eq_true_eq] at listed
    exact listed.2.2.1.2
  dsimp only
  split
  · exact Prog.every_done _
  refine Prog.Every.bind (read_sendsOnly _) fun edgeServers => ?_
  split
  · refine Prog.Every.bind_yields (edgeGroups_every silent app _) (edgeGroups_yields weighted) ?_
    intro groups built
    split
    · exact Prog.every_done _
    · refine Prog.Every.bind (Prog.Every.forEach _ fun edge _ => ?_) fun _ => Prog.every_done _
      cases edge.agentID with
      | none => exact Prog.every_done _
      | some agentID => exact sends agentID groups built
  · refine Prog.Every.bind_yields (localGroups_every silent app _ _ [])
      (localGroups_yields weighted fun _ mem => by cases mem) ?_
    intro entries built
    refine Prog.Every.bind (Prog.Every.forEach _ fun entry mem => ?_) fun _ => Prog.every_done _
    split
    · exact Prog.every_done _
    · exact sends entry.agentID entry.groups (built entry mem)

end Sends

/-! ## The condition -/

/-- The name the agent gives to the plain router of a command. -/
def Routing.base : Routing → String
  | .dispatch _ app _ _ _ _ _ _ _ _ => app.slug
  | .sync app _ _ => trimRight '-' app.slug

/-- A domain the rows of a command ask to route. -/
def Routing.Asks (r : Routing) (domain : String) : Prop :=
  match r with
  | .dispatch dns app project teamSlug publicIP _ _ _ _ _ =>
    domain = platformDomain dns app.slug project.slug teamSlug publicIP ∨
      domain ≠ "" ∧ app.customDomain = some domain
  | .sync app route _ =>
    domain ≠ "" ∧ (domain = route.domain ∨
      app.domainVerified ∧ app.customDomain = some domain ∨ domain ∈ app.domains)

/-- The domains a command lists. -/
def Routing.domains : Routing → List String
  | .dispatch dns app project teamSlug publicIP _ _ _ _ _ =>
    deployDomains app (platformDomain dns app.slug project.slug teamSlug publicIP)
  | .sync app route _ => (trafficDomains app route).filter (· ≠ "")

/-- Every domain the rows of a command ask for is plain. -/
def Routing.AsksPlain (r : Routing) : Prop := ∀ d, r.Asks d → Plain d

/-- The service of a backend, in terms of its row. -/
def Member.service (slug : String) (member : Member) : String :=
  slug ++ "-" ++ cleanName member.backend.label ++ "-" ++ member.backend.deploymentID.short

/-- A slug is none of the service names of a weighted file. -/
def SlugFree (slug other : String) (members : List Member) : Prop :=
  slug ≠ other ++ "-weighted" ∧ ∀ member ∈ members, slug ≠ member.service other

/-- The slugs and backends give the two commands different services. -/
def ServicesApart : Routing → Routing → Prop
  | .dispatch .., .dispatch .. => True
  | .dispatch _ app _ _ _ _ _ _ _ _, .sync app' _ members => SlugFree app.slug app'.slug members
  | .sync app _ members, .dispatch _ app' _ _ _ _ _ _ _ _ => SlugFree app'.slug app.slug members
  | .sync app _ members, .sync app' _ members' =>
    ∀ member ∈ members, ∀ member' ∈ members',
      member.backend.deploymentID.short = member'.backend.deploymentID.short →
        app.slug ++ "-" ++ cleanName member.backend.label ≠
          app'.slug ++ "-" ++ cleanName member'.backend.label

/-- Different slugs, no slug that is the other with `-tls` behind it, services apart. -/
structure NamesApart (a b : Routing) : Prop where
  slugs : a.app.slug ≠ b.app.slug
  bases : a.base ≠ b.base
  tls : a.base ≠ b.base ++ "-tls" ∧ b.base ≠ a.base ++ "-tls"
  services : ServicesApart a b

/-- **The condition.**  The names are apart, and the rules of the listed domains spell
no common value. -/
structure Separate (reader : RuleReader) (a b : Routing) : Prop extends NamesApart a b where
  hosts : ∀ host ∈ reader.hosts (hostRule a.domains), host ∉ reader.hosts (hostRule b.domains)

/-! ## What must not happen -/

/-- The Host values of a file's rules. -/
def DynamicConfig.hosts (reader : RuleReader) (cfg : DynamicConfig) : List String :=
  cfg.rules.flatMap reader.hosts

/-- Two written files share neither their name, nor a router, a service or a Host
value. -/
def NoOverlap (reader : RuleReader) (a b : String × DynamicConfig) : Prop :=
  a.1 ≠ b.1 ∧
    (∀ name ∈ a.2.routerNames, name ∉ b.2.routerNames) ∧
    (∀ name ∈ a.2.serviceNames, name ∉ b.2.serviceNames) ∧
    ∀ host ∈ a.2.hosts reader, host ∉ b.2.hosts reader

/-- Two commands of distinct workloads reached the same agent. -/
structure Meet (w : World) (agentID : String) (a b : Routing) : Prop where
  builtLeft : a.Built
  builtRight : b.Built
  sentLeft : (agentID, a.message) ∈ w.sent
  sentRight : (agentID, b.message) ∈ w.sent
  distinct : a.workload ≠ b.workload

/-! ## The names of a slug -/

section Names

variable {slug : String} (shaped : SlugShaped slug)

theorem slugChar_safe {c : Char} (slug : slugChar c) : safeChar c := by
  simp only [slugChar, Bool.or_eq_true] at slug
  simp only [safeChar, Bool.or_eq_true]
  tauto

/-- A digit of a UUID is a character of the class, and neither a dash nor a `w`. -/
theorem digitChar_hex (n : Nat) :
    safeChar (Nat.digitChar (n % 16)) ∧ Nat.digitChar (n % 16) ≠ '-' ∧
      Nat.digitChar (n % 16) ≠ 'w' := by
  have each : ∀ k : Fin 16, safeChar (Nat.digitChar k) ∧ Nat.digitChar k ≠ '-' ∧
      Nat.digitChar k ≠ 'w' := by decide
  exact each ⟨n % 16, Nat.mod_lt n (by omega)⟩

theorem short_chars (id : UUID) {c : Char} (mem : c ∈ id.short.toList) :
    safeChar c ∧ c ≠ '-' ∧ c ≠ 'w' := by
  rw [UUID.short, String.toList_ofList] at mem
  obtain ⟨i, -, rfl⟩ := List.mem_map.mp (List.mem_of_mem_take mem)
  exact digitChar_hex _

@[simp] theorem short_length (id : UUID) : id.short.toList.length = 8 := by
  simp [UUID.short, UUID.digits]

theorem short_getLast (id : UUID) : ∃ last, id.short.toList.getLast? = some last := by
  have nonempty : id.short.toList ≠ [] := by
    intro empty
    have length := short_length id
    rw [empty] at length
    exact absurd length (by decide)
  exact ⟨_, List.getLast?_eq_some_getLast nonempty⟩

include shaped

theorem cleanName_slug : cleanName slug = slug :=
  replaceUnless_eq_self fun c mem => slugChar_safe (shaped.chars c mem)

theorem safeName_slug : safeName slug = trimRight '-' slug := by
  obtain ⟨c, cs, list, other⟩ := shaped.starts
  have nonempty : trimRight '-' slug ≠ "" := by
    intro empty
    have gone : slug.toList.rdropWhile (· == '-') = [] := by
      have lists := congrArg String.toList empty
      rwa [trimRight, String.toList_ofList] at lists
    have dash := List.rdropWhile_eq_nil_iff.mp gone c (list ▸ List.mem_cons_self)
    exact other (by simpa using dash)
  simp only [safeName, cleanName_slug shaped, trim_of_head list other, if_neg nonempty]

/-- What follows a slug is only cleaned when it ends with another character than the
dash. -/
theorem safeName_slug_append {back : String} {last : Char}
    (ends : (cleanName back).toList.getLast? = some last) (other : last ≠ '-') :
    safeName (slug ++ back) = slug ++ cleanName back := by
  obtain ⟨c, cs, list, first⟩ := shaped.starts
  have whole : cleanName (slug ++ back) = slug ++ cleanName back := by
    rw [cleanName, replaceUnless_append]
    exact congrArg (· ++ cleanName back) (cleanName_slug shaped)
  have starts : (slug ++ cleanName back).toList = c :: (cs ++ (cleanName back).toList) := by
    rw [String.toList_append, list, List.cons_append]
  have nonempty : slug ++ cleanName back ≠ "" := by
    intro empty
    rw [empty] at starts
    exact absurd starts (by simp)
  simp only [safeName, whole, trim_of_head starts first, trimRight_of_last ends other,
    if_neg nonempty]

theorem safeName_weighted : safeName (slug ++ "-weighted") = slug ++ "-weighted" := by
  have ends : (cleanName "-weighted").toList.getLast? = some 'd' := by decide
  exact safeName_slug_append shaped ends (by decide)

theorem safeName_group (member : Member) :
    safeName (member.group slug).name = member.service slug := by
  obtain ⟨last, ends⟩ := short_getLast member.backend.deploymentID
  have tail : cleanName ("-" ++ member.backend.label ++ "-" ++ member.backend.deploymentID.short) =
      "-" ++ cleanName member.backend.label ++ "-" ++ member.backend.deploymentID.short := by
    have dash : cleanName "-" = "-" := by decide
    have short : cleanName member.backend.deploymentID.short = member.backend.deploymentID.short :=
      replaceUnless_eq_self fun c mem => (short_chars _ mem).1
    simp only [cleanName, replaceUnless_append] at dash short ⊢
    rw [dash, short]
  have lastOf : (cleanName ("-" ++ member.backend.label ++ "-" ++
      member.backend.deploymentID.short)).toList.getLast? = some last := by
    rw [tail, String.toList_append, List.getLast?_append, ends]
    rfl
  have other : last ≠ '-' := (short_chars _ (List.mem_of_getLast? ends)).2.1
  have cleaned := safeName_slug_append shaped lastOf other
  rw [tail] at cleaned
  simpa only [Member.group, Member.service, trafficServiceName, String.append_assoc] using cleaned

end Names

/-! ## The domains of a command -/

theorem deployDomains_ne_nil (app : App) (platform : String) : deployDomains app platform ≠ [] := by
  unfold deployDomains
  split
  · split
    · exact List.cons_ne_nil _ _
    · exact List.cons_ne_nil _ _
  · exact List.cons_ne_nil _ _

/-- A command lists the domains its rows ask for. -/
theorem mem_domains {r : Routing} {d : String} : d ∈ r.domains ↔ r.Asks d := by
  cases r with
  | dispatch => exact mem_deployDomains
  | sync app route members =>
    refine List.mem_filter.trans ((and_congr_left' mem_trafficDomains_iff).trans ?_)
    exact and_iff_left_of_imp fun asks => decide_eq_true asks.1

theorem Routing.AsksPlain.hosts_iff {r : Routing} (plain : r.AsksPlain) (some : r.domains ≠ [])
    (reader : RuleReader) {host : String} :
    host ∈ reader.hosts (hostRule r.domains) ↔ r.Asks host :=
  (reader.hosts_plain (fun d mem => plain d (mem_domains.mp mem)) some).trans mem_domains

/-! ## What a command leaves on the agent -/

/-- The services of the file a command leaves. -/
def Routing.Serves (r : Routing) (name : String) : Prop :=
  match r with
  | .dispatch _ app _ _ _ _ _ _ _ _ => name = app.slug
  | .sync app _ members =>
    name = app.slug ++ "-weighted" ∨ ∃ member ∈ members, name = member.service app.slug

/-- The names of a written file in terms of what its command was built from. -/
structure Footprint (r : Routing) (file : String × DynamicConfig) : Prop where
  path : file.1 = configFile r.app.slug
  routers : file.2.routerNames = [r.base, r.base ++ "-tls"]
  services : ∀ name, name ∈ file.2.serviceNames ↔ r.Serves name
  rules : file.2.rules = [hostRule r.domains, hostRule r.domains]
  domains : r.domains ≠ []

theorem Footprint.hosts {r : Routing} {file : String × DynamicConfig} (foot : Footprint r file)
    (reader : RuleReader) {host : String} :
    host ∈ file.2.hosts reader ↔ host ∈ reader.hosts (hostRule r.domains) := by
  simp [DynamicConfig.hosts, foot.rules]

theorem liveGroups_members {slug : String} {members : List Member}
    (live : ∀ member ∈ members, 0 < member.backend.weight ∧ member.urls ≠ []) :
    liveGroups (members.map (Member.group slug)) = members.map (Member.group slug) := by
  refine List.filter_eq_self.mpr fun g mem => ?_
  obtain ⟨member, listed, rfl⟩ := List.mem_map.mp mem
  exact decide_eq_true (live member listed)

theorem footprint_sync {app : App} {route : TrafficRoute} {members : List Member}
    {file : String × DynamicConfig} (shaped : SlugShaped app.slug)
    (live : ∀ member ∈ members, 0 < member.backend.weight ∧ member.urls ≠ [])
    (writes : written (Routing.sync app route members).message = some file) :
    Footprint (.sync app route members) file := by
  have ok : writeWeightedTraefikConfig _ = .ok file := toOption_eq_some.mp writes
  obtain ⟨-, -, hosts, rfl⟩ := writeWeighted_eq_ok.mp ok
  refine ⟨rfl, ?_, fun name => ?_, rfl, hosts⟩
  · rw [routerNames_pair, safeName_slug shaped]
    rfl
  · simp only [DynamicConfig.serviceNames, weightedServices, liveGroups_members live,
      List.map_cons, List.map_map, List.mem_cons, List.mem_map, Function.comp_apply, Service.name,
      safeName_weighted shaped, safeName_group shaped, Routing.Serves, eq_comm (a := name)]

theorem footprint {r : Routing} {file : String × DynamicConfig} (built : r.Built)
    (writes : written r.message = some file) : Footprint r file := by
  obtain ⟨name, slug⟩ := built.slug
  have shaped : SlugShaped r.app.slug := slug ▸ generateSlug_shaped name
  cases r with
  | sync app route members => exact footprint_sync shaped built.live writes
  | dispatch dns app project teamSlug publicIP deployment target build labels env =>
    simp only [Routing.message, written] at writes
    split at writes
    · exact absurd writes (by simp)
    obtain rfl := Option.some.inj writes
    exact ⟨rfl, rfl, fun name => List.mem_singleton, rfl, deployDomains_ne_nil _ _⟩

/-! ## Comparing two footprints -/

theorem routers_apart {a b : String} :
    (∀ name ∈ [a, a ++ "-tls"], name ∉ [b, b ++ "-tls"]) ↔
      a ≠ b ∧ a ≠ b ++ "-tls" ∧ b ≠ a ++ "-tls" := by
  have cancel : a ++ "-tls" = b ++ "-tls" ↔ a = b := String.append_left_inj "-tls"
  simp only [List.mem_cons, List.not_mem_nil, or_false, forall_eq_or_imp, forall_eq, not_or,
    eq_comm (a := a ++ "-tls") (b := b), cancel]
  tauto

/-- A weighted service is never the service of a backend: the last eight characters of
one spell `weighted`, those of the other are hexadecimal digits. -/
theorem weighted_ne_service (slug other : String) (member : Member) :
    slug ++ "-weighted" ≠ member.service other := by
  intro same
  have regroup : slug ++ "-weighted" = slug ++ "-" ++ "weighted" := by
    rw [String.append_assoc]
    rfl
  rw [regroup, Member.service,
    append_eq_append_iff (by rw [short_length]; rfl)] at same
  have spelled : 'w' ∈ member.backend.deploymentID.short.toList := by
    rw [← same.2]
    decide
  exact (short_chars _ spelled).2.2 rfl

/-- Two backends have one service when their short ids agree and so does what stands
before. -/
theorem service_eq_service {slug other : String} {member member' : Member} :
    member.service slug = member'.service other ↔
      slug ++ "-" ++ cleanName member.backend.label =
          other ++ "-" ++ cleanName member'.backend.label ∧
        member.backend.deploymentID.short = member'.backend.deploymentID.short := by
  rw [Member.service, Member.service, append_eq_append_iff (by rw [short_length, short_length]),
    String.append_left_inj]

theorem slugFree_iff {slug : String} {app : App} {route : TrafficRoute} {members : List Member} :
    SlugFree slug app.slug members ↔ ¬ (Routing.sync app route members).Serves slug := by
  unfold SlugFree Routing.Serves
  push Not
  exact Iff.rfl

theorem servicesApart_iff {a b : Routing} (slugs : a.app.slug ≠ b.app.slug) :
    ServicesApart a b ↔ ∀ name, a.Serves name → ¬ b.Serves name := by
  cases a with
  | dispatch _ app _ _ _ _ _ _ _ _ =>
    cases b with
    | dispatch => exact ⟨by rintro - name rfl; exact slugs, fun _ => trivial⟩
    | sync app' route members =>
      exact slugFree_iff.trans ⟨by rintro free name rfl; exact free, fun apart => apart _ rfl⟩
  | sync app route members =>
    cases b with
    | dispatch _ app' _ _ _ _ _ _ _ _ =>
      refine slugFree_iff.trans ⟨?_, fun apart served => apart _ served rfl⟩
      rintro free name served rfl
      exact free served
    | sync app' route' members' =>
      constructor
      · rintro apart name (rfl | ⟨member, mem, rfl⟩) (same | ⟨member', mem', same⟩)
        · exact slugs ((String.append_left_inj _).mp same)
        · exact weighted_ne_service _ _ member' same
        · exact weighted_ne_service _ _ member same.symm
        · obtain ⟨before, short⟩ := service_eq_service.mp same
          exact apart member mem member' mem' short before
      · intro apart member mem member' mem' short before
        exact apart _ (.inr ⟨member, mem, rfl⟩)
          (.inr ⟨member', mem', service_eq_service.mpr ⟨before, short⟩⟩)

theorem footprints_apart {a b : Routing} {fileA fileB : String × DynamicConfig}
    (left : Footprint a fileA) (right : Footprint b fileB) :
    (fileA.1 ≠ fileB.1 ∧ (∀ name ∈ fileA.2.routerNames, name ∉ fileB.2.routerNames) ∧
      ∀ name ∈ fileA.2.serviceNames, name ∉ fileB.2.serviceNames) ↔ NamesApart a b := by
  have file : configFile a.app.slug ≠ configFile b.app.slug ↔ a.app.slug ≠ b.app.slug :=
    not_congr (String.append_left_inj ".yml")
  rw [left.path, right.path, file, left.routers, right.routers, routers_apart]
  simp only [left.services, right.services]
  constructor
  · rintro ⟨slugs, ⟨bases, tls⟩, services⟩
    exact ⟨slugs, bases, tls, (servicesApart_iff slugs).mpr services⟩
  · rintro ⟨slugs, bases, tls, services⟩
    exact ⟨slugs, ⟨bases, tls⟩, (servicesApart_iff slugs).mp services⟩

instance (reader : RuleReader) (a b : String × DynamicConfig) :
    Decidable (NoOverlap reader a b) :=
  inferInstanceAs (Decidable (_ ∧ _))

section TwoProjects

/-- An app of this name in each of the projects 10 and 11 of a team on one cluster. -/
def appOf (projectID : UUID) (name : String) : App :=
  { id := projectID + 10, projectID := projectID, name := name, slug := generateSlug name }

def projectOf (id : UUID) (slug : String) : Project :=
  { id := id, teamID := 1, clusterID := 2, name := slug, slug := slug }

/-- A deployment of the app in the environment of its project. -/
def deploymentOf (projectID : UUID) : Deployment :=
  { id := projectID + 20, appID := projectID + 10, environmentID := projectID + 30, buildID := 60 }

def targetOf (projectID : UUID) : DeploymentTarget :=
  { id := projectID + 40, deploymentID := projectID + 20, serverID := 70 }

def worker : ClusterMember := { serverID := 70, wireguardIp := "10.0.0.2" }

/-- One server, whose agent is connected, and the two deployments. -/
def sharedServer : World :=
  { teams := ⟨[⟨1, "acme"⟩], by decide⟩
    servers := ⟨[{ id := 70, teamID := 1, publicIp := "203.0.113.7" }], by decide⟩
    deployments := ⟨[deploymentOf 10, deploymentOf 11], by decide⟩
    targets := ⟨[targetOf 10, targetOf 11], by decide⟩
    agents := ⟨[{ agentID := UUID.text 70 }], by decide⟩ }

def bothDispatched (first second : String) : World :=
  (dispatchDeploy {} (deploymentOf 11) (targetOf 11) { id := 60 } (appOf 11 second)
    (projectOf 11 "blog") worker).out
      ((dispatchDeploy {} (deploymentOf 10) (targetOf 10) { id := 60 } (appOf 10 first)
        (projectOf 10 "shop") worker).out sharedServer)

def commandOf (projectID : UUID) (projectSlug name : String) : Routing :=
  .dispatch {} (appOf projectID name) (projectOf projectID projectSlug) "acme" "203.0.113.7"
    (deploymentOf projectID) (targetOf projectID) { id := 60 }
    (deployLabels (deploymentOf projectID) (targetOf projectID) (appOf projectID name)
      (projectOf projectID projectSlug)) []

theorem commandOf_built (projectID : UUID) (projectSlug name : String) :
    (commandOf projectID projectSlug name).Built where
  slug := by
    refine ⟨name, ?_⟩
    simp only [commandOf, Routing.app, appOf]
  live member mem := by
    simp only [commandOf, Routing.members, List.not_mem_nil] at mem

end TwoProjects

end Nixway.Agent
