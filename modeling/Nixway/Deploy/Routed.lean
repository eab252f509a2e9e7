/-
# Deploy.Routed -- which custom domains reach an agent

Requests about one app run beside each other: updates of the app, its domain being set
and verified, deploys, promotions and changes of the traffic split.  A run is a schedule
of their statements.  `OnlyVerified` asks that a custom domain is in the Host rule of a
command only if it was verified since the column was last changed to it.

It fails in several ways.  `Update` leaves the flag up when it changes the domain;
`VerifyDomain` sets it for a domain that may have been replaced; `dispatchDeploy` never
looks at it; and a domain once promoted stays in its route.  `Careful` says of each step
that it takes none of these ways.
-/
import Nixway.Deploy.AppDomain
import Nixway.Deploy.Weights
import Nixway.Deploy.Promotion
import Nixway.Theory.Rely

namespace Nixway.Deploy

open Nixway.Theory Nixway.Store
open Nixway.Theory.Prog (query exec atomic forEach ignore)

set_option autoImplicit false

/-! ## Requests -/

/-- `TriggerDeploy` of the app; what it reads besides the app's row is in `launch`. -/
def triggerDeploy (appID : UUID) (launch : Launch) : Prog World (Except String Deployment) := do
  let some app ← query fun w => w.getApp appID
    | return .error "get app"
  launchDeploy { launch with app := app }

/-- A request about the app. -/
inductive AppRequest where
  | update (req : UpdateAppRequest)
  | setDomain (domain : String)
  | verifyDomain (resolve : String → Lookup)
  | deploy (launch : Launch)
  | promote (deploymentID routeID backendID : UUID)
  | traffic (call : TrafficCall)

def AppRequest.prog (appID : UUID) : AppRequest → Prog World Unit
  | .update req => ignore (AppHandler.update appID req)
  | .setDomain domain => ignore (AppHandler.setDomain appID domain)
  | .verifyDomain resolve => ignore (AppHandler.verifyDomain appID resolve)
  | .deploy launch => ignore (triggerDeploy appID launch)
  | .promote deploymentID routeID backendID =>
    ignore (ensureTrafficForDeployment deploymentID routeID backendID)
  | .traffic call => ignore (call.prog appID)

/-- The custom domains a running request may have read: those the app had since the
request arrived, with the one it had then, or the one of the row it was started with. -/
inductive Hold where
  | nothing
  | since (domain : Option String) (mark : Nat)
  | row (app : App)

def Hold.Has (appID : UUID) (w : World) (domain : String) : Hold → Prop
  | .nothing => False
  | .since there mark => there = some domain ∨ .changed appID domain ∈ w.domainLog.drop mark
  | .row app => app.customDomain = some domain

instance (appID : UUID) (w : World) (domain : String) :
    (hold : Hold) → Decidable (hold.Has appID w domain)
  | .nothing => inferInstanceAs (Decidable False)
  | .since there mark =>
    inferInstanceAs (Decidable (there = some domain ∨ _ ∈ w.domainLog.drop mark))
  | .row app => inferInstanceAs (Decidable (app.customDomain = some domain))

theorem Hold.has_append {hold : Hold} {appID : UUID} {s t : World} {domain : String}
    {events : List DomainEvent} (has : hold.Has appID s domain)
    (log : t.domainLog = s.domainLog ++ events) : hold.Has appID t domain := by
  cases hold with
  | nothing => exact has
  | since there mark =>
    refine has.imp_right fun changed => ?_
    rw [log, List.drop_append]
    exact List.mem_append_left _ changed
  | row app => exact has

/-- What a request holds from its arrival on; a handler routes nothing. -/
def AppRequest.hold (appID : UUID) (w : World) : AppRequest → Hold
  | .update _ => .nothing
  | .setDomain _ => .nothing
  | .verifyDomain _ => .nothing
  | _ => .since (customDomain w appID) w.domainLog.length

/-- A request that has not arrived, or one that is running. -/
inductive Task where
  | waiting (request : AppRequest)
  | running (hold : Hold) (rest : Prog World Unit)

/-- The task is running and may have read the domain. -/
def Task.Holds (appID : UUID) (w : World) (domain : String) : Task → Prop
  | .waiting _ => False
  | .running hold rest => rest.isDone = false ∧ hold.Has appID w domain

instance (appID : UUID) (w : World) (domain : String) :
    (task : Task) → Decidable (task.Holds appID w domain)
  | .waiting _ => inferInstanceAs (Decidable False)
  | .running hold rest => inferInstanceAs (Decidable (rest.isDone = false ∧ hold.Has appID w domain))

/-- A request arrives, or a running one makes a step. -/
def taskFlow (appID : UUID) : Flow World Task where
  act
    | .waiting request => some (id, fun w => .running (request.hold appID w) (request.prog appID))
    | .running hold (.step effect next) => some (effect, fun w => .running hold (next w))
    | .running _ (.done _) => none

/-- The dispatch goroutines a step starts. -/
def taskSpawn (dns : DnsConfig) (w w' : World) : List Task :=
  (w'.started.drop w.started.length).filterMap fun
    | .dispatchDeploy deployment target build app project member =>
      some (.running (.row app) (dispatchDeploy dns deployment target build app project member))
    | _ => none

/-! ## The property -/

/-- The Host values in a command. -/
def hosts : ControlMessage → List String
  | .deployCommand cmd => cmd.traefik.domains
  | .trafficRoute cmd => cmd.domains
  | _ => []

/-- The app, and the settings its platform domains are built with. -/
structure AppScope where
  dns : DnsConfig
  appID : UUID
  slug : String

namespace AppScope

variable (k : AppScope)

/-- One step of the run. -/
def advance (c : World × List Task) (i : Nat) : World × List Task :=
  (taskFlow k.appID).advance (taskSpawn k.dns) c i

/-- The commands of a step mention a custom domain only if it is verified since the
column was last changed to it. -/
def OnlyVerified (c : World × List Task) (i : Nat) : Prop :=
  ∀ m ∈ (k.advance c i).1.sent.drop c.1.sent.length, ∀ domain ∈ hosts m.2,
    Cleared k.appID c.1.domainLog domain

instance (c : World × List Task) (i : Nat) : Decidable (k.OnlyVerified c i) :=
  inferInstanceAs (Decidable (∀ _ ∈ _, ∀ _ ∈ _, _))

/-- The zone of the platform domains. -/
def zone : String :=
  if k.dns.enabled ∧ k.dns.baseDomain ≠ "" then "." ++ k.dns.baseDomain else ".nip.io"

/-- The string has the form of a platform domain of the app. -/
def reserved (domain : String) : Bool :=
  Text.hasPrefix domain (k.slug ++ "-") && Text.hasSuffix domain k.zone

/-- The string is routed for the app already: it is one of its other domains, or the
domain of one of its routes. -/
def inUse (w : World) (domain : String) : Bool :=
  ((w.getApp k.appID).any fun app => domain ∈ app.domains) ||
    w.routes.rows.any fun r => r.appID = k.appID && r.domain = domain

/-- The flag of the row is down. -/
def unverified (w : World) : Bool := (w.getApp k.appID).all fun app => !app.domainVerified

/-- What a change or a verification is made under. -/
def EventOk (w : World) (tasks : List Task) : DomainEvent → Prop
  | .changed appID domain => appID = k.appID →
      k.unverified w ∧ k.reserved domain = false ∧ k.inUse w domain = false ∧
        ∀ task ∈ tasks, ¬ task.Holds k.appID w domain
  | .verified appID domain => appID = k.appID → customDomain w k.appID = some domain

instance (w : World) (tasks : List Task) : (event : DomainEvent) → Decidable (k.EventOk w tasks event)
  | .changed _ _ => inferInstanceAs (Decidable (_ → _ ∧ _ ∧ _ ∧ ∀ _ ∈ tasks, ¬ _))
  | .verified _ _ => inferInstanceAs (Decidable (_ → _ = _))

end AppScope

/-- A deploy is dispatched with a row whose custom domain, if any, is verified. -/
def checkedDispatch : Goroutine → Bool
  | .dispatchDeploy _ _ _ app _ _ =>
    app.customDomain.all fun domain => domain = "" || app.domainVerified
  | _ => true

/-- **The steps that keep to the rules.**  The domain is changed only while the flag is
down, to a string that is not routed for the app already and that no running deploy,
promotion or sync may have read before; the flag is set only while the domain is the one
that was looked up; and a deploy is dispatched only with a verified domain, or none. -/
def AppScope.Careful (k : AppScope) (c : World × List Task) (i : Nat) : Prop :=
  (∀ event ∈ (k.advance c i).1.domainLog.drop c.1.domainLog.length, k.EventOk c.1 c.2 event) ∧
    ∀ g ∈ (k.advance c i).1.started.drop c.1.started.length, checkedDispatch g

instance (k : AppScope) (c : World × List Task) (i : Nat) : Decidable (k.Careful c i) :=
  inferInstanceAs (Decidable ((∀ _ ∈ _, _) ∧ ∀ _ ∈ _, _))

/-! ## What the rows say -/

namespace AppScope

/-- What the rows say may be routed is cleared, and no platform domain of the app ever
was its custom domain. -/
structure Sound (k : AppScope) (w : World) : Prop where
  slug : ∀ app, w.getApp k.appID = some app → app.slug = k.slug
  row : ∀ app, w.getApp k.appID = some app → ∀ domain, app.customDomain = some domain →
    app.domainVerified → Cleared k.appID w.domainLog domain
  extra : ∀ app, w.getApp k.appID = some app → ∀ domain ∈ app.domains,
    Cleared k.appID w.domainLog domain
  platforms : ∀ d ∈ w.deployments, d.appID = k.appID →
    d.platformDomain = "" ∨ k.reserved d.platformDomain
  routes : ∀ r ∈ w.routes, r.appID = k.appID → Cleared k.appID w.domainLog r.domain
  unreserved : ∀ domain, .changed k.appID domain ∈ w.domainLog → k.reserved domain = false

/-- A deployment under this id is the app's. -/
def OwnsDeployment (k : AppScope) (w : World) (id : UUID) : Prop :=
  ∀ d ∈ w.deployments, d.id = id → d.appID = k.appID

/-- A route under this id is the app's. -/
def OwnsRoute (k : AppScope) (w : World) (id : UUID) : Prop :=
  ∀ r ∈ w.routes, r.id = id → r.appID = k.appID

variable {k : AppScope}

theorem Sound.cleared_of_reserved {w : World} (sound : k.Sound w) {domain : String}
    (reserved : k.reserved domain) : Cleared k.appID w.domainLog domain := by
  apply cleared_of_not_changed
  intro changed
  rw [sound.unreserved domain changed] at reserved
  cases reserved

/-! ## Steps that route -/

/-- What a dispatch goroutine is started with. -/
def Informed (k : AppScope) (log : List DomainEvent) : Goroutine → Prop
  | .dispatchDeploy _ _ _ app _ _ => app.slug = k.slug ∧
      ∀ domain, app.customDomain = some domain → app.domainVerified → Cleared k.appID log domain
  | _ => True

/-- A step of a deploy, a promotion or a sync: it leaves the app's row and its history
alone, and what it sends and starts is cleared. -/
structure Routing (k : AppScope) (s t : World) : Prop where
  apps : t.apps = s.apps
  log : t.domainLog = s.domainLog
  sound : k.Sound s → k.Sound t
  routes : ∀ r ∈ s.routes, r ∈ t.routes
  ownsDeployment : ∀ id, k.OwnsDeployment s id → k.OwnsDeployment t id
  ownsRoute : ∀ id, k.OwnsRoute s id → k.OwnsRoute t id
  sent : ∃ new, t.sent = s.sent ++ new ∧
    ∀ m ∈ new, ∀ domain ∈ hosts m.2, Cleared k.appID s.domainLog domain
  started : ∃ new, t.started = s.started ++ new ∧ ∀ g ∈ new, k.Informed s.domainLog g

theorem Routing.refl (s : World) : k.Routing s s where
  apps := rfl
  log := rfl
  sound := id
  routes := fun _ here => here
  ownsDeployment := fun _ owns => owns
  ownsRoute := fun _ owns => owns
  sent := ⟨[], by simp, by simp⟩
  started := ⟨[], by simp, by simp⟩

/-- The deployments are those of before, up to what no routing reads. -/
def SameDeployments (s t : World) : Prop :=
  ∀ d ∈ t.deployments, ∃ old ∈ s.deployments,
    d.id = old.id ∧ d.appID = old.appID ∧ d.platformDomain = old.platformDomain

theorem SameDeployments.of_eq {s t : World} (same : t.deployments = s.deployments) :
    SameDeployments s t := by
  intro d member
  rw [same] at member
  exact ⟨d, member, rfl, rfl, rfl⟩

theorem Routing.of_frame {s t : World} (apps : t.apps = s.apps)
    (log : t.domainLog = s.domainLog) (routes : t.routes = s.routes) (sent : t.sent = s.sent)
    (started : t.started = s.started) (deployments : SameDeployments s t) : k.Routing s t where
  apps := apps
  log := log
  sound := by
    intro sound
    refine ⟨?_, ?_, ?_, ?_, ?_, ?_⟩
    · rw [World.getApp, apps]
      exact sound.slug
    · rw [World.getApp, apps, log]
      exact sound.row
    · rw [World.getApp, apps, log]
      exact sound.extra
    · intro d member own
      obtain ⟨old, before, -, sameApp, samePlatform⟩ := deployments d member
      rw [samePlatform]
      exact sound.platforms old before (sameApp ▸ own)
    · rw [routes, log]
      exact sound.routes
    · rw [log]
      exact sound.unreserved
  routes := by
    intro r here
    rwa [routes]
  ownsDeployment := by
    intro id owns d member here
    obtain ⟨old, before, sameID, sameApp, -⟩ := deployments d member
    rw [sameApp]
    exact owns old before (sameID ▸ here)
  ownsRoute := by
    intro id owns
    rwa [OwnsRoute, routes]
  sent := ⟨[], by simp [sent], by simp⟩
  started := ⟨[], by simp [started], by simp⟩

theorem Routing.updateDeployment (s : World) (id : UUID) (f : Deployment → Deployment)
    (keeps : ∀ d, Keyed.key (f d) = Keyed.key d)
    (same : ∀ d, (f d).appID = d.appID ∧ (f d).platformDomain = d.platformDomain) :
    k.Routing s { s with deployments := s.deployments.update id f keeps } := by
  refine .of_frame rfl rfl rfl rfl rfl ?_
  intro d member
  obtain ⟨old, before, rfl⟩ := (Table.mem_update keeps).mp member
  refine ⟨old, before, ?_⟩
  split
  · exact ⟨keeps old, same old⟩
  · exact ⟨rfl, rfl, rfl⟩

theorem Routing.send (s : World) (agentID : String) (msg : ControlMessage)
    (cleared : ∀ domain ∈ hosts msg, Cleared k.appID s.domainLog domain) :
    k.Routing s (sendToAgent agentID msg s).1 := by
  obtain ⟨err, failed⟩ | sent := sendToAgent_cases agentID msg s
  · rw [failed]
    exact .refl s
  · rw [sent]
    have frame : k.Routing s s := .refl s
    refine { frame with sound := fun sound => ?_, sent := ⟨[(agentID, msg)], rfl, ?_⟩ }
    · exact ⟨sound.slug, sound.row, sound.extra, sound.platforms, sound.routes, sound.unreserved⟩
    · intro m member
      rw [List.mem_singleton.mp member]
      exact cleared

theorem Routing.start (s : World) (g : Goroutine) (informed : k.Informed s.domainLog g) :
    k.Routing s { s with started := s.started ++ [g] } := by
  have frame : k.Routing s s := .refl s
  refine { frame with sound := fun sound => ?_, started := ⟨[g], rfl, ?_⟩ }
  · exact ⟨sound.slug, sound.row, sound.extra, sound.platforms, sound.routes, sound.unreserved⟩
  · intro g' member
    rw [List.mem_singleton.mp member]
    exact informed

theorem mem_setDeploymentPlatformDomain {s : World} {id : UUID} {platform : String}
    {d : Deployment} :
    d ∈ (s.setDeploymentPlatformDomain id platform).deployments ↔
      ∃ old ∈ s.deployments, (if old.id = id then { old with platformDomain := platform } else old) =
        d :=
  Table.mem_update (f := fun d : Deployment => { d with platformDomain := platform }) fun _ => rfl

theorem Routing.setPlatformDomain (s : World) (id : UUID) {platform : String}
    (reserved : k.reserved platform) : k.Routing s (s.setDeploymentPlatformDomain id platform) := by
  have frame : k.Routing s s := .refl s
  refine { frame with sound := fun sound => ?_, ownsDeployment := ?_ }
  · refine ⟨sound.slug, sound.row, sound.extra, ?_, sound.routes, sound.unreserved⟩
    intro d member own
    obtain ⟨old, before, rfl⟩ := mem_setDeploymentPlatformDomain.mp member
    by_cases here : old.id = id
    · rw [if_pos here]
      exact .inr reserved
    · rw [if_neg here] at own ⊢
      exact sound.platforms old before own
  · intro id' owns d member named
    obtain ⟨old, before, rfl⟩ := mem_setDeploymentPlatformDomain.mp member
    by_cases here : old.id = id
    · rw [if_pos here] at named ⊢
      exact owns old before named
    · rw [if_neg here] at named ⊢
      exact owns old before named

theorem Routing.createLaunched (s : World) {launch : Launch} (own : launch.app.id = k.appID) :
    k.Routing s (createLaunched launch s).1 := by
  unfold Deploy.createLaunched World.createDeployment
  dsimp only
  cases inserted : s.deployments.insert? _ with
  | none => exact .refl s
  | some deployments =>
    have frame : k.Routing s s := .refl s
    refine { frame with sound := fun sound => ?_, ownsDeployment := ?_ }
    · refine ⟨sound.slug, sound.row, sound.extra, ?_, sound.routes, sound.unreserved⟩
      intro d member mine
      rcases (Table.mem_insert? inserted).mp member with rfl | old
      · exact .inl rfl
      · exact sound.platforms d old mine
    · intro id owns d member here
      rcases (Table.mem_insert? inserted).mp member with rfl | old
      · exact own
      · exact owns d old here

theorem Routing.ensureTrafficRoute (s : World) (id environmentID : UUID) {domain : String}
    (cleared : Cleared k.appID s.domainLog domain) :
    k.Routing s (s.ensureTrafficRoute id k.appID environmentID domain).1 ∧
      ∀ route, (s.ensureTrafficRoute id k.appID environmentID domain).2 = some route →
        k.OwnsRoute (s.ensureTrafficRoute id k.appID environmentID domain).1 route.id := by
  unfold World.ensureTrafficRoute
  split
  · next r found =>
    refine ⟨.refl s, ?_⟩
    rintro route same r' member here
    cases same
    have own := List.find?_some found
    simp only [Bool.and_eq_true, decide_eq_true_eq] at own
    rw [Table.eq_of_key_eq member (List.mem_of_find?_eq_some found) here]
    exact own.1.1
  · dsimp only
    cases inserted : s.routes.insert? _ with
    | none =>
      refine ⟨.refl s, ?_⟩
      rintro route same
      cases same
    | some routes =>
      have frame : k.Routing s s := .refl s
      refine ⟨{ frame with sound := fun sound => ?_, routes := ?_, ownsRoute := ?_ }, ?_⟩
      · refine ⟨sound.slug, sound.row, sound.extra, sound.platforms, ?_, sound.unreserved⟩
        intro r member mine
        rcases (Table.mem_insert? inserted).mp member with rfl | old
        · exact cleared
        · exact sound.routes r old mine
      · intro r here
        exact (Table.mem_insert? inserted).mpr (.inr here)
      · intro id' owns r member here
        rcases (Table.mem_insert? inserted).mp member with rfl | old
        · rfl
        · exact owns r old here
      · rintro route same r member here
        cases same
        rcases (Table.mem_insert? inserted).mp member with rfl | old
        · rfl
        · exact absurd here ((Table.insert?_eq_some_iff.mp inserted).1 r old)

/-! ## Steps of the handlers -/

/-- The row after a handler's step comes from a row with the same slug and other domains. -/
def RowFrom (k : AppScope) (s t : World) (related : App → App → Prop) : Prop :=
  ∀ app', t.getApp k.appID = some app' → ∃ app, s.getApp k.appID = some app ∧
    app'.slug = app.slug ∧ app'.domains = app.domains ∧ related app app'

/-- What a handler does to the row and its history: it changes the domain, which leaves
the flag; it sets the flag; or it takes one of the two away, or neither. -/
inductive AppWrite (k : AppScope) (s t : World) : Prop where
  | kept (log : t.domainLog = s.domainLog)
      (row : k.RowFrom s t fun app app' =>
        (app'.customDomain = app.customDomain ∨ app'.customDomain = none) ∧
          (app'.domainVerified → app.domainVerified))
  | changed (domain : String)
      (log : t.domainLog = s.domainLog ++ [.changed k.appID domain])
      (row : k.RowFrom s t fun app app' =>
        app'.customDomain = some domain ∧ (app'.domainVerified → app.domainVerified))
  | verified (domain : String)
      (log : t.domainLog = s.domainLog ++ [.verified k.appID domain])
      (row : k.RowFrom s t fun app app' => app'.customDomain = app.customDomain)

/-- A step of a handler: it writes the apps and the history, and nothing else. -/
structure Handling (k : AppScope) (s t : World) : Prop where
  frame : ∃ apps log, t = { s with apps := apps, domainLog := log }
  stays : ∀ app, s.getApp k.appID = some app →
    ∃ app', t.getApp k.appID = some app' ∧ app'.domains = app.domains
  write : k.AppWrite s t

section Handlers

variable {s t : World} {f : App → App}

theorem RowFrom.of_map (found : t.getApp k.appID = (s.getApp k.appID).map f)
    (same : ∀ app, (f app).slug = app.slug ∧ (f app).domains = app.domains)
    {related : App → App → Prop}
    (relates : ∀ app, s.getApp k.appID = some app → related app (f app)) :
    k.RowFrom s t related := by
  intro app' here
  rw [found] at here
  obtain ⟨app, before, rfl⟩ := Option.map_eq_some_iff.mp here
  exact ⟨app, before, (same app).1, (same app).2, relates app before⟩

theorem stays_of_map (found : t.getApp k.appID = (s.getApp k.appID).map f)
    (same : ∀ app, (f app).slug = app.slug ∧ (f app).domains = app.domains) (app : App)
    (here : s.getApp k.appID = some app) :
    ∃ app', t.getApp k.appID = some app' ∧ app'.domains = app.domains := by
  refine ⟨f app, ?_, (same app).2⟩
  rw [found, here, Option.map_some]

theorem handling_unverify (s : World) : k.Handling s (s.setAppDomainVerified k.appID false) := by
  have found := getApp_setAppDomainVerified s k.appID false
  refine ⟨⟨_, _, rfl⟩, stays_of_map found fun _ => ⟨rfl, rfl⟩, .kept rfl ?_⟩
  refine .of_map found (fun _ => ⟨rfl, rfl⟩) fun app _ => ⟨.inl rfl, fun raised => ?_⟩
  cases raised

theorem handling_verify (s : World) (domain : String) :
    k.Handling s { s.setAppDomainVerified k.appID true with
      domainLog := s.domainLog ++ [.verified k.appID domain] } := by
  have found := getApp_setAppDomainVerified s k.appID true
  exact ⟨⟨_, _, rfl⟩, stays_of_map found fun _ => ⟨rfl, rfl⟩, .verified domain rfl
    (.of_map found (fun _ => ⟨rfl, rfl⟩) fun app _ => rfl)⟩

theorem handling_writeApp (s : World) (arg : World.UpdateAppParams) (own : arg.id = k.appID) :
    k.Handling s (writeApp arg s).1 := by
  obtain ⟨f, found, effect⟩ := getApp_updateApp s arg
  rw [own] at found
  have same : ∀ app, (f app).slug = app.slug ∧ (f app).domains = app.domains :=
    fun app => (effect app).2.2
  have flag : ∀ app, (f app).domainVerified → app.domainVerified := by
    intro app raised
    rwa [(effect app).2.1] at raised
  have log : (writeApp arg s).1.domainLog =
      s.domainLog ++ domainChange s (s.updateApp arg) k.appID := by
    rw [← own]
    rfl
  have after : customDomain (s.updateApp arg) k.appID =
      (s.getApp k.appID).bind fun _ => arg.customDomain := by
    rw [customDomain, found]
    cases s.getApp k.appID with
    | none => rfl
    | some app => exact (effect app).1
  refine ⟨⟨_, _, rfl⟩, stays_of_map found same, ?_⟩
  match before : s.getApp k.appID with
  | none =>
    rw [before, Option.bind_none] at after
    refine .kept (by rw [log, domainChange, after, List.append_nil]) ?_
    refine .of_map found same fun app here => ?_
    rw [before] at here
    cases here
  | some row =>
    rw [before, Option.bind_some] at after
    match written : arg.customDomain with
    | none =>
      refine .kept (by rw [log, domainChange, after, written, List.append_nil]) ?_
      refine .of_map found same fun app here => ⟨.inr ?_, flag app⟩
      rw [(effect app).1, written]
    | some domain =>
      by_cases already : customDomain s k.appID = some domain
      · refine .kept (by rw [log, domainChange, after, written]; simp [already]) ?_
        refine .of_map found same fun app here => ⟨.inl ?_, flag app⟩
        rw [customDomain, here, Option.bind_some] at already
        rw [(effect app).1, written, already]
      · refine .changed domain (by rw [log, domainChange, after, written]; simp [already]) ?_
        refine .of_map found same fun app here => ⟨?_, flag app⟩
        rw [(effect app).1, written]

end Handlers

theorem Handling.same {s t : World} (handling : k.Handling s t) :
    t.deployments = s.deployments ∧ t.routes = s.routes ∧ t.sent = s.sent ∧
      t.started = s.started := by
  obtain ⟨apps, log, rfl⟩ := handling.frame
  exact ⟨rfl, rfl, rfl, rfl⟩

/-- **A careful step of a handler keeps the rows sound.** -/
theorem Sound.handling {s t : World} {tasks : List Task} (sound : k.Sound s)
    (handling : k.Handling s t)
    (careful : ∀ event ∈ t.domainLog.drop s.domainLog.length, k.EventOk s tasks event) :
    k.Sound t := by
  obtain ⟨sameDeployments, sameRoutes, -, -⟩ := handling.same
  have slug : ∀ {related : App → App → Prop}, k.RowFrom s t related →
      ∀ app', t.getApp k.appID = some app' → app'.slug = k.slug := by
    intro related row app' here
    obtain ⟨app, before, same, -, -⟩ := row app' here
    rw [same]
    exact sound.slug app before
  have platforms : ∀ d ∈ t.deployments, d.appID = k.appID →
      d.platformDomain = "" ∨ k.reserved d.platformDomain := by
    rw [sameDeployments]
    exact sound.platforms
  cases handling.write with
  | kept log row =>
    refine ⟨slug row, ?_, ?_, platforms, ?_, ?_⟩
    · intro app' here domain custom raised
      rw [log]
      obtain ⟨app, before, -, -, keeps | gone, flag⟩ := row app' here
      · exact sound.row app before domain (keeps ▸ custom) (flag raised)
      · rw [gone] at custom
        cases custom
    · intro app' here domain member
      rw [log]
      obtain ⟨app, before, -, domains, -⟩ := row app' here
      exact sound.extra app before domain (domains ▸ member)
    · rw [sameRoutes, log]
      exact sound.routes
    · rw [log]
      exact sound.unreserved
  | changed domain log row =>
    rw [log, List.drop_left] at careful
    obtain ⟨down, free, unused, -⟩ := careful _ List.mem_cons_self rfl
    obtain ⟨unlisted, unrouted⟩ := Bool.or_eq_false_iff.mp unused
    refine ⟨slug row, ?_, ?_, platforms, ?_, ?_⟩
    · intro app' here domain' custom raised
      obtain ⟨app, before, -, -, -, flag⟩ := row app' here
      have up : app.domainVerified = false := by
        simpa [unverified, before] using down
      rw [flag raised] at up
      cases up
    · intro app' here domain' member
      obtain ⟨app, before, -, domains, -⟩ := row app' here
      rw [domains] at member
      rw [log]
      refine (sound.extra app before domain' member).concat ?_
      intro same
      cases same
      simp [before, member] at unlisted
    · intro r member own
      rw [sameRoutes] at member
      rw [log]
      refine (sound.routes r member own).concat ?_
      intro same
      cases same
      have clash := List.any_eq_false.mp unrouted r member
      simp [own] at clash
    · intro domain' changed
      rw [log] at changed
      rcases List.mem_append.mp changed with old | new
      · exact sound.unreserved domain' old
      · cases List.mem_singleton.mp new
        exact free
  | verified domain log row =>
    rw [log, List.drop_left] at careful
    have current := careful _ List.mem_cons_self rfl
    have other : ∀ {domain'}, DomainEvent.verified k.appID domain ≠ .changed k.appID domain' := by
      intro domain' same
      cases same
    refine ⟨slug row, ?_, ?_, platforms, ?_, ?_⟩
    · intro app' here domain' custom raised
      obtain ⟨app, before, -, -, keeps⟩ := row app' here
      rw [customDomain, before, Option.bind_some, ← keeps, custom] at current
      cases current
      rw [log]
      exact cleared_verified
    · intro app' here domain' member
      obtain ⟨app, before, -, domains, -⟩ := row app' here
      rw [log]
      exact (sound.extra app before domain' (domains ▸ member)).concat other
    · intro r member own
      rw [sameRoutes] at member
      rw [log]
      exact (sound.routes r member own).concat other
    · intro domain' changed
      rw [log] at changed
      rcases List.mem_append.mp changed with old | new
      · exact sound.unreserved domain' old
      · cases List.mem_singleton.mp new

/-! ## What a running request relies on -/

/-- What the others do between two steps of a task: they never change the domain to one
the task may have read, and what the rows say stays sound. -/
structure Rely (k : AppScope) (hold : Hold) (s t : World) : Prop where
  log : ∃ events, t.domainLog = s.domainLog ++ events ∧
    (∀ domain, customDomain t k.appID = some domain →
      customDomain s k.appID = some domain ∨ .changed k.appID domain ∈ events) ∧
    ∀ domain, hold.Has k.appID s domain → .changed k.appID domain ∉ events
  stays : ∀ app, s.getApp k.appID = some app →
    ∃ app', t.getApp k.appID = some app' ∧ app'.domains = app.domains
  sound : k.Sound s → k.Sound t
  routes : ∀ r ∈ s.routes, r ∈ t.routes
  ownsDeployment : ∀ id, k.OwnsDeployment s id → k.OwnsDeployment t id
  ownsRoute : ∀ id, k.OwnsRoute s id → k.OwnsRoute t id

section Rely

variable {hold : Hold} {s t u : World}

theorem Rely.of_routing (routing : k.Routing s t) : k.Rely hold s t where
  log := by
    refine ⟨[], by rw [routing.log, List.append_nil], ?_, fun _ _ => List.not_mem_nil⟩
    intro domain custom
    rw [customDomain, World.getApp, routing.apps] at custom
    exact .inl custom
  stays := by
    intro app here
    refine ⟨app, ?_, rfl⟩
    rwa [World.getApp, routing.apps]
  sound := routing.sound
  routes := routing.routes
  ownsDeployment := routing.ownsDeployment
  ownsRoute := routing.ownsRoute

theorem Rely.refl (s : World) : k.Rely hold s s := .of_routing (.refl s)

theorem Rely.trans (first : k.Rely hold s t) (second : k.Rely hold t u) : k.Rely hold s u where
  log := by
    obtain ⟨events, log, custom, spared⟩ := first.log
    obtain ⟨events', log', custom', spared'⟩ := second.log
    refine ⟨events ++ events', by rw [log', log, List.append_assoc], ?_, ?_⟩
    · intro domain here
      rcases custom' domain here with before | new
      · exact (custom domain before).imp_right (List.mem_append_left _)
      · exact .inr (List.mem_append_right _ new)
    · intro domain has
      rw [List.mem_append, not_or]
      exact ⟨spared domain has, spared' domain (Hold.has_append has log)⟩
  stays := by
    intro app here
    obtain ⟨app', there, same⟩ := first.stays app here
    obtain ⟨app'', last, same'⟩ := second.stays app' there
    exact ⟨app'', last, same'.trans same⟩
  sound := fun sound => second.sound (first.sound sound)
  routes := fun r here => second.routes r (first.routes r here)
  ownsDeployment := fun id owns => second.ownsDeployment id (first.ownsDeployment id owns)
  ownsRoute := fun id owns => second.ownsRoute id (first.ownsRoute id owns)

/-- A careful step of a handler is what a task relies on that does not hold the domain. -/
theorem Rely.of_handling {tasks : List Task} (handling : k.Handling s t)
    (careful : ∀ event ∈ t.domainLog.drop s.domainLog.length, k.EventOk s tasks event)
    (free : ∀ domain, .changed k.appID domain ∈ t.domainLog.drop s.domainLog.length →
      ¬ hold.Has k.appID s domain) : k.Rely hold s t := by
  have sound : k.Sound s → k.Sound t := fun sound => sound.handling handling careful
  have custom : ∀ {related : App → App → Prop}, k.RowFrom s t related → ∀ domain,
      customDomain t k.appID = some domain → ∃ app app', s.getApp k.appID = some app ∧
        app'.customDomain = some domain ∧ related app app' := by
    intro related row domain here
    obtain ⟨app', found, custom⟩ := Option.bind_eq_some_iff.mp here
    obtain ⟨app, before, -, -, relates⟩ := row app' found
    exact ⟨app, app', before, custom, relates⟩
  have log : ∃ events, t.domainLog = s.domainLog ++ events ∧ ∀ domain,
      customDomain t k.appID = some domain →
        customDomain s k.appID = some domain ∨ .changed k.appID domain ∈ events := by
    cases handling.write with
    | kept same row =>
      refine ⟨[], by rw [same, List.append_nil], fun domain here => .inl ?_⟩
      obtain ⟨app, app', before, custom, keeps | gone, -⟩ := custom row domain here
      · rw [customDomain, before, Option.bind_some, ← keeps, custom]
      · rw [gone] at custom
        cases custom
    | changed domain same row =>
      refine ⟨_, same, fun domain' here => .inr ?_⟩
      obtain ⟨app, app', before, custom, new, -⟩ := custom row domain' here
      rw [new] at custom
      cases custom
      exact List.mem_cons_self
    | verified domain same row =>
      refine ⟨_, same, fun domain' here => .inl ?_⟩
      obtain ⟨app, app', before, custom, keeps⟩ := custom row domain' here
      rw [customDomain, before, Option.bind_some, ← keeps, custom]
  obtain ⟨events, same, customs⟩ := log
  obtain ⟨sameDeployments, sameRoutes, -, -⟩ := handling.same
  refine ⟨⟨events, same, customs, ?_⟩, handling.stays, sound, ?_, ?_, ?_⟩
  · intro domain has changed
    refine free domain ?_ has
    rwa [same, List.drop_left]
  · rw [sameRoutes]
    exact fun r here => here
  · intro id owns
    rwa [OwnsDeployment, sameDeployments]
  · intro id owns
    rwa [OwnsRoute, sameRoutes]

end Rely

end AppScope

end Nixway.Deploy
