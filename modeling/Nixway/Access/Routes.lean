/-
# Access.Routes -- what a token opens

The routes of `internal/api/router.go` whose handlers call `CheckTeamRole`, each with
the role and the scope its call names.  Every call names one scope, that of the
route's resource and action, so a token never gets past its scopes (`scope_eq`).

The team is another matter.  `authenticate` puts the token's team into the context and
`TeamHandler.List` shows a token no other team, but `checkTeamRole` compares the path's
team only with the memberships of the token's owner.  `Home` is what keeps a token in
its team all the same.
-/
import Nixway.Access.Tokens

namespace Nixway.Access

open Nixway.Store

set_option autoImplicit false

/-! ## The table -/

inductive Method where
  | get | post | put | delete

def Method.action : Method → Action
  | .get => .read
  | _ => .write

inductive Route where
  | teamGet | teamUpdate | teamDelete
  | teamListMembers | teamUpdateMember | teamRemoveMember
  | teamCreateInvite | teamListInvites | teamCancelInvite
  | tokenCreate | tokenList | tokenRevoke
  | auditList
  | serverCreate | serverList | serverGet | serverUpdate | serverSetRole | serverDelete
  | serverCleanup | serverMetrics
  | provisionStart | provisionStatus | provisionStreamLogs | provisionRetry
  | observabilityMetrics | observabilityListAlerts | observabilityCreateAlert
  | observabilityUpdateAlert | observabilityDeleteAlert | observabilityEvaluateAlerts
  | observabilityEvents | observabilityListChannels | observabilityCreateChannel
  | observabilityCreateSilence | observabilityClusterScrapeConfig
  | observabilitySyncClusterScrapeConfig
  | volumeCreate | volumeList | volumeGet | volumeDelete | volumeAttach | volumeDetach
  | volumeMove | volumeSnapshot | volumeResize | volumeListSnapshots

/-- A line of the router, and the arguments of its handler's check. -/
structure Endpoint where
  method : Method
  path : String
  minRole : Role
  scope : String

def Route.endpoint : Route → Endpoint
  | .teamGet => ⟨.get, "/teams/{id}", .member, "teams:read"⟩
  | .teamUpdate => ⟨.put, "/teams/{id}", .admin, "teams:write"⟩
  | .teamDelete => ⟨.delete, "/teams/{id}", .owner, "teams:write"⟩
  | .teamListMembers => ⟨.get, "/teams/{id}/members", .member, "members:read"⟩
  | .teamUpdateMember => ⟨.put, "/teams/{id}/members/{userID}", .owner, "members:write"⟩
  | .teamRemoveMember => ⟨.delete, "/teams/{id}/members/{userID}", .owner, "members:write"⟩
  | .teamCreateInvite => ⟨.post, "/teams/{id}/invites", .admin, "invites:write"⟩
  | .teamListInvites => ⟨.get, "/teams/{id}/invites", .member, "invites:read"⟩
  | .teamCancelInvite => ⟨.delete, "/teams/{id}/invites/{inviteID}", .admin, "invites:write"⟩
  | .tokenCreate => ⟨.post, "/teams/{id}/tokens", .admin, "tokens:write"⟩
  | .tokenList => ⟨.get, "/teams/{id}/tokens", .member, "tokens:read"⟩
  | .tokenRevoke => ⟨.delete, "/teams/{id}/tokens/{tokenID}", .admin, "tokens:write"⟩
  | .auditList => ⟨.get, "/teams/{id}/audit-logs", .admin, "audit:read"⟩
  | .serverCreate => ⟨.post, "/teams/{id}/servers", .admin, "servers:write"⟩
  | .serverList => ⟨.get, "/teams/{id}/servers", .member, "servers:read"⟩
  | .serverGet => ⟨.get, "/teams/{id}/servers/{serverId}", .member, "servers:read"⟩
  | .serverUpdate => ⟨.put, "/teams/{id}/servers/{serverId}", .admin, "servers:write"⟩
  | .serverSetRole => ⟨.put, "/teams/{id}/servers/{serverId}/role", .admin, "servers:write"⟩
  | .serverDelete => ⟨.delete, "/teams/{id}/servers/{serverId}", .admin, "servers:write"⟩
  | .serverCleanup => ⟨.post, "/teams/{id}/servers/{serverId}/cleanup", .admin, "servers:write"⟩
  | .serverMetrics => ⟨.get, "/teams/{id}/servers/{serverId}/metrics", .member, "servers:read"⟩
  | .provisionStart =>
    ⟨.post, "/teams/{id}/servers/{serverId}/provision", .admin, "servers:write"⟩
  | .provisionStatus =>
    ⟨.get, "/teams/{id}/servers/{serverId}/provision", .member, "servers:read"⟩
  | .provisionStreamLogs =>
    ⟨.get, "/teams/{id}/servers/{serverId}/provision/{jobId}/logs", .member, "servers:read"⟩
  | .provisionRetry =>
    ⟨.post, "/teams/{id}/servers/{serverId}/provision/retry", .admin, "servers:write"⟩
  | .observabilityMetrics => ⟨.get, "/teams/{id}/observability/metrics", .member, "servers:read"⟩
  | .observabilityListAlerts => ⟨.get, "/teams/{id}/observability/alerts", .member, "servers:read"⟩
  | .observabilityCreateAlert =>
    ⟨.post, "/teams/{id}/observability/alerts", .admin, "servers:write"⟩
  | .observabilityUpdateAlert =>
    ⟨.put, "/teams/{id}/observability/alerts/{alertId}", .admin, "servers:write"⟩
  | .observabilityDeleteAlert =>
    ⟨.delete, "/teams/{id}/observability/alerts/{alertId}", .admin, "servers:write"⟩
  | .observabilityEvaluateAlerts =>
    ⟨.post, "/teams/{id}/observability/alerts/evaluate", .admin, "servers:write"⟩
  | .observabilityEvents => ⟨.get, "/teams/{id}/observability/events", .member, "servers:read"⟩
  | .observabilityListChannels =>
    ⟨.get, "/teams/{id}/observability/channels", .member, "servers:read"⟩
  | .observabilityCreateChannel =>
    ⟨.post, "/teams/{id}/observability/channels", .admin, "servers:write"⟩
  | .observabilityCreateSilence =>
    ⟨.post, "/teams/{id}/observability/silences", .admin, "servers:write"⟩
  | .observabilityClusterScrapeConfig =>
    ⟨.get, "/teams/{id}/clusters/{clusterId}/observability/scrape-config", .member,
      "servers:read"⟩
  | .observabilitySyncClusterScrapeConfig =>
    ⟨.post, "/teams/{id}/clusters/{clusterId}/observability/scrape-config/sync", .admin,
      "servers:write"⟩
  | .volumeCreate => ⟨.post, "/teams/{id}/volumes", .admin, "servers:write"⟩
  | .volumeList => ⟨.get, "/teams/{id}/volumes", .member, "servers:read"⟩
  | .volumeGet => ⟨.get, "/teams/{id}/volumes/{volumeId}", .member, "servers:read"⟩
  | .volumeDelete => ⟨.delete, "/teams/{id}/volumes/{volumeId}", .admin, "servers:write"⟩
  | .volumeAttach => ⟨.post, "/teams/{id}/volumes/{volumeId}/attach", .admin, "servers:write"⟩
  | .volumeDetach => ⟨.post, "/teams/{id}/volumes/{volumeId}/detach", .admin, "servers:write"⟩
  | .volumeMove => ⟨.post, "/teams/{id}/volumes/{volumeId}/move", .admin, "servers:write"⟩
  | .volumeSnapshot => ⟨.post, "/teams/{id}/volumes/{volumeId}/snapshot", .admin, "servers:write"⟩
  | .volumeResize => ⟨.post, "/teams/{id}/volumes/{volumeId}/resize", .admin, "servers:write"⟩
  | .volumeListSnapshots =>
    ⟨.get, "/teams/{id}/volumes/{volumeId}/snapshots", .member, "servers:read"⟩

/-- What a route is about.  Provisioning, observability and volumes have no scopes of
their own and stand under the servers. -/
def Route.resource : Route → Resource
  | .teamGet | .teamUpdate | .teamDelete => .teams
  | .teamListMembers | .teamUpdateMember | .teamRemoveMember => .members
  | .teamCreateInvite | .teamListInvites | .teamCancelInvite => .invites
  | .tokenCreate | .tokenList | .tokenRevoke => .tokens
  | .auditList => .audit
  | _ => .servers

def Route.action (route : Route) : Action := route.endpoint.method.action

/-- Every call of the check names the scope of its route. -/
theorem Route.scope_eq (route : Route) :
    route.endpoint.scope = scopeOf route.resource route.action := by
  cases route <;> rfl

/-- The request gets past the check of the route for a team. -/
def Route.opens (route : Route) (p : Platform) (r : Request) (teamID : UUID) : Bool :=
  match authenticate p r with
  | none => false
  | some ctx =>
    (checkTeamRole p (some ctx) teamID route.endpoint.minRole [route.endpoint.scope]).isOk

/-! ## Confinement -/

/-- **A confined token.**  Whatever the token opens is in its team and covered by its
scopes. -/
def Confined (p : Platform) (token : APIToken) : Prop :=
  ∀ (route : Route) (r : Request) (teamID : UUID), Bears p r token → route.opens p r teamID →
    teamID = token.teamID ∧
      tokenHasScope token.scopes (scopeOf route.resource route.action)

/-- In no other team does the owner hold a role that lets the token through: a token
that some request can bear stays at home. -/
def Home (p : Platform) (token : APIToken) : Prop :=
  (∃ r, Bears p r token) → ∀ (teamID : UUID) (membership : Membership), teamID ≠ token.teamID →
    p.getMembership teamID token.userID = some membership →
      ∀ route : Route, membership.role.atLeast route.endpoint.minRole →
        ¬ tokenHasScope token.scopes route.endpoint.scope

section

variable {p : Platform} {r : Request} {token : APIToken}

theorem opens_iff (bears : Bears p r token) {route : Route} {teamID : UUID} :
    route.opens p r teamID ↔
      tokenHasScope token.scopes route.endpoint.scope ∧
        ∃ membership, p.getMembership teamID token.userID = some membership ∧
          membership.role.atLeast route.endpoint.minRole := by
  rw [Route.opens, bears.authenticate]
  exact checkTeamRole_token

theorem confined_iff_home : Confined p token ↔ Home p token := by
  constructor
  · rintro confined ⟨r, bears⟩ teamID membership elsewhere found route enough covered
    have opens := (opens_iff bears).mpr ⟨covered, membership, found, enough⟩
    exact elsewhere (confined route r teamID bears opens).1
  · intro home route r teamID bears opens
    obtain ⟨covered, membership, found, enough⟩ := (opens_iff bears).mp opens
    constructor
    · by_contra elsewhere
      exact home ⟨r, bears⟩ teamID membership elsewhere found route enough covered
    · rwa [← route.scope_eq]

end

/-- **When API tokens are confined.**  A token is confined if and only if its owner
holds no role in another team that suffices for a route the token's scopes cover; and
two tokens of different teams that are both confined never open the same route of the
same team. -/
theorem tokens_confined_iff (p : Platform) :
    (∀ token, Confined p token ↔ Home p token) ∧
    ∀ token other : APIToken, token.userID = other.userID → token.teamID ≠ other.teamID →
      (∀ scope ∈ token.scopes, scope ∉ other.scopes) → Home p token → Home p other →
      ∀ (route : Route) (teamID : UUID) (r s : Request), Bears p r token → Bears p s other →
        ¬ (route.opens p r teamID ∧ route.opens p s teamID) := by
  refine ⟨fun token => confined_iff_home, ?_⟩
  rintro token other - elsewhere - home otherHome route teamID r s bears otherBears
    ⟨opens, otherOpens⟩
  have here := (confined_iff_home.mpr home route r teamID bears opens).1
  have there := (confined_iff_home.mpr otherHome route s teamID otherBears otherOpens).1
  exact elsewhere (here.symm.trans there)

/-- Two tokens of one user, for the teams 1 and 2. -/
def ci : APIToken where
  id := 10
  teamID := 1
  userID := 7
  name := "ci"
  tokenHash := "h:nxw_ci"
  scopes := ["servers:read"]

def ops : APIToken where
  id := 11
  teamID := 2
  userID := 7
  name := "ops"
  tokenHash := "h:nxw_ops"
  scopes := ["servers:write"]

def twoTokens (memberships : List Membership) : Platform where
  memberships := memberships
  apiTokens := [ci, ops]
  sessions := fun _ => none
  hashToken := fun plain => "h:" ++ plain
  now := 0

/-- The user has left the second team: the token of the first opens its servers, that of the
second opens nothing. -/
theorem tokens_confined_after_leaving :
    Route.serverList.opens (twoTokens [⟨1, 7, .member⟩]) { authorization := "Bearer nxw_ci" } 1 ∧
      ¬ (Route.serverList.opens (twoTokens [⟨1, 7, .member⟩])
            { authorization := "Bearer nxw_ci" } 1 ∧
          Route.serverList.opens (twoTokens [⟨1, 7, .member⟩])
            { authorization := "Bearer nxw_ops" } 1) := by
  refine ⟨by decide +kernel, (tokens_confined_iff (twoTokens [⟨1, 7, .member⟩])).2 ci ops rfl
    (by decide) (by decide) ?_ ?_ .serverList 1 _ _ (by unfold Bears; decide +kernel)
    (by unfold Bears; decide +kernel)⟩
  · rintro - teamID membership elsewhere found
    have here := List.find?_some found
    have only := List.mem_of_find?_eq_some found
    obtain rfl := List.mem_singleton.mp only
    simp_all [ci]
  · rintro - teamID membership elsewhere found route enough
    have only := List.mem_of_find?_eq_some found
    obtain rfl := List.mem_singleton.mp only
    cases route <;> first | decide +kernel | cases enough

def twoTeams : Platform := twoTokens [⟨1, 7, .member⟩, ⟨2, 7, .member⟩]

/-- The token of the first team lists the servers of the second. -/
theorem token_leaves_team :
    ci.teamID = 1 ∧ Bears twoTeams { authorization := "Bearer nxw_ci" } ci ∧
      Route.serverList.opens twoTeams { authorization := "Bearer nxw_ci" } 2 ∧
      ¬ Confined twoTeams ci := by
  have bears : Bears twoTeams { authorization := "Bearer nxw_ci" } ci := by
    unfold Bears
    decide +kernel
  have opens : Route.serverList.opens twoTeams { authorization := "Bearer nxw_ci" } 2 := by
    decide +kernel
  refine ⟨rfl, bears, opens, fun confined => ?_⟩
  exact absurd (confined .serverList _ 2 bears opens).1 (by decide)

end Nixway.Access
