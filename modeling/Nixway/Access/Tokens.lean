/-
# Access.Tokens -- who a request is, and what its token may do

`authenticate` of `internal/api/middleware/auth.go` makes an `AuthContext` of a
request, from a bearer token or from a session.  `checkTeamRole` of `rbac.go` is the
check the handlers share: a token's scopes against the scopes the handler names, then
the user's membership of the team against the handler's minimum role.

A scope grants itself, `*` grants everything, and `resource:*` grants what begins with
`resource:`.  The relation is transitive (`tokenHasScope_trans`).
-/
import Nixway.Store.Schema
import Nixway.Theory.Text

namespace Nixway.Access

open Nixway.Store Nixway.Theory.Text

set_option autoImplicit false

/-! ## Rows -/

/-- `team_memberships.role`. -/
inductive Role where
  | owner | admin | member
deriving DecidableEq

def Role.rank : Role → Nat
  | .member => 1
  | .admin => 2
  | .owner => 3

def Role.atLeast (role required : Role) : Bool := required.rank ≤ role.rank

structure Membership where
  teamID : UUID
  userID : UUID
  role : Role

/-- `api_tokens`; times are seconds. -/
structure APIToken where
  id : UUID
  teamID : UUID
  userID : UUID
  name : String
  tokenHash : String
  scopes : List String
  expiresAt : Option Int := none
  revokedAt : Option Int := none
deriving DecidableEq

/-- What the middleware reads: the rows, the sessions, the clock, and the digest of a
token, `auth.HashToken`. -/
structure Platform where
  memberships : List Membership
  apiTokens : List APIToken
  sessions : String → Option UUID
  hashToken : String → String
  now : Int

def Platform.getMembership (p : Platform) (teamID userID : UUID) : Option Membership :=
  p.memberships.find? fun m => m.teamID = teamID ∧ m.userID = userID

def Platform.getAPITokenByHash (p : Platform) (hash : String) : Option APIToken :=
  p.apiTokens.find? fun token => token.tokenHash = hash ∧ token.revokedAt = none

/-! ## Authentication -/

structure AuthContext where
  userID : UUID
  teamID : Option UUID := none
  tokenID : Option UUID := none
  scopes : List String := []
deriving DecidableEq

/-- The parts of a request `authenticate` looks at. -/
structure Request where
  authorization : String := ""
  sessionCookie : Option String := none
  upgrade : String := ""
  sessionToken : String := ""

/-- Simple case folding, as far as it leads to the letters of `websocket`. -/
def foldChar (c : Char) : Char :=
  if c = 'ſ' then 's' else if c = 'K' then 'k' else c.toLower

def Request.isWebSocketUpgrade (r : Request) : Bool :=
  r.upgrade.toList.map foldChar = "websocket".toList

def APIToken.expired (token : APIToken) (now : Int) : Bool :=
  match token.expiresAt with
  | none => false
  | some time => time < now

def APIToken.context (token : APIToken) : AuthContext where
  userID := token.userID
  teamID := some token.teamID
  tokenID := some token.id
  scopes := token.scopes

def authenticate (p : Platform) (r : Request) : Option AuthContext :=
  if hasPrefix r.authorization "Bearer " then
    match p.getAPITokenByHash (p.hashToken (trimPrefix r.authorization "Bearer ")) with
    | none => none
    | some token => if token.expired p.now then none else some token.context
  else
    let sessionToken :=
      match r.sessionCookie with
      | some cookie => cookie
      | none => if r.isWebSocketUpgrade then r.sessionToken else ""
    if sessionToken = "" then none
    else (p.sessions sessionToken).map fun userID => { userID := userID }

/-- The bearer of a request is the token: the row its digest finds, not expired. -/
def Bears (p : Platform) (r : Request) (token : APIToken) : Prop :=
  hasPrefix r.authorization "Bearer " ∧
    p.getAPITokenByHash (p.hashToken (trimPrefix r.authorization "Bearer ")) = some token ∧
      token.expired p.now = false

theorem Bears.authenticate {p : Platform} {r : Request} {token : APIToken}
    (bears : Bears p r token) : authenticate p r = some token.context := by
  obtain ⟨bearer, found, current⟩ := bears
  simp [Access.authenticate, bearer, found, current]

/-! ## Scopes -/

def scopeAll : String := "*"

/-- A resource that has scopes of its own. -/
inductive Resource where
  | teams | members | invites | tokens | audit | servers

inductive Action where
  | read | write

def Resource.text : Resource → String
  | .teams => "teams"
  | .members => "members"
  | .invites => "invites"
  | .tokens => "tokens"
  | .audit => "audit"
  | .servers => "servers"

def Action.text : Action → String
  | .read => "read"
  | .write => "write"

/-- `teams:read` and its siblings. -/
def scopeOf (resource : Resource) (action : Action) : String :=
  resource.text ++ ":" ++ action.text

/-- There is no `audit:write`. -/
def validTokenScopes : List String :=
  [scopeAll, "teams:*", "members:*", "invites:*", "tokens:*", "audit:*", "servers:*",
    "teams:read", "teams:write", "members:read", "members:write", "invites:read", "invites:write",
    "tokens:read", "tokens:write", "audit:read", "servers:read", "servers:write"]

def validTokenScope (scope : String) : Bool := scope ∈ validTokenScopes

def tokenHasScope (scopes : List String) (required : String) : Bool :=
  required = "" || scopes.any fun scope =>
    scope = scopeAll || scope = required ||
      (hasSuffix scope ":*" && hasPrefix required (trimSuffix scope "*"))

def tokenHasAnyScope (scopes required : List String) : Bool :=
  required.isEmpty || required.any (tokenHasScope scopes)

/-- One scope grants a required one. -/
def Grants (scope required : String) : Prop :=
  scope = scopeAll ∨ scope = required ∨
    ∃ resource, scope = resource ++ ":*" ∧ (resource ++ ":").toList <+: required.toList

theorem wildcard_iff {scope required : String} :
    (hasSuffix scope ":*" && hasPrefix required (trimSuffix scope "*")) ↔
      ∃ resource, scope = resource ++ ":*" ∧ (resource ++ ":").toList <+: required.toList := by
  have trims : ∀ resource : String, trimSuffix (resource ++ ":*") "*" = resource ++ ":" := by
    intro resource
    have split : resource ++ ":*" = resource ++ ":" ++ "*" := by
      rw [String.append_assoc]
      rfl
    rw [split, trimSuffix_append]
  simp only [Bool.and_eq_true, hasSuffix_iff, hasPrefix_iff]
  constructor
  · rintro ⟨⟨resource, rfl⟩, starts⟩
    rw [trims] at starts
    exact ⟨resource, rfl, starts⟩
  · rintro ⟨resource, rfl, starts⟩
    rw [trims]
    exact ⟨⟨resource, rfl⟩, starts⟩

theorem tokenHasScope_iff {scopes : List String} {required : String} :
    tokenHasScope scopes required ↔ required = "" ∨ ∃ scope ∈ scopes, Grants scope required := by
  simp only [tokenHasScope, Bool.or_eq_true, decide_eq_true_eq, List.any_eq_true, wildcard_iff,
    Grants, or_assoc]

theorem tokenHasScope_of_mem {scopes : List String} {scope : String} (mem : scope ∈ scopes) :
    tokenHasScope scopes scope := by
  rw [tokenHasScope_iff]
  exact .inr ⟨scope, mem, .inr (.inl rfl)⟩

/-- The empty scope grants nothing that is named. -/
theorem Grants.of_empty {required : String} (grants : Grants "" required) : required = "" := by
  obtain star | rfl | ⟨resource, ends, -⟩ := grants
  · simp [scopeAll] at star
  · rfl
  · have lengths := congrArg (fun s => s.toList.length) ends
    simp at lengths

/-- What grants a wildcard grants everything under it: `resource:` ends in a colon, so
it cannot reach into the star. -/
theorem Grants.trans {scope middle required : String} (first : Grants scope middle)
    (second : Grants middle required) : Grants scope required := by
  obtain all | rfl | ⟨outer, rfl, outerStarts⟩ := first
  · exact .inl all
  · exact second
  · refine .inr (.inr ⟨outer, rfl, ?_⟩)
    obtain rfl | rfl | ⟨inner, rfl, innerStarts⟩ := second
    · have reaches : ¬ (outer ++ ":").toList <+: ['*'] := by
        intro starts
        obtain rfl : outer = "" := by
          have short := starts.length_le
          apply String.toList_inj.mp
          exact List.eq_nil_of_length_eq_zero (by simpa using short)
        simp at starts
      exact absurd outerStarts reaches
    · exact outerStarts
    · have split : (inner ++ ":*").toList = (inner ++ ":").toList ++ ['*'] := by simp
      rw [split, List.prefix_concat_iff] at outerStarts
      obtain whole | within := outerStarts
      · have ends := congrArg List.getLast? whole
        simp at ends
      · exact within.trans innerStarts

theorem tokenHasScope_trans {scopes : List String} {middle required : String}
    (first : tokenHasScope scopes middle) (second : tokenHasScope [middle] required) :
    tokenHasScope scopes required := by
  rw [tokenHasScope_iff] at first second ⊢
  obtain empty | ⟨_, mem, second⟩ := second
  · exact .inl empty
  · rw [List.mem_singleton.mp mem] at second
    obtain rfl | ⟨scope, held, first⟩ := first
    · exact .inl second.of_empty
    · exact .inr ⟨scope, held, first.trans second⟩

/-! ## The check -/

/-- The answer `respond.Error` writes. -/
structure Refusal where
  status : Nat
  message : String
deriving DecidableEq

def checkTeamRole (p : Platform) (authCtx : Option AuthContext) (teamID : UUID) (minRole : Role)
    (requiredScopes : List String) : Except Refusal Role :=
  match authCtx with
  | none => .error ⟨401, "authentication required"⟩
  | some ctx =>
    if ctx.tokenID.isSome && !tokenHasAnyScope ctx.scopes requiredScopes then
      .error ⟨403, "token scope does not allow this action"⟩
    else
      match p.getMembership teamID ctx.userID with
      | none => .error ⟨403, "not a member of this team"⟩
      | some membership =>
        if membership.role.atLeast minRole then .ok membership.role
        else .error ⟨403, "insufficient permissions"⟩

/-- What lets a token pass: its scopes and its owner's membership. -/
theorem checkTeamRole_token {p : Platform} {token : APIToken} {teamID : UUID} {minRole : Role}
    {required : String} :
    (checkTeamRole p (some token.context) teamID minRole [required]).isOk ↔
      tokenHasScope token.scopes required ∧
        ∃ membership, p.getMembership teamID token.userID = some membership ∧
          membership.role.atLeast minRole := by
  unfold checkTeamRole
  by_cases covered : tokenHasScope token.scopes required
  · match found : p.getMembership teamID token.userID with
    | none =>
      simp [APIToken.context, tokenHasAnyScope, covered, found, Except.isOk, Except.toBool]
    | some membership =>
      by_cases enough : membership.role.atLeast minRole
      · simp [APIToken.context, tokenHasAnyScope, covered, found, enough, Except.isOk,
          Except.toBool]
      · simp [APIToken.context, tokenHasAnyScope, covered, found, enough, Except.isOk,
          Except.toBool]
  · simp [APIToken.context, tokenHasAnyScope, covered, Except.isOk, Except.toBool]

end Nixway.Access
