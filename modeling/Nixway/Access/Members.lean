/-
# Access.Members -- teams, their members and their invites

The handlers of `internal/api/handler/member.go` and `invite.go` and `TeamHandler.Create`
of `team.go`: one atomic step per SQL statement, an error return as the answer written.
The role check of `rbac.go` is the statement that reads the caller's membership.  Requests
whose ids or body do not parse are answered before anything is written and are left out,
and so are the audit log and the mail.

Two columns are history, read by no handler: `origin` says which request wrote a
membership last and what its role check had found, `inviterRole` what the check of the
request that made an invite had found.
-/
import Nixway.Access.Tokens
import Nixway.Theory.Prog
import Nixway.Theory.Table

namespace Nixway.Access

open Nixway.Store Nixway.Theory
open Nixway.Theory.Prog (query exec atomic)

set_option autoImplicit false

/-! ## Rows -/

/-- The CHECK of `team_memberships.role`: the text of an admitted value. -/
def Role.ofText : String → Option Role
  | "owner" => some .owner
  | "admin" => some .admin
  | "member" => some .member
  | _ => none

structure User where
  id : UUID
  email : String

structure TeamRow where
  id : UUID
  name : String
  slug : String

structure Invite where
  id : UUID
  teamID : UUID
  email : String
  role : Role
  token : String
  invitedBy : UUID
  expiresAt : Int
  inviterRole : Role
deriving DecidableEq

/-- The request that wrote a membership. -/
inductive Origin where
  | created
  | updated (caller : UUID) (callerRole : Role)
  | accepted (invite : Invite) (email : String)
deriving DecidableEq

structure MemberRow extends Membership where
  origin : Origin

instance : Keyed User UUID := ⟨User.id⟩
instance : Keyed TeamRow UUID := ⟨TeamRow.id⟩
instance : Keyed Invite UUID := ⟨Invite.id⟩
instance : Keyed MemberRow (UUID × UUID) := ⟨fun m => (m.teamID, m.userID)⟩

@[simp] theorem key_member (m : MemberRow) : Keyed.key m = (m.teamID, m.userID) := rfl

structure TeamStore where
  now : Int := 0
  users : Table User := .empty
  teams : Table TeamRow := .empty
  memberships : Table MemberRow := .empty
  invites : Table Invite := .empty

namespace TeamStore

/-! ## Statements -/

def platform (s : TeamStore) : Platform where
  memberships := s.memberships.rows.map MemberRow.toMembership
  apiTokens := []
  sessions := fun _ => none
  hashToken := id
  now := s.now

def getMembership (s : TeamStore) (teamID userID : UUID) : Option MemberRow :=
  s.memberships.find? (teamID, userID)

def ownerOf (teamID : UUID) (m : MemberRow) : Bool := m.teamID = teamID && m.role = .owner

def countOwners (s : TeamStore) (teamID : UUID) : Nat := s.memberships.rows.countP (ownerOf teamID)

/-- `UPDATE ... SET role`; a text the CHECK refuses is an error. -/
def updateMemberRole (s : TeamStore) (teamID userID : UUID) (role : String) (origin : Origin) :
    TeamStore × Bool :=
  match Role.ofText role with
  | none => (s, false)
  | some role =>
    ({ s with memberships := s.memberships.update (teamID, userID) fun m =>
        { m with role := role, origin := origin } }, true)

def deleteMembership (s : TeamStore) (teamID userID : UUID) : TeamStore :=
  { s with memberships := s.memberships.deleteWhere fun m => Keyed.key m = (teamID, userID) }

/-- The team and the user must exist and must not be joined yet. -/
def createMembership (s : TeamStore) (teamID userID : UUID) (role : Role) (origin : Origin) :
    TeamStore × Bool :=
  if (s.teams.find? teamID).isSome ∧ (s.users.find? userID).isSome then
    match s.memberships.insert? ⟨⟨teamID, userID, role⟩, origin⟩ with
    | some memberships => ({ s with memberships := memberships }, true)
    | none => (s, false)
  else (s, false)

/-- The slug is unique. -/
def createTeam (s : TeamStore) (id : UUID) (name slug : String) : TeamStore × Bool :=
  if s.teams.rows.any fun t => t.slug = slug then (s, false)
  else match s.teams.insert? ⟨id, name, slug⟩ with
    | some teams => ({ s with teams := teams }, true)
    | none => (s, false)

/-- The members and invites go with the team. -/
def deleteTeam (s : TeamStore) (id : UUID) : TeamStore :=
  { s with
    teams := s.teams.deleteWhere fun t => t.id = id
    memberships := s.memberships.deleteWhere fun m => m.teamID = id
    invites := s.invites.deleteWhere fun i => i.teamID = id }

/-- The CHECK of `team_invites.role` admits 'admin' and 'member'; the token is unique. -/
def createInvite (s : TeamStore) (id teamID : UUID) (email role token : String) (invitedBy : UUID)
    (expiresAt : Int) (inviterRole : Role) : TeamStore × Bool :=
  match Role.ofText role with
  | none => (s, false)
  | some .owner => (s, false)
  | some role =>
    if (s.teams.find? teamID).isNone ∨ (s.users.find? invitedBy).isNone ∨
        (s.invites.rows.any fun i => i.token = token) then (s, false)
    else match s.invites.insert?
        ⟨id, teamID, email, role, token, invitedBy, expiresAt, inviterRole⟩ with
      | some invites => ({ s with invites := invites }, true)
      | none => (s, false)

def getInviteByToken (s : TeamStore) (token : String) : Option Invite :=
  s.invites.rows.find? fun i => i.token = token ∧ s.now < i.expiresAt

def deleteInvite (s : TeamStore) (id : UUID) : TeamStore :=
  { s with invites := s.invites.deleteWhere fun i => i.id = id }

def getUserByID (s : TeamStore) (id : UUID) : Option User := s.users.find? id

end TeamStore

/-! ## Handlers -/

def checkRole (ctx : AuthContext) (teamID : UUID) (minRole : Role) (scope : String) :
    Prog TeamStore (Except Refusal Role) :=
  query fun s => checkTeamRole s.platform (some ctx) teamID minRole [scope]

def internalError : Refusal := ⟨500, "internal server error"⟩

inductive Change where
  | update (role : String)
  | remove
deriving DecidableEq

/-- The change takes the role 'owner' from whoever has it. -/
def Change.demotes : Change → Bool
  | .update role => role ≠ "owner"
  | .remove => true

def Change.lastOwner : Change → Refusal
  | .update _ => ⟨400, "cannot demote the last owner"⟩
  | .remove => ⟨400, "cannot remove the last owner"⟩

def Change.apply (change : Change) (ctx : AuthContext) (teamID userID : UUID) (callerRole : Role)
    (s : TeamStore) : TeamStore × Except Refusal Unit :=
  match change with
  | .update role =>
    match s.updateMemberRole teamID userID role (.updated ctx.userID callerRole) with
    | (s, true) => (s, .ok ())
    | (s, false) => (s, .error internalError)
  | .remove => (s.deleteMembership teamID userID, .ok ())

/-- The part the two handlers share: the last-owner protection, then the statement. -/
def guardedChange (change : Change) (ctx : AuthContext) (teamID userID : UUID) (callerRole : Role) :
    Prog TeamStore (Except Refusal Unit) := do
  let some membership ← query fun s => s.getMembership teamID userID
    | return .error ⟨404, "member not found"⟩
  if membership.role = .owner ∧ change.demotes then
    let count ← query fun s => s.countOwners teamID
    if count ≤ 1 then
      return .error change.lastOwner
    else
      atomic (change.apply ctx teamID userID callerRole)
  else
    atomic (change.apply ctx teamID userID callerRole)

def updateMember (ctx : AuthContext) (teamID userID : UUID) (role : String) :
    Prog TeamStore (Except Refusal Unit) := do
  match ← checkRole ctx teamID .owner "members:write" with
  | .error refusal => return .error refusal
  | .ok callerRole =>
    if role = "" then
      return .error ⟨400, "role is required"⟩
    else
      guardedChange (.update role) ctx teamID userID callerRole

def removeMember (ctx : AuthContext) (teamID userID : UUID) :
    Prog TeamStore (Except Refusal Unit) := do
  match ← checkRole ctx teamID .owner "members:write" with
  | .error refusal => return .error refusal
  | .ok callerRole => guardedChange .remove ctx teamID userID callerRole

/-- `id` and `token` are the ones drawn, `expiresAt` the end of the invite's time. -/
def createInvite (ctx : AuthContext) (teamID : UUID) (email role : String) (id : UUID)
    (token : String) (expiresAt : Int) : Prog TeamStore (Except Refusal Unit) := do
  match ← checkRole ctx teamID .admin "invites:write" with
  | .error refusal => return .error refusal
  | .ok callerRole =>
    if email = "" then
      return .error ⟨400, "email is required"⟩
    else
      let role := if role = "" then "member" else role
      if ← atomic fun s =>
          s.createInvite id teamID email role token ctx.userID expiresAt callerRole then
        return .ok ()
      else
        return .error internalError

/-- The invite is deleted by its id alone. -/
def cancelInvite (ctx : AuthContext) (teamID inviteID : UUID) :
    Prog TeamStore (Except Refusal Unit) := do
  match ← checkRole ctx teamID .admin "invites:write" with
  | .error refusal => return .error refusal
  | .ok _ =>
    exec fun s => s.deleteInvite inviteID
    return .ok ()

def acceptInvite (ctx : AuthContext) (token : String) : Prog TeamStore (Except Refusal Unit) := do
  let some invite ← query fun s => s.getInviteByToken token
    | return .error ⟨400, "invalid or expired invite token"⟩
  let some user ← query fun s => s.getUserByID ctx.userID
    | return .error internalError
  if user.email ≠ invite.email then
    return .error ⟨403, "invite is for a different email address"⟩
  else
    if ← atomic fun s =>
        s.createMembership invite.teamID ctx.userID invite.role (.accepted invite user.email) then
      exec fun s => s.deleteInvite invite.id
      return .ok ()
    else
      return .error ⟨409, "already a member of this team"⟩

/-- `TeamHandler.Create`; `id` is the one drawn and `slug` the slug of the name. -/
def createTeam (ctx : AuthContext) (name slug : String) (id : UUID) :
    Prog TeamStore (Except Refusal Unit) := do
  if ctx.tokenID.isSome then
    return .error ⟨403, "api tokens cannot create teams"⟩
  else if name = "" then
    return .error ⟨400, "name is required"⟩
  else
    if ← atomic fun s => s.createTeam id name slug then
      if ← atomic fun s => s.createMembership id ctx.userID .owner .created then
        return .ok ()
      else
        exec fun s => s.deleteTeam id
        return .error internalError
    else
      return .error ⟨409, "team slug already exists"⟩

/-! ## What the statements do to the members -/

namespace TeamStore

variable {s : TeamStore} {teamID userID : UUID}

/-- The check finds the caller's own row. -/
theorem platform_getMembership (s : TeamStore) (teamID userID : UUID) :
    s.platform.getMembership teamID userID =
      (s.getMembership teamID userID).map MemberRow.toMembership := by
  unfold Platform.getMembership platform getMembership Table.find?
  rw [List.find?_map]
  congr 2
  funext m
  simp [Prod.ext_iff]

/-- A check that passes has found a membership with at least the role asked for. -/
theorem checkTeamRole_ok {ctx : AuthContext} {minRole callerRole : Role} {scope : String}
    (passed : checkTeamRole s.platform (some ctx) teamID minRole [scope] = .ok callerRole) :
    callerRole.atLeast minRole ∧
      ∃ m ∈ s.memberships, m.teamID = teamID ∧ m.userID = ctx.userID ∧ m.role = callerRole := by
  unfold checkTeamRole at passed
  dsimp only at passed
  rw [platform_getMembership] at passed
  split at passed
  · cases passed
  · match found : s.getMembership teamID ctx.userID with
    | none =>
      rw [found] at passed
      cases passed
    | some m =>
      rw [found] at passed
      dsimp only [Option.map_some] at passed
      split at passed
      · next enough =>
        cases passed
        obtain ⟨sameTeam, sameUser⟩ := Prod.mk.inj (Table.key_of_find? found)
        exact ⟨enough, m, Table.mem_of_find? found, sameTeam, sameUser, rfl⟩
      · cases passed

end TeamStore

end Nixway.Access
