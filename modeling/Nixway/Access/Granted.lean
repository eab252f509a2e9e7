/-
# Access.Granted -- where a role comes from

Requests that create teams, invite, accept, cancel, update and remove run beside each
other, one statement at a time.  `TeamStep` says once what a statement of any of them can
do to the rows, given the stores the run has been through; every invariant is derived from
it.  No role is granted above the granter's (`roles_granted`): a membership was last
written by the creation of its team, by an update whose caller's role check had found an
owner, or by accepting an invite to the user's own address made by somebody whose check had
found at least that role.  CreateInvite never looks at the role it is asked for; that an
invite does not make an owner is the CHECK of its table.
-/
import Nixway.Access.Members
import Nixway.Theory.Past
import Mathlib.Data.List.Infix

namespace Nixway.Access

open Nixway.Store Nixway.Theory
open Nixway.Theory.Prog (query exec atomic ignore)

set_option autoImplicit false

/-! ## What the stores of a run show -/

/-- The user had the role in one of the stores. -/
def Held (past : List TeamStore) (teamID userID : UUID) (role : Role) : Prop :=
  ∃ s ∈ past, ∃ m ∈ s.memberships, m.teamID = teamID ∧ m.userID = userID ∧ m.role = role

/-- It was the user's e-mail in one of the stores. -/
def Mailbox (past : List TeamStore) (userID : UUID) (email : String) : Prop :=
  ∃ s ∈ past, ∃ user, s.getUserByID userID = some user ∧ user.email = email

/-- The invite was made by somebody who had at least its role. -/
structure Issued (past : List TeamStore) (i : Invite) : Prop where
  below : i.role ≠ .owner
  enough : i.inviterRole.atLeast i.role
  held : Held past i.teamID i.invitedBy i.inviterRole

/-- The membership was last written by somebody entitled to. -/
def Granted (past : List TeamStore) (m : MemberRow) : Prop :=
  match m.origin with
  | .created => m.role = .owner
  | .updated caller callerRole => callerRole = .owner ∧ Held past m.teamID caller .owner
  | .accepted invite email =>
    Issued past invite ∧ invite.teamID = m.teamID ∧ invite.role = m.role ∧
      invite.email = email ∧ Mailbox past m.userID email

section Mono

variable {past seen : List TeamStore} (more : ∀ s ∈ past, s ∈ seen)

include more

theorem Held.mono {teamID userID : UUID} {role : Role} (held : Held past teamID userID role) :
    Held seen teamID userID role := by
  obtain ⟨s, mem, found⟩ := held
  exact ⟨s, more s mem, found⟩

theorem Mailbox.mono {userID : UUID} {email : String} (mailbox : Mailbox past userID email) :
    Mailbox seen userID email := by
  obtain ⟨s, mem, found⟩ := mailbox
  exact ⟨s, more s mem, found⟩

theorem Issued.mono {i : Invite} (issued : Issued past i) : Issued seen i :=
  ⟨issued.below, issued.enough, issued.held.mono more⟩

theorem Granted.mono {m : MemberRow} (granted : Granted past m) : Granted seen m := by
  unfold Granted at granted ⊢
  split
  · next origin =>
    rw [origin] at granted
    exact granted
  · next origin =>
    rw [origin] at granted
    exact ⟨granted.1, granted.2.mono more⟩
  · next origin =>
    rw [origin] at granted
    obtain ⟨issued, team, role, email, mailbox⟩ := granted
    exact ⟨issued.mono more, team, role, email, mailbox.mono more⟩

end Mono

/-! ## What a statement can do -/

/-- One statement, when the stores of `past` have been. -/
inductive TeamStep (past : List TeamStore) (s : TeamStore) : TeamStore → Prop where
  | other {t : TeamStore} (members : t.memberships = s.memberships)
      (invites : t.invites = s.invites) (teams : t.teams = s.teams) : TeamStep past s t
  | invite {i : Invite} {invites : Table Invite} (inserted : s.invites.insert? i = some invites)
      (issued : Issued past i) : TeamStep past s { s with invites := invites }
  | cancel (id : UUID) : TeamStep past s (s.deleteInvite id)
  | update (teamID userID : UUID) (role : Role) (caller : UUID)
      (held : Held past teamID caller .owner) :
      TeamStep past s { s with
        memberships := s.memberships.update (teamID, userID) fun m : MemberRow =>
          { m with role := role, origin := .updated caller .owner } }
  | remove (teamID userID : UUID) : TeamStep past s (s.deleteMembership teamID userID)
  | join {invite : Invite} {userID : UUID} {memberships : Table MemberRow}
      (read : ∃ old ∈ past, invite ∈ old.invites) (mailbox : Mailbox past userID invite.email)
      (inserted : s.memberships.insert?
        ⟨⟨invite.teamID, userID, invite.role⟩, .accepted invite invite.email⟩ = some memberships) :
      TeamStep past s { s with memberships := memberships }
  | found {team : TeamRow} {teams : Table TeamRow} (inserted : s.teams.insert? team = some teams) :
      TeamStep past s { s with teams := teams }
  | own {id userID : UUID} {memberships : Table MemberRow}
      (new : ∃ old ∈ past, old.teams.find? id = none)
      (inserted : s.memberships.insert? ⟨⟨id, userID, .owner⟩, .created⟩ = some memberships) :
      TeamStep past s { s with memberships := memberships }
  | disband {id : UUID} (new : ∃ old ∈ past, old.teams.find? id = none) :
      TeamStep past s (s.deleteTeam id)

/-- The stores that have been stay so. -/
def Recalls (a b : TeamStore × List TeamStore) : Prop := ∀ s ∈ a.2, s ∈ b.2

/-- A statement of a request, with its memory. -/
def Statement (a b : TeamStore × List TeamStore) : Prop :=
  b.2 = a.1 :: a.2 ∧ TeamStep a.2 a.1 b.1

theorem Statement.recalls {a b : TeamStore × List TeamStore} (step : Statement a b) :
    Recalls a b := by
  intro s mem
  rw [step.1]
  exact List.mem_cons_of_mem _ mem

theorem Statement.unchanged (s : TeamStore) (past : List TeamStore) :
    Statement (s, past) (s, s :: past) := ⟨rfl, .other rfl rfl rfl⟩

/-! ## The handlers -/

/-- A request, the passing of time, or a new user. -/
inductive TeamCall where
  | createTeam (ctx : AuthContext) (name slug : String) (id : UUID)
  | createInvite (ctx : AuthContext) (teamID : UUID) (email role : String) (id : UUID)
      (token : String) (expiresAt : Int)
  | acceptInvite (ctx : AuthContext) (token : String)
  | cancelInvite (ctx : AuthContext) (teamID inviteID : UUID)
  | updateMember (ctx : AuthContext) (teamID userID : UUID) (role : String)
  | removeMember (ctx : AuthContext) (teamID userID : UUID)
  | elapse (seconds : Nat)
  | register (user : User)

def TeamStore.createUser (s : TeamStore) (user : User) : TeamStore :=
  match s.users.insert? user with
  | some users => { s with users := users }
  | none => s

def TeamCall.code : TeamCall → Prog TeamStore Unit
  | .createTeam ctx name slug id => ignore (Access.createTeam ctx name slug id)
  | .createInvite ctx teamID email role id token expiresAt =>
    ignore (Access.createInvite ctx teamID email role id token expiresAt)
  | .acceptInvite ctx token => ignore (Access.acceptInvite ctx token)
  | .cancelInvite ctx teamID inviteID => ignore (Access.cancelInvite ctx teamID inviteID)
  | .updateMember ctx teamID userID role => ignore (Access.updateMember ctx teamID userID role)
  | .removeMember ctx teamID userID => ignore (Access.removeMember ctx teamID userID)
  | .elapse seconds => exec fun s => { s with now := s.now + seconds }
  | .register user => exec fun s => s.createUser user

section Handlers

variable {α : Type} {a : TeamStore × List TeamStore}

/-- Every statement of the program is one of those. -/
def Lawful (p : Prog TeamStore α) (a : TeamStore × List TeamStore) : Prop :=
  p.logged.Safe Recalls Statement (fun _ _ => True) a

theorem Lawful.done (x : α) : Lawful (Prog.done x) a := fun _ _ => trivial

theorem Lawful.query {β : Type} {g : TeamStore → β} {f : β → Prog TeamStore α}
    (rest : ∀ s past, Recalls a (s, past) → Lawful (f (g s)) (s, s :: past)) :
    Lawful (query g >>= f) a :=
  Prog.Safe.logged_query (fun s past => .unchanged s past) rest

/-- A role check that passes has found the role in a store that has been. -/
theorem Lawful.checkRole {ctx : AuthContext} {teamID : UUID} {minRole : Role} {scope : String}
    {f : Except Refusal Role → Prog TeamStore α}
    (refused : ∀ refusal b, Lawful (f (.error refusal)) b)
    (passed : ∀ callerRole b, callerRole.atLeast minRole → Held b.2 teamID ctx.userID callerRole →
      Lawful (f (.ok callerRole)) b) :
    Lawful (checkRole ctx teamID minRole scope >>= f) a := by
  refine Lawful.query fun s past _ => ?_
  cases answer : checkTeamRole s.platform (some ctx) teamID minRole [scope] with
  | error refusal => exact refused refusal _
  | ok callerRole =>
    obtain ⟨enough, m, mem, row⟩ := TeamStore.checkTeamRole_ok answer
    exact passed callerRole _ enough ⟨s, List.mem_cons_self, m, mem, row⟩

theorem Role.eq_owner {role : Role} (enough : role.atLeast .owner) : role = .owner := by
  cases role with
  | owner => rfl
  | admin => cases enough
  | member => cases enough

theorem Role.admin_atLeast {role requested : Role} (enough : role.atLeast .admin)
    (below : requested ≠ .owner) : role.atLeast requested := by
  cases requested with
  | owner => exact absurd rfl below
  | admin => exact enough
  | member =>
    cases role with
    | owner => rfl
    | admin => rfl
    | member => cases enough

theorem apply_lawful (change : Change) {ctx : AuthContext} {teamID userID : UUID}
    (held : Held a.2 teamID ctx.userID .owner) :
    Lawful (atomic (change.apply ctx teamID userID .owner)) a := by
  intro b moved
  refine ⟨⟨rfl, ?_⟩, fun _ _ => trivial⟩
  cases change with
  | update text =>
    show TeamStep b.2 b.1 ((Change.update text).apply ctx teamID userID .owner b.1).1
    simp only [Change.apply, TeamStore.updateMemberRole]
    cases Role.ofText text with
    | none => exact .other rfl rfl rfl
    | some role => exact .update teamID userID role ctx.userID (held.mono moved)
  | remove => exact .remove teamID userID

theorem guardedChange_lawful (change : Change) {ctx : AuthContext} {teamID userID : UUID}
    (held : Held a.2 teamID ctx.userID .owner) :
    Lawful (guardedChange change ctx teamID userID .owner) a := by
  refine Lawful.query fun s past moved => ?_
  cases s.getMembership teamID userID with
  | none => exact Lawful.done _
  | some m =>
    have seen : Held (s :: past) teamID ctx.userID .owner :=
      held.mono fun t mem => List.mem_cons_of_mem _ (moved t mem)
    show Lawful (if m.role = .owner ∧ change.demotes then _ else _) _
    split
    · refine Lawful.query fun t later further => ?_
      split
      · exact Lawful.done _
      · exact apply_lawful change
          (seen.mono fun u mem => List.mem_cons_of_mem _ (further u mem))
    · exact apply_lawful change seen

theorem updateMember_lawful (ctx : AuthContext) (teamID userID : UUID) (role : String) :
    Lawful (updateMember ctx teamID userID role) a := by
  refine Lawful.checkRole (fun refusal b => Lawful.done _) fun callerRole b enough held => ?_
  obtain rfl := Role.eq_owner enough
  show Lawful (if role = "" then _ else _) b
  split
  · exact Lawful.done _
  · exact guardedChange_lawful (.update role) held

theorem removeMember_lawful (ctx : AuthContext) (teamID userID : UUID) :
    Lawful (removeMember ctx teamID userID) a := by
  refine Lawful.checkRole (fun refusal b => Lawful.done _) fun callerRole b enough held => ?_
  obtain rfl := Role.eq_owner enough
  exact guardedChange_lawful .remove held

/-- The statement of an invite refuses the role 'owner'. -/
theorem createInvite_step {past : List TeamStore} (s : TeamStore) (id teamID : UUID)
    (email role token : String) {invitedBy : UUID} (expiresAt : Int) {inviterRole : Role}
    (enough : inviterRole.atLeast .admin) (held : Held past teamID invitedBy inviterRole) :
    TeamStep past s (s.createInvite id teamID email role token invitedBy expiresAt inviterRole).1 := by
  unfold TeamStore.createInvite
  split
  · exact .other rfl rfl rfl
  · exact .other rfl rfl rfl
  · next requested below _ =>
    split
    · exact .other rfl rfl rfl
    · split
      · next invites inserted =>
        have notOwner : requested ≠ .owner := fun same => below (by rw [same])
        exact .invite inserted ⟨notOwner, Role.admin_atLeast enough notOwner, held⟩
      · exact .other rfl rfl rfl

theorem createInvite_lawful (ctx : AuthContext) (teamID : UUID) (email role : String) (id : UUID)
    (token : String) (expiresAt : Int) :
    Lawful (createInvite ctx teamID email role id token expiresAt) a := by
  refine Lawful.checkRole (fun refusal b => Lawful.done _) fun callerRole b enough held => ?_
  show Lawful (if email = "" then _ else _) b
  split
  · exact Lawful.done _
  · show Lawful (atomic (fun s => s.createInvite id teamID email
      (if role = "" then "member" else role) token ctx.userID expiresAt callerRole) >>= _) b
    generalize (if role = "" then "member" else role) = requested
    refine Prog.Safe.logged_atomic (fun s past moved => ⟨rfl, ?_⟩) fun s past moved => ?_
    · exact createInvite_step s id teamID email requested token expiresAt enough (held.mono moved)
    · split
      · exact Lawful.done _
      · exact Lawful.done _

theorem cancelInvite_lawful (ctx : AuthContext) (teamID inviteID : UUID) :
    Lawful (cancelInvite ctx teamID inviteID) a := by
  refine Lawful.checkRole (fun refusal b => Lawful.done _) fun callerRole b _ _ => ?_
  exact Prog.Safe.logged_exec fun s past _ => ⟨rfl, .cancel inviteID⟩

theorem acceptInvite_lawful (ctx : AuthContext) (token : String) :
    Lawful (acceptInvite ctx token) a := by
  refine Lawful.query fun s past _ => ?_
  cases found : s.getInviteByToken token with
  | none => exact Lawful.done _
  | some invite =>
    have listed : invite ∈ s.invites := List.mem_of_find?_eq_some found
    refine Lawful.query fun t later moved => ?_
    cases known : t.getUserByID ctx.userID with
    | none => exact Lawful.done _
    | some user =>
      show Lawful (if user.email ≠ invite.email then _ else _) _
      split
      · exact Lawful.done _
      · next matches_ =>
        have own : user.email = invite.email := by simpa using matches_
        refine Prog.Safe.logged_atomic (fun u past' further => ⟨rfl, ?_⟩) fun u past' _ => ?_
        · -- the invite was read from the first store, the address from the second
          have read : ∃ old ∈ past', invite ∈ old.invites :=
            ⟨s, further s (List.mem_cons_of_mem _ (moved s List.mem_cons_self)), listed⟩
          have mailbox : Mailbox past' ctx.userID invite.email :=
            ⟨t, further t List.mem_cons_self, user, known, own⟩
          show TeamStep past' u (u.createMembership invite.teamID ctx.userID invite.role
            (.accepted invite user.email)).1
          unfold TeamStore.createMembership
          rw [own]
          split
          · split
            · next memberships inserted => exact .join read mailbox inserted
            · exact .other rfl rfl rfl
          · exact .other rfl rfl rfl
        · split
          · exact Prog.Safe.logged_exec fun v past'' _ => ⟨rfl, .cancel invite.id⟩
          · exact Lawful.done _

theorem createTeam_lawful (ctx : AuthContext) (name slug : String) (id : UUID) :
    Lawful (createTeam ctx name slug id) a := by
  unfold createTeam
  split
  · exact Lawful.done _
  · split
    · exact Lawful.done _
    · refine Prog.Safe.logged_atomic (fun s past _ => ⟨rfl, ?_⟩) fun s past _ => ?_
      · show TeamStep past s (s.createTeam id name slug).1
        unfold TeamStore.createTeam
        split
        · exact .other rfl rfl rfl
        · split
          · next teams inserted => exact .found inserted
          · exact .other rfl rfl rfl
      · split
        · next created =>
          have new : s.teams.find? id = none := by
            unfold TeamStore.createTeam at created
            split at created
            · cases created
            · split at created
              · next teams inserted =>
                exact Table.find?_eq_none_iff.mpr (Table.insert?_eq_some_iff.mp inserted).1
              · cases created
          refine Prog.Safe.logged_atomic (fun t later moved => ⟨rfl, ?_⟩) fun t later moved => ?_
          · show TeamStep later t (t.createMembership id ctx.userID .owner .created).1
            unfold TeamStore.createMembership
            split
            · split
              · next memberships inserted =>
                exact .own ⟨s, moved s List.mem_cons_self, new⟩ inserted
              · exact .other rfl rfl rfl
            · exact .other rfl rfl rfl
          · split
            · exact Lawful.done _
            · refine Prog.Safe.logged_exec fun u past' further => ⟨rfl, .disband ⟨s, ?_, new⟩⟩
              exact further s (List.mem_cons_of_mem _ (moved s List.mem_cons_self))
        · exact Lawful.done _

theorem Lawful.ignored {p : Prog TeamStore α} (lawful : Lawful p a) : Lawful (ignore p) a :=
  Prog.Safe.logged_bind (fun _ _ mem => mem) lawful fun _ _ _ => Lawful.done _

/-- **Every statement of every request is a `TeamStep`.** -/
theorem TeamCall.lawful (call : TeamCall) : Lawful call.code a := by
  cases call with
  | createTeam ctx name slug id => exact (createTeam_lawful ctx name slug id).ignored
  | createInvite ctx teamID email role id token expiresAt =>
    exact (createInvite_lawful ctx teamID email role id token expiresAt).ignored
  | acceptInvite ctx token => exact (acceptInvite_lawful ctx token).ignored
  | cancelInvite ctx teamID inviteID => exact (cancelInvite_lawful ctx teamID inviteID).ignored
  | updateMember ctx teamID userID role => exact (updateMember_lawful ctx teamID userID role).ignored
  | removeMember ctx teamID userID => exact (removeMember_lawful ctx teamID userID).ignored
  | elapse seconds => exact fun b _ => ⟨⟨rfl, .other rfl rfl rfl⟩, fun _ _ => trivial⟩
  | register user =>
    refine fun b _ => ⟨⟨rfl, ?_⟩, fun _ _ => trivial⟩
    show TeamStep b.2 b.1 (b.1.createUser user)
    unfold TeamStore.createUser
    split
    · exact .other rfl rfl rfl
    · exact .other rfl rfl rfl

end Handlers

/-! ## Invariants -/

/-- Every membership was granted and every invite there ever was had been issued. -/
structure Sound (past : List TeamStore) (s : TeamStore) : Prop where
  members : ∀ m ∈ s.memberships, Granted past m
  invites : ∀ t ∈ s :: past, ∀ i ∈ t.invites, Issued past i

section Sound

variable {past : List TeamStore} {s t : TeamStore}

theorem TeamStep.mem_invites (step : TeamStep past s t) {i : Invite} (mem : i ∈ t.invites) :
    i ∈ s.invites ∨ Issued past i := by
  cases step with
  | other _ invites _ =>
    rw [invites] at mem
    exact .inl mem
  | invite inserted issued =>
    rcases (Table.mem_insert? inserted).mp mem with rfl | old
    · exact .inr issued
    · exact .inl old
  | cancel id => exact .inl (Table.mem_deleteWhere.mp mem).1
  | disband _ => exact .inl (Table.mem_deleteWhere.mp mem).1
  | update _ _ _ _ _ => exact .inl mem
  | remove _ _ => exact .inl mem
  | join _ _ _ => exact .inl mem
  | found _ => exact .inl mem
  | own _ _ => exact .inl mem

/-- What a step can add to the memberships: an update by an owner, a guest, a founder. -/
theorem TeamStep.mem_members (step : TeamStep past s t) {m : MemberRow} (mem : m ∈ t.memberships) :
    m ∈ s.memberships ∨
      (∃ caller, m.origin = .updated caller .owner ∧ Held past m.teamID caller .owner) ∨
      (∃ invite, (∃ old ∈ past, invite ∈ old.invites) ∧ m.origin = .accepted invite invite.email ∧
        invite.teamID = m.teamID ∧ invite.role = m.role ∧ Mailbox past m.userID invite.email) ∨
      (m.origin = .created ∧ m.role = .owner ∧ ∃ old ∈ past, old.teams.find? m.teamID = none) := by
  cases step with
  | other members _ _ =>
    rw [members] at mem
    exact .inl mem
  | update teamID userID role caller held =>
    obtain ⟨old, stored, rfl⟩ := (Table.mem_update (f := fun m : MemberRow =>
      { m with role := role, origin := .updated caller .owner }) fun _ => rfl).mp mem
    split
    · next here =>
      obtain ⟨rfl, -⟩ := Prod.mk.inj here
      exact .inr (.inl ⟨caller, rfl, held⟩)
    · exact .inl stored
  | remove teamID userID => exact .inl (Table.mem_deleteWhere.mp mem).1
  | disband _ => exact .inl (Table.mem_deleteWhere.mp mem).1
  | @join invite userID memberships read mailbox inserted =>
    rcases (Table.mem_insert? inserted).mp mem with rfl | old
    · exact .inr (.inr (.inl ⟨invite, read, rfl, rfl, rfl, mailbox⟩))
    · exact .inl old
  | own new inserted =>
    rcases (Table.mem_insert? inserted).mp mem with rfl | old
    · exact .inr (.inr (.inr ⟨rfl, rfl, new⟩))
    · exact .inl old
  | invite _ _ => exact .inl mem
  | cancel _ => exact .inl mem
  | found _ => exact .inl mem

theorem Sound.step (sound : Sound past s) (step : TeamStep past s t) : Sound (s :: past) t := by
  have more : ∀ u ∈ past, u ∈ s :: past := fun u mem => List.mem_cons_of_mem _ mem
  constructor
  · intro m mem
    refine Granted.mono more ?_
    obtain old | ⟨caller, origin, held⟩ | ⟨invite, ⟨old, been, listed⟩, origin, row⟩ |
      ⟨origin, owner, -⟩ := step.mem_members mem
    · exact sound.members m old
    · simp only [Granted, origin]
      exact ⟨trivial, held⟩
    · simp only [Granted, origin]
      obtain ⟨team, role, mailbox⟩ := row
      exact ⟨sound.invites old (more old been) invite listed, team, role, trivial, mailbox⟩
    · simp only [Granted, origin]
      exact owner
  · intro u been i mem
    refine Issued.mono more ?_
    rcases List.mem_cons.mp been with rfl | older
    · rcases step.mem_invites mem with old | issued
      · exact sound.invites s List.mem_cons_self i old
      · exact issued
    · exact sound.invites u older i mem

/-- The teams and owners of an earlier store: a team stays, and who is an owner of it now
was one then or has been made one by an owner. -/
structure Kept (before : TeamStore) (past : List TeamStore) (s : TeamStore) : Prop where
  teams : ∀ t ∈ s :: past, ∀ id, before.teams.find? id ≠ none → t.teams.find? id ≠ none
  invites : ∀ t ∈ s :: past, ∀ i ∈ t.invites, i.role ≠ .owner
  owners : ∀ m ∈ s.memberships, m.role = .owner → before.teams.find? m.teamID ≠ none →
    (∃ m₀ ∈ before.memberships, m₀.teamID = m.teamID ∧ m₀.userID = m.userID ∧ m₀.role = .owner) ∨
      ∃ caller, m.origin = .updated caller .owner ∧ Held past m.teamID caller .owner

variable {before : TeamStore}

theorem Kept.step (kept : Kept before past s) (step : TeamStep past s t) :
    Kept before (s :: past) t := by
  have more : ∀ u ∈ past, u ∈ s :: past := fun u mem => List.mem_cons_of_mem _ mem
  refine ⟨fun u been id known => ?_, fun u been i mem => ?_, fun m mem owner known => ?_⟩
  · rcases List.mem_cons.mp been with rfl | older
    · have here := kept.teams s List.mem_cons_self id known
      cases step with
      | other _ _ teams =>
        rw [teams]
        exact here
      | found inserted =>
        rw [Table.find?_insert? inserted]
        split
        · exact Option.some_ne_none _
        · exact here
      | @disband gone new =>
        -- a team that was there all along is not the one that is being undone
        obtain ⟨old, earlier, missing⟩ := new
        have other : id ≠ gone := by
          rintro rfl
          exact kept.teams old (more old earlier) id known missing
        obtain ⟨team, found⟩ := Option.ne_none_iff_exists'.mp here
        have key := Table.key_of_find? found
        refine Option.ne_none_iff_exists'.mpr ⟨team, Table.find?_eq_some_iff.mpr ⟨?_, key⟩⟩
        refine Table.mem_deleteWhere.mpr ⟨Table.mem_of_find? found, ?_⟩
        exact decide_eq_false fun same => other (key.symm.trans same)
      | invite _ _ => exact here
      | cancel _ => exact here
      | update _ _ _ _ _ => exact here
      | remove _ _ => exact here
      | join _ _ _ => exact here
      | own _ _ => exact here
    · exact kept.teams u older id known
  · rcases List.mem_cons.mp been with rfl | older
    · rcases step.mem_invites mem with old | issued
      · exact kept.invites s List.mem_cons_self i old
      · exact issued.below
    · exact kept.invites u older i mem
  · obtain old | ⟨caller, origin, held⟩ | ⟨invite, ⟨old, been, listed⟩, -, -, role, -⟩ |
      ⟨-, -, old, been, missing⟩ := step.mem_members mem
    · rcases kept.owners m old owner known with already | ⟨caller, origin, held⟩
      · exact .inl already
      · exact .inr ⟨caller, origin, held.mono more⟩
    · exact .inr ⟨caller, origin, held.mono more⟩
    · exact absurd (role.trans owner) (kept.invites old (more old been) invite listed)
    · exact absurd missing (kept.teams old (more old been) m.teamID known)

end Sound

/-! ## Runs -/

def teamPool (s : TeamStore) (calls : List TeamCall) : Pool TeamStore :=
  ⟨s, calls.map TeamCall.code⟩

/-- What every statement keeps holds after every schedule, of the store reached and the
stores on the way. -/
theorem teamPool_run {I : List TeamStore → TeamStore → Prop} (s : TeamStore)
    (past : List TeamStore) (calls : List TeamCall) (schedule : List Nat)
    (kept : ∀ past s t, TeamStep past s t → I past s → I (s :: past) t) (start : I past s) :
    ∃ seen, I seen ((teamPool s calls).run Pool.noSpawn schedule).store ∧
      ∀ t ∈ seen, t ∈ past ∨ ∃ earlier, earlier <+: schedule ∧
        ((teamPool s calls).run Pool.noSpawn earlier).store = t := by
  obtain ⟨seen, same, known⟩ := Pool.run_logged (teamPool s calls) past schedule
  refine ⟨seen, ?_, known⟩
  have safe : ((teamPool s calls).logged past).AllSafe (fun _ => Recalls) (fun _ => Statement) := by
    intro i p found
    obtain ⟨code, coded, rfl⟩ := List.mem_map.mp (List.mem_of_getElem? found)
    obtain ⟨call, -, rfl⟩ := List.mem_map.mp coded
    exact call.lawful
  have reached : I (((teamPool s calls).logged past).run Pool.noSpawn schedule).store.2
      (((teamPool s calls).logged past).run Pool.noSpawn schedule).store.1 :=
    Pool.safe_run (I := fun a => I a.2 a.1) (C := fun _ _ => True)
      (fun _ _ _ mem => mem) (fun _ {_ _ _} first second u mem => second u (first u mem))
      (fun _ _ _ _ _ step => step.recalls) (fun _ _ _ _ _ _ spawned => absurd spawned List.not_mem_nil)
      (fun _ a b step _ here => by
        obtain ⟨memory, step⟩ := step
        rw [memory]
        exact kept a.2 a.1 b.1 step here)
      safe start (Pool.along_true _ schedule)
  rw [same] at reached
  exact reached

def storesOf (s : TeamStore) (calls : List TeamCall) (schedule : List Nat) : List TeamStore :=
  schedule.inits.map fun earlier => ((teamPool s calls).run Pool.noSpawn earlier).store

/-- **No role is granted above the granter's.**  From every store whose rows are sound with
respect to the stores before it (an empty one is, with no store before it), for every
list of requests and every interleaving of their statements, every membership reached was
last written by the creation of its team, by an update whose caller had been an owner of the
team, or by accepting an invite to the user's own address that somebody with at least
its role had made.  And who is an owner of a team that was there at the start was an
owner of it then, or an owner's update made them one. -/
theorem roles_granted (s : TeamStore) (past : List TeamStore) (calls : List TeamCall)
    (schedule : List Nat) (sound : Sound past s) :
    (∀ m ∈ ((teamPool s calls).run Pool.noSpawn schedule).store.memberships,
      Granted (storesOf s calls schedule ++ past) m) ∧
    ∀ m ∈ ((teamPool s calls).run Pool.noSpawn schedule).store.memberships, m.role = .owner →
      s.teams.find? m.teamID ≠ none →
        (∃ m₀ ∈ s.memberships, m₀.teamID = m.teamID ∧ m₀.userID = m.userID ∧ m₀.role = .owner) ∨
          ∃ caller, m.origin = .updated caller .owner ∧
            Held (storesOf s calls schedule) m.teamID caller .owner := by
  have visited : ∀ {t : TeamStore}, (∃ earlier, earlier <+: schedule ∧
      ((teamPool s calls).run Pool.noSpawn earlier).store = t) → t ∈ storesOf s calls schedule := by
    rintro t ⟨earlier, within, reached⟩
    exact List.mem_map.mpr ⟨earlier, (List.mem_inits earlier schedule).mpr within, reached⟩
  constructor
  · obtain ⟨seen, held, known⟩ := teamPool_run s past calls schedule
      (fun _ _ _ step sound => sound.step step) sound
    intro m mem
    refine (held.members m mem).mono fun t been => ?_
    rcases known t been with old | reached
    · exact List.mem_append_right _ old
    · exact List.mem_append_left _ (visited reached)
  · have start : Kept s [] s := by
      refine ⟨fun t been id known => ?_, fun t been i mem => ?_, fun m mem owner _ => ?_⟩
      · obtain rfl := List.mem_singleton.mp been
        exact known
      · obtain rfl := List.mem_singleton.mp been
        exact (sound.invites t List.mem_cons_self i mem).below
      · exact .inl ⟨m, mem, rfl, rfl, owner⟩
    obtain ⟨seen, held, known⟩ := teamPool_run s [] calls schedule
      (fun _ _ _ step kept => kept.step step) start
    intro m mem owner there
    rcases held.owners m mem owner there with already | ⟨caller, origin, entitled⟩
    · exact .inl already
    · refine .inr ⟨caller, origin, entitled.mono fun t been => ?_⟩
      rcases known t been with old | reached
      · exact nomatch old
      · exact visited reached

/-- Two users and nothing else. -/
def newcomers : TeamStore where
  users := ⟨[⟨7, "a@example.com"⟩, ⟨8, "b@example.com"⟩], by decide +kernel⟩

/-- One makes a team and invites the other as an admin, who accepts and is made an owner. -/
def founding : List TeamCall :=
  [.createTeam { userID := 7 } "pair" "pair" 1,
    .createInvite { userID := 7 } 1 "b@example.com" "admin" 2 "t" 100,
    .acceptInvite { userID := 8 } "t",
    .updateMember { userID := 7 } 1 8 "owner"]

/-- The guest ends as an owner, with the founder's update. -/
theorem founding_granted :
    ∃ m ∈ ((teamPool newcomers founding).run Pool.noSpawn
        [0, 0, 1, 1, 2, 2, 2, 2, 3, 3, 3]).store.memberships.rows,
      (m.userID = 8 ∧ m.role = .owner ∧ m.origin = .updated 7 .owner) ∧
        Granted (storesOf newcomers founding [0, 0, 1, 1, 2, 2, 2, 2, 3, 3, 3] ++ []) m := by
  have there : ∃ m ∈ ((teamPool newcomers founding).run Pool.noSpawn
      [0, 0, 1, 1, 2, 2, 2, 2, 3, 3, 3]).store.memberships.rows,
      m.userID = 8 ∧ m.role = .owner ∧ m.origin = .updated 7 .owner := by
    decide +kernel
  obtain ⟨m, mem, row⟩ := there
  refine ⟨m, mem, row, ?_⟩
  exact (roles_granted newcomers [] founding [0, 0, 1, 1, 2, 2, 2, 2, 3, 3, 3]
    { members := fun _ mem => absurd mem (Table.mem_empty _)
      invites := by
        intro t been i mem
        obtain rfl := List.mem_singleton.mp been
        exact absurd mem (Table.mem_empty i) }).1 m mem

end Nixway.Access
