/-
# Access.LastOwner -- a team and its last owner

`UpdateMember` and `RemoveMember` read the membership, count the owners and then write.
Any number of these requests run beside each other, one statement at a time.  A team keeps
an owner throughout exactly when every write that takes the role 'owner' from somebody
runs while the team has a second one; the protection guarantees that for requests whose
reads and writes do not overlap (`last_owner_kept_iff`).
-/
import Nixway.Access.Members
import Nixway.Theory.Pool

namespace Nixway.Access

open Nixway.Store Nixway.Theory
open Nixway.Theory.Prog (query exec atomic ignore)

set_option autoImplicit false

/-! ## The requests as a graph -/

structure MemberRequest where
  ctx : AuthContext
  teamID : UUID
  userID : UUID
  change : Change

/-- The handler of a request. -/
def MemberRequest.handler (r : MemberRequest) : Prog TeamStore (Except Refusal Unit) :=
  match r.change with
  | .update role => updateMember r.ctx r.teamID r.userID role
  | .remove => removeMember r.ctx r.teamID r.userID

/-- The update asks for no role. -/
def MemberRequest.roleless (r : MemberRequest) : Bool := r.change = .update ""

/-- Where a request stands; past the role check it knows the caller's role. -/
inductive Stage where
  | check
  | read (callerRole : Role)
  | count (callerRole : Role)
  | write (callerRole : Role)
  | halt

namespace Stage

def code (r : MemberRequest) : Stage → Prog TeamStore Unit
  | .check => ignore r.handler
  | .read callerRole => ignore (guardedChange r.change r.ctx r.teamID r.userID callerRole)
  | .count callerRole => ignore do
      let count ← query fun s => s.countOwners r.teamID
      if count ≤ 1 then
        return .error r.change.lastOwner
      else
        atomic (r.change.apply r.ctx r.teamID r.userID callerRole)
  | .write callerRole => ignore (atomic (r.change.apply r.ctx r.teamID r.userID callerRole))
  | .halt => return

def afterCheck (r : MemberRequest) (s : TeamStore) : Stage :=
  match checkTeamRole s.platform (some r.ctx) r.teamID .owner ["members:write"] with
  | .error _ => .halt
  | .ok callerRole => if r.roleless then .halt else .read callerRole

def afterRead (r : MemberRequest) (callerRole : Role) (s : TeamStore) : Stage :=
  match s.getMembership r.teamID r.userID with
  | none => .halt
  | some m => if m.role = .owner ∧ r.change.demotes then .count callerRole else .write callerRole

def act (r : MemberRequest) : Stage → Option ((TeamStore → TeamStore) × (TeamStore → Stage))
  | .check => some (id, afterCheck r)
  | .read callerRole => some (id, afterRead r callerRole)
  | .count callerRole => some (id, fun s =>
    if s.countOwners r.teamID ≤ 1 then .halt else .write callerRole)
  | .write callerRole =>
    some (fun s => (r.change.apply r.ctx r.teamID r.userID callerRole s).1, fun _ => .halt)
  | .halt => none

theorem presents (r : MemberRequest) :
    (⟨Stage.act r⟩ : Flow TeamStore Stage).Presents (Stage.code r) where
  halted k here := by
    cases k with
    | halt => rfl
    | _ => cases here
  moves k effect next here := by
    cases k with
    | halt => cases here
    | check =>
      cases here
      obtain ⟨ctx, teamID, userID, change⟩ := r
      cases change with
      | update role =>
        show (Prog.step id fun s => ignore
          (match checkTeamRole s.platform (some ctx) teamID .owner ["members:write"] with
            | .error refusal => return .error refusal
            | .ok callerRole =>
              if role = "" then return .error ⟨400, "role is required"⟩
              else guardedChange (.update role) ctx teamID userID callerRole)) = _
        refine Prog.step_congr fun s => ?_
        unfold afterCheck
        cases checkTeamRole s.platform (some ctx) teamID .owner ["members:write"] with
        | error refusal => rfl
        | ok callerRole =>
          by_cases empty : role = ""
          · simp only [MemberRequest.roleless, empty, decide_true, if_true]
            rfl
          · simp only [MemberRequest.roleless, empty, Change.update.injEq, decide_false,
              Bool.false_eq_true, if_false]
            rfl
      | remove =>
        show (Prog.step id fun s => ignore
          (match checkTeamRole s.platform (some ctx) teamID .owner ["members:write"] with
            | .error refusal => return .error refusal
            | .ok callerRole => guardedChange .remove ctx teamID userID callerRole)) = _
        refine Prog.step_congr fun s => ?_
        unfold afterCheck
        cases checkTeamRole s.platform (some ctx) teamID .owner ["members:write"] with
        | error refusal => rfl
        | ok callerRole => rfl
    | read callerRole =>
      cases here
      refine Prog.step_congr fun s => ?_
      unfold afterRead
      beta_reduce
      cases s.getMembership r.teamID r.userID with
      | none => rfl
      | some m =>
        show ignore (if m.role = .owner ∧ r.change.demotes then _ else _) =
          code r (if m.role = .owner ∧ r.change.demotes then _ else _)
        split
        · rfl
        · rfl
    | count callerRole =>
      cases here
      refine Prog.step_congr fun s => ?_
      show ignore (if s.countOwners r.teamID ≤ 1 then _ else _) = _
      by_cases few : s.countOwners r.teamID ≤ 1
      · simp only [few, if_true]
        rfl
      · simp only [few, if_false]
        rfl
    | write callerRole => cases here; rfl

end Stage

def memberFlow : Flow TeamStore (MemberRequest × Stage) := Flow.indexed fun r => ⟨Stage.act r⟩

def memberStart (s : TeamStore) (requests : List MemberRequest) :
    TeamStore × List (MemberRequest × Stage) :=
  (s, requests.map fun r => (r, .check))

def memberRun (s : TeamStore) (requests : List MemberRequest) (schedule : List Nat) :
    TeamStore × List (MemberRequest × Stage) :=
  memberFlow.run (fun _ _ => []) (memberStart s requests) schedule

/-- **The stages run the handlers.** -/
theorem memberRun_eq (s : TeamStore) (requests : List MemberRequest) (schedule : List Nat) :
    (⟨s, requests.map fun r => ignore r.handler⟩ : Pool TeamStore).run Pool.noSpawn schedule =
      Flow.pool (fun k => k.2.code k.1) (memberRun s requests schedule) := by
  have coded := Flow.run_coded_noSpawn (Flow.indexed_presents Stage.presents)
    (memberStart s requests) schedule
  rw [Flow.pool, memberStart, List.map_map] at coded
  exact coded

/-! ## What a write does to the owners -/

/-- The change leaves the member without the role 'owner'. -/
def Change.strips : Change → Bool
  | .update role => (Role.ofText role).any fun role => role ≠ .owner
  | .remove => true

/-- The member a request is about is an owner. -/
def MemberRequest.ofOwner (r : MemberRequest) (s : TeamStore) : Bool :=
  (s.getMembership r.teamID r.userID).any fun m => m.role = .owner

theorem Change.demotes_of_strips {change : Change} (strips : change.strips) : change.demotes := by
  cases change with
  | update role =>
    refine decide_eq_true fun same => ?_
    rw [same] at strips
    simp [Change.strips, Role.ofText] at strips
  | remove => rfl

section Write

variable {teamID : UUID} {r : MemberRequest}

def MemberRequest.written (r : MemberRequest) (callerRole : Role) (s : TeamStore) : TeamStore :=
  (r.change.apply r.ctx r.teamID r.userID callerRole s).1

/-- A write is refused by the CHECK, sets a role, or deletes the row. -/
theorem written_cases (r : MemberRequest) (callerRole : Role) (s : TeamStore) :
    (r.written callerRole s = s ∧ r.change.strips = false) ∨
      (∃ role : Role, r.change.strips = decide (role ≠ .owner) ∧
        r.written callerRole s = { s with
          memberships := s.memberships.update (r.teamID, r.userID) fun m : MemberRow =>
            { m with role := role, origin := .updated r.ctx.userID callerRole } }) ∨
      (r.change.strips = true ∧ r.written callerRole s = s.deleteMembership r.teamID r.userID) := by
  unfold MemberRequest.written
  cases r.change with
  | update text =>
    simp only [Change.apply, TeamStore.updateMemberRole, Change.strips]
    cases Role.ofText text with
    | none => exact .inl ⟨rfl, rfl⟩
    | some role => exact .inr (.inl ⟨role, rfl, rfl⟩)
  | remove => exact .inr (.inr ⟨rfl, rfl⟩)

/-- A write to the members of another team. -/
theorem written_other (s : TeamStore) (callerRole : Role) (other : r.teamID ≠ teamID) :
    (r.written callerRole s).countOwners teamID = s.countOwners teamID ∧
      ∀ userID, (r.written callerRole s).getMembership teamID userID =
        s.getMembership teamID userID := by
  have foreign : ∀ {m : MemberRow}, s.memberships.find? (r.teamID, r.userID) = some m →
      TeamStore.ownerOf teamID m = false := by
    intro m found
    have team : m.teamID = r.teamID := (Prod.mk.inj (Table.key_of_find? found)).1
    simp [TeamStore.ownerOf, team, other]
  have elsewhere : ∀ userID, (teamID, userID) ≠ (r.teamID, r.userID) :=
    fun userID same => other (Prod.mk.inj same).1.symm
  obtain ⟨same, -⟩ | ⟨role, -, updated⟩ | ⟨-, deleted⟩ := written_cases r callerRole s
  · rw [same]
    exact ⟨rfl, fun _ => rfl⟩
  · rw [updated]
    refine ⟨?_, fun userID => ?_⟩
    · unfold TeamStore.countOwners
      cases found : s.memberships.find? (r.teamID, r.userID) with
      | none => rw [Table.update_of_none found]
      | some m =>
        have counted := Table.countP_update (f := fun m : MemberRow =>
          { m with role := role, origin := .updated r.ctx.userID callerRole })
          (fun _ => rfl) found (TeamStore.ownerOf teamID)
        have team : m.teamID = r.teamID := (Prod.mk.inj (Table.key_of_find? found)).1
        have still : TeamStore.ownerOf teamID
            { m with role := role, origin := .updated r.ctx.userID callerRole } = false := by
          simp [TeamStore.ownerOf, team, other]
        rw [foreign found, still] at counted
        exact counted
    · unfold TeamStore.getMembership
      rw [Table.find?_update_ne (elsewhere userID)]
  · rw [deleted]
    refine ⟨?_, fun userID => ?_⟩
    · unfold TeamStore.countOwners TeamStore.deleteMembership
      cases found : s.memberships.find? (r.teamID, r.userID) with
      | none => rw [Table.deleteKey_of_none found]
      | some m =>
        have counted := Table.countP_deleteKey found (TeamStore.ownerOf teamID)
        rw [foreign found] at counted
        exact counted
    · unfold TeamStore.getMembership TeamStore.deleteMembership
      rw [Table.find?_deleteKey_ne (elsewhere userID)]

/-- What a write takes from the owners of its own team. -/
theorem written_own (s : TeamStore) (r : MemberRequest) (callerRole : Role) :
    (r.change.strips ∧ r.ofOwner s →
      (r.written callerRole s).countOwners r.teamID + 1 = s.countOwners r.teamID) ∧
    (¬ (r.change.strips ∧ r.ofOwner s) →
      s.countOwners r.teamID ≤ (r.written callerRole s).countOwners r.teamID) := by
  cases found : s.memberships.find? (r.teamID, r.userID) with
  | none =>
    have nobody : r.ofOwner s = false := by simp [MemberRequest.ofOwner, TeamStore.getMembership, found]
    refine ⟨fun takes => by simp [nobody] at takes, fun _ => ?_⟩
    obtain ⟨same, -⟩ | ⟨role, -, updated⟩ | ⟨-, deleted⟩ := written_cases r callerRole s
    · rw [same]
    · rw [updated, TeamStore.countOwners, TeamStore.countOwners, Table.update_of_none found]
    · rw [deleted, TeamStore.countOwners, TeamStore.countOwners, TeamStore.deleteMembership,
        Table.deleteKey_of_none found]
  | some m =>
    have team : m.teamID = r.teamID := (Prod.mk.inj (Table.key_of_find? found)).1
    have owner : TeamStore.ownerOf r.teamID m = r.ofOwner s := by
      simp [MemberRequest.ofOwner, TeamStore.getMembership, found, TeamStore.ownerOf, team]
    obtain ⟨same, kept⟩ | ⟨role, strips, updated⟩ | ⟨strips, deleted⟩ :=
      written_cases r callerRole s
    · rw [same]
      exact ⟨fun takes => by simp [kept] at takes, fun _ => Nat.le_refl _⟩
    · have counted := Table.countP_update (f := fun m : MemberRow =>
        { m with role := role, origin := .updated r.ctx.userID callerRole })
        (fun _ => rfl) found (TeamStore.ownerOf r.teamID)
      have after : TeamStore.ownerOf r.teamID
          { m with role := role, origin := .updated r.ctx.userID callerRole } =
            !r.change.strips := by
        simp [TeamStore.ownerOf, team, strips]
      rw [owner, after] at counted
      rw [updated]
      unfold TeamStore.countOwners
      cases taken : r.change.strips <;> cases had : r.ofOwner s <;>
        simp [taken, had] at counted ⊢ <;> omega
    · have counted := Table.countP_deleteKey found (TeamStore.ownerOf r.teamID)
      rw [owner] at counted
      rw [deleted]
      unfold TeamStore.countOwners TeamStore.deleteMembership
      cases had : r.ofOwner s <;> simp [strips, had] at counted ⊢ <;> omega

end Write

/-! ## Runs -/

def Stage.reads : Stage → Bool
  | .read _ => true
  | _ => false

def Stage.writes : Stage → Bool
  | .write _ => true
  | _ => false

/-- The request has read the membership and has not written yet. -/
def Stage.inside : Stage → Bool
  | .count _ => true
  | .write _ => true
  | _ => false

/-- The thread picked does not take the role from the last owner of the team. -/
def SparesLast (teamID : UUID) (c : TeamStore × List (MemberRequest × Stage)) (i : Nat) : Prop :=
  ∀ thread ∈ c.2[i]?, thread.2.writes → thread.1.teamID = teamID →
    thread.1.change.strips → thread.1.ofOwner c.1 → 2 ≤ c.1.countOwners teamID

/-- The thread picked reads the membership only while no other request for the team is
between its read and its write. -/
def InTurn (teamID : UUID) (c : TeamStore × List (MemberRequest × Stage)) (i : Nat) : Prop :=
  ∀ thread ∈ c.2[i]?, thread.2.reads → thread.1.teamID = teamID →
    ∀ j < c.2.length, j ≠ i → ∀ other ∈ c.2[j]?, other.1.teamID = teamID → other.2.inside = false

instance (teamID : UUID) (c : TeamStore × List (MemberRequest × Stage)) (i : Nat) :
    Decidable (InTurn teamID c i) :=
  inferInstanceAs (Decidable (∀ _ ∈ c.2[i]?, _))

section Runs

variable {teamID : UUID} {c : TeamStore × List (MemberRequest × Stage)} {i : Nat}

/-- What a pick does: nothing, a step that only reads, or a write. -/
theorem memberFlow_step (c : TeamStore × List (MemberRequest × Stage)) (i : Nat) :
    (memberFlow.advance (fun _ _ => []) c i = c ∧
        ∀ thread ∈ c.2[i]?, thread.2 = .halt) ∨
      (∃ r stage next, c.2[i]? = some (r, stage) ∧
        memberFlow.advance (fun _ _ => []) c i = (c.1, c.2.set i (r, next)) ∧
        ((stage = .check ∧ next = Stage.afterCheck r c.1) ∨
          (∃ callerRole, stage = .read callerRole ∧ next = Stage.afterRead r callerRole c.1) ∨
          ∃ callerRole, stage = .count callerRole ∧
            next = if c.1.countOwners r.teamID ≤ 1 then .halt else .write callerRole)) ∨
      ∃ r callerRole, c.2[i]? = some (r, .write callerRole) ∧
        memberFlow.advance (fun _ _ => []) c i =
          (r.written callerRole c.1, c.2.set i (r, .halt)) := by
  unfold Flow.advance
  cases here : c.2[i]? with
  | none => exact .inl ⟨rfl, by simp⟩
  | some thread =>
    obtain ⟨r, stage⟩ := thread
    cases stage with
    | halt => exact .inl ⟨rfl, by simp⟩
    | check =>
      exact .inr (.inl ⟨r, .check, _, rfl, congrArg (Prod.mk _) (List.append_nil _),
        .inl ⟨rfl, rfl⟩⟩)
    | read callerRole =>
      exact .inr (.inl ⟨r, .read callerRole, _, rfl, congrArg (Prod.mk _) (List.append_nil _),
        .inr (.inl ⟨callerRole, rfl, rfl⟩)⟩)
    | count callerRole =>
      exact .inr (.inl ⟨r, .count callerRole, _, rfl, congrArg (Prod.mk _) (List.append_nil _),
        .inr (.inr ⟨callerRole, rfl, rfl⟩)⟩)
    | write callerRole =>
      exact .inr (.inr ⟨r, callerRole, rfl, congrArg (Prod.mk _) (List.append_nil _)⟩)

/-- **One step keeps an owner exactly when it spares the last one.** -/
theorem hasOwner_step (start : 1 ≤ c.1.countOwners teamID) :
    1 ≤ (memberFlow.advance (fun _ _ => []) c i).1.countOwners teamID ↔ SparesLast teamID c i := by
  obtain ⟨same, halt⟩ | ⟨r, stage, next, here, moved, reads⟩ | ⟨r, callerRole, here, moved⟩ :=
    memberFlow_step c i
  · rw [same]
    refine ⟨fun _ thread picked writes => ?_, fun _ => start⟩
    rw [halt thread picked] at writes
    cases writes
  · rw [moved]
    refine ⟨fun _ thread picked writes => ?_, fun _ => start⟩
    obtain rfl : thread = (r, stage) := Option.some.inj (picked.symm.trans here)
    obtain ⟨rfl, -⟩ | ⟨_, rfl, -⟩ | ⟨_, rfl, -⟩ := reads <;> cases writes
  · rw [moved]
    show 1 ≤ (r.written callerRole c.1).countOwners teamID ↔ _
    by_cases team : r.teamID = teamID
    · subst team
      obtain ⟨takes, keeps⟩ := written_own c.1 r callerRole
      constructor
      · intro after thread picked _ _ strips owner
        obtain rfl : thread = (r, .write callerRole) := Option.some.inj (picked.symm.trans here)
        have counted := takes ⟨strips, owner⟩
        omega
      · intro spares
        by_cases taken : r.change.strips ∧ r.ofOwner c.1
        · have two := spares _ here rfl rfl taken.1 taken.2
          have counted := takes taken
          omega
        · have kept := keeps taken
          omega
    · rw [(written_other c.1 callerRole team).1]
      refine ⟨fun _ thread picked _ same => ?_, fun _ => start⟩
      obtain rfl : thread = (r, .write callerRole) := Option.some.inj (picked.symm.trans here)
      exact absurd same team

/-- What a request between its read and its write can rely on: it is alone there, and if it
is about to take the role from an owner there is a second one. -/
def Protected (teamID : UUID) (c : TeamStore × List (MemberRequest × Stage)) : Prop :=
  ∀ (i : Nat) (r : MemberRequest) (stage : Stage), c.2[i]? = some (r, stage) →
    r.teamID = teamID → stage.inside →
    (∀ (j : Nat) (r' : MemberRequest) (stage' : Stage), j ≠ i → c.2[j]? = some (r', stage') →
      r'.teamID = teamID → stage'.inside = false) ∧
    ∀ callerRole, stage = .write callerRole → r.change.strips → r.ofOwner c.1 →
      2 ≤ c.1.countOwners teamID

theorem Protected.spares (held : Protected teamID c) : SparesLast teamID c i := by
  rintro ⟨r, stage⟩ here writes team strips owner
  cases stage with
  | write callerRole => exact (held i r _ here team rfl).2 callerRole rfl strips owner
  | _ => cases writes

theorem Protected.move {r : MemberRequest} {stage next : Stage} (held : Protected teamID c)
    (here : c.2[i]? = some (r, stage))
    (enters : r.teamID = teamID → next.inside →
      (∀ (j : Nat) (r' : MemberRequest) (stage' : Stage), j ≠ i → c.2[j]? = some (r', stage') →
        r'.teamID = teamID → stage'.inside = false) ∧
      ∀ callerRole, next = .write callerRole → r.change.strips → r.ofOwner c.1 →
        2 ≤ c.1.countOwners teamID) :
    Protected teamID (c.1, c.2.set i (r, next)) := by
  obtain ⟨bound, -⟩ := List.getElem?_eq_some_iff.mp here
  intro j r' stage' found team within
  by_cases self : i = j
  · subst self
    rw [List.getElem?_set_self bound] at found
    cases found
    obtain ⟨alone, second⟩ := enters team within
    refine ⟨fun k r'' stage'' other found' => ?_, second⟩
    rw [List.getElem?_set_ne (Ne.symm other)] at found'
    exact alone k r'' stage'' other found'
  · rw [List.getElem?_set_ne self] at found
    obtain ⟨alone, second⟩ := held j r' stage' found team within
    refine ⟨fun k r'' stage'' other found' team' => ?_, second⟩
    by_cases mover : i = k
    · subst mover
      rw [List.getElem?_set_self bound] at found'
      cases found'
      cases inside : next.inside with
      | false => rfl
      | true =>
        -- two of them inside: the one that moved just now was not alone
        have apart := (enters team' inside).1 j r' stage' (Ne.symm other) found team
        rw [within] at apart
        cases apart
    · rw [List.getElem?_set_ne mover] at found'
      exact alone k r'' stage'' other found' team'

/-- **Requests that take turns stay protected.** -/
theorem Protected.step (held : Protected teamID c) (turn : InTurn teamID c i) :
    Protected teamID (memberFlow.advance (fun _ _ => []) c i) := by
  obtain ⟨same, -⟩ | ⟨r, stage, next, here, moved, reads⟩ | ⟨r, callerRole, here, moved⟩ :=
    memberFlow_step c i
  · rw [same]
    exact held
  · rw [moved]
    refine held.move here fun team inside => ?_
    obtain ⟨-, rfl⟩ | ⟨callerRole, rfl, rfl⟩ | ⟨callerRole, rfl, rfl⟩ := reads
    · unfold Stage.afterCheck at inside
      split at inside
      · cases inside
      · split at inside <;> cases inside
    · refine ⟨fun j r' stage' other found team' => ?_, fun role writes strips owner => ?_⟩
      · obtain ⟨bound, -⟩ := List.getElem?_eq_some_iff.mp found
        exact turn _ here rfl team j bound other _ found team'
      · unfold Stage.afterRead at writes
        unfold MemberRequest.ofOwner at owner
        cases found : c.1.getMembership r.teamID r.userID with
        | none => simp [found] at owner
        | some m =>
          simp only [found, Option.any_some, decide_eq_true_eq] at owner writes
          rw [if_pos ⟨owner, Change.demotes_of_strips strips⟩] at writes
          cases writes
    · refine ⟨(held i r _ here team rfl).1, fun role writes _ _ => ?_⟩
      subst team
      split at writes
      · cases writes
      · omega
  · rw [moved]
    by_cases team : r.teamID = teamID
    · -- the writer was alone inside, and leaves
      have alone := (held i r _ here team rfl).1
      obtain ⟨bound, -⟩ := List.getElem?_eq_some_iff.mp here
      intro j r' stage' found team' within
      by_cases self : i = j
      · subst self
        rw [List.getElem?_set_self bound] at found
        cases found
        cases within
      · rw [List.getElem?_set_ne self] at found
        have outside := alone j r' stage' (Ne.symm self) found team'
        rw [within] at outside
        cases outside
    · obtain ⟨counts, rows⟩ := written_other c.1 callerRole team
      have left : Protected teamID (c.1, c.2.set i (r, .halt)) :=
        held.move here fun same => absurd same team
      intro j r' stage' found team' within
      obtain ⟨alone, second⟩ := left j r' stage' found team' within
      refine ⟨alone, fun role writes strips owner => ?_⟩
      rw [counts]
      refine second role writes strips ?_
      rw [MemberRequest.ofOwner, team', rows] at owner
      rw [MemberRequest.ofOwner, team']
      exact owner

end Runs

/-- **When a team keeps an owner.**  For every number of requests to change or remove
members and every interleaving of their statements, starting from a team with an owner:
it has one in every state reached exactly when every write that takes the role 'owner' from
somebody is made while there are two; and it is whenever a request reads the membership it
is about only while no other request for the team is between its read and its write. -/
theorem last_owner_kept_iff (s : TeamStore) (teamID : UUID) (requests : List MemberRequest)
    (schedule : List Nat) (start : 1 ≤ s.countOwners teamID) :
    ((∀ earlier, earlier <+: schedule → 1 ≤ (memberRun s requests earlier).1.countOwners teamID) ↔
        memberFlow.Along (fun _ _ => []) (SparesLast teamID) (memberStart s requests) schedule) ∧
      (memberFlow.Along (fun _ _ => []) (InTurn teamID) (memberStart s requests) schedule →
        memberFlow.Along (fun _ _ => []) (SparesLast teamID) (memberStart s requests) schedule) := by
  constructor
  · exact Flow.along_iff_throughout
      (I := fun c : TeamStore × List (MemberRequest × Stage) => 1 ≤ c.1.countOwners teamID)
      (fun c i has => hasOwner_step has) start schedule
  · intro turns
    refine Flow.Along.of_invariant (I := Protected teamID)
      (fun c i turn held => ⟨held.spares, held.step turn⟩) turns ?_
    intro i r stage found _ within
    obtain ⟨request, -, same⟩ := List.mem_map.mp (List.mem_of_getElem? found)
    cases same
    cases within

def pair : TeamStore where
  users := ⟨[⟨7, "owner@example.com"⟩, ⟨8, "b@example.com"⟩], by decide +kernel⟩
  teams := ⟨[⟨1, "pair", "pair"⟩], by decide +kernel⟩
  memberships := ⟨[⟨⟨1, 7, .owner⟩, .created⟩, ⟨⟨1, 8, .owner⟩, .updated 7 .owner⟩],
    by decide +kernel⟩

def quarrel : List MemberRequest :=
  [⟨{ userID := 7 }, 1, 8, .remove⟩, ⟨{ userID := 8 }, 1, 7, .update "member"⟩]

theorem pair_in_turn :
    memberFlow.Along (fun _ _ => []) (InTurn 1) (memberStart pair quarrel)
        [0, 1, 0, 0, 0, 1, 1, 1] ∧
      ∀ earlier, earlier <+: [0, 1, 0, 0, 0, 1, 1, 1] →
        1 ≤ (memberRun pair quarrel earlier).1.countOwners 1 := by
  have turns : memberFlow.Along (fun _ _ => []) (InTurn 1) (memberStart pair quarrel)
      [0, 1, 0, 0, 0, 1, 1, 1] := by decide +kernel
  obtain ⟨kept, guarded⟩ := last_owner_kept_iff pair 1 quarrel [0, 1, 0, 0, 0, 1, 1, 1]
    (by decide +kernel)
  exact ⟨turns, kept.mpr (guarded turns)⟩

/-- Both count two owners before either writes. -/
theorem team_loses_last_owner :
    pair.countOwners 1 = 2 ∧
      (memberRun pair quarrel [0, 1, 0, 1, 0, 1, 0, 1]).1.countOwners 1 = 0 := by
  decide +kernel

end Nixway.Access
