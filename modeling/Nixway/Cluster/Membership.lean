/-
# Cluster.Membership -- two records of the cluster a server is in

`AddMember` and `RemoveMember` of `internal/cluster/service.go` keep a member row and
`servers.cluster_id` with separate statements, and ignore an error of the second one.
`RemoveMember` looks the member up by its server alone and deletes it by cluster and server:
with another cluster's id no row goes, and `cluster_id` is cleared all the same
(`removed_from_another_cluster`).

`Faithful` is what a call needs, in the state it finds.  `recorded_iff` says that the calls
for which the two records agree throughout are exactly those that meet it; the peer rows
stay between members of one cluster whatever is called (`sound_serve`).
-/
import Nixway.Cluster.Network
import Nixway.Theory.Runs

namespace Nixway.Cluster

open Nixway.Theory Nixway.Store
open Nixway.Intake (PeerStatus)
open Nixway.Theory.Prog (query exec atomic forEach)

set_option autoImplicit false

/-! ## The service -/

/-- The answer of a `:one` query, or the error its statement fails with. -/
def fetch {α : Type} (fault : Option String) (found : Option α) : Except String α :=
  match fault, found with
  | some err, _ => .error err
  | none, none => .error "no rows in result set"
  | none, some row => .ok row

structure AddMemberRequest where
  clusterID : UUID
  serverID : UUID
  teamID : UUID

/-- The row to insert. -/
def AddMemberRequest.member (req : AddMemberRequest) (id : UUID) (wgIP : IP) (srv : ServerRow) :
    MemberRow :=
  { id := id
    clusterID := req.clusterID
    serverID := req.serverID
    wireguardIp := wgIP
    wireguardEndpoint := srv.publicIp ++ ":51820" }

/-- The errors of the statements of `AddMember`. -/
structure AddFaults where
  getCluster : Option String := none
  getServer : Option String := none
  getMember : Option String := none
  listIPs : Option String := none
  create : Option String := none
  update : Option String := none

/-- The errors of the statements of `RemoveMember`. -/
structure RemoveFaults where
  getMember : Option String := none
  deletePeers : Option String := none
  deleteMember : Option String := none
  clear : Option String := none

/-- `AddMember`; `id` is what `gen_random_uuid()` returns. -/
def addMember (req : AddMemberRequest) (id : UUID) (faults : AddFaults) :
    Prog Network (Except String MemberRow) := do
  match ← query fun n => fetch faults.getCluster (n.getClusterByID req.clusterID req.teamID) with
  | .error err => .done (.error ("get cluster: " ++ err))
  | .ok cluster =>
    match ← query fun n => fetch faults.getServer (n.getServerByID req.serverID req.teamID) with
    | .error err => .done (.error ("get server: " ++ err))
    | .ok srv =>
      -- any error counts as "not in a cluster"
      match ← query fun n =>
        fetch faults.getMember (n.getClusterMemberByServerID req.serverID) with
      | .ok _ => .done (.error ("server " ++ req.serverID.text ++ " is already in a cluster"))
      | .error _ =>
        match ← query fun n =>
          fetch faults.listIPs (some (n.listClusterMemberIPs req.clusterID)) with
        | .error err => .done (.error ("list member IPs: " ++ err))
        | .ok usedIPs =>
          match allocateServerIP cluster.cidr usedIPs with
          | none => .done (.error "allocate WireGuard IP: no available IPs in CIDR")
          | some wgIP => do
            let member := req.member id wgIP srv
            match ← atomic fun n => match faults.create, n.createClusterMember member with
              | some err, _ => (n, Except.error err)
              | none, none => (n, .error "constraint violation")
              | none, some n' => (n', .ok member) with
            | .error err => .done (.error ("create member: " ++ err))
            | .ok member => do
              exec fun n => if faults.update.isSome then n
                else n.updateServerClusterID req.serverID req.clusterID
              .done (.ok member)

/-- `RemoveMember`. -/
def removeMember (clusterID serverID : UUID) (faults : RemoveFaults) :
    Prog Network (Except String Unit) := do
  match ← query fun n => fetch faults.getMember (n.getClusterMemberByServerID serverID) with
  | .error err => .done (.error ("get member: " ++ err))
  | .ok member => do
    exec fun n => if faults.deletePeers.isSome then n else n.deletePeersByMember member.id
    exec fun n => if faults.deleteMember.isSome then n
      else n.deleteClusterMember clusterID serverID
    match faults.deleteMember with
    | some err => .done (.error ("delete member: " ++ err))
    | none => do
      exec fun n => if faults.clear.isSome then n else n.clearServerClusterID serverID
      .done (.ok ())

/-- `ensurePeerRecords` on the members a regeneration has read; `fails` are the pairs whose
upsert fails. -/
def ensurePeerRecords (members : List (MemberRow × ServerRow)) (fails : UUID → UUID → Bool) :
    Prog Network Unit :=
  forEach members fun source => forEach members fun dest =>
    if source.1.id = dest.1.id then .done ()
    else exec fun n => if fails source.1.id dest.1.id then n
      else n.upsertWireGuardPeer source.1.id dest.1.id .pending

/-- The part of `RegenerateMesh` that writes to the database. -/
def regeneratePeers (clusterID : UUID) (fails : UUID → UUID → Bool) : Prog Network Unit := do
  let members ← query fun n => n.getClusterMembersForMesh clusterID
  ensurePeerRecords members fails

/-! ## Calls -/

inductive Call where
  | addMember (req : AddMemberRequest) (id : UUID) (faults : AddFaults)
  | removeMember (clusterID serverID : UUID) (faults : RemoveFaults)
  | regenerate (clusterID : UUID) (fails : UUID → UUID → Bool)

def Call.prog : Call → Prog Network Unit
  | .addMember req id faults => (Cluster.addMember req id faults).ignore
  | .removeMember clusterID serverID faults => (Cluster.removeMember clusterID serverID faults).ignore
  | .regenerate clusterID fails => regeneratePeers clusterID fails

/-- The network behind a call. -/
def serve (n : Network) (call : Call) : Network := call.prog.out n

/-! ## What is asked -/

/-- `cluster_id` is `c` just if there is exactly one member row of the server, in `c`. -/
def Placed (n : Network) : Prop :=
  ∀ s ∈ n.servers.rows, ∀ c, s.clusterID = some c ↔
    ((n.members.rows.filter fun m => m.serverID = s.id).map MemberRow.clusterID) = [c]

/-- Peer rows are between members of one cluster. -/
def Peered (n : Network) : Prop :=
  ∀ p ∈ n.peers.rows, ∃ m ∈ n.members.rows, ∃ m' ∈ n.members.rows,
    m.id = p.memberID ∧ m'.id = p.peerMemberID ∧ m.clusterID = m'.clusterID

structure Recorded (n : Network) : Prop where
  placed : Placed n
  peered : Peered n

/-- What the foreign key keeps: a member's server exists. -/
def Referential (n : Network) : Prop :=
  ∀ m ∈ n.members.rows, (n.servers.find? m.serverID).isSome

/-- The row an `AddMember` inserts, if its checks pass and no key of the row is taken. -/
def newMember (n : Network) (req : AddMemberRequest) (id : UUID) (faults : AddFaults) :
    Option MemberRow :=
  match fetch faults.getCluster (n.getClusterByID req.clusterID req.teamID),
      fetch faults.getServer (n.getServerByID req.serverID req.teamID),
      fetch faults.getMember (n.getClusterMemberByServerID req.serverID), faults.listIPs with
  | .ok cluster, .ok srv, .error _, none =>
    (allocateServerIP cluster.cidr (n.listClusterMemberIPs req.clusterID)).bind fun wgIP =>
      if faults.create = none ∧ (n.createClusterMember (req.member id wgIP srv)).isSome then
        some (req.member id wgIP srv)
      else none
  | _, _, _, _ => none

/-- An inserted row is followed by the server's `cluster_id`; and behind a deletion that goes
through, `cluster_id` is cleared just if the member was one of the cluster named. -/
def Faithful (n : Network) : Call → Prop
  | .addMember req id faults => (newMember n req id faults).isSome → faults.update = none
  | .removeMember clusterID serverID faults =>
    faults.getMember = none → faults.deleteMember = none →
      ∀ m ∈ n.members.find? serverID, faults.clear = none ↔ m.clusterID = clusterID
  | .regenerate .. => True

/-! ## The effect of a call -/

/-- `AddMember` changes nothing, or inserts its row and goes on to the server. -/
theorem addMember_cases (n : Network) (req : AddMemberRequest) (id : UUID) (faults : AddFaults) :
    ((addMember req id faults).out n = n ∧ newMember n req id faults = none) ∨
      ∃ m n', newMember n req id faults = some m ∧ n.createClusterMember m = some n' ∧
        m.clusterID = req.clusterID ∧ m.serverID = req.serverID ∧
        (addMember req id faults).out n =
          if faults.update.isSome then n' else n'.updateServerClusterID req.serverID req.clusterID := by
  unfold addMember newMember Prog.out
  simp only [Prog.run_query_bind]
  cases fetch faults.getCluster (n.getClusterByID req.clusterID req.teamID) with
  | error err => exact .inl ⟨rfl, rfl⟩
  | ok cluster =>
    simp only [Prog.run_query_bind]
    cases fetch faults.getServer (n.getServerByID req.serverID req.teamID) with
    | error err => exact .inl ⟨rfl, rfl⟩
    | ok srv =>
      simp only [Prog.run_query_bind]
      cases fetch faults.getMember (n.getClusterMemberByServerID req.serverID) with
      | ok member => exact .inl ⟨rfl, rfl⟩
      | error err =>
        simp only [Prog.run_query_bind]
        cases faults.listIPs with
        | some err => exact .inl ⟨rfl, rfl⟩
        | none =>
          simp only [fetch]
          cases allocateServerIP cluster.cidr (n.listClusterMemberIPs req.clusterID) with
          | none => exact .inl ⟨rfl, rfl⟩
          | some wgIP =>
            simp only [Prog.run_atomic_bind, Option.bind_some]
            cases faults.create with
            | some err => exact .inl ⟨rfl, rfl⟩
            | none =>
              cases created : n.createClusterMember (req.member id wgIP srv) with
              | none => exact .inl ⟨rfl, rfl⟩
              | some n' => exact .inr ⟨_, n', rfl, created, rfl, rfl, rfl⟩

/-- The member row before the deletion, whatever happened to the peers. -/
theorem members_deletePeers (n : Network) (faults : RemoveFaults) (memberID : UUID) :
    (if faults.deletePeers.isSome then n else n.deletePeersByMember memberID).members = n.members ∧
      (if faults.deletePeers.isSome then n else n.deletePeersByMember memberID).servers =
        n.servers := by
  split <;> exact ⟨rfl, rfl⟩

/-- `RemoveMember` without a failing look-up or deletion. -/
theorem removeMember_out {n : Network} {clusterID serverID : UUID} {faults : RemoveFaults}
    {m : MemberRow} (found : n.members.find? serverID = some m) (looks : faults.getMember = none)
    (deletes : faults.deleteMember = none) :
    (removeMember clusterID serverID faults).out n =
      let n' := (if faults.deletePeers.isSome then n
        else n.deletePeersByMember m.id).deleteClusterMember clusterID serverID
      if faults.clear.isSome then n' else n'.clearServerClusterID serverID := by
  have read : fetch faults.getMember (n.getClusterMemberByServerID serverID) = .ok m := by
    rw [Network.getClusterMemberByServerID, found, looks, fetch]
  unfold removeMember Prog.out
  simp only [Prog.run_query_bind, read, Prog.run_exec_bind, deletes]
  rfl

/-- Otherwise it leaves members and servers as they are. -/
theorem removeMember_refused {n : Network} {clusterID serverID : UUID} {faults : RemoveFaults}
    (refused : n.members.find? serverID = none ∨ faults.getMember ≠ none ∨
      faults.deleteMember ≠ none) :
    ((removeMember clusterID serverID faults).out n).members = n.members ∧
      ((removeMember clusterID serverID faults).out n).servers = n.servers := by
  unfold removeMember Prog.out
  simp only [Prog.run_query_bind, Network.getClusterMemberByServerID]
  cases looks : faults.getMember with
  | some err => exact ⟨rfl, rfl⟩
  | none =>
    cases found : n.members.find? serverID with
    | none => exact ⟨rfl, rfl⟩
    | some m =>
      cases deletes : faults.deleteMember with
      | none => simp only [found, looks, deletes, reduceCtorEq, ne_eq, not_true, or_self] at refused
      | some err =>
        simp only [fetch, Prog.run_exec_bind, Option.isSome_some, if_true]
        exact members_deletePeers n faults m.id

/-- An inserted row: it is of a known server that had none. -/
structure Network.Inserted (n n' : Network) (m : MemberRow) : Prop where
  members : ∃ joined, ∀ k, n'.members.find? k =
    if m.serverID = k then some { m with joined := joined } else n.members.find? k
  rows : ∀ r ∈ n.members.rows, r ∈ n'.members.rows
  server : (n.servers.find? m.serverID).isSome
  free : n.members.find? m.serverID = none
  servers : n'.servers = n.servers
  peers : n'.peers = n.peers

theorem Network.inserted_of_create {n n' : Network} {m : MemberRow}
    (created : n.createClusterMember m = some n') : n.Inserted n' m := by
  unfold createClusterMember at created
  split at created
  · next admitted =>
    obtain ⟨members, inserted, rfl⟩ := Option.map_eq_some_iff.mp created
    have fresh := (Table.insert?_eq_some_iff.mp inserted).1
    exact
      { members := ⟨n.stamp + 1, Table.find?_insert? inserted⟩
        rows := fun r mem => (Table.mem_insert? inserted).mpr (.inr mem)
        server := admitted.2.1
        free := Table.find?_eq_none_iff.mpr fresh
        servers := rfl
        peers := rfl }
  · cases created

/-- The statement finds the row of the server in the cluster, or changes nothing. -/
theorem deleteClusterMember_cases (n : Network) (clusterID serverID : UUID) :
    ((∀ m ∈ n.members.find? serverID, m.clusterID ≠ clusterID) ∧
        n.deleteClusterMember clusterID serverID = n) ∨
      ∃ m ∈ n.members.find? serverID, m.clusterID = clusterID ∧
        n.deleteClusterMember clusterID serverID =
          { n.mark clusterID (n.members.deleteWhere fun other => other.serverID = serverID) with
            peers := n.peers.deleteWhere fun p => p.memberID = m.id || p.peerMemberID = m.id } := by
  unfold Network.deleteClusterMember
  cases here : n.members.find? serverID with
  | none => exact .inl ⟨nofun, rfl⟩
  | some m =>
    rw [Option.filter_some]
    by_cases mine : m.clusterID = clusterID
    · rw [if_pos (decide_eq_true mine)]
      exact .inr ⟨m, rfl, mine, rfl⟩
    · rw [if_neg (by simpa using mine)]
      exact .inl ⟨fun m' same => Option.some.inj same ▸ mine, rfl⟩

theorem find?_deleteClusterMember (n : Network) (clusterID serverID k : UUID) :
    (n.deleteClusterMember clusterID serverID).members.find? k =
      if k = serverID then (n.members.find? k).filter fun m => m.clusterID ≠ clusterID
      else n.members.find? k := by
  obtain ⟨others, same⟩ | ⟨m, here, mine, deleted⟩ :=
    deleteClusterMember_cases n clusterID serverID
  · rw [same]
    split
    · next own =>
      subst own
      cases here : n.members.find? k with
      | none => rfl
      | some m => rw [Option.filter_some, if_pos (decide_eq_true (others m here))]
    · rfl
  · rw [deleted]
    split
    · next own =>
      subst own
      rw [Option.mem_def.mp here, Option.filter_some, if_neg (by simpa using mine)]
      exact @Table.find?_deleteKey_self MemberRow UUID _ _ n.members k
    · next other => exact @Table.find?_deleteKey_ne MemberRow UUID _ _ n.members serverID k other

/-! ## Where the records agree -/

theorem filter_server (n : Network) (id : UUID) :
    (n.members.rows.filter fun m => m.serverID = id) = (n.members.find? id).toList := by
  cases found : n.members.find? id with
  | none =>
    refine List.filter_eq_nil_iff.mpr fun m mem own => ?_
    exact Table.find?_eq_none_iff.mp found m mem (of_decide_eq_true own)
  | some m =>
    obtain ⟨before, after, rows, earlier, later⟩ := Table.split_of_find? found
    have own : m.serverID = id := Table.key_of_find? found
    have none_of : ∀ {xs : List MemberRow}, (∀ x ∈ xs, Keyed.key x ≠ id) →
        (xs.filter fun m => m.serverID = id) = [] := fun other =>
      List.filter_eq_nil_iff.mpr fun x mem same => other x mem (of_decide_eq_true same)
    rw [rows, List.filter_append, List.filter_cons, none_of earlier, none_of later,
      if_pos (decide_eq_true own)]
    rfl

/-- The records agree if every server's `cluster_id` is that of its member row. -/
theorem placed_iff (n : Network) : Placed n ↔
    ∀ s ∈ n.servers.rows, s.clusterID = (n.members.find? s.id).map MemberRow.clusterID := by
  refine forall₂_congr fun s _ => ?_
  rw [filter_server]
  cases n.members.find? s.id with
  | none =>
    constructor
    · intro all
      refine Option.eq_none_iff_forall_ne_some.mpr fun c here => ?_
      exact absurd ((all c).mp here) (List.cons_ne_nil c []).symm
    · intro unset c
      rw [unset]
      exact iff_of_false nofun nofun
  | some m =>
    constructor
    · exact fun all => (all m.clusterID).mpr rfl
    · intro here c
      rw [here]
      simp only [Option.map_some, Option.some.injEq, Option.toList_some, List.map_cons,
        List.map_nil, List.cons.injEq, and_true]

theorem placed_set_iff {n : Network} {members : Table MemberRow} {id : UUID} {c : Option UUID} :
    Placed { n with members := members,
                    servers := n.servers.update id fun s => { s with clusterID := c } } ↔
      ∀ s ∈ n.servers.rows, (if s.id = id then c else s.clusterID) =
        (members.find? s.id).map MemberRow.clusterID := by
  rw [placed_iff]
  have row : ∀ s : ServerRow, (if s.id = id then { s with clusterID := c } else s).id = s.id ∧
      (if s.id = id then { s with clusterID := c } else s).clusterID =
        if s.id = id then c else s.clusterID := by
    intro s
    split <;> exact ⟨rfl, rfl⟩
  have keeps : ∀ s : ServerRow, Keyed.key { s with clusterID := c } = Keyed.key s := fun _ => rfl
  constructor
  · intro all s mem
    have here := all _ ((Table.mem_update keeps).mpr ⟨s, mem, rfl⟩)
    rwa [show Keyed.key s = s.id from rfl, (row s).1, (row s).2] at here
  · intro all s mem
    obtain ⟨old, here, rfl⟩ := (Table.mem_update keeps).mp mem
    rw [show Keyed.key old = old.id from rfl, (row old).1, (row old).2]
    exact all old here

theorem placed_congr {n n' : Network} (servers : n'.servers = n.servers)
    (members : ∀ k, n'.members.find? k = n.members.find? k) : Placed n' ↔ Placed n := by
  simp only [placed_iff, servers, members]

theorem regenerate_keeps (n : Network) (clusterID : UUID) (fails : UUID → UUID → Bool) :
    ((regeneratePeers clusterID fails).out n).members = n.members ∧
      ((regeneratePeers clusterID fails).out n).servers = n.servers := by
  have every : (regeneratePeers clusterID fails).Every fun effect =>
      ∀ n, ((effect n).members, (effect n).servers) = (n.members, n.servers) := by
    refine Prog.Every.bind_query (fun _ => rfl) fun _ => Prog.Every.forEach _ fun source _ =>
      Prog.Every.forEach _ fun dest _ => ?_
    split
    · trivial
    · refine (Prog.every_exec _).mpr fun n => ?_
      split
      · rfl
      · unfold Network.upsertWireGuardPeer
        split <;> rfl
  exact Prod.mk.inj (every.run_unchanged (fun n : Network => (n.members, n.servers)) n)

theorem placed_addMember {n : Network} (placed : Placed n) (req : AddMemberRequest) (id : UUID)
    (faults : AddFaults) :
    Placed (serve n (.addMember req id faults)) ↔ Faithful n (.addMember req id faults) := by
  have result : serve n (.addMember req id faults) = (addMember req id faults).out n := by
    rw [serve, Call.prog, Prog.ignore, Prog.out, Prog.run_bind]
    rfl
  rw [result, Faithful]
  obtain ⟨same, refused⟩ | ⟨m, n', accepted, created, cluster, server, out⟩ :=
    addMember_cases n req id faults
  · rw [same, refused]
    exact iff_of_true placed nofun
  · have inserted := Network.inserted_of_create created
    obtain ⟨joined, find⟩ := inserted.members
    have known := (placed_iff n).mp placed
    rw [out, accepted]
    cases updates : faults.update with
    | some err =>
      refine iff_of_false (fun after => ?_) (by simp)
      -- the row is there and the server's column is still NULL
      obtain ⟨s, here⟩ := Option.isSome_iff_exists.mp inserted.server
      have mem := Table.mem_of_find? here
      have own : s.id = m.serverID := Table.key_of_find? here
      have unset : s.clusterID = none := by rw [known s mem, own, inserted.free, Option.map_none]
      have set := (placed_iff n').mp after s (inserted.servers ▸ mem)
      rw [unset, own, find, if_pos rfl] at set
      cases set
    | none =>
      refine iff_of_true ?_ (fun _ => rfl)
      refine placed_set_iff.mpr fun s mem => ?_
      rw [find]
      rw [inserted.servers] at mem
      by_cases own : s.id = req.serverID
      · rw [if_pos own, if_pos (server.trans own.symm), Option.map_some, cluster]
      · rw [if_neg own, if_neg fun same => own (same.symm.trans server)]
        exact known s mem

theorem placed_removeMember {n : Network} (referential : Referential n) (placed : Placed n)
    (clusterID serverID : UUID) (faults : RemoveFaults) :
    Placed (serve n (.removeMember clusterID serverID faults)) ↔
      Faithful n (.removeMember clusterID serverID faults) := by
  have result : serve n (.removeMember clusterID serverID faults) =
      (removeMember clusterID serverID faults).out n := by
    rw [serve, Call.prog, Prog.ignore, Prog.out, Prog.run_bind]
    rfl
  have known := (placed_iff n).mp placed
  have unchanged (refused : n.members.find? serverID = none ∨ faults.getMember ≠ none ∨
      faults.deleteMember ≠ none) : Placed ((removeMember clusterID serverID faults).out n) := by
    obtain ⟨members, servers⟩ := @removeMember_refused n clusterID serverID faults refused
    exact (placed_congr servers fun k => by rw [members]).mpr placed
  rw [result, Faithful]
  cases found : n.members.find? serverID with
  | none => exact iff_of_true (unchanged (.inl found)) (fun _ _ m here => nomatch here)
  | some m =>
    by_cases looks : faults.getMember = none
    · by_cases deletes : faults.deleteMember = none
      · rw [removeMember_out found looks deletes]
        obtain ⟨members, servers⟩ := members_deletePeers n faults m.id
        generalize (if faults.deletePeers.isSome then n else n.deletePeersByMember m.id) = n₁
          at members servers
        obtain ⟨s, here⟩ := Option.isSome_iff_exists.mp
          (referential m (Table.mem_of_find? found))
        have mem := Table.mem_of_find? here
        have own : s.id = serverID :=
          (Table.key_of_find? here).trans (Table.key_of_find? found)
        have find : ∀ k, (n₁.deleteClusterMember clusterID serverID).members.find? k =
            if k = serverID then (n.members.find? k).filter fun m => m.clusterID ≠ clusterID
            else n.members.find? k := fun k => by rw [find?_deleteClusterMember, members]
        have sameServers : (n₁.deleteClusterMember clusterID serverID).servers = n.servers := by
          obtain ⟨-, same⟩ | ⟨m', -, -, deleted⟩ := deleteClusterMember_cases n₁ clusterID serverID
          · rw [same, servers]
          · rw [deleted, ← servers]
            rfl
        have stored : s.clusterID = some m.clusterID := by
          rw [known s mem, own, found, Option.map_some]
        generalize n₁.deleteClusterMember clusterID serverID = n₂ at find sameServers
        by_cases mine : m.clusterID = clusterID
        · have gone : n₂.members.find? serverID = none := by
            rw [find, if_pos rfl, found, Option.filter_some, if_neg (by simpa using mine)]
          have others : ∀ k, k ≠ serverID → n₂.members.find? k = n.members.find? k :=
            fun k other => by rw [find, if_neg other]
          cases clears : faults.clear with
          | some err =>
            refine iff_of_false (fun after => ?_) fun faithful =>
              nomatch (faithful looks deletes m rfl).mpr mine
            have unset := (placed_iff n₂).mp after s (sameServers ▸ mem)
            rw [own, gone, stored] at unset
            cases unset
          | none =>
            refine iff_of_true (placed_set_iff.mpr fun s' mem' => ?_)
              fun _ _ m' same => iff_of_true rfl (Option.some.inj same ▸ mine)
            rw [sameServers] at mem'
            by_cases there : s'.id = serverID
            · rw [if_pos there, there, gone, Option.map_none]
            · rw [if_neg there, others _ there]
              exact known s' mem'
        · have kept : ∀ k, n₂.members.find? k = n.members.find? k := by
            intro k
            rw [find]
            split
            · next same => rw [same, found, Option.filter_some, if_pos (decide_eq_true mine)]
            · rfl
          cases clears : faults.clear with
          | some err =>
            refine iff_of_true ((placed_congr sameServers kept).mpr placed)
              fun _ _ m' same => iff_of_false nofun (Option.some.inj same ▸ mine)
          | none =>
            refine iff_of_false (fun after => ?_) fun faithful =>
              mine ((faithful looks deletes m rfl).mp rfl)
            have set := placed_set_iff.mp after s (sameServers ▸ mem)
            rw [if_pos own, own, kept, found] at set
            cases set
      · exact iff_of_true (unchanged (.inr (.inr deletes))) fun _ none => absurd none deletes
    · exact iff_of_true (unchanged (.inr (.inl looks))) fun none => absurd none looks

/-! ## What every statement keeps -/

/-- What the foreign keys keep, and peers between members of one cluster. -/
structure Sound (n : Network) : Prop where
  referential : Referential n
  peered : Peered n

namespace Sound

variable {n : Network}

theorem createClusterMember (sound : Sound n) {n' : Network} {m : MemberRow}
    (created : n.createClusterMember m = some n') : Sound n' := by
  have inserted := Network.inserted_of_create created
  obtain ⟨joined, find⟩ := inserted.members
  refine ⟨fun r mem => ?_, fun p mem => ?_⟩
  · have here : n'.members.find? r.serverID = some r := Table.find?_self mem
    rw [inserted.servers]
    rw [find] at here
    split at here
    · next same => rw [← same]; exact inserted.server
    · exact sound.referential r (Table.mem_of_find? here)
  · rw [inserted.peers] at mem
    obtain ⟨a, inA, b, inB, ends⟩ := sound.peered p mem
    exact ⟨a, inserted.rows a inA, b, inserted.rows b inB, ends⟩

theorem deletePeersByMember (sound : Sound n) (memberID : UUID) :
    Sound (n.deletePeersByMember memberID) :=
  ⟨sound.referential, fun p mem => sound.peered p (Table.mem_deleteWhere.mp mem).1⟩

theorem deleteClusterMember (sound : Sound n) (clusterID serverID : UUID) :
    Sound (n.deleteClusterMember clusterID serverID) := by
  obtain ⟨-, same⟩ | ⟨m, here, -, deleted⟩ := deleteClusterMember_cases n clusterID serverID
  · rw [same]
    exact sound
  · rw [deleted]
    refine ⟨fun r mem => sound.referential r (Table.mem_deleteWhere.mp mem).1, fun p mem => ?_⟩
    obtain ⟨old, apart⟩ := Table.mem_deleteWhere.mp mem
    simp only [Bool.or_eq_false_iff, decide_eq_false_iff_not] at apart
    obtain ⟨a, inA, b, inB, idA, idB, cluster⟩ := sound.peered p old
    -- a row with another id is not the one of the server
    have stays : ∀ r ∈ n.members.rows, r.id ≠ m.id →
        r ∈ (n.members.deleteWhere fun other => other.serverID = serverID).rows := by
      intro r mem other
      refine Table.mem_deleteWhere.mpr ⟨mem, decide_eq_false fun same => other ?_⟩
      have found : n.members.find? serverID = some r := same ▸ Table.find?_self mem
      rw [Option.some.inj (found.symm.trans here)]
    exact ⟨a, stays a inA (idA ▸ apart.1), b, stays b inB (idB ▸ apart.2), idA, idB, cluster⟩

theorem setCluster (sound : Sound n) (id : UUID) (c : Option UUID) :
    Sound { n with servers := n.servers.update id fun s => { s with clusterID := c } } :=
  ⟨fun m mem => by
    rw [Table.isSome_find?_update]
    exact sound.referential m mem, sound.peered⟩

theorem upsertWireGuardPeer (sound : Sound n) {a b : MemberRow} (inA : a ∈ n.members.rows)
    (inB : b ∈ n.members.rows) (cluster : a.clusterID = b.clusterID) (status : PeerStatus) :
    Sound (n.upsertWireGuardPeer a.id b.id status) := by
  unfold Network.upsertWireGuardPeer
  split
  · refine ⟨sound.referential, fun p mem => ?_⟩
    by_cases new : Keyed.key p = (a.id, b.id)
    · obtain ⟨first, second⟩ := Prod.mk.inj new
      exact ⟨a, inA, b, inB, first.symm, second.symm, cluster⟩
    · have here := (Table.find?_upsert_ne new).symm.trans (Table.find?_self mem)
      exact sound.peered p (Table.mem_of_find? here)
  · exact sound

end Sound

/-- Statements that keep the tables sound. -/
abbrev Keeps (effect : Network → Network) : Prop := ∀ n, Sound n → Sound (effect n)

theorem addMember_keeps (req : AddMemberRequest) (id : UUID) (faults : AddFaults) :
    (addMember req id faults).Every Keeps := by
  have reads : Keeps fun n => n := fun _ sound => sound
  refine .bind_query reads fun n => ?_
  split
  · trivial
  · refine .bind_query reads fun n => ?_
    split
    · trivial
    · refine .bind_query reads fun n => ?_
      split
      · trivial
      · refine .bind_query reads fun n => ?_
        split
        · trivial
        · split
          · trivial
          · refine .bind ((Prog.every_atomic _).mpr fun n sound => ?_) fun answer => ?_
            · beta_reduce
              split
              · exact sound
              · exact sound
              · next created => exact sound.createClusterMember created
            · split
              · trivial
              · refine .bind ((Prog.every_exec _).mpr fun n sound => ?_) fun _ => trivial
                split
                · exact sound
                · exact sound.setCluster _ _

theorem removeMember_keeps (clusterID serverID : UUID) (faults : RemoveFaults) :
    (removeMember clusterID serverID faults).Every Keeps := by
  refine .bind_query (fun _ sound => sound) fun n => ?_
  split
  · trivial
  · refine .bind ((Prog.every_exec _).mpr fun n sound => ?_) fun _ =>
      .bind ((Prog.every_exec _).mpr fun n sound => ?_) fun _ => ?_
    · split
      · exact sound
      · exact sound.deletePeersByMember _
    · split
      · exact sound
      · exact sound.deleteClusterMember _ _
    · split
      · trivial
      · refine .bind ((Prog.every_exec _).mpr fun n sound => ?_) fun _ => trivial
        split
        · exact sound
        · exact sound.setCluster _ _

/-- The loop over the members it has read, while they are there. -/
theorem sound_regenerate {n : Network} (sound : Sound n) (clusterID : UUID)
    (fails : UUID → UUID → Bool) : Sound ((regeneratePeers clusterID fails).out n) := by
  have mine : ∀ source ∈ n.getClusterMembersForMesh clusterID,
      source.1 ∈ n.members.rows ∧ source.1.clusterID = clusterID := by
    intro source mem
    obtain ⟨m, inside, row⟩ := List.mem_filterMap.mp mem
    obtain ⟨s, -, rfl⟩ := Option.map_eq_some_iff.mp row
    obtain ⟨old, here⟩ := List.mem_filter.mp inside
    exact ⟨old, of_decide_eq_true here⟩
  have every : (ensurePeerRecords (n.getClusterMembersForMesh clusterID) fails).Every
      fun effect => ∀ n', (Sound n' ∧ n'.members = n.members) →
        Sound (effect n') ∧ (effect n').members = n.members := by
    refine Prog.Every.forEach _ fun source inSource => Prog.Every.forEach _ fun dest inDest => ?_
    split
    · trivial
    · refine (Prog.every_exec _).mpr fun n' before => ?_
      obtain ⟨soundNow, members⟩ := before
      split
      · exact ⟨soundNow, members⟩
      · obtain ⟨inA, clusterA⟩ := mine source inSource
        obtain ⟨inB, clusterB⟩ := mine dest inDest
        rw [← members] at inA inB
        refine ⟨soundNow.upsertWireGuardPeer inA inB (clusterA.trans clusterB.symm) _, ?_⟩
        unfold Network.upsertWireGuardPeer
        split <;> exact members
  exact (every.run_preserves (I := fun n' => Sound n' ∧ n'.members = n.members)
    ⟨sound, rfl⟩).1

/-- **Peers stay within a cluster, whatever is called and whatever fails.** -/
theorem sound_serve (n : Network) (call : Call) (sound : Sound n) : Sound (serve n call) := by
  cases call with
  | addMember req id faults =>
    have every : (addMember req id faults).ignore.Every Keeps :=
      Prog.Every.bind (addMember_keeps req id faults) fun _ => trivial
    exact every.run_preserves sound
  | removeMember clusterID serverID faults =>
    have every : (removeMember clusterID serverID faults).ignore.Every Keeps :=
      Prog.Every.bind (removeMember_keeps clusterID serverID faults) fun _ => trivial
    exact every.run_preserves sound
  | regenerate clusterID fails => exact sound_regenerate sound clusterID fails

theorem placed_serve_iff {n : Network} (sound : Sound n) (placed : Placed n) (call : Call) :
    Placed (serve n call) ↔ Faithful n call := by
  cases call with
  | addMember req id faults => exact placed_addMember placed req id faults
  | removeMember clusterID serverID faults =>
    exact placed_removeMember sound.referential placed clusterID serverID faults
  | regenerate clusterID fails =>
    obtain ⟨members, servers⟩ := regenerate_keeps n clusterID fails
    have same : Placed ((regeneratePeers clusterID fails).out n) ↔ Placed n :=
      placed_congr servers fun k => by rw [members]
    exact iff_of_true (same.mpr placed) trivial

/-- **The two records agree throughout a run of calls exactly if every call is faithful.** -/
theorem recorded_iff (calls : List Call) (n : Network) (sound : Sound n) (placed : Placed n) :
    (∀ earlier, earlier <+: calls → Recorded (earlier.foldl serve n)) ↔
      Runs.Along serve Faithful n calls := by
  refine Runs.along_iff_throughout (J := Sound) sound_serve (fun n call sound recorded => ?_)
    sound ⟨placed, sound.peered⟩ calls
  rw [← placed_serve_iff sound recorded.placed call]
  exact ⟨Recorded.placed, fun after => ⟨after, (sound_serve n call sound).peered⟩⟩

/-- Two clusters of a team, and a server in neither. -/
def twoClusters : Network where
  clusters := ⟨[{ id := 1, teamID := 9, cidr := ⟨0x0a640000, 16⟩ },
    { id := 2, teamID := 9, cidr := ⟨0x0a650000, 16⟩ }], by decide⟩
  servers := ⟨[{ id := 5, teamID := 9 }], by decide⟩

theorem sound_twoClusters : Sound twoClusters where
  referential := nofun
  peered := nofun

theorem placed_twoClusters : Placed twoClusters := by
  refine (placed_iff _).mpr fun s mem => ?_
  obtain rfl := List.mem_singleton.mp mem
  rfl

/-- The member of cluster 1 is removed from cluster 2: the row stays, `cluster_id` goes. -/
theorem removed_from_another_cluster :
    let calls : List Call := [.addMember ⟨1, 5, 9⟩ 7 {}, .removeMember 2 5 {}]
    ((calls.foldl serve twoClusters).servers.rows.map fun s => (s.id, s.clusterID)) = [(5, none)] ∧
      ((calls.foldl serve twoClusters).members.rows.map fun m => (m.serverID, m.clusterID)) =
        [(5, 1)] ∧
      ¬ Recorded (calls.foldl serve twoClusters) := by
  intro calls
  have row : (calls.foldl serve twoClusters).servers.rows.map (fun s => (s.id, s.clusterID)) =
      [(5, none)] := by decide +kernel
  have member : ((calls.foldl serve twoClusters).members.find? 5).map MemberRow.clusterID =
      some 1 := by decide +kernel
  refine ⟨row, by decide +kernel, fun recorded => ?_⟩
  have mem : ((5, none) : UUID × Option UUID) ∈
      (calls.foldl serve twoClusters).servers.rows.map (fun s => (s.id, s.clusterID)) := by
    rw [row]
    exact List.mem_singleton_self _
  obtain ⟨s, inside, own⟩ := List.mem_map.mp mem
  obtain ⟨id, cluster⟩ := Prod.mk.inj own
  have same := (placed_iff _).mp recorded.placed s inside
  rw [id, cluster, member] at same
  cases same

/-- Joining, leaving and joining the other cluster. -/
theorem moved_between_clusters :
    Recorded ([Call.addMember ⟨1, 5, 9⟩ 7 {}, .removeMember 1 5 {},
      .addMember ⟨2, 5, 9⟩ 8 {}].foldl serve twoClusters) := by
  refine (recorded_iff [.addMember ⟨1, 5, 9⟩ 7 {}, .removeMember 1 5 {}, .addMember ⟨2, 5, 9⟩ 8 {}]
    twoClusters sound_twoClusters placed_twoClusters).mpr
    ⟨fun _ => rfl, fun _ _ m here => iff_of_true rfl ?_, fun _ => rfl, trivial⟩ _ List.prefix_rfl
  have member : ((serve twoClusters (.addMember ⟨1, 5, 9⟩ 7 {})).members.find? 5).map
      MemberRow.clusterID = some 1 := by decide +kernel
  rw [Option.mem_def.mp here, Option.map_some] at member
  exact Option.some.inj member

end Nixway.Cluster
