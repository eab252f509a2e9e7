/-
# Cluster.Converges -- when the mesh converges

Regenerations run side by side, and each pushes from the snapshot it has read: one that was
overtaken sends an agent an older configuration behind a newer one, and nothing corrects it
(`overtaken_push`).

`InOrder` is the condition on a step, `Answers` the one on a key result.  `mesh_converges`
says that along every run that meets them the mesh has converged in every quiescent state.
What a snapshot or a command says is true of the cluster as of its stamp (`Carried`), and
every duty that a change leaves behind is done or owed by a handler (`Duty`).
-/
import Nixway.Cluster.Mesh

namespace Nixway.Cluster.Mesh

open Nixway.Theory Nixway.Store

set_option autoImplicit false

/-! ## What a regeneration reads of the tables -/

/-- A server without the column that the statements here change. -/
def unplaced (s : ServerRow) : ServerRow := { s with clusterID := none }

/-- The same servers, but for their clusters. -/
def SameServers (n n' : Network) : Prop :=
  ∀ id, (n'.servers.find? id).map unplaced = (n.servers.find? id).map unplaced

theorem SameServers.refl (n : Network) : SameServers n n := fun _ => rfl

theorem SameServers.setCluster (n : Network) (id : UUID) (c : Option UUID) :
    SameServers n { n with servers := n.servers.update id fun s => { s with clusterID := c } } := by
  intro k
  rw [Table.find?_update]
  split
  · rw [Option.map_map]
    rfl
  · rfl

theorem SameServers.map_eq {n n' : Network} {α : Type} (same : SameServers n n') (id : UUID)
    (f : ServerRow → α) (blind : ∀ s, f (unplaced s) = f s) :
    (n'.servers.find? id).map f = (n.servers.find? id).map f := by
  have through : f ∘ unplaced = f := funext blind
  rw [← through, ← Option.map_map, ← Option.map_map, same id]

theorem agentOf_eq_map (n : Network) (serverID : UUID) :
    agentOf n serverID = ((n.servers.find? serverID).map ServerRow.agentID).join := by
  unfold agentOf
  cases n.servers.find? serverID <;> rfl

theorem SameServers.agentOf {n n' : Network} (same : SameServers n n') (serverID : UUID) :
    agentOf n' serverID = agentOf n serverID := by
  rw [agentOf_eq_map, agentOf_eq_map, same.map_eq serverID _ fun _ => rfl]

theorem memberInfos_eq (n : Network) (clusterID : UUID) :
    memberInfos n clusterID = (n.members.rows.filter fun m => m.clusterID = clusterID).filterMap
      fun m => (n.servers.find? m.serverID).map (MemberInfo.of m) := by
  unfold memberInfos Network.getClusterMembersForMesh
  rw [List.map_filterMap]
  refine List.filterMap_congr fun m _ => ?_
  rw [Option.map_map]
  rfl

theorem SameServers.memberInfos {n n' : Network} (same : SameServers n n') {clusterID : UUID}
    (rows : (n'.members.rows.filter fun m => m.clusterID = clusterID) =
      n.members.rows.filter fun m => m.clusterID = clusterID) :
    memberInfos n' clusterID = memberInfos n clusterID := by
  rw [memberInfos_eq, memberInfos_eq, rows]
  refine List.filterMap_congr fun m _ => ?_
  exact same.map_eq m.serverID _ fun _ => rfl

theorem mem_memberInfos {n : Network} {clusterID : UUID} {i : MemberInfo} :
    i ∈ memberInfos n clusterID ↔ ∃ m ∈ n.members.rows, m.clusterID = clusterID ∧
      ∃ s, n.servers.find? m.serverID = some s ∧ i = .of m s := by
  rw [memberInfos_eq, List.mem_filterMap]
  constructor
  · rintro ⟨m, inside, row⟩
    obtain ⟨member, own⟩ := List.mem_filter.mp inside
    obtain ⟨s, found, same⟩ := Option.map_eq_some_iff.mp row
    exact ⟨m, member, of_decide_eq_true own, s, found, same.symm⟩
  · rintro ⟨m, member, own, s, found, rfl⟩
    exact ⟨m, List.mem_filter.mpr ⟨member, decide_eq_true own⟩, by rw [found, Option.map_some]⟩

/-! ## Time -/

/-- The row of the same insertion: its key may have changed. -/
structure SameSeat (m m' : MemberRow) : Prop where
  id : m'.id = m.id
  server : m'.serverID = m.serverID
  cluster : m'.clusterID = m.clusterID
  address : m'.wireguardIp = m.wireguardIp
  joined : m'.joined = m.joined

theorem SameSeat.refl (m : MemberRow) : SameSeat m m := ⟨rfl, rfl, rfl, rfl, rfl⟩

/-- What the statements change of the members, with their stamps. -/
structure Later (w w' : World) : Prop where
  servers : SameServers w.net w'.net
  stamp : w.net.stamp ≤ w'.net.stamp
  changed : ∀ c, (w'.net.changed c = w.net.changed c ∧
    memberInfos w'.net c = memberInfos w.net c) ∨ w.net.stamp < w'.net.changed c
  left : ∀ s, w.left s ≤ w'.left s
  stays : ∀ m ∈ w.net.members.rows, (∃ m' ∈ w'.net.members.rows, SameSeat m m') ∨
    w.net.stamp < w'.left m.serverID
  joins : ∀ m' ∈ w'.net.members.rows, (∃ m ∈ w.net.members.rows, SameSeat m m') ∨
    w.net.stamp < m'.joined

theorem Later.of_members {w w' : World} (servers : SameServers w.net w'.net)
    (members : w'.net.members = w.net.members) (stamp : w'.net.stamp = w.net.stamp)
    (changed : w'.net.changed = w.net.changed) (left : w'.left = w.left) : Later w w' where
  servers := servers
  stamp := stamp.ge
  changed c := .inl ⟨congrFun changed c, servers.memberInfos (by rw [members])⟩
  left s := (congrFun left s).ge
  stays m mem := .inl ⟨m, members ▸ mem, .refl m⟩
  joins m mem := .inl ⟨m, members ▸ mem, .refl m⟩

theorem Later.refl (w : World) : Later w w := .of_members (.refl _) rfl rfl rfl rfl

theorem changed_mark {n : Network} {clusterID : UUID} {members : Table MemberRow}
    (others : ∀ c, c ≠ clusterID → (members.rows.filter fun m => m.clusterID = c) =
      n.members.rows.filter fun m => m.clusterID = c) (c : UUID) :
    ((n.mark clusterID members).changed c = n.changed c ∧
      memberInfos (n.mark clusterID members) c = memberInfos n c) ∨
      n.stamp < (n.mark clusterID members).changed c := by
  by_cases own : c = clusterID
  · have stamped : (n.mark clusterID members).changed c = n.stamp + 1 := by
      rw [own]
      exact Function.update_self ..
    exact .inr (by omega)
  · exact .inl ⟨Function.update_of_ne own _ _,
      @SameServers.memberInfos n (n.mark clusterID members) (.refl n) c (others c own)⟩

theorem le_changed_update {n : Network} (bound : ∀ c, n.changed c ≤ n.stamp) (clusterID c : UUID) :
    n.changed c ≤ Function.update n.changed clusterID (n.stamp + 1) c := by
  by_cases own : c = clusterID
  · rw [own, Function.update_self]
    exact (bound _).trans (Nat.le_succ _)
  · rw [Function.update_of_ne own]

theorem changed_update_le {n : Network} (bound : ∀ c, n.changed c ≤ n.stamp) (clusterID c : UUID) :
    Function.update n.changed clusterID (n.stamp + 1) c ≤ n.stamp + 1 := by
  by_cases own : c = clusterID
  · rw [own, Function.update_self]
  · rw [Function.update_of_ne own]
    exact (bound c).trans (Nat.le_succ _)

/-- What an insertion does, and what the constraints have made sure of. -/
structure Created (n n' : Network) (member : MemberRow) : Prop where
  rows : n'.members.rows = { member with joined := n.stamp + 1 } :: n.members.rows
  fresh : ∀ m ∈ n.members.rows, m.serverID ≠ member.serverID ∧ m.id ≠ member.id ∧
    ¬ (m.clusterID = member.clusterID ∧ m.wireguardIp = member.wireguardIp)
  server : (n.servers.find? member.serverID).isSome
  servers : n'.servers = n.servers
  peers : n'.peers = n.peers
  stamp : n'.stamp = n.stamp + 1
  changed : n'.changed = Function.update n.changed member.clusterID (n.stamp + 1)

theorem created_of_create {n n' : Network} {member : MemberRow}
    (created : n.createClusterMember member = some n') : Created n n' member := by
  unfold Network.createClusterMember at created
  split at created
  · next admitted =>
    obtain ⟨members, inserted, rfl⟩ := Option.map_eq_some_iff.mp created
    obtain ⟨free, rows⟩ := Table.insert?_eq_some_iff.mp inserted
    refine ⟨rows, fun m mem => ?_, admitted.2.1, rfl, rfl, rfl, rfl⟩
    obtain ⟨id, address⟩ := of_decide_eq_true (List.all_eq_true.mp admitted.2.2 m mem)
    exact ⟨free m mem, id, address⟩
  · cases created

theorem Later.create {w : World} {n : Network} {member : MemberRow}
    (created : w.net.createClusterMember member = some n) : Later w { w with net := n } := by
  have new := created_of_create created
  have servers : SameServers w.net n := fun id => by rw [new.servers]
  refine ⟨servers, new.stamp.ge.trans' (Nat.le_succ _), fun c => ?_, fun _ => le_rfl,
    fun m mem => .inl ⟨m, ?_, .refl m⟩, fun m mem => ?_⟩
  · by_cases own : c = member.clusterID
    · refine .inr ?_
      change w.net.stamp < n.changed c
      rw [new.changed, own, Function.update_self]
      exact Nat.lt_succ_self _
    · refine .inl ⟨?_, servers.memberInfos ?_⟩
      · change n.changed c = w.net.changed c
        rw [new.changed, Function.update_of_ne own]
      · rw [new.rows, List.filter_cons, if_neg]
        exact fun same => own (of_decide_eq_true same).symm
  · change m ∈ n.members.rows
    rw [new.rows]
    exact List.mem_cons_of_mem _ mem
  · have mem : m ∈ n.members.rows := mem
    rw [new.rows] at mem
    rcases List.mem_cons.mp mem with rfl | old
    · exact .inr (Nat.lt_succ_self _)
    · exact .inl ⟨m, old, .refl m⟩

theorem other_server {n : Network} {m : MemberRow} {c : UUID} (mem : m ∈ n.members.rows)
    (other : c ≠ m.clusterID) {r : MemberRow}
    (inside : r ∈ n.members.rows.filter fun r => r.clusterID = c) : r.serverID ≠ m.serverID := by
  intro same
  obtain ⟨there, own⟩ := List.mem_filter.mp inside
  rw [Table.eq_of_key_eq there mem same] at own
  exact other (of_decide_eq_true own).symm

theorem seat_rekeyed (serverID : UUID) (key : String) (old : MemberRow) : SameSeat old
    (if Keyed.key old = serverID then { old with wireguardPublicKey := key } else old) := by
  split <;> exact ⟨rfl, rfl, rfl, rfl, rfl⟩

theorem Later.updateKey (w : World) (memberID : UUID) (key : String) :
    Later w { w with net := w.net.updateClusterMemberPublicKey memberID key } := by
  unfold Network.updateClusterMemberPublicKey
  split
  · exact .refl w
  · next m found =>
    have mem : m ∈ w.net.members.rows := List.mem_of_find?_eq_some found
    have keeps : ∀ r : MemberRow, Keyed.key { r with wireguardPublicKey := key } = Keyed.key r :=
      fun _ => rfl
    have seat := seat_rekeyed m.serverID key
    refine ⟨.refl _, Nat.le_succ _, changed_mark fun c other => ?_, fun _ => le_rfl,
      fun r old => .inl ⟨_, (Table.mem_update keeps).mpr ⟨r, old, rfl⟩, seat r⟩, fun r new => ?_⟩
    · rw [Table.update, Table.updateWhere, List.filter_map, List.filter_congr (q := fun r =>
        r.clusterID = c) fun r _ => ?_]
      · refine (List.map_congr_left fun r inside => ?_).trans (List.map_id _)
        exact if_neg fun own => other_server mem other inside (of_decide_eq_true own)
      · simp only [Function.comp_apply]
        split <;> rfl
    · obtain ⟨old, here, rfl⟩ := (Table.mem_update keeps).mp new
      exact .inl ⟨old, here, seat old⟩

def World.without (w : World) (m : MemberRow) : World :=
  { w with
    net := { w.net.mark m.clusterID (w.net.members.deleteWhere fun other =>
        other.serverID = m.serverID) with
      peers := w.net.peers.deleteWhere fun p => p.memberID = m.id || p.peerMemberID = m.id }
    left := Function.update w.left m.serverID (w.net.stamp + 1) }

/-- The deletion finds the server's member in the cluster, or changes nothing. -/
theorem deleteMember_cases (w : World) (clusterID serverID : UUID) :
    ((∀ m ∈ w.net.members.rows, m.serverID = serverID → m.clusterID ≠ clusterID) ∧
        w.deleteMember clusterID serverID = w) ∨
      ∃ m ∈ w.net.members.rows, m.serverID = serverID ∧ m.clusterID = clusterID ∧
        w.deleteMember clusterID serverID = w.without m := by
  unfold World.deleteMember
  obtain ⟨others, same⟩ | ⟨m, here, mine, deleted⟩ :=
    deleteClusterMember_cases w.net clusterID serverID
  · refine .inl ⟨fun m mem server => others m ?_, ?_⟩
    · exact server ▸ Table.find?_self mem
    · rw [same, if_neg]
      rintro found
      obtain ⟨m, here, own⟩ := (Option.any_eq_true _ _).mp found
      exact others m here (of_decide_eq_true own)
  · have here : w.net.members.find? serverID = some m := here
    have server : m.serverID = serverID := Table.key_of_find? here
    refine .inr ⟨m, Table.mem_of_find? here, server, mine, ?_⟩
    rw [deleted, here, Option.any_some, if_pos (decide_eq_true mine), ← server, ← mine]
    rfl

theorem mem_without {w : World} {m r : MemberRow} :
    r ∈ (w.without m).net.members.rows ↔ r ∈ w.net.members.rows ∧ r.serverID ≠ m.serverID := by
  refine Table.mem_deleteWhere.trans (and_congr_right fun _ => ?_)
  exact decide_eq_false_iff_not

theorem Later.without {w : World} {m : MemberRow} (mem : m ∈ w.net.members.rows)
    (bound : w.left m.serverID ≤ w.net.stamp) : Later w (w.without m) := by
  refine ⟨.refl _, Nat.le_succ _, fun c => changed_mark (fun c other => ?_) c, fun s => ?_,
    fun r old => ?_, fun r new => .inl ⟨r, (mem_without.mp new).1, .refl r⟩⟩
  · change (w.net.members.rows.filter fun r => !decide (r.serverID = m.serverID)).filter
      (fun r => decide (r.clusterID = c)) = _
    rw [List.filter_filter]
    refine List.filter_congr fun r there => ?_
    by_cases own : r.clusterID = c
    · have apart : r.serverID ≠ m.serverID :=
        other_server mem other (List.mem_filter.mpr ⟨there, decide_eq_true own⟩)
      rw [decide_eq_true own, decide_eq_false apart]
      rfl
    · rw [decide_eq_false own, Bool.false_and]
  · change w.left s ≤ Function.update w.left m.serverID (w.net.stamp + 1) s
    by_cases own : s = m.serverID
    · rw [own, Function.update_self]
      exact bound.trans (Nat.le_succ _)
    · rw [Function.update_of_ne own]
  · by_cases own : r.serverID = m.serverID
    · refine .inr ?_
      change w.net.stamp < Function.update w.left m.serverID (w.net.stamp + 1) r.serverID
      rw [own, Function.update_self]
      exact Nat.lt_succ_self _
    · exact .inl ⟨r, mem_without.mpr ⟨old, own⟩, .refl r⟩

/-! ## What the tables keep -/

/-- Every server has an agent, and one of its own. -/
structure Linked (n : Network) : Prop where
  connected : ∀ id, (n.servers.find? id).isSome → ∃ agentID, agentOf n id = some agentID ∧
    agentID ≠ ""
  own : ∀ id id' agentID, agentOf n id = some agentID → agentOf n id' = some agentID → id = id'

theorem SameServers.isSome {n n' : Network} (same : SameServers n n') (id : UUID) :
    (n'.servers.find? id).isSome = (n.servers.find? id).isSome := by
  rw [← Option.isSome_map (f := unplaced), same id, Option.isSome_map]

theorem Linked.congr {n n' : Network} (linked : Linked n) (same : SameServers n n') :
    Linked n' where
  connected id found := by
    rw [same.agentOf]
    exact linked.connected id (same.isSome id ▸ found)
  own id id' agentID first second :=
    linked.own id id' agentID (same.agentOf id ▸ first) (same.agentOf id' ▸ second)

/-- The ends of a peer row are members. -/
def Ended (n : Network) : Prop :=
  ∀ p ∈ n.peers.rows, (∃ m ∈ n.members.rows, m.id = p.memberID) ∧
    ∃ m ∈ n.members.rows, m.id = p.peerMemberID

structure Kept (w : World) : Prop where
  linked : Linked w.net
  referential : Referential w.net
  ids : ∀ m ∈ w.net.members.rows, ∀ m' ∈ w.net.members.rows, m.id = m'.id → m = m'
  addresses : ∀ m ∈ w.net.members.rows, ∀ m' ∈ w.net.members.rows,
    m.clusterID = m'.clusterID → m.wireguardIp = m'.wireguardIp → m = m'
  joined : ∀ m ∈ w.net.members.rows, w.left m.serverID < m.joined ∧
    m.joined ≤ w.net.changed m.clusterID
  changed : ∀ c, w.net.changed c ≤ w.net.stamp
  left : ∀ s, w.left s ≤ w.net.stamp
  peers : Ended w.net

namespace Kept

variable {w : World}

theorem of_members (kept : Kept w) {w' : World} (servers : SameServers w.net w'.net)
    (members : w'.net.members = w.net.members) (stamp : w'.net.stamp = w.net.stamp)
    (changed : w'.net.changed = w.net.changed) (left : w'.left = w.left)
    (peers : Ended w'.net) : Kept w' where
  linked := kept.linked.congr servers
  referential m mem := (servers.isSome _).trans (kept.referential m (members ▸ mem))
  ids := by rw [members]; exact kept.ids
  addresses := by rw [members]; exact kept.addresses
  joined := by rw [members, changed, left]; exact kept.joined
  changed := by rw [changed, stamp]; exact kept.changed
  left := by rw [left, stamp]; exact kept.left
  peers := peers

theorem setCluster (kept : Kept w) (id : UUID) (c : Option UUID) :
    Kept { w with net := { w.net with
      servers := w.net.servers.update id fun s => { s with clusterID := c } } } :=
  kept.of_members (.setCluster w.net id c) rfl rfl rfl rfl kept.peers

theorem deletePeers (kept : Kept w) (memberID : UUID) :
    Kept { w with net := w.net.deletePeersByMember memberID } :=
  kept.of_members (.refl _) rfl rfl rfl rfl fun p mem =>
    kept.peers p (Table.mem_deleteWhere.mp mem).1

theorem upsertPeer (kept : Kept w) (memberID peerMemberID : UUID) (status : Intake.PeerStatus) :
    Kept { w with net := w.net.upsertWireGuardPeer memberID peerMemberID status } := by
  unfold Network.upsertWireGuardPeer
  split
  · next known =>
    have found : ∀ id, (w.net.getClusterMemberByID id).isSome →
        ∃ m ∈ w.net.members.rows, m.id = id := by
      intro id there
      obtain ⟨m, here⟩ := Option.isSome_iff_exists.mp there
      have same := List.find?_some here
      exact ⟨m, List.mem_of_find?_eq_some here, of_decide_eq_true same⟩
    refine kept.of_members (.refl _) rfl rfl rfl rfl fun p mem => ?_
    by_cases new : Keyed.key p = (memberID, peerMemberID)
    · obtain ⟨first, second⟩ := Prod.mk.inj new
      rw [first, second]
      exact ⟨found _ known.1, found _ known.2⟩
    · have here := (Table.find?_upsert_ne new).symm.trans (Table.find?_self mem)
      exact kept.peers p (Table.mem_of_find? here)
  · exact kept

theorem create (kept : Kept w) {n : Network} {member : MemberRow}
    (created : w.net.createClusterMember member = some n) : Kept { w with net := n } := by
  have new := created_of_create created
  have rows : ∀ {m : MemberRow}, m ∈ n.members.rows →
      m = { member with joined := w.net.stamp + 1 } ∨ m ∈ w.net.members.rows := by
    intro m mem
    rw [new.rows] at mem
    exact List.mem_cons.mp mem
  have servers : SameServers w.net n := fun id => by rw [new.servers]
  have grows : ∀ c, w.net.changed c ≤ n.changed c := by
    intro c
    rw [new.changed]
    exact le_changed_update kept.changed member.clusterID c
  have old : ∀ {m : MemberRow}, m ∈ w.net.members.rows → m ∈ n.members.rows := by
    intro m mem
    rw [new.rows]
    exact List.mem_cons_of_mem _ mem
  refine ⟨kept.linked.congr servers, fun m mem => ?_, fun m mem m' mem' same => ?_,
    fun m mem m' mem' cluster address => ?_, fun m mem => ?_, fun c => ?_, fun s => ?_,
    fun p mem => ?_⟩
  · refine (servers.isSome _).trans ?_
    rcases rows mem with rfl | there
    · exact new.server
    · exact kept.referential m there
  · rcases rows mem with rfl | there <;> rcases rows mem' with rfl | there'
    · rfl
    · exact absurd same.symm (new.fresh m' there').2.1
    · exact absurd same (new.fresh m there).2.1
    · exact kept.ids m there m' there' same
  · rcases rows mem with rfl | there <;> rcases rows mem' with rfl | there'
    · rfl
    · exact absurd ⟨cluster.symm, address.symm⟩ (new.fresh m' there').2.2
    · exact absurd ⟨cluster, address⟩ (new.fresh m there).2.2
    · exact kept.addresses m there m' there' cluster address
  · rcases rows mem with rfl | there
    · refine ⟨Nat.lt_succ_of_le (kept.left _), ?_⟩
      change w.net.stamp + 1 ≤ n.changed member.clusterID
      rw [new.changed, Function.update_self]
    · obtain ⟨before, by_⟩ := kept.joined m there
      exact ⟨before, by_.trans (grows _)⟩
  · change n.changed c ≤ n.stamp
    rw [new.changed, new.stamp]
    exact changed_update_le kept.changed member.clusterID c
  · exact (kept.left s).trans (new.stamp.ge.trans' (Nat.le_succ _))
  · have mem : p ∈ n.peers.rows := mem
    rw [new.peers] at mem
    obtain ⟨⟨a, inA, first⟩, b, inB, second⟩ := kept.peers p mem
    exact ⟨⟨a, old inA, first⟩, b, old inB, second⟩

theorem updateKey (kept : Kept w) (memberID : UUID) (key : String) :
    Kept { w with net := w.net.updateClusterMemberPublicKey memberID key } := by
  unfold Network.updateClusterMemberPublicKey
  split
  · exact kept
  · next m found =>
    have keeps : ∀ r : MemberRow, Keyed.key { r with wireguardPublicKey := key } = Keyed.key r :=
      fun _ => rfl
    have rows := @Table.mem_update MemberRow UUID _ _ w.net.members _ keeps m.serverID
    refine ⟨kept.linked.congr fun _ => rfl, fun r mem => ?_, fun r mem r' mem' same => ?_,
      fun r mem r' mem' cluster address => ?_, fun r mem => ?_, fun c => ?_,
      fun s => (kept.left s).trans (Nat.le_succ _), fun p mem => ?_⟩
    · obtain ⟨old, there, rfl⟩ := rows.mp mem
      rw [(seat_rekeyed m.serverID key old).server]
      exact kept.referential old there
    · obtain ⟨old, there, rfl⟩ := rows.mp mem
      obtain ⟨old', there', rfl⟩ := rows.mp mem'
      rw [(seat_rekeyed m.serverID key old).id, (seat_rekeyed m.serverID key old').id] at same
      rw [kept.ids old there old' there' same]
    · obtain ⟨old, there, rfl⟩ := rows.mp mem
      obtain ⟨old', there', rfl⟩ := rows.mp mem'
      have seat := seat_rekeyed m.serverID key old
      have seat' := seat_rekeyed m.serverID key old'
      rw [seat.cluster, seat'.cluster] at cluster
      rw [seat.address, seat'.address] at address
      rw [kept.addresses old there old' there' cluster address]
    · obtain ⟨old, there, rfl⟩ := rows.mp mem
      have seat := seat_rekeyed m.serverID key old
      obtain ⟨before, by_⟩ := kept.joined old there
      rw [seat.server, seat.joined, seat.cluster]
      exact ⟨before, by_.trans (le_changed_update kept.changed _ _)⟩
    · exact changed_update_le kept.changed _ c
    · have stays : ∀ {id : UUID}, (∃ r ∈ w.net.members.rows, r.id = id) →
          ∃ r ∈ (w.net.members.update m.serverID fun r =>
            { r with wireguardPublicKey := key }).rows, r.id = id := by
        rintro id ⟨r, there, own⟩
        exact ⟨_, rows.mpr ⟨r, there, rfl⟩, (seat_rekeyed m.serverID key r).id.trans own⟩
      obtain ⟨first, second⟩ := kept.peers p mem
      exact ⟨stays first, stays second⟩

theorem without (kept : Kept w) {m : MemberRow} (mem : m ∈ w.net.members.rows) :
    Kept (w.without m) := by
  have old : ∀ {r : MemberRow}, r ∈ (w.without m).net.members.rows → r ∈ w.net.members.rows :=
    fun there => (mem_without.mp there).1
  refine ⟨kept.linked.congr fun _ => rfl, fun r there => kept.referential r (old there),
    fun r there r' there' => kept.ids r (old there) r' (old there'),
    fun r there r' there' => kept.addresses r (old there) r' (old there'), fun r there => ?_,
    fun c => changed_update_le kept.changed _ c, fun s => ?_, fun p there => ?_⟩
  · obtain ⟨before, by_⟩ := kept.joined r (old there)
    refine ⟨?_, by_.trans (le_changed_update kept.changed _ _)⟩
    change Function.update w.left m.serverID (w.net.stamp + 1) r.serverID < r.joined
    rwa [Function.update_of_ne (mem_without.mp there).2]
  · change Function.update w.left m.serverID (w.net.stamp + 1) s ≤ w.net.stamp + 1
    by_cases own : s = m.serverID
    · rw [own, Function.update_self]
    · rw [Function.update_of_ne own]
      exact (kept.left s).trans (Nat.le_succ _)
  · obtain ⟨there, apart⟩ := Table.mem_deleteWhere.mp there
    simp only [Bool.or_eq_false_iff, decide_eq_false_iff_not] at apart
    -- a row with another id is not the one of the server
    have stays : ∀ {id : UUID}, id ≠ m.id → (∃ r ∈ w.net.members.rows, r.id = id) →
        ∃ r ∈ (w.without m).net.members.rows, r.id = id := by
      rintro id other ⟨r, inside, rfl⟩
      refine ⟨r, mem_without.mpr ⟨inside, fun same => other ?_⟩, rfl⟩
      rw [Table.eq_of_key_eq inside mem same]
    obtain ⟨first, second⟩ := kept.peers p there
    exact ⟨stays apart.1 first, stays apart.2 second⟩

theorem deleteMember (kept : Kept w) (clusterID serverID : UUID) :
    Kept (w.deleteMember clusterID serverID) := by
  obtain ⟨-, same⟩ | ⟨m, mem, -, -, same⟩ := deleteMember_cases w clusterID serverID
  · rw [same]
    exact kept
  · rw [same]
    exact kept.without mem

end Kept

/-! ## What snapshots and commands say -/

/-- Members read when the cluster was last changed at `base`: they are the members still if
nothing has changed since, and each has its seat still unless it has left since. -/
structure Carried (w : World) (clusterID : UUID) (base : Nat) (members : List MemberInfo) :
    Prop where
  past : base ≤ w.net.changed clusterID
  current : base = w.net.changed clusterID → members = memberInfos w.net clusterID
  agents : ∀ i ∈ members, agentOf w.net i.serverID = some i.agentID ∧ i.agentID ≠ ""
  seats : ∀ i ∈ members, base < w.left i.serverID ∨ ∃ m ∈ w.net.members.rows,
    m.serverID = i.serverID ∧ m.clusterID = clusterID ∧ m.joined ≤ base

/-- A server without a member at the stamp: one that it has now has joined since. -/
structure Gone (w : World) (serverID : UUID) (base : Nat) : Prop where
  past : base ≤ w.net.stamp
  since : ∀ m ∈ w.net.members.rows, m.serverID = serverID → base < m.joined

theorem Carried.read {w : World} (kept : Kept w) (clusterID : UUID) :
    Carried w clusterID (w.net.changed clusterID) (memberInfos w.net clusterID) where
  past := le_rfl
  current _ := rfl
  agents i mem := by
    obtain ⟨m, member, -, s, found, rfl⟩ := mem_memberInfos.mp mem
    obtain ⟨agentID, known, filled⟩ :=
      kept.linked.connected m.serverID (Option.isSome_iff_exists.mpr ⟨s, found⟩)
    have linked : s.agentID = some agentID := by
      rwa [agentOf, found, Option.bind_some] at known
    rw [MemberInfo.of, linked]
    exact ⟨known, filled⟩
  seats i mem := by
    obtain ⟨m, member, own, s, -, rfl⟩ := mem_memberInfos.mp mem
    exact .inr ⟨m, member, rfl, own, own ▸ (kept.joined m member).2⟩

theorem Carried.later {w w' : World} {clusterID : UUID} {base : Nat} {members : List MemberInfo}
    (carried : Carried w clusterID base members) (kept : Kept w) (later : Later w w') :
    Carried w' clusterID base members := by
  have early : base ≤ w.net.stamp := carried.past.trans (kept.changed clusterID)
  refine ⟨?_, fun now => ?_, fun i mem => ?_, fun i mem => ?_⟩
  · rcases later.changed clusterID with ⟨same, -⟩ | newer
    · exact same ▸ carried.past
    · exact early.trans newer.le
  · rcases later.changed clusterID with ⟨same, infos⟩ | newer
    · rw [infos]
      exact carried.current (now.trans same)
    · exact absurd now (early.trans_lt newer).ne
  · rw [later.servers.agentOf]
    exact carried.agents i mem
  · rcases carried.seats i mem with gone | ⟨m, member, server, cluster, joined⟩
    · exact .inl (gone.trans_le (later.left _))
    · rcases later.stays m member with ⟨m', member', seat⟩ | gone
      · exact .inr ⟨m', member', seat.server.trans server, seat.cluster.trans cluster,
          seat.joined.trans_le joined⟩
      · exact .inl (server ▸ early.trans_lt gone)

theorem Gone.later {w w' : World} {serverID : UUID} {base : Nat} (gone : Gone w serverID base)
    (later : Later w w') : Gone w' serverID base where
  past := gone.past.trans later.stamp
  since m' mem' server := by
    rcases later.joins m' mem' with ⟨m, mem, seat⟩ | newer
    · exact seat.joined ▸ gone.since m mem (seat.server.symm.trans server)
    · exact gone.past.trans_lt newer

/-- What a command says was so at its stamp. -/
def Sent.Holds (w : World) (e : Sent) : Prop :=
  match e.command with
  | .keyGen .. => True
  | .apply _ config _ => ∃ members, Carried w e.clusterID e.base members ∧
      ∃ self ∈ members, self.agentID = e.agentID ∧ config = generateConfig self members
  | .teardown _ => ∃ serverID, agentOf w.net serverID = some e.agentID ∧ Gone w serverID e.base

theorem Sent.Holds.later {w w' : World} {e : Sent} (holds : e.Holds w) (kept : Kept w)
    (later : Later w w') : e.Holds w' := by
  unfold Sent.Holds at holds ⊢
  split
  · trivial
  · next sent =>
    rw [sent] at holds
    obtain ⟨members, carried, self⟩ := holds
    exact ⟨members, carried.later kept later, self⟩
  · next sent =>
    rw [sent] at holds
    obtain ⟨serverID, agent, gone⟩ := holds
    exact ⟨serverID, (later.servers.agentOf serverID).trans agent, gone.later later⟩

/-- What a handler relies on. -/
def Own (w : World) : Handler → Prop
  | .checkMember req _ _ _ | .listIPs req _ _ _ | .updateServer req _ | .findAgent req _ =>
    ((w.net.getServerByID req.serverID req.teamID).bind ServerRow.agentID).isSome
  | .createMember req member =>
    ((w.net.getServerByID req.serverID req.teamID).bind ServerRow.agentID).isSome ∧
      member.wireguardPublicKey = ""
  | .loadMember r agentID | .getMember r agentID _ | .deletePeers r agentID _ _
  | .deleteMember r agentID _ => ∀ x ∈ agentID, agentOf w.net r.serverID = some x
  | .clearServer r agentID _ base | .teardownMember r agentID _ base =>
    ∀ x ∈ agentID, agentOf w.net r.serverID = some x ∧ Gone w r.serverID base
  | .ensurePeers clusterID base members _ => Carried w clusterID base members
  | .push clusterID base members rest =>
    Carried w clusterID base members ∧ ∀ i ∈ rest, i ∈ members
  | _ => True

theorem getServer_eq {w w' : World} (same : SameServers w.net w'.net) (id teamID : UUID) :
    (w'.net.getServerByID id teamID).bind ServerRow.agentID =
      (w.net.getServerByID id teamID).bind ServerRow.agentID := by
  have through : ∀ n : Network, (n.getServerByID id teamID).bind ServerRow.agentID =
      ((n.servers.find? id).map fun s => if s.teamID = teamID then s.agentID else none).join := by
    intro n
    unfold Network.getServerByID
    cases n.servers.find? id with
    | none => rfl
    | some s =>
      rw [Option.filter_some, Option.map_some, Option.join_some]
      by_cases mine : s.teamID = teamID
      · rw [if_pos (decide_eq_true mine), if_pos mine]
        rfl
      · rw [if_neg (by simpa using mine), if_neg mine]
        rfl
  rw [through, through, same.map_eq id _ fun _ => rfl]

theorem Own.later {w w' : World} {k : Handler} (own : Own w k) (kept : Kept w)
    (later : Later w w') : Own w' k := by
  have agents := later.servers.agentOf
  cases k with
  | checkMember req id cluster srv => exact (congrArg _ (getServer_eq later.servers _ _)).trans own
  | listIPs req id cluster srv => exact (congrArg _ (getServer_eq later.servers _ _)).trans own
  | createMember req member =>
    exact ⟨(congrArg _ (getServer_eq later.servers _ _)).trans own.1, own.2⟩
  | updateServer req member => exact (congrArg _ (getServer_eq later.servers _ _)).trans own
  | findAgent req member => exact (congrArg _ (getServer_eq later.servers _ _)).trans own
  | loadMember r agentID => exact fun x mem => (agents _).trans (own x mem)
  | getMember r agentID memberID => exact fun x mem => (agents _).trans (own x mem)
  | deletePeers r agentID memberID row => exact fun x mem => (agents _).trans (own x mem)
  | deleteMember r agentID memberID => exact fun x mem => (agents _).trans (own x mem)
  | clearServer r agentID memberID base =>
    exact fun x mem => ⟨(agents _).trans (own x mem).1, (own x mem).2.later later⟩
  | teardownMember r agentID memberID base =>
    exact fun x mem => ⟨(agents _).trans (own x mem).1, (own x mem).2.later later⟩
  | ensurePeers clusterID base members pairs => exact Carried.later own kept later
  | push clusterID base members rest => exact ⟨own.1.later kept later, own.2⟩
  | _ => trivial

/-! ## The condition -/

/-- No command made from a later state of its cluster was sent to the agent. -/
def NotOvertaken (w : World) (agentID : String) (base : Nat) : Prop :=
  ∀ e ∈ lastTo w.log agentID, e.base ≤ base

instance (w : World) (agentID : String) (base : Nat) : Decidable (NotOvertaken w agentID base) :=
  inferInstanceAs (Decidable (∀ _ ∈ lastTo _ _, _))

/-- Commands go to an agent in the order of the states they were made from; a removal deletes
a row just if it is to send the teardown, and no key is so short that its handler panics. -/
def InOrder (w : World) : Handler → Prop
  | .push _ base members (self :: _) =>
    self.publicKey ≠ "" → allHaveKeys members → NotOvertaken w self.agentID base
  | .teardownMember _ (some agentID) _ base => NotOvertaken w agentID base
  | .deleteMember r agentID _ =>
    ∀ m ∈ w.net.members.find? r.serverID, m.clusterID = r.clusterID ↔ agentID.isSome
  | .onKeyGenResult _ publicKey => 8 ≤ publicKey.utf8ByteSize
  | _ => True

/-- A member without a key that is told of a failure has another request under way. -/
def Answers (w : World) : Request → Prop
  | .keyGenResult memberID _ false => ∀ m ∈ w.net.members.rows, m.id = memberID →
      m.wireguardPublicKey = "" → memberID ∈ w.awaited.erase memberID
  | _ => True

def Orderly (c : ControlPlane) : Event → Prop
  | .request r => Answers c.shared r
  | .turn i => ∀ k ∈ c.handlers[i]?, InOrder c.shared k

instance (w : World) : ∀ k, Decidable (InOrder w k)
  | .push _ base _ (self :: _) =>
    inferInstanceAs (Decidable (_ → _ → NotOvertaken w self.agentID base))
  | .teardownMember _ (some agentID) _ base =>
    inferInstanceAs (Decidable (NotOvertaken w agentID base))
  | .deleteMember r agentID _ => inferInstanceAs (Decidable
      (∀ m ∈ w.net.members.find? r.serverID, m.clusterID = r.clusterID ↔ agentID.isSome = true))
  | .onKeyGenResult _ publicKey => inferInstanceAs (Decidable (8 ≤ publicKey.utf8ByteSize))
  | .push _ _ _ [] | .teardownMember _ none _ _ | .getCluster .. | .getServer .. | .checkMember ..
  | .listIPs .. | .createMember .. | .updateServer .. | .findAgent .. | .requestKeyGen ..
  | .loadServer .. | .loadMember .. | .getMember .. | .deletePeers .. | .clearServer ..
  | .updateKey .. | .findKeyed .. | .getMembers .. | .ensurePeers .. => isTrue trivial

instance (w : World) : ∀ r, Decidable (Answers w r)
  | .keyGenResult memberID _ false => inferInstanceAs (Decidable (∀ m ∈ w.net.members.rows, _ → _ →
      memberID ∈ w.awaited.erase memberID))
  | .keyGenResult _ _ true | .addMember .. | .removeMember .. | .regenerateMesh .. => isTrue trivial

instance (c : ControlPlane) : ∀ e, Decidable (Orderly c e)
  | .request r => inferInstanceAs (Decidable (Answers c.shared r))
  | .turn i => inferInstanceAs (Decidable (∀ k ∈ c.handlers[i]?, InOrder c.shared k))

/-! ## One step -/

theorem net_pushTo (clusterID : UUID) (base : Nat) (members : List MemberInfo) (self : MemberInfo)
    (w : World) : (pushTo clusterID base members self w).net = w.net ∧
      (pushTo clusterID base members self w).left = w.left ∧
      (pushTo clusterID base members self w).down = w.down := by
  unfold pushTo
  split
  · exact ⟨rfl, rfl, rfl⟩
  · split
    · exact ⟨rfl, rfl, rfl⟩
    · split <;> exact ⟨rfl, rfl, rfl⟩

theorem net_tearDown (r : Removal) (agentID : Option String) (memberID : UUID) (base : Nat)
    (w : World) : (tearDown r agentID memberID base w).net = w.net ∧
      (tearDown r agentID memberID base w).left = w.left ∧
      (tearDown r agentID memberID base w).down = w.down := by
  unfold tearDown
  split
  · exact ⟨rfl, rfl, rfl⟩
  · split <;> exact ⟨rfl, rfl, rfl⟩

theorem Later.of_net {w w' : World} (net : w'.net = w.net) (left : w'.left = w.left) :
    Later w w' :=
  .of_members (fun _ => by rw [net]) (by rw [net]) (by rw [net]) (by rw [net]) left

theorem Kept.of_net {w w' : World} (kept : Kept w) (net : w'.net = w.net)
    (left : w'.left = w.left) : Kept w' :=
  kept.of_members (fun _ => by rw [net]) (by rw [net]) (by rw [net]) (by rw [net]) left
    (net ▸ kept.peers)

theorem advance_later {w : World} (kept : Kept w) (k : Handler) : Later w (advance w k).1 := by
  cases k with
  | requestKeyGen agentID member => exact .of_net rfl rfl
  | createMember req member =>
    unfold advance
    dsimp only
    split
    · exact .refl w
    · next created => exact .create created
  | updateServer req member => exact .of_members (.setCluster _ _ _) rfl rfl rfl rfl
  | deletePeers r agentID memberID own => exact .of_members (.refl _) rfl rfl rfl rfl
  | deleteMember r agentID memberID =>
    change Later w (w.deleteMember r.clusterID r.serverID)
    obtain ⟨-, same⟩ | ⟨m, mem, -, -, same⟩ := deleteMember_cases w r.clusterID r.serverID
    · rw [same]
      exact .refl w
    · rw [same]
      exact .without mem (kept.left _)
  | clearServer r agentID memberID base => exact .of_members (.setCluster _ _ _) rfl rfl rfl rfl
  | teardownMember r agentID memberID base =>
    obtain ⟨net, left, -⟩ := net_tearDown r agentID memberID base w
    exact .of_net net left
  | updateKey memberID publicKey => exact .updateKey w memberID publicKey
  | onKeyGenResult clusterID publicKey =>
    unfold advance
    dsimp only
    split
    · exact .of_net rfl rfl
    · exact .refl w
  | ensurePeers clusterID base members pairs =>
    cases pairs with
    | nil => exact .refl w
    | cons pair rest =>
      change Later w { w with net := w.net.upsertWireGuardPeer pair.1 pair.2 .pending }
      unfold Network.upsertWireGuardPeer
      split
      · exact .of_members (.refl _) rfl rfl rfl rfl
      · exact .refl w
  | push clusterID base members rest =>
    cases rest with
    | nil => exact .refl w
    | cons self rest =>
      obtain ⟨net, left, -⟩ := net_pushTo clusterID base members self w
      exact .of_net net left
  | _ => exact .refl w

theorem advance_kept {w : World} (kept : Kept w) (k : Handler) : Kept (advance w k).1 := by
  cases k with
  | requestKeyGen agentID member => exact kept.of_net rfl rfl
  | createMember req member =>
    unfold advance
    dsimp only
    split
    · exact kept
    · next created => exact kept.create created
  | updateServer req member => exact kept.setCluster _ _
  | deletePeers r agentID memberID own => exact kept.deletePeers own
  | deleteMember r agentID memberID => exact kept.deleteMember r.clusterID r.serverID
  | clearServer r agentID memberID base => exact kept.setCluster _ _
  | teardownMember r agentID memberID base =>
    obtain ⟨net, left, -⟩ := net_tearDown r agentID memberID base w
    exact kept.of_net net left
  | updateKey memberID publicKey => exact kept.updateKey memberID publicKey
  | onKeyGenResult clusterID publicKey =>
    unfold advance
    dsimp only
    split
    · exact kept.of_net rfl rfl
    · exact kept
  | ensurePeers clusterID base members pairs =>
    cases pairs with
    | nil => exact kept
    | cons pair rest => exact kept.upsertPeer _ _ _
  | push clusterID base members rest =>
    cases rest with
    | nil => exact kept
    | cons self rest =>
      obtain ⟨net, left, -⟩ := net_pushTo clusterID base members self w
      exact kept.of_net net left
  | _ => exact kept

theorem advance_log (w : World) (k : Handler) : (advance w k).1.log = w.log ∨
    ∃ e, (advance w k).1.log = e :: w.log ∧ (e.command.configures = false ∨
      (∃ clusterID base members self rest, k = .push clusterID base members (self :: rest) ∧
        self.agentID ≠ "" ∧ self.publicKey ≠ "" ∧ allHaveKeys members ∧
        e = ⟨self.agentID, .apply self.memberID (generateConfig self members) self.wireGuardIP,
          clusterID, base⟩) ∨
      ∃ r agentID memberID base, k = .teardownMember r (some agentID) memberID base ∧
        e = ⟨agentID, .teardown memberID, r.clusterID, base⟩) := by
  cases k with
  | requestKeyGen agentID member => exact .inr ⟨_, rfl, .inl rfl⟩
  | createMember req member =>
    unfold advance
    dsimp only
    split <;> exact .inl rfl
  | teardownMember r agentID memberID base =>
    cases agentID with
    | none => exact .inl rfl
    | some agentID =>
      change (tearDown r (some agentID) memberID base w).log = _ ∨
        ∃ e, (tearDown r (some agentID) memberID base w).log = _ ∧ _
      unfold tearDown
      dsimp only
      split
      · exact .inl rfl
      · exact .inr ⟨_, rfl, .inr (.inr ⟨r, agentID, memberID, base, rfl, rfl⟩)⟩
  | onKeyGenResult clusterID publicKey =>
    unfold advance
    dsimp only
    split <;> exact .inl rfl
  | ensurePeers clusterID base members pairs => cases pairs <;> exact .inl rfl
  | push clusterID base members rest =>
    cases rest with
    | nil => exact .inl rfl
    | cons self rest =>
      change (pushTo clusterID base members self w).log = _ ∨
        ∃ e, (pushTo clusterID base members self w).log = _ ∧ _
      unfold pushTo
      split
      · exact .inl rfl
      · next agent =>
        split
        · exact .inr ⟨_, rfl, .inl rfl⟩
        · next key =>
          split
          · next keys => exact .inr ⟨_, rfl, .inr (.inl
              ⟨clusterID, base, members, self, rest, rfl, agent, key, keys, rfl⟩)⟩
          · exact .inl rfl
  | _ => exact .inl rfl

def Logged (w : World) : Prop := ∀ e ∈ w.log, e.Holds w

theorem advance_logged {w : World} {k : Handler} (kept : Kept w) (logged : Logged w)
    (own : Own w k) : Logged (advance w k).1 := by
  have later := advance_later kept k
  have old : ∀ e ∈ w.log, e.Holds (advance w k).1 := fun e mem => (logged e mem).later kept later
  rcases advance_log w k with same | ⟨e, added, what⟩
  · intro e mem
    rw [same] at mem
    exact old e mem
  · intro e' mem
    rw [added] at mem
    rcases List.mem_cons.mp mem with rfl | before
    · rcases what with silent | ⟨clusterID, base, members, self, rest, rfl, -, -, -, rfl⟩ |
        ⟨r, agentID, memberID, base, rfl, rfl⟩
      · unfold Sent.Holds
        cases sent : e'.command with
        | keyGen memberID listenPort => trivial
        | apply memberID config ip => rw [sent] at silent; cases silent
        | teardown memberID => rw [sent] at silent; cases silent
      · exact ⟨members, own.1.later kept later, self, own.2 self List.mem_cons_self, rfl, rfl⟩
      · obtain ⟨agent, gone⟩ := own agentID rfl
        exact ⟨r.serverID, (later.servers.agentOf _).trans agent, gone.later later⟩
    · exact old e' before

/-- The agent's last configuration is not older than `base`. -/
def Reached (w : World) (agentID : String) (base : Nat) : Prop :=
  ∃ e, lastTo w.log agentID = some e ∧ base ≤ e.base

theorem lastTo_cons (e : Sent) (log : List Sent) (agentID : String) :
    lastTo (e :: log) agentID =
      if e.agentID = agentID ∧ e.command.configures then some e else lastTo log agentID := by
  unfold lastTo
  rw [List.find?_cons]
  by_cases here : e.agentID = agentID ∧ e.command.configures = true
  · rw [if_pos here, here.2, decide_eq_true here.1]
    rfl
  · rw [if_neg here]
    have no : (decide (e.agentID = agentID) && e.command.configures) = false := by
      rw [Bool.and_eq_false_iff, decide_eq_false_iff_not, ← Bool.not_eq_true]
      exact not_and_or.mp here
    rw [no]

theorem advance_reached {w : World} {k : Handler} (inOrder : InOrder w k) {agentID : String}
    {base : Nat} (reached : Reached w agentID base) : Reached (advance w k).1 agentID base := by
  obtain ⟨e, last, newer⟩ := reached
  rcases advance_log w k with same | ⟨e', added, what⟩
  · exact ⟨e, by rw [same, last], newer⟩
  · unfold Reached
    rw [added, lastTo_cons]
    by_cases here : e'.agentID = agentID ∧ e'.command.configures
    · rw [if_pos here]
      refine ⟨e', rfl, newer.trans ?_⟩
      rcases what with silent | ⟨clusterID, base, members, self, rest, rfl, -, key, keys, rfl⟩ |
        ⟨r, agent, memberID, base, rfl, rfl⟩
      · exact absurd (silent.symm.trans here.2) Bool.false_ne_true
      · have same : self.agentID = agentID := here.1
        exact inOrder key keys e (same ▸ last)
      · have same : agent = agentID := here.1
        exact inOrder e (same ▸ last)
    · rw [if_neg here]
      exact ⟨e, last, newer⟩

theorem advance_up {w : World} {k : Handler} (inOrder : InOrder w k) :
    (advance w k).1.down = w.down := by
  cases k with
  | createMember req member =>
    unfold advance
    dsimp only
    split <;> rfl
  | teardownMember r agentID memberID base => exact (net_tearDown r agentID memberID base w).2.2
  | onKeyGenResult clusterID publicKey =>
    have long : ¬ publicKey.utf8ByteSize < 8 := Nat.not_lt_of_le inOrder
    rw [advance, if_neg long]
  | ensurePeers clusterID base members pairs => cases pairs <;> rfl
  | push clusterID base members rest =>
    cases rest with
    | nil => rfl
    | cons self rest => exact (net_pushTo clusterID base members self w).2.2
  | _ => rfl

theorem gone_deleteMember {w : World} {clusterID serverID : UUID}
    (mine : ∀ m ∈ w.net.members.find? serverID, m.clusterID = clusterID) :
    Gone (w.deleteMember clusterID serverID) serverID
      (w.deleteMember clusterID serverID).net.stamp := by
  refine ⟨le_rfl, fun m mem server => ?_⟩
  obtain ⟨others, same⟩ | ⟨m', mem', server', -, same⟩ := deleteMember_cases w clusterID serverID
  · rw [same] at mem
    exact absurd (mine m (server ▸ Table.find?_self mem)) (others m mem server)
  · rw [same] at mem
    exact absurd (server.trans server'.symm) (mem_without.mp mem).2

theorem advance_own {w : World} {k : Handler} (kept : Kept w) (own : Own w k)
    (inOrder : InOrder w k) : ∀ k' ∈ (advance w k).2, Own (advance w k).1 k' := by
  have later := advance_later kept k
  have option : ∀ {α : Type} {x : Option α} {f : α → Handler},
      (∀ a ∈ x, Own w (f a)) → ∀ k' ∈ (x.map f).toList, Own w k' := by
    intro α x f all k' mem
    cases x with
    | none => cases mem
    | some a =>
      obtain rfl := List.mem_singleton.mp mem
      exact all a rfl
  have loaded : ∀ (r : Removal) (x : String),
      (w.net.getServerByID r.serverID r.teamID).bind ServerRow.agentID = some x →
        agentOf w.net r.serverID = some x := by
    intro r x found
    obtain ⟨s, here, agent⟩ := Option.bind_eq_some_iff.mp found
    rw [agentOf, (Option.filter_eq_some_iff.mp here).1]
    exact agent
  cases k with
  | getCluster req id => exact option fun _ _ => trivial
  | getServer req id cluster =>
    refine option fun srv found => ?_
    obtain ⟨here, -⟩ := Option.filter_eq_some_iff.mp found
    obtain ⟨agentID, agent, -⟩ :=
      kept.linked.connected req.serverID (Option.isSome_iff_exists.mpr ⟨srv, here⟩)
    rw [agentOf, here, Option.bind_some] at agent
    refine Option.isSome_iff_exists.mpr ⟨agentID, ?_⟩
    exact Option.bind_eq_some_iff.mpr ⟨srv, found, agent⟩
  | checkMember req id cluster srv =>
    intro k' mem
    unfold advance at mem
    dsimp only at mem
    split at mem
    · cases mem
    · obtain rfl := List.mem_singleton.mp mem
      exact own
  | listIPs req id cluster srv => exact option fun _ _ => ⟨own, rfl⟩
  | createMember req member =>
    intro k' mem
    refine Own.later ?_ kept later
    unfold advance at mem
    dsimp only at mem
    split at mem
    · cases mem
    · obtain rfl := List.mem_singleton.mp mem
      exact own.1
  | updateServer req member =>
    exact List.forall_mem_singleton.mpr (Own.later (k := .findAgent req member) own kept later)
  | findAgent req member => exact option fun _ _ => trivial
  | requestKeyGen agentID member => exact fun _ mem => nomatch mem
  | loadServer r =>
    exact List.forall_mem_singleton.mpr (loaded r)
  | loadMember r agentID =>
    exact List.forall_mem_singleton.mpr own
  | getMember r agentID memberID => exact option fun _ _ => own
  | deletePeers r agentID memberID row =>
    intro k' mem
    obtain rfl := List.mem_singleton.mp mem
    exact Own.later (k := .deleteMember r agentID memberID) own kept later
  | deleteMember r agentID memberID =>
    intro k' mem
    obtain rfl := List.mem_singleton.mp mem
    refine fun x known => ⟨(later.servers.agentOf _).trans (own x known), ?_⟩
    refine gone_deleteMember fun m found => (inOrder m found).mpr ?_
    exact Option.isSome_iff_exists.mpr ⟨x, known⟩
  | clearServer r agentID memberID base =>
    intro k' mem
    obtain rfl := List.mem_singleton.mp mem
    exact Own.later (k := .teardownMember r agentID memberID base) own kept later
  | teardownMember r agentID memberID base =>
    exact List.forall_mem_singleton.mpr trivial
  | updateKey memberID publicKey =>
    exact List.forall_mem_singleton.mpr trivial
  | findKeyed memberID publicKey => exact option fun _ _ => trivial
  | onKeyGenResult clusterID publicKey =>
    intro k' mem
    unfold advance at mem
    dsimp only at mem
    split at mem
    · cases mem
    · obtain rfl := List.mem_singleton.mp mem
      trivial
  | getMembers clusterID =>
    intro k' mem
    unfold advance at mem
    dsimp only at mem
    split at mem
    · cases mem
    · obtain rfl := List.mem_singleton.mp mem
      exact Carried.read kept clusterID
  | ensurePeers clusterID base members pairs =>
    have carried : Carried w clusterID base members := own
    cases pairs with
    | nil =>
      exact List.forall_mem_singleton.mpr ⟨carried, fun i inside => inside⟩
    | cons pair rest =>
      exact List.forall_mem_singleton.mpr (carried.later kept later)
  | push clusterID base members rest =>
    cases rest with
    | nil => exact fun _ mem => nomatch mem
    | cons self rest =>
      intro k' mem
      obtain rfl := List.mem_singleton.mp mem
      exact ⟨own.1.later kept later, fun i inside => own.2 i (List.mem_cons_of_mem _ inside)⟩

/-! ## Duties -/

/-- What the mesh needs: that the last configurations of a cluster's members are of its last
change, that the agent of a server that has left has been told, and that a member without a
key is asked for one. -/
inductive Duty where
  | mesh (clusterID : UUID)
  | teardown (serverID : UUID)
  | key (memberID : UUID)

/-- The mesh of a cluster waits while a member has no key. -/
def Done (w : World) : Duty → Prop
  | .mesh clusterID => (∃ i ∈ memberInfos w.net clusterID, i.publicKey = "") ∨
      ∀ i ∈ memberInfos w.net clusterID, Reached w i.agentID (w.net.changed clusterID)
  | .teardown serverID => w.left serverID = 0 ∨
      ∀ agentID, agentOf w.net serverID = some agentID → Reached w agentID (w.left serverID)
  | .key memberID => ∀ m ∈ w.net.members.rows, m.id = memberID → m.wireguardPublicKey = "" →
      memberID ∈ w.awaited

/-- What a handler has still to do. -/
def Owes (w : World) : Handler → Duty → Prop
  | .clearServer r _ _ _, .mesh clusterID | .teardownMember r _ _ _, .mesh clusterID =>
    r.clusterID = clusterID
  | .findKeyed memberID _, .mesh clusterID =>
    ∃ i ∈ memberInfos w.net clusterID, i.memberID = memberID
  | .onKeyGenResult clusterID _, .mesh clusterID' | .getMembers clusterID, .mesh clusterID' =>
    clusterID = clusterID'
  | .ensurePeers clusterID base members _, .mesh clusterID' => clusterID = clusterID' ∧
      base = w.net.changed clusterID' ∧ members = memberInfos w.net clusterID'
  | .push clusterID base members rest, .mesh clusterID' => clusterID = clusterID' ∧
      base = w.net.changed clusterID' ∧ members = memberInfos w.net clusterID' ∧
        ∀ i ∈ memberInfos w.net clusterID', i ∈ rest ∨
          Reached w i.agentID (w.net.changed clusterID')
  | .clearServer r agentID _ base, .teardown serverID
  | .teardownMember r agentID _ base, .teardown serverID => r.serverID = serverID ∧
      agentID = agentOf w.net serverID ∧ w.left serverID ≤ base
  | .updateServer _ member, .key memberID | .findAgent _ member, .key memberID
  | .requestKeyGen _ member, .key memberID => member.id = memberID
  | .updateKey memberID _, .key memberID' => memberID = memberID'
  | .findKeyed memberID publicKey, .key memberID' => memberID = memberID' ∧ publicKey = ""
  | .onKeyGenResult _ publicKey, .key _ => publicKey = ""
  | _, _ => False

section Unmoved

variable {w w' : World}

theorem unmoved_mesh {clusterID : UUID}
    (reached : ∀ agentID base, Reached w agentID base → Reached w' agentID base)
    (changed : w'.net.changed clusterID = w.net.changed clusterID)
    (infos : memberInfos w'.net clusterID = memberInfos w.net clusterID) :
    Crew.Unmoved Done Owes w w' (.mesh clusterID) := by
  refine ⟨fun done => ?_, fun k owed => ?_⟩
  · rcases done with ⟨i, mem, bare⟩ | all
    · exact .inl ⟨i, infos.symm ▸ mem, bare⟩
    · refine .inr fun i mem => ?_
      rw [changed]
      exact reached _ _ (all i (infos ▸ mem))
  · cases k with
    | findKeyed memberID publicKey =>
      obtain ⟨i, mem, own⟩ := owed
      exact ⟨i, infos.symm ▸ mem, own⟩
    | ensurePeers clusterID' base members pairs =>
      obtain ⟨own, now, read⟩ := owed
      exact ⟨own, now.trans changed.symm, read.trans infos.symm⟩
    | push clusterID' base members rest =>
      obtain ⟨own, now, read, rest⟩ := owed
      refine ⟨own, now.trans changed.symm, read.trans infos.symm, fun i mem => ?_⟩
      rw [changed]
      exact (rest i (infos ▸ mem)).imp_right (reached _ _)
    | _ => exact owed

theorem unmoved_teardown {serverID : UUID}
    (reached : ∀ agentID base, Reached w agentID base → Reached w' agentID base)
    (left : w'.left serverID = w.left serverID)
    (agent : agentOf w'.net serverID = agentOf w.net serverID) :
    Crew.Unmoved Done Owes w w' (.teardown serverID) := by
  refine ⟨fun done => ?_, fun k owed => ?_⟩
  · rcases done with never | all
    · exact .inl (left.trans never)
    · refine .inr fun agentID known => ?_
      rw [left]
      exact reached _ _ (all agentID (agent ▸ known))
  · cases k with
    | clearServer r agentID memberID base =>
      obtain ⟨own, known, older⟩ := owed
      exact ⟨own, known.trans agent.symm, left.trans_le older⟩
    | teardownMember r agentID memberID base =>
      obtain ⟨own, known, older⟩ := owed
      exact ⟨own, known.trans agent.symm, left.trans_le older⟩
    | _ => exact owed

theorem unmoved_key {memberID : UUID}
    (rows : ∀ m' ∈ w'.net.members.rows, m'.id = memberID → m'.wireguardPublicKey = "" →
      (∃ m ∈ w.net.members.rows, m.id = memberID ∧ m.wireguardPublicKey = "") ∧
        (memberID ∈ w.awaited → memberID ∈ w'.awaited)) :
    Crew.Unmoved Done Owes w w' (.key memberID) := by
  refine ⟨fun done m' mem' own bare => ?_, fun k owed => ?_⟩
  · obtain ⟨⟨m, mem, same, empty⟩, awaits⟩ := rows m' mem' own bare
    exact awaits (done m mem same empty)
  · cases k <;> exact owed

end Unmoved

theorem info_of_row {w : World} (kept : Kept w) {m : MemberRow} (mem : m ∈ w.net.members.rows) :
    ∃ i ∈ memberInfos w.net m.clusterID, i.memberID = m.id ∧ i.publicKey = m.wireguardPublicKey := by
  obtain ⟨s, found⟩ := Option.isSome_iff_exists.mp (kept.referential m mem)
  exact ⟨.of m s, mem_memberInfos.mpr ⟨m, mem, rfl, s, found, rfl⟩, rfl, rfl⟩

/-- A step leaves the members alone, or inserts one, deletes one or gives one a key. -/
theorem advance_cases (w : World) (k : Handler) :
    ((advance w k).1.net.members = w.net.members ∧
        (advance w k).1.net.changed = w.net.changed ∧ (advance w k).1.left = w.left) ∨
      (∃ req member n, k = .createMember req member ∧
        w.net.createClusterMember member = some n) ∨
      (∃ r agentID memberID, k = .deleteMember r agentID memberID) ∨
      ∃ memberID publicKey m, k = .updateKey memberID publicKey ∧
        w.net.getClusterMemberByID memberID = some m := by
  cases k with
  | createMember req member =>
    cases created : w.net.createClusterMember member with
    | none =>
      rw [advance, created]
      exact .inl ⟨rfl, rfl, rfl⟩
    | some n => exact .inr (.inl ⟨req, member, n, rfl, created⟩)
  | deleteMember r agentID memberID => exact .inr (.inr (.inl ⟨r, agentID, memberID, rfl⟩))
  | teardownMember r agentID memberID base =>
    obtain ⟨net, left, -⟩ := net_tearDown r agentID memberID base w
    exact .inl ⟨congrArg Network.members net, congrArg Network.changed net, left⟩
  | updateKey memberID publicKey =>
    cases found : w.net.getClusterMemberByID memberID with
    | none =>
      rw [advance, Network.updateClusterMemberPublicKey, found]
      exact .inl ⟨rfl, rfl, rfl⟩
    | some m => exact .inr (.inr (.inr ⟨memberID, publicKey, m, rfl, found⟩))
  | onKeyGenResult clusterID publicKey =>
    unfold advance
    dsimp only
    split <;> exact .inl ⟨rfl, rfl, rfl⟩
  | ensurePeers clusterID base members pairs =>
    cases pairs with
    | nil => exact .inl ⟨rfl, rfl, rfl⟩
    | cons pair rest =>
      rw [advance, Network.upsertWireGuardPeer]
      split <;> exact .inl ⟨rfl, rfl, rfl⟩
  | push clusterID base members rest =>
    cases rest with
    | nil => exact .inl ⟨rfl, rfl, rfl⟩
    | cons self rest =>
      obtain ⟨net, left, -⟩ := net_pushTo clusterID base members self w
      exact .inl ⟨congrArg Network.members net, congrArg Network.changed net, left⟩
  | _ => exact .inl ⟨rfl, rfl, rfl⟩

theorem advance_awaited (w : World) (k : Handler) {memberID : UUID} (awaits : memberID ∈ w.awaited) :
    memberID ∈ (advance w k).1.awaited := by
  cases k with
  | requestKeyGen agentID member => exact List.mem_cons_of_mem _ awaits
  | createMember req member =>
    unfold advance
    dsimp only
    split <;> exact awaits
  | teardownMember r agentID memberID base =>
    simp only [advance, tearDown]
    split
    · exact awaits
    · split <;> exact awaits
  | onKeyGenResult clusterID publicKey =>
    unfold advance
    dsimp only
    split <;> exact awaits
  | ensurePeers clusterID base members pairs => cases pairs <;> exact awaits
  | push clusterID base members rest =>
    cases rest with
    | nil => exact awaits
    | cons self rest =>
      simp only [advance, pushTo]
      split
      · exact awaits
      · split
        · exact List.mem_cons_of_mem _ awaits
        · split <;> exact awaits
  | _ => exact awaits

theorem rekeyed_mem {n : Network} {memberID : UUID} {m : MemberRow} (publicKey : String)
    (found : n.getClusterMemberByID memberID = some m) :
    { m with wireguardPublicKey := publicKey } ∈
        (n.updateClusterMemberPublicKey memberID publicKey).members.rows ∧ m.id = memberID := by
  have mem : m ∈ n.members.rows := List.mem_of_find?_eq_some found
  have own := List.find?_some found
  refine ⟨?_, of_decide_eq_true own⟩
  unfold Network.updateClusterMemberPublicKey
  rw [found]
  exact (Table.mem_update (f := fun r : MemberRow => { r with wireguardPublicKey := publicKey })
    fun _ => rfl).mpr ⟨m, mem, if_pos rfl⟩

/-- A step that changes a cluster leaves a handler behind that will read its members, or a
member whose key is awaited. -/
theorem mesh_moved {w : World} {k : Handler} (kept : Kept w) (own : Own w k)
    (inOrder : InOrder w k) (clusterID : UUID) :
    Crew.Unmoved Done Owes w (advance w k).1 (.mesh clusterID) ∨
      Crew.Covers Done Owes (advance w k).1 (advance w k).2 (.mesh clusterID) := by
  have later := advance_later kept k
  have reached := fun agentID base => @advance_reached w k inOrder agentID base
  rcases later.changed clusterID with ⟨changed, infos⟩ | newer
  · exact .inl (unmoved_mesh reached changed infos)
  · have after := advance_kept kept k
    have grown := ((kept.changed clusterID).trans_lt newer).ne'
    obtain ⟨-, same, -⟩ | ⟨req, member, n, rfl, created⟩ | ⟨r, agentID, memberID, rfl⟩ |
      ⟨memberID, publicKey, m, rfl, found⟩ := advance_cases w k
    · exact absurd (congrFun same clusterID) grown
    · -- the new member has no key
      simp only [advance, created] at after grown ⊢
      have here : clusterID = member.clusterID := by_contra fun other => grown (by
        rw [(created_of_create created).changed]
        exact Function.update_of_ne other ..)
      have new : { member with joined := w.net.stamp + 1 } ∈ n.members.rows := by
        rw [(created_of_create created).rows]
        exact List.mem_cons_self
      obtain ⟨i, mem, -, key⟩ := info_of_row after new
      exact .inr (.inl (.inl ⟨i, here ▸ mem, key.trans own.2⟩))
    · refine .inr (.inr ⟨_, List.mem_singleton_self _, by_contra fun other => grown ?_⟩)
      change (w.deleteMember r.clusterID r.serverID).net.changed clusterID = _
      obtain ⟨-, same⟩ | ⟨m, -, -, own, same⟩ := deleteMember_cases w r.clusterID r.serverID
      · rw [same]
      · rw [same]
        exact Function.update_of_ne (fun here => other (own.symm.trans here.symm)) ..
    · obtain ⟨mem, same⟩ := rekeyed_mem publicKey found
      obtain ⟨i, inside, id, -⟩ := info_of_row after mem
      have here : clusterID = m.clusterID := by_contra fun other => grown (by
        simp only [advance, Network.updateClusterMemberPublicKey, found]
        exact Function.update_of_ne other ..)
      exact .inr (.inr ⟨_, List.mem_singleton_self _, i, here ▸ inside, id.trans same⟩)

/-- A deletion leaves a handler behind that will send the teardown. -/
theorem teardown_moved {w : World} {k : Handler} (kept : Kept w) (own : Own w k)
    (inOrder : InOrder w k) (serverID : UUID) :
    Crew.Unmoved Done Owes w (advance w k).1 (.teardown serverID) ∨
      Crew.Covers Done Owes (advance w k).1 (advance w k).2 (.teardown serverID) := by
  have later := advance_later kept k
  have reached := fun agentID base => @advance_reached w k inOrder agentID base
  have agent := later.servers.agentOf serverID
  by_cases same : (advance w k).1.left serverID = w.left serverID
  · exact .inl (unmoved_teardown reached same agent)
  · obtain ⟨-, -, left⟩ | ⟨req, member, n, rfl, created⟩ | ⟨r, agentID, memberID, rfl⟩ |
      ⟨memberID, publicKey, m, rfl, found⟩ := advance_cases w k
    · exact absurd (congrFun left serverID) same
    · rw [advance, created] at same
      exact absurd rfl same
    · change (w.deleteMember r.clusterID r.serverID).left serverID ≠ w.left serverID at same
      have after : Kept (w.deleteMember r.clusterID r.serverID) := kept.deleteMember _ _
      obtain ⟨-, same'⟩ | ⟨m, mem, server, cluster, same'⟩ :=
        deleteMember_cases w r.clusterID r.serverID
      · rw [same'] at same
        exact absurd rfl same
      · have here : serverID = r.serverID := by_contra fun other => same (by
          rw [same']
          exact Function.update_of_ne (server ▸ other) ..)
        obtain ⟨x, rfl⟩ := Option.isSome_iff_exists.mp
          ((inOrder m (server ▸ Table.find?_self mem)).mp cluster)
        refine .inr (.inr ⟨_, List.mem_singleton_self _, here.symm, ?_, after.left serverID⟩)
        rw [agent, here, own x rfl]
    · exact absurd rfl same

theorem key_moved {w : World} {k : Handler} (memberID : UUID) :
    Crew.Unmoved Done Owes w (advance w k).1 (.key memberID) ∨
      Crew.Covers Done Owes (advance w k).1 (advance w k).2 (.key memberID) := by
  have awaits : memberID ∈ w.awaited → memberID ∈ (advance w k).1.awaited :=
    advance_awaited w k
  obtain ⟨same, -⟩ | ⟨req, member, n, rfl, created⟩ | ⟨r, agentID, memberID', rfl⟩ |
    ⟨memberID', publicKey, m, rfl, found⟩ := advance_cases w k
  · refine .inl (unmoved_key fun m mem own bare => ⟨⟨m, same ▸ mem, own, bare⟩, awaits⟩)
  · by_cases new : member.id = memberID
    · refine .inr (.inr ⟨.updateServer req member, ?_, new⟩)
      simp only [advance, created]
      exact List.mem_singleton_self _
    · refine .inl (unmoved_key fun m mem own bare => ⟨⟨m, ?_, own, bare⟩, awaits⟩)
      simp only [advance, created, (created_of_create created).rows] at mem
      rcases List.mem_cons.mp mem with rfl | old
      · exact absurd own new
      · exact old
  · refine .inl (unmoved_key fun m mem own bare => ⟨⟨m, ?_, own, bare⟩, awaits⟩)
    change m ∈ (w.deleteMember r.clusterID r.serverID).net.members.rows at mem
    obtain ⟨-, same⟩ | ⟨m', -, -, -, same⟩ := deleteMember_cases w r.clusterID r.serverID
    · rwa [same] at mem
    · rw [same] at mem
      exact (mem_without.mp mem).1
  · by_cases other : memberID' = memberID ∧ publicKey = ""
    · exact .inr (.inr ⟨_, List.mem_singleton_self _, other⟩)
    · refine .inl (unmoved_key fun m' mem own bare => ⟨?_, awaits⟩)
      have row : m ∈ w.net.members.rows := List.mem_of_find?_eq_some found
      have same := List.find?_some found
      simp only [advance, Network.updateClusterMemberPublicKey, found] at mem
      obtain ⟨old, there, rfl⟩ := (Table.mem_update
        (f := fun r : MemberRow => { r with wireguardPublicKey := publicKey }) fun _ => rfl).mp mem
      by_cases here : Keyed.key old = m.serverID
      · rw [if_pos here] at own bare
        obtain rfl : old = m := Table.eq_of_key_eq there row here
        exact absurd ⟨(of_decide_eq_true same).symm.trans own, bare⟩ other
      · rw [if_neg here] at own bare
        exact ⟨old, there, own, bare⟩

theorem push_reaches {w : World} {clusterID : UUID} {base : Nat} {members : List MemberInfo}
    {self : MemberInfo} (agent : self.agentID ≠ "") (key : self.publicKey ≠ "")
    (keys : allHaveKeys members) :
    Reached (pushTo clusterID base members self w) self.agentID base := by
  refine ⟨⟨self.agentID, .apply self.memberID (generateConfig self members) self.wireGuardIP,
    clusterID, base⟩, ?_, le_rfl⟩
  rw [pushTo, if_neg agent, if_neg key, if_pos keys]
  exact (lastTo_cons ..).trans (if_pos ⟨rfl, rfl⟩)

theorem missing_member {n : Network} {id : UUID} (missing : n.getClusterMemberByID id = none) :
    ∀ m ∈ n.members.rows, m.id ≠ id := by
  intro m mem
  have apart := List.find?_eq_none.mp missing m mem
  rwa [decide_eq_true_eq] at apart

theorem mem_of_member {n : Network} {id : UUID} {m : MemberRow}
    (found : n.getClusterMemberByID id = some m) : m ∈ n.members.rows ∧ m.id = id := by
  have own := List.find?_some found
  exact ⟨List.mem_of_find?_eq_some found, of_decide_eq_true own⟩

theorem advance_unchanged {w : World} {k : Handler} (kept : Kept w)
    (create : ∀ req member, k ≠ .createMember req member)
    (delete : ∀ r agentID memberID, k ≠ .deleteMember r agentID memberID)
    (update : ∀ memberID publicKey, k ≠ .updateKey memberID publicKey) :
    (advance w k).1.net.changed = w.net.changed ∧
      ∀ c, memberInfos (advance w k).1.net c = memberInfos w.net c := by
  obtain ⟨-, same, -⟩ | ⟨req, member, -, here, -⟩ | ⟨r, agentID, memberID, here⟩ |
    ⟨memberID, publicKey, -, here, -⟩ := advance_cases w k
  · refine ⟨same, fun c => ?_⟩
    rcases (advance_later kept k).changed c with ⟨-, infos⟩ | newer
    · exact infos
    · exact absurd (congrFun same c) ((kept.changed c).trans_lt newer).ne'
  · exact absurd here (create req member)
  · exact absurd here (delete r agentID memberID)
  · exact absurd here (update memberID publicKey)

/-- What a handler owes it does, or one of those it goes on with owes it. -/
theorem advance_handsOn {w : World} {k : Handler} (kept : Kept w) (own : Own w k)
    (inOrder : InOrder w k) {d : Duty} (owed : Owes w k d) :
    Crew.Covers Done Owes (advance w k).1 (advance w k).2 d := by
  have later := advance_later kept k
  have reached := fun agentID base => @advance_reached w k inOrder agentID base
  cases k with
  | updateServer req member =>
    cases d with
    | key memberID => exact .inr ⟨_, List.mem_singleton_self _, owed⟩
    | _ => exact owed.elim
  | findAgent req member =>
    cases d with
    | key memberID =>
      obtain ⟨agentID, found⟩ := Option.isSome_iff_exists.mp own
      rw [advance, found]
      exact .inr ⟨_, List.mem_singleton_self _, owed⟩
    | _ => exact owed.elim
  | requestKeyGen agentID member =>
    cases d with
    | key memberID =>
      obtain rfl : member.id = memberID := owed
      exact .inl fun _ _ _ _ => List.mem_cons_self
    | _ => exact owed.elim
  | clearServer r agentID memberID base =>
    cases d with
    | mesh clusterID => exact .inr ⟨_, List.mem_singleton_self _, owed⟩
    | teardown serverID =>
      obtain ⟨server, known, older⟩ := owed
      refine .inr ⟨_, List.mem_singleton_self _, server, ?_, older⟩
      exact known.trans (later.servers.agentOf serverID).symm
    | key memberID => exact owed.elim
  | teardownMember r agentID memberID base =>
    cases d with
    | mesh clusterID => exact .inr ⟨_, List.mem_singleton_self _, owed⟩
    | teardown serverID =>
      obtain ⟨rfl, known, older⟩ := owed
      refine .inl (.inr fun x agent' => ?_)
      have agent : agentOf w.net r.serverID = some x :=
        (later.servers.agentOf r.serverID).symm.trans agent'
      obtain rfl := known.trans agent
      have present : (w.net.servers.find? r.serverID).isSome := by
        obtain ⟨s, found, -⟩ := Option.bind_eq_some_iff.mp agent
        exact Option.isSome_iff_exists.mpr ⟨s, found⟩
      obtain ⟨y, same, filled⟩ := kept.linked.connected r.serverID present
      have filled : x ≠ "" := Option.some.inj (agent.symm.trans same) ▸ filled
      refine ⟨⟨x, .teardown memberID, r.clusterID, base⟩, ?_, ?_⟩
      · rw [advance, tearDown]
        dsimp only
        rw [if_neg filled]
        exact (lastTo_cons ..).trans (if_pos ⟨rfl, rfl⟩)
      · change (tearDown r (some x) memberID base w).left r.serverID ≤ base
        rw [(net_tearDown ..).2.1]
        exact older
    | key memberID => exact owed.elim
  | updateKey memberID publicKey =>
    cases d with
    | key memberID' =>
      obtain rfl : memberID = memberID' := owed
      by_cases bare : publicKey = ""
      · exact .inr ⟨_, List.mem_singleton_self _, rfl, bare⟩
      · refine .inl fun m mem same empty => absurd ?_ bare
        simp only [advance, Network.updateClusterMemberPublicKey] at mem
        cases found : w.net.getClusterMemberByID memberID with
        | none =>
          rw [found] at mem
          exact absurd same (missing_member found m mem)
        | some m' =>
          rw [found] at mem
          obtain ⟨member', own'⟩ := mem_of_member found
          obtain ⟨old, there, rfl⟩ := (Table.mem_update (f := fun r : MemberRow =>
            { r with wireguardPublicKey := publicKey }) fun _ => rfl).mp mem
          by_cases here : Keyed.key old = m'.serverID
          · rw [if_pos here] at empty
            exact empty
          · rw [if_neg here] at same
            rw [kept.ids old there m' member' (same.trans own'.symm)] at here
            exact absurd rfl here
    | _ => exact owed.elim
  | findKeyed memberID publicKey =>
    cases d with
    | mesh clusterID =>
      obtain ⟨i, mem, same⟩ := owed
      obtain ⟨m, member, cluster, s, -, rfl⟩ := mem_memberInfos.mp mem
      cases found : w.net.getClusterMemberByID memberID with
      | none => exact absurd same (missing_member found m member)
      | some m' =>
        obtain ⟨member', own'⟩ := mem_of_member found
        rw [advance, found]
        refine .inr ⟨_, List.mem_singleton_self _, ?_⟩
        exact kept.ids m' member' m member (own'.trans same.symm) ▸ cluster
    | key memberID' =>
      obtain ⟨rfl, bare⟩ := owed
      rw [advance]
      cases found : w.net.getClusterMemberByID memberID with
      | none => exact .inl fun m mem same => absurd same (missing_member found m mem)
      | some m => exact .inr ⟨_, List.mem_singleton_self _, bare⟩
    | teardown serverID => exact owed.elim
  | onKeyGenResult clusterID publicKey =>
    have long : ¬ publicKey.utf8ByteSize < 8 := Nat.not_lt_of_le inOrder
    cases d with
    | mesh clusterID' =>
      rw [advance, if_neg long]
      exact .inr ⟨_, List.mem_singleton_self _, owed⟩
    | key memberID =>
      obtain rfl : publicKey = "" := owed
      exact absurd (by decide) long
    | teardown serverID => exact owed.elim
  | getMembers clusterID =>
    cases d with
    | mesh clusterID' =>
      obtain rfl : clusterID = clusterID' := owed
      by_cases empty : (memberInfos w.net clusterID).isEmpty = true
      · refine .inl (.inr fun i mem => ?_)
        have none := List.isEmpty_iff.mp empty
        have mem : i ∈ memberInfos w.net clusterID := mem
        rw [none] at mem
        cases mem
      · refine .inr ⟨.ensurePeers clusterID (w.net.changed clusterID)
          (memberInfos w.net clusterID) (pairs (memberInfos w.net clusterID)), ?_, rfl, rfl, rfl⟩
        rw [advance, if_neg empty]
        exact List.mem_singleton_self _
    | _ => exact owed.elim
  | ensurePeers clusterID base members pairs =>
    cases d with
    | mesh clusterID' =>
      obtain ⟨rfl, rfl, read⟩ := owed
      cases pairs with
      | nil =>
        exact .inr ⟨_, List.mem_singleton_self _, rfl, rfl, read, fun i mem =>
          .inl (read ▸ mem)⟩
      | cons pair rest =>
        obtain ⟨same, infos⟩ :=
          advance_unchanged kept (k := .ensurePeers clusterID _ members (pair :: rest)) nofun nofun nofun
        exact .inr ⟨_, List.mem_singleton_self _, rfl, (congrFun same _).symm,
          read.trans (infos _).symm⟩
    | _ => cases pairs <;> exact owed.elim
  | push clusterID base members rest =>
    cases d with
    | mesh clusterID' =>
      obtain ⟨rfl, rfl, read, behind⟩ := owed
      obtain ⟨same, infos⟩ :=
        advance_unchanged kept (k := .push clusterID _ members rest) nofun nofun nofun
      cases rest with
      | nil =>
        exact .inl (.inr fun i mem => (behind i mem).resolve_left List.not_mem_nil)
      | cons self rest =>
        have mine : self ∈ members := own.2 self List.mem_cons_self
        have agent := (own.1.agents self mine).2
        by_cases keys : allHaveKeys members = true
        · refine .inr ⟨_, List.mem_singleton_self _, rfl, (congrFun same _).symm,
            read.trans (infos _).symm, fun i mem => ?_⟩
          rw [congrFun same]
          rcases behind i (infos clusterID ▸ mem) with here | before
          · rcases List.mem_cons.mp here with rfl | later
            · have key := of_decide_eq_true (List.all_eq_true.mp keys i mine)
              exact .inr (push_reaches agent key keys)
            · exact .inl later
          · exact .inr (reached _ _ before)
        · obtain ⟨i, mem, bare⟩ : ∃ i ∈ members, i.publicKey = "" := by
            simpa [allHaveKeys] using keys
          exact .inl (.inl ⟨i, (infos clusterID).symm ▸ read ▸ mem, bare⟩)
    | _ => exact owed.elim
  | _ => cases d <;> exact owed.elim

/-! ## Runs -/

/-- What every run keeps whose events are orderly. -/
structure Good (c : ControlPlane) : Prop where
  up : c.shared.down = false
  held : Crew.Held (fun w => Kept w ∧ Logged w) Own c
  covered : Crew.Covered Done Owes c

theorem start_up {w : World} (up : w.down = false) (r : Request) :
    machine.start r w = (r.answered w, r.handler) := by
  change (if w.down then (w, []) else (r.answered w, r.handler)) = _
  rw [up]
  rfl

theorem turn_up {w : World} (up : w.down = false) (k : Handler) :
    machine.turn k () w = advance w k := by
  change (if w.down then (w, []) else advance w k) = _
  rw [up]
  rfl

theorem answered_same (w : World) (r : Request) : (r.answered w).net = w.net ∧
    (r.answered w).log = w.log ∧ (r.answered w).left = w.left ∧
      (r.answered w).down = w.down := by
  cases r <;> exact ⟨rfl, rfl, rfl, rfl⟩

/-- A key result is as good as the request it answers, unless it tells of a failure. -/
theorem answered_moved {w : World} {r : Request} (answers : Answers w r) (d : Duty) :
    Crew.Unmoved Done Owes w (r.answered w) d ∨
      Crew.Covers Done Owes (r.answered w) r.handler d := by
  obtain ⟨net, log, left, -⟩ := answered_same w r
  have reached : ∀ agentID base, Reached w agentID base → Reached (r.answered w) agentID base := by
    intro agentID base there
    rwa [Reached, log]
  cases d with
  | mesh clusterID => exact .inl (unmoved_mesh reached (by rw [net]) (by rw [net]))
  | teardown serverID => exact .inl (unmoved_teardown reached (by rw [left]) (by rw [net]))
  | key memberID =>
    have rows : ∀ m ∈ (r.answered w).net.members.rows, m.id = memberID →
        m.wireguardPublicKey = "" →
          ∃ m ∈ w.net.members.rows, m.id = memberID ∧ m.wireguardPublicKey = "" :=
      fun m mem own bare => ⟨m, net ▸ mem, own, bare⟩
    cases r with
    | keyGenResult memberID' publicKey success =>
      by_cases here : memberID' = memberID
      · subst here
        cases success with
        | true => exact .inr (.inr ⟨_, List.mem_singleton_self _, rfl⟩)
        | false =>
          exact .inl (unmoved_key fun m mem own bare =>
            ⟨rows m mem own bare, fun _ => answers m mem own bare⟩)
      · exact .inl (unmoved_key fun m mem own bare =>
          ⟨rows m mem own bare, (List.mem_erase_of_ne (Ne.symm here)).mpr⟩)
    | _ => exact .inl (unmoved_key fun m mem own bare => ⟨rows m mem own bare, id⟩)

theorem Good.step {c : ControlPlane} {e : Event} (good : Good c) (orderly : Orderly c e) :
    Good (step c e) := by
  obtain ⟨up, held, covered⟩ := good
  obtain ⟨kept, logged⟩ := held.shared
  cases e with
  | request r =>
    have started := start_up up r
    obtain ⟨net, log, left, down⟩ := answered_same c.shared r
    have later : Later c.shared (r.answered c.shared) := .of_net net left
    refine ⟨?_, held.step (fun r' same => ?_) nofun (fun e => nomatch e), covered.command fun d => ?_⟩
    · change (machine.start r c.shared).1.down = false
      rw [started, down, up]
    · obtain rfl : r = r' := Move.command.inj same
      rw [started]
      refine ⟨⟨kept.of_net net left, fun e mem => ?_⟩,
        fun k mem => (held.each k mem).later kept later, fun k mem => ?_⟩
      · exact (logged e (log ▸ mem)).later kept later
      · cases r with
        | keyGenResult memberID publicKey success =>
          cases success with
          | true =>
            obtain rfl := List.mem_singleton.mp mem
            trivial
          | false => cases mem
        | _ =>
          obtain rfl := List.mem_singleton.mp mem
          trivial
    · rw [started]
      exact answered_moved orderly d
  | turn i =>
    have moves := fun k => turn_up (k := k) up
    refine ⟨?_, held.step nofun (fun i' o k same found own => ?_) (fun e => nomatch e),
      covered.turn (fun k found d owed => ?_) fun k found d => ?_⟩
    · change (c.step machine (.turn i ())).shared.down = false
      cases found : c.handlers[i]? with
      | none => simpa only [Crew.step, found] using up
      | some k =>
        rw [Crew.step_turn () found, moves]
        exact (advance_up (orderly k found)).trans up
    · obtain ⟨rfl, -⟩ := Move.turn.inj same
      have inOrder := orderly k found
      rw [moves]
      refine ⟨⟨advance_kept kept k, advance_logged kept logged own⟩, fun k' mem => ?_,
        advance_own kept own inOrder⟩
      exact (held.each k' (List.mem_of_mem_eraseIdx mem)).later kept (advance_later kept k)
    · rw [moves]
      exact advance_handsOn kept (held.each k (List.mem_of_getElem? found)) (orderly k found) owed
    · have own := held.each k (List.mem_of_getElem? found)
      have inOrder := orderly k found
      rw [moves]
      cases d with
      | mesh clusterID => exact mesh_moved kept own inOrder clusterID
      | teardown serverID => exact teardown_moved kept own inOrder serverID
      | key memberID => exact key_moved memberID

/-- No member has been added yet, and every server has an agent of its own. -/
structure Fresh (n : Network) : Prop where
  members : n.members.rows = []
  peers : n.peers.rows = []
  changed : ∀ c, n.changed c ≤ n.stamp
  linked : Linked n

theorem Fresh.good {n : Network} (fresh : Fresh n) : Good { shared := { net := n } } where
  up := rfl
  held :=
    { shared := ⟨
        { linked := fresh.linked
          referential := fun m mem => by rw [fresh.members] at mem; cases mem
          ids := fun m mem => by
            have mem : m ∈ n.members.rows := mem
            rw [fresh.members] at mem; cases mem
          addresses := fun m mem => by
            have mem : m ∈ n.members.rows := mem
            rw [fresh.members] at mem; cases mem
          joined := fun m mem => by
            have mem : m ∈ n.members.rows := mem
            rw [fresh.members] at mem; cases mem
          changed := fresh.changed
          left := fun _ => Nat.zero_le _
          peers := fun p mem => by
            have mem : p ∈ n.peers.rows := mem
            rw [fresh.peers] at mem; cases mem },
        fun e mem => nomatch mem⟩
      each := fun k mem => nomatch mem }
  covered d := by
    refine .inl ?_
    cases d with
    | mesh clusterID =>
      refine .inr fun i mem => ?_
      obtain ⟨m, member, -⟩ := mem_memberInfos.mp mem
      have member : m ∈ n.members.rows := member
      rw [fresh.members] at member
      cases member
    | teardown serverID => exact .inl rfl
    | key memberID =>
      intro m mem
      have mem : m ∈ n.members.rows := mem
      rw [fresh.members] at mem
      cases mem

theorem generateConfig_peers {w : World} (kept : Kept w) {m : MemberRow} {s : ServerRow}
    (mem : m ∈ w.net.members.rows) :
    (generateConfig (.of m s) (memberInfos w.net m.clusterID)).peers =
      (othersOf w.net m).map peerOf := by
  have walk : ∀ l : List MemberRow, (∀ r ∈ l, r ∈ w.net.members.rows) →
      (((l.filter fun r => r.clusterID = m.clusterID).filterMap fun r =>
          (w.net.servers.find? r.serverID).map (MemberInfo.of r)).filter fun i =>
            i.wireGuardIP ≠ m.wireguardIp).map MemberInfo.peer =
        (l.filter fun r => r.clusterID = m.clusterID && r.id ≠ m.id).map peerOf := by
    intro l all
    induction l with
    | nil => rfl
    | cons r l ih =>
      have rest := ih fun r' inside => all r' (List.mem_cons_of_mem _ inside)
      have there := all r List.mem_cons_self
      by_cases own : r.clusterID = m.clusterID
      · obtain ⟨s', found⟩ := Option.isSome_iff_exists.mp (kept.referential r there)
        -- within a cluster a row with the address of `m` is `m`
        have apart : r.wireguardIp = m.wireguardIp ↔ r.id = m.id :=
          ⟨fun same => congrArg _ (kept.addresses r there m mem own same),
            fun same => congrArg _ (kept.ids r there m mem same)⟩
        rw [List.filter_cons, if_pos (decide_eq_true own), List.filterMap_cons, found,
          Option.map_some, List.filter_cons, List.filter_cons]
        by_cases same : r.id = m.id
        · have here : (MemberInfo.of r s').wireGuardIP = m.wireguardIp := apart.mpr same
          rw [if_neg (by simp [here]), if_neg (by simp [same])]
          exact rest
        · have other : (MemberInfo.of r s').wireGuardIP ≠ m.wireguardIp :=
            fun here => same (apart.mp here)
          rw [if_pos (by simpa using other), if_pos (by simp [own, same]), List.map_cons,
            List.map_cons, rest]
          rfl
      · rw [List.filter_cons, if_neg (by simpa using own), List.filter_cons,
          if_neg (by simp [own])]
        exact rest
  rw [generateConfig, memberInfos_eq]
  exact walk _ fun _ inside => inside

theorem of_lastTo {log : List Sent} {agentID : String} {e : Sent}
    (last : lastTo log agentID = some e) :
    e ∈ log ∧ e.agentID = agentID ∧ e.command.configures = true := by
  have found := List.find?_some last
  rw [Bool.and_eq_true] at found
  exact ⟨List.mem_of_find?_eq_some last, of_decide_eq_true found.1, found.2⟩

/-- When no duty is left, a member's agent has the configuration of its cluster. -/
theorem configured_of_done {w : World} (kept : Kept w) (logged : Logged w)
    (done : ∀ d, Done w d) (answered : w.awaited = []) {m : MemberRow}
    (mem : m ∈ w.net.members.rows) : ∃ agentID, agentOf w.net m.serverID = some agentID ∧
      ∃ s, configured w.log agentID =
        some (generateConfig (.of m s) (memberInfos w.net m.clusterID)) := by
  obtain ⟨s, found⟩ := Option.isSome_iff_exists.mp (kept.referential m mem)
  have info : MemberInfo.of m s ∈ memberInfos w.net m.clusterID :=
    mem_memberInfos.mpr ⟨m, mem, rfl, s, found, rfl⟩
  have agent := ((Carried.read kept m.clusterID).agents _ info).1
  refine ⟨_, agent, s, ?_⟩
  -- no member is without a key, so that the last command is of the last change
  obtain ⟨e, last, newer⟩ : Reached w (MemberInfo.of m s).agentID (w.net.changed m.clusterID) := by
    rcases done (.mesh m.clusterID) with ⟨i, inside, bare⟩ | all
    · obtain ⟨m', member, -, s', -, rfl⟩ := mem_memberInfos.mp inside
      have awaits := done (.key m'.id) m' member rfl bare
      rw [answered] at awaits
      cases awaits
    · exact all _ info
  obtain ⟨inside, to_, configures⟩ := of_lastTo last
  obtain ⟨left, joined⟩ := kept.joined m mem
  have holds := logged e inside
  unfold Sent.Holds at holds
  rw [configured, last, Option.bind_some]
  cases sent : e.command with
  | keyGen memberID listenPort =>
    rw [sent] at configures
    cases configures
  | teardown memberID =>
    rw [sent] at holds
    obtain ⟨serverID, agent', gone⟩ := holds
    have same := kept.linked.own _ _ _ (to_ ▸ agent') agent
    have since := gone.since m mem same.symm
    omega
  | apply memberID config ip =>
    rw [sent] at holds
    obtain ⟨members, carried, self, mine, agent', rfl⟩ := holds
    have server : self.serverID = m.serverID :=
      kept.linked.own _ _ _ ((carried.agents self mine).1.trans (congrArg some agent'))
        (to_ ▸ agent)
    rcases carried.seats self mine with gone | ⟨m', member', server', cluster, -⟩
    · rw [server] at gone
      omega
    · obtain rfl : m' = m := Table.eq_of_key_eq member' mem (server'.trans server)
      have past := carried.past
      rw [← cluster] at past
      have read := carried.current (by rw [← cluster]; omega)
      rw [← cluster] at read
      rw [read] at mine
      obtain ⟨m₂, member₂, -, s₂, found₂, rfl⟩ := mem_memberInfos.mp mine
      obtain rfl : m₂ = m' := Table.eq_of_key_eq member₂ mem server
      rw [Command.config, read, Option.some.inj (found₂.symm.trans found)]

theorem converged_of_done {w : World} (kept : Kept w) (logged : Logged w) (done : ∀ d, Done w d)
    (answered : w.awaited = []) : Converged w where
  members m mem := by
    obtain ⟨agentID, agent, s, config⟩ := configured_of_done kept logged done answered mem
    exact ⟨agentID, agent, _, config, rfl, generateConfig_peers kept mem⟩
  removed agentID config has := by
    obtain ⟨e, last, left⟩ := Option.bind_eq_some_iff.mp has
    obtain ⟨inside, to_, configures⟩ := of_lastTo last
    have holds := logged e inside
    unfold Sent.Holds at holds
    cases sent : e.command with
    | keyGen memberID listenPort =>
      rw [sent] at left
      cases left
    | teardown memberID =>
      rw [sent] at left
      cases left
    | apply memberID config' ip =>
      rw [sent] at holds
      obtain ⟨members, carried, self, mine, agent', -⟩ := holds
      have agent := (carried.agents self mine).1
      rw [agent', to_] at agent
      obtain ⟨m, member, server⟩ : ∃ m ∈ w.net.members.rows, m.serverID = self.serverID := by
        rcases carried.seats self mine with gone | ⟨m, member, server, -⟩
        · rcases done (.teardown self.serverID) with never | told
          · omega
          · obtain ⟨e', last', newer⟩ := told agentID agent
            obtain rfl : e = e' := Option.some.inj (last.symm.trans last')
            omega
        · exact ⟨m, member, server⟩
      obtain ⟨agentID', same, s, config'⟩ := configured_of_done kept logged done answered member
      rw [server, agent] at same
      obtain rfl := Option.some.inj same
      obtain rfl := Option.some.inj (has.symm.trans config')
      refine ⟨⟨m, member, server ▸ agent⟩, fun peer listed => ?_⟩
      rw [generateConfig_peers kept member] at listed
      obtain ⟨other, there, own⟩ := List.mem_map.mp listed
      exact ⟨other, (List.mem_filter.mp there).1, own⟩
  peers := kept.peers

/-- **The mesh has converged in every quiescent state of an orderly run.** -/
theorem mesh_converges {n : Network} (fresh : Fresh n) {events : List Event}
    (orderly : Runs.Along step Orderly ({ shared := { net := n } } : ControlPlane) events) :
    ∀ earlier, earlier <+: events →
      Quiescent (earlier.foldl step { shared := { net := n } }) →
        Converged (earlier.foldl step { shared := { net := n } }).shared := by
  intro earlier first quiescent
  have good : Good (earlier.foldl step { shared := { net := n } }) :=
    (orderly.of_prefix first).invariant (fun _ _ ok good => good.step ok) fresh.good
  obtain ⟨kept, logged⟩ := good.held.shared
  exact converged_of_done kept logged (good.covered.done_of_idle quiescent.idle) quiescent.answered

/-- A cluster of a team and two servers with their agents. -/
def twoServers : Network where
  clusters := ⟨[{ id := 1, teamID := 9, cidr := ⟨0x0a640000, 16⟩ }], by decide⟩
  servers := ⟨[{ id := 5, teamID := 9, agentID := some "agent-5" },
    { id := 6, teamID := 9, agentID := some "agent-6" }], by decide⟩

theorem fresh_twoServers : Fresh twoServers where
  members := rfl
  peers := rfl
  changed _ := le_rfl
  linked := by
    have rows : ∀ {id : UUID} {s : ServerRow}, twoServers.servers.find? id = some s →
        (id = 5 ∧ s.agentID = some "agent-5") ∨ (id = 6 ∧ s.agentID = some "agent-6") := by
      intro id s found
      have key : s.id = id := Table.key_of_find? found
      have mem : s ∈ twoServers.servers.rows := Table.mem_of_find? found
      rcases List.mem_cons.mp mem with rfl | mem
      · exact .inl ⟨key.symm, rfl⟩
      · obtain rfl := List.mem_singleton.mp mem
        exact .inr ⟨key.symm, rfl⟩
    have agent : ∀ {id : UUID} {agentID : String}, agentOf twoServers id = some agentID →
        (id = 5 ∧ agentID = "agent-5") ∨ (id = 6 ∧ agentID = "agent-6") := by
      intro id agentID known
      obtain ⟨s, found, own⟩ := Option.bind_eq_some_iff.mp known
      rcases rows found with ⟨here, linked⟩ | ⟨here, linked⟩
      · exact .inl ⟨here, Option.some.inj (own.symm.trans linked)⟩
      · exact .inr ⟨here, Option.some.inj (own.symm.trans linked)⟩
    refine ⟨fun id there => ?_, fun id id' agentID first second => ?_⟩
    · obtain ⟨s, found⟩ := Option.isSome_iff_exists.mp there
      rw [agentOf, found, Option.bind_some]
      rcases rows found with ⟨-, linked⟩ | ⟨-, linked⟩
      · exact ⟨_, linked, by decide⟩
      · exact ⟨_, linked, by decide⟩
    · rcases agent first with ⟨here, rfl⟩ | ⟨here, rfl⟩ <;>
        rcases agent second with ⟨here', same⟩ | ⟨here', same⟩
      · exact here.trans here'.symm
      · exact absurd same (by decide)
      · exact absurd same (by decide)
      · exact here.trans here'.symm

def turns (n i : Nat) : List Event := List.replicate n (.turn i)

/-- Both servers join, one after the other, and the second leaves. -/
def joinAndLeave : List Event :=
  [Event.request (.addMember ⟨1, 5, 9⟩ 7)] ++ turns 8 0 ++
    [Event.request (.keyGenResult 7 "key-of-5" true)] ++ turns 7 0 ++
    [Event.request (.addMember ⟨1, 6, 9⟩ 8)] ++ turns 8 0 ++
    [Event.request (.keyGenResult 8 "key-of-6" true)] ++ turns 10 0 ++
    [Event.request (.removeMember ⟨9, 1, 6⟩)] ++ turns 11 0

theorem converged_joinAndLeave :
    Converged (joinAndLeave.foldl step { shared := { net := twoServers } }).shared := by
  refine @mesh_converges twoServers fresh_twoServers joinAndLeave (by decide +kernel) _
    List.prefix_rfl ⟨?_, by decide +kernel⟩
  exact List.eq_nil_of_length_eq_zero (by decide +kernel)

/-- The regeneration of the first member's key has read its members when the second joins, and
pushes behind that of the second. -/
def overtaking : List Event :=
  [Event.request (.addMember ⟨1, 5, 9⟩ 7)] ++ turns 8 0 ++
    [Event.request (.keyGenResult 7 "key-of-5" true)] ++ turns 5 0 ++
    [Event.request (.addMember ⟨1, 6, 9⟩ 8)] ++ turns 8 1 ++
    [Event.request (.keyGenResult 8 "key-of-6" true)] ++ turns 10 1 ++ turns 2 0

theorem overtaken_push : Fresh twoServers ∧
    Quiescent (overtaking.foldl step { shared := { net := twoServers } }) ∧
    ¬ Converged (overtaking.foldl step { shared := { net := twoServers } }).shared := by
  refine ⟨fresh_twoServers, ⟨?_, by decide +kernel⟩, fun converged => ?_⟩
  · exact List.eq_nil_of_length_eq_zero (by decide +kernel)
  · -- the first member's agent knows no peer
    generalize reached : (overtaking.foldl step { shared := { net := twoServers } }).shared = w
      at converged
    have rows : (w.net.members.rows.map fun m => (m.serverID, (othersOf w.net m).length)) =
        [(6, 1), (5, 1)] := by
      rw [← reached]
      decide +kernel
    have known : agentOf w.net 5 = some "agent-5" := by
      rw [← reached]
      decide +kernel
    have alone : (configured w.log "agent-5").map (fun config => config.peers.length) = some 0 := by
      rw [← reached]
      decide +kernel
    have mem : ((5, 1) : UUID × Nat) ∈
        w.net.members.rows.map fun m => (m.serverID, (othersOf w.net m).length) := by
      rw [rows]
      exact List.mem_cons_of_mem _ (List.mem_singleton_self _)
    obtain ⟨m, inside, own⟩ := List.mem_map.mp mem
    obtain ⟨server, others⟩ := Prod.mk.inj own
    obtain ⟨agentID, agent, config, has, -, peers⟩ := converged.members m inside
    rw [server, known] at agent
    obtain rfl := Option.some.inj agent
    rw [has, Option.map_some, peers, List.length_map, others] at alone
    cases alone

end Nixway.Cluster.Mesh
