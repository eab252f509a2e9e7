/-
# Cluster.Addresses -- the least free address

`AllocateServerIP` of `internal/cluster/cidr.go` in a network of 16 bits: a walk over the addresses
of the network from `x.y.0.1` on, in the bytes of the source.  It ends with the last address of the
network, also where the address after that is `0.0.0.0`.

`addresses_least` is about the members of one cluster over any run of `AddMember` and `RemoveMember`:
an address that is assigned is the least that no member has, and the addresses stay different.
-/
import Nixway.Cluster.FullMesh
import Nixway.Cluster.Membership
import Nixway.Theory.FirstFree
import Nixway.Theory.Octets

namespace Nixway.Cluster

open Nixway.Theory Nixway.Store
open Nixway.Theory.Octets (Octet value increment value_increment)
open Nixway.Theory.FirstFree (Walk Path)
open Nixway.Cluster.Mesh (addrString addrString_inj)

set_option autoImplicit false

/-! ## The loop of the source -/

def octets (ip : IP) : List Octet :=
  [ip.extractLsb' 24 8, ip.extractLsb' 16 8, ip.extractLsb' 8 8, ip.extractLsb' 0 8]

def ofOctets (bytes : List Octet) : IP := BitVec.ofNat 32 (value bytes)

def incrementIP (ip : IP) : IP := ofOctets (increment (octets ip))

/-- Where the loop starts: `ip[3] = 1`. -/
def firstIP (cidr : Cidr) : IP := ofOctets ((octets cidr.ip).set 3 1)

/-- A run of the loop; the addresses in use are compared by their texts. -/
def Searches (cidr : Cidr) (usedIPs : List IP) : IP → Option IP → Prop :=
  Walk (fun ip => cidr.contains ip = true) (fun ip => some (incrementIP ip))
    fun ip => addrString ip ∈ usedIPs.map addrString

theorem value_octets (ip : IP) : value (octets ip) = ip.toNat := by
  have bound := ip.isLt
  simp only [value, octets, List.reverse_cons, List.reverse_nil, List.nil_append, List.cons_append,
    List.map_cons, List.map_nil, Nat.ofDigits_cons, Nat.ofDigits_nil, BitVec.extractLsb'_toNat,
    Nat.shiftRight_eq_div_pow]
  omega

theorem incrementIP_eq (ip : IP) : incrementIP ip = ip + 1 := by
  refine BitVec.eq_of_toNat_eq ?_
  have four : (octets ip).length = 4 := rfl
  rw [incrementIP, ofOctets, value_increment, value_octets, four, BitVec.toNat_ofNat, BitVec.toNat_add]
  exact Nat.mod_mod _ _

theorem toNat_firstIP (cidr : Cidr) : (firstIP cidr).toNat = cidr.ip.toNat / 256 * 256 + 1 := by
  have bound := cidr.ip.isLt
  have one : (1 : Octet).toNat = 1 := rfl
  have bytes : value ((octets cidr.ip).set 3 1) = cidr.ip.toNat / 256 * 256 + 1 := by
    simp only [value, octets, List.set_cons_succ, List.set_cons_zero, List.reverse_cons,
      List.reverse_nil, List.nil_append, List.cons_append, List.map_cons, List.map_nil,
      Nat.ofDigits_cons, Nat.ofDigits_nil, BitVec.extractLsb'_toNat, Nat.shiftRight_eq_div_pow, one]
    omega
  rw [firstIP, ofOctets, bytes, BitVec.toNat_ofNat]
  omega

theorem firstIP_eq (cidr : Cidr) : cidr.ip &&& 0xffffff00 ||| 1 = firstIP cidr := by
  have masked : cidr.ip &&& (0xffffff00 : IP) = cidr.ip >>> 8 <<< 8 := by
    have mask : ∀ i < 32, (0xffffff00 : IP).getLsbD i = decide (8 ≤ i) := by decide
    refine BitVec.eq_of_getLsbD_eq fun i inside => ?_
    rw [BitVec.getLsbD_and, mask i inside, BitVec.getLsbD_shiftLeft, BitVec.getLsbD_ushiftRight]
    by_cases high : 8 ≤ i
    · have split : 8 + (i - 8) = i := by omega
      simp [inside, high, split]
    · simp [inside, high]
  have bound := cidr.ip.isLt
  have wide : cidr.ip.toNat / 256 * 256 < 2 ^ 32 := by omega
  refine BitVec.eq_of_toNat_eq ?_
  rw [toNat_firstIP, masked, BitVec.toNat_or, BitVec.toNat_shiftLeft, BitVec.toNat_ushiftRight,
    Nat.shiftRight_eq_div_pow, Nat.shiftLeft_eq, Nat.mod_eq_of_lt wide, Nat.mul_comm]
  have low : 1 < 2 ^ 8 := by decide
  exact (Nat.two_pow_add_eq_or_of_lt low (cidr.ip.toNat / 256)).symm

/-! ## Networks of 16 bits -/

/-- `x.y.0.0/16`. -/
structure Slash16 (cidr : Cidr) : Prop where
  ones : cidr.ones = 16
  network : cidr.ip.toNat % 65536 = 0

/-- An address of the network at or above `x.y.0.1`. -/
def IsHost (cidr : Cidr) (ip : IP) : Prop := cidr.contains ip = true ∧ cidr.ip.toNat + 1 ≤ ip.toNat

/-- The address with a number. -/
def host (cidr : Cidr) (k : Nat) : IP := cidr.ip + BitVec.ofNat 32 k

def hosts (cidr : Cidr) : List IP := (List.range' 1 65535).map (host cidr)

theorem length_hosts (cidr : Cidr) : (hosts cidr).length = 65535 := by
  rw [hosts, List.length_map, List.length_range']

namespace Slash16

variable {cidr : Cidr}

theorem contains_iff (net : Slash16 cidr) {ip : IP} :
    cidr.contains ip = true ↔ ip.toNat / 65536 = cidr.ip.toNat / 65536 := by
  rw [Cidr.contains, net.ones, beq_iff_eq, ← BitVec.toNat_inj, BitVec.toNat_ushiftRight,
    BitVec.toNat_ushiftRight, Nat.shiftRight_eq_div_pow, Nat.shiftRight_eq_div_pow]

theorem toNat_host (net : Slash16 cidr) {k : Nat} (small : k < 65536) :
    (host cidr k).toNat = cidr.ip.toNat + k := by
  have bound := cidr.ip.isLt
  have aligned := net.network
  rw [host, BitVec.toNat_add, BitVec.toNat_ofNat]
  omega

theorem path (net : Slash16 cidr) {m k : Nat} (rest : k + m = 65536) :
    Path (fun ip => cidr.contains ip = true) (fun ip => some (incrementIP ip)) (host cidr k)
      ((List.range' k m).map (host cidr)) := by
  have bound := cidr.ip.isLt
  have aligned := net.network
  induction m generalizing k with
  | zero =>
    refine .left fun inside => ?_
    rw [net.contains_iff, host, BitVec.toNat_add, BitVec.toNat_ofNat] at inside
    omega
  | succ m ih =>
    rw [List.range'_succ, List.map_cons]
    refine .more ?_ ?_ (ih (by omega))
    · rw [net.contains_iff, net.toNat_host (by omega)]
      omega
    · rw [incrementIP_eq, host, host, BitVec.ofNat_add, ← BitVec.add_assoc]
      rfl

theorem first_host (net : Slash16 cidr) : firstIP cidr = host cidr 1 := by
  have aligned := net.network
  refine BitVec.eq_of_toNat_eq ?_
  rw [toNat_firstIP, net.toNat_host (by decide)]
  omega

theorem mem_hosts (net : Slash16 cidr) {ip : IP} : ip ∈ hosts cidr ↔ IsHost cidr ip := by
  have aligned := net.network
  rw [hosts, List.mem_map, IsHost, net.contains_iff]
  constructor
  · rintro ⟨k, inside, rfl⟩
    rw [List.mem_range'_1] at inside
    rw [net.toNat_host (by omega)]
    omega
  · rintro ⟨inside, above⟩
    refine ⟨ip.toNat - cidr.ip.toNat, List.mem_range'_1.mpr (by omega), BitVec.eq_of_toNat_eq ?_⟩
    rw [net.toNat_host (by omega)]
    omega

theorem order (net : Slash16 cidr) :
    (hosts cidr).Pairwise fun a b : IP => a.toNat < b.toNat := by
  have numbers : (List.range' 1 65535).Pairwise (· < ·) := List.pairwise_lt_range'
  refine List.pairwise_map.mpr (numbers.imp_of_mem fun {a b} inA inB less => ?_)
  rw [List.mem_range'_1] at inA inB
  rw [net.toNat_host (by omega), net.toNat_host (by omega)]
  exact Nat.add_lt_add_left less _

theorem nodup (net : Slash16 cidr) : (hosts cidr).Nodup :=
  net.order.imp fun less same => absurd (same ▸ less) (Nat.lt_irrefl _)

end Slash16

/-! ## The allocation -/

/-- The least address of a network that is not in use. -/
structure LeastFree (cidr : Cidr) (usedIPs : List IP) (ip : IP) : Prop where
  host : IsHost cidr ip
  free : ip ∉ usedIPs
  least : ∀ other, IsHost cidr other → other ∉ usedIPs → ip.toNat ≤ other.toNat

/-- More rounds than there are used addresses on the way are enough. -/
theorem nextFree_path {cidr : Cidr} {usedIPs places : List IP} {ip : IP}
    (path : Path (fun ip => cidr.contains ip = true) (fun ip => some (incrementIP ip)) ip places)
    {rounds : Nat} (enough : places.countP (· ∈ usedIPs) < rounds) :
    nextFree cidr usedIPs rounds ip = places.find? fun a => ¬ a ∈ usedIPs := by
  induction path generalizing rounds with
  | left out =>
    obtain ⟨rounds, rfl⟩ := Nat.exists_eq_succ_of_ne_zero (Nat.ne_zero_of_lt enough)
    rw [nextFree, if_neg out]
    rfl
  | last here last => cases last
  | @more ip next places here go rest ih =>
    obtain ⟨rounds, rfl⟩ := Nat.exists_eq_succ_of_ne_zero (Nat.ne_zero_of_lt enough)
    rw [nextFree, if_pos here]
    by_cases used : ip ∈ usedIPs
    · have counted := @List.countP_cons_of_pos IP (· ∈ usedIPs) ip places (decide_eq_true used)
      rw [counted] at enough
      rw [if_pos used, List.find?_cons_of_neg (by simpa using used), ← incrementIP_eq,
        Option.some.inj go]
      exact ih (by omega)
    · rw [if_neg used, List.find?_cons_of_pos (by simpa using used)]

namespace Slash16

variable {cidr : Cidr}

/-- The allocation is the first of the hosts that is free. -/
theorem allocate_eq (net : Slash16 cidr) (usedIPs : List IP) :
    allocateServerIP cidr usedIPs = (hosts cidr).find? fun a => ¬ a ∈ usedIPs := by
  rw [allocateServerIP, firstIP_eq, net.first_host]
  refine nextFree_path (net.path rfl) (Nat.lt_succ_of_le ?_)
  rw [List.countP_eq_length_filter]
  refine (List.subperm_of_subset (net.nodup.filter _) fun a member => ?_).length_le
  exact of_decide_eq_true (List.mem_filter.mp member).2

/-- **The loop of the source ends with what the model allocates.** -/
theorem searches (net : Slash16 cidr) (usedIPs : List IP) :
    Searches cidr usedIPs (firstIP cidr) (allocateServerIP cidr usedIPs) := by
  have texts : ∀ a, a ∈ usedIPs ↔ addrString a ∈ usedIPs.map addrString := fun a =>
    (List.mem_map_of_injective fun _ _ => addrString_inj.mp).symm
  have walk := (net.path (k := 1) (m := 65535) rfl).walk fun ip => addrString ip ∈ usedIPs.map addrString
  rw [net.allocate_eq, net.first_host]
  simp only [texts]
  exact walk

theorem allocate_some (net : Slash16 cidr) {usedIPs : List IP} {ip : IP}
    (found : allocateServerIP cidr usedIPs = some ip) : LeastFree cidr usedIPs ip := by
  rw [net.allocate_eq] at found
  obtain ⟨member, free, least⟩ := FirstFree.find?_least net.order found
  refine ⟨net.mem_hosts.mp member, of_decide_eq_true free, fun other inside unused => ?_⟩
  obtain rfl | less := least other (net.mem_hosts.mpr inside) (decide_eq_true unused)
  · exact Nat.le_refl _
  · exact Nat.le_of_lt less

theorem allocate_none (net : Slash16 cidr) {usedIPs : List IP} :
    allocateServerIP cidr usedIPs = none ↔ ∀ ip, IsHost cidr ip → ip ∈ usedIPs := by
  rw [net.allocate_eq, List.find?_eq_none]
  constructor
  · intro all ip inside
    by_contra free
    exact all ip (net.mem_hosts.mpr inside) (decide_eq_true free)
  · intro all ip member free
    exact of_decide_eq_true free (all ip (net.mem_hosts.mp member))

/-- All addresses are in use if 65535 are. -/
theorem full_iff (net : Slash16 cidr) {usedIPs : List IP} (nodup : usedIPs.Nodup)
    (inside : ∀ ip ∈ usedIPs, IsHost cidr ip) :
    (∀ ip, IsHost cidr ip → ip ∈ usedIPs) ↔ usedIPs.length = 65535 := by
  have subset : List.Subperm usedIPs (hosts cidr) :=
    List.subperm_of_subset nodup fun ip member => net.mem_hosts.mpr (inside ip member)
  constructor
  · intro all
    have superset : List.Subperm (hosts cidr) usedIPs :=
      List.subperm_of_subset net.nodup fun ip member => all ip (net.mem_hosts.mp member)
    rw [← length_hosts cidr]
    exact Nat.le_antisymm subset.length_le superset.length_le
  · intro full ip host
    have perm := subset.perm_of_length_le (by rw [length_hosts, full])
    exact perm.mem_iff.mpr (net.mem_hosts.mpr host)

end Slash16

/-! ## Members -/

/-- A call of the service in a run without store errors. -/
inductive MemberCall where
  | add (req : AddMemberRequest) (id : UUID)
  | remove (clusterID serverID : UUID)

def MemberCall.call : MemberCall → Call
  | .add req id => .addMember req id {}
  | .remove clusterID serverID => .removeMember clusterID serverID {}

def serveAll (n : Network) (calls : List MemberCall) : Network :=
  calls.foldl (fun n c => serve n c.call) n

/-- The addresses of a cluster's members are different, and hosts of its network. -/
structure Addressed (n : Network) (cluster : ClusterRow) : Prop where
  nodup : (n.listClusterMemberIPs cluster.id).Nodup
  inside : ∀ ip ∈ n.listClusterMemberIPs cluster.id, IsHost cluster.cidr ip

/-- A request for a cluster whose checks pass. -/
structure GetsToAllocation (n : Network) (cluster : ClusterRow) (req : AddMemberRequest) : Prop where
  mine : req.clusterID = cluster.id
  cluster : (n.getClusterByID req.clusterID req.teamID).isSome
  server : (n.getServerByID req.serverID req.teamID).isSome
  alone : n.getClusterMemberByServerID req.serverID = none

def noAddress : Except String MemberRow := .error "allocate WireGuard IP: no available IPs in CIDR"

section

variable {n : Network} {cluster : ClusterRow} {req : AddMemberRequest} {id : UUID}

theorem run_addMember {srv : ServerRow}
    (foundCluster : n.getClusterByID req.clusterID req.teamID = some cluster)
    (foundServer : n.getServerByID req.serverID req.teamID = some srv)
    (alone : n.getClusterMemberByServerID req.serverID = none) :
    (addMember req id {}).run n =
      match allocateServerIP cluster.cidr (n.listClusterMemberIPs req.clusterID) with
      | none => (n, noAddress)
      | some wgIP =>
        match n.createClusterMember (req.member id wgIP srv) with
        | none => (n, .error ("create member: " ++ "constraint violation"))
        | some n' => (n'.updateServerClusterID req.serverID req.clusterID,
            .ok (req.member id wgIP srv)) := by
  unfold addMember
  simp only [Prog.run_query_bind, foundCluster, foundServer, alone, fetch]
  cases allocateServerIP cluster.cidr (n.listClusterMemberIPs req.clusterID) with
  | none => rfl
  | some wgIP =>
    simp only [Prog.run_atomic_bind]
    cases n.createClusterMember (req.member id wgIP srv) with
    | none => rfl
    | some n' => rfl

theorem created_rows {n' : Network} {m : MemberRow} (created : n.createClusterMember m = some n') :
    n'.clusters = n.clusters ∧
      n'.members.rows = { m with joined := n.stamp + 1 } :: n.members.rows := by
  unfold Network.createClusterMember at created
  split at created
  · obtain ⟨members, inserted, rfl⟩ := Option.map_eq_some_iff.mp created
    exact ⟨rfl, (Table.insert?_eq_some_iff.mp inserted).2⟩
  · cases created

theorem listIPs_created {n' : Network} {m : MemberRow} (created : n.createClusterMember m = some n')
    (clusterID : UUID) : n'.listClusterMemberIPs clusterID =
      if m.clusterID = clusterID then m.wireguardIp :: n.listClusterMemberIPs clusterID
      else n.listClusterMemberIPs clusterID := by
  unfold Network.listClusterMemberIPs
  rw [(created_rows created).2]
  by_cases mine : m.clusterID = clusterID
  · rw [if_pos mine]
    have kept := @List.filter_cons_of_pos MemberRow (fun m => m.clusterID = clusterID)
      { m with joined := n.stamp + 1 } n.members.rows (decide_eq_true mine)
    rw [kept]
    rfl
  · rw [if_neg mine]
    have dropped := @List.filter_cons_of_neg MemberRow (fun m => m.clusterID = clusterID)
      { m with joined := n.stamp + 1 } n.members.rows (by simpa using mine)
    rw [dropped]

theorem created_of_fresh {srv : ServerRow} {wgIP : IP}
    (foundCluster : n.getClusterByID req.clusterID req.teamID = some cluster)
    (foundServer : n.getServerByID req.serverID req.teamID = some srv)
    (alone : n.getClusterMemberByServerID req.serverID = none)
    (free : wgIP ∉ n.listClusterMemberIPs req.clusterID) (fresh : ∀ m ∈ n.members.rows, m.id ≠ id) :
    ∃ n', n.createClusterMember (req.member id wgIP srv) = some n' := by
  have knownCluster : (n.clusters.find? req.clusterID).isSome :=
    Option.isSome_of_isSome_filter _ _ (Option.isSome_of_eq_some foundCluster)
  have knownServer : (n.servers.find? req.serverID).isSome :=
    Option.isSome_of_isSome_filter _ _ (Option.isSome_of_eq_some foundServer)
  have unique : (n.members.rows.all fun other => other.id ≠ id ∧
      ¬ (other.clusterID = req.clusterID ∧ other.wireguardIp = wgIP)) = true := by
    refine List.all_eq_true.mpr fun other member => decide_eq_true ⟨fresh other member, ?_⟩
    rintro ⟨mine, rfl⟩
    exact free (List.mem_map.mpr ⟨other, List.mem_filter.mpr ⟨member, decide_eq_true mine⟩, rfl⟩)
  unfold Network.createClusterMember
  rw [if_pos ⟨knownCluster, knownServer, unique⟩]
  cases inserted : n.members.insert? { req.member id wgIP srv with joined := n.stamp + 1 } with
  | none => exact absurd alone (Table.insert?_eq_none_iff.mp inserted)
  | some members => exact ⟨_, rfl⟩

theorem cluster_of_found {found : ClusterRow} {id teamID : UUID} (known : cluster ∈ n.clusters.rows)
    (mine : id = cluster.id) (here : n.getClusterByID id teamID = some found) : found = cluster := by
  have row := (Option.filter_eq_some_iff.mp here).1
  rw [mine] at row
  exact Option.some.inj (row.symm.trans (Table.find?_self known))

theorem newMember_some {m : MemberRow} (new : newMember n req id {} = some m) :
    ∃ found srv wgIP, n.getClusterByID req.clusterID req.teamID = some found ∧
      allocateServerIP found.cidr (n.listClusterMemberIPs req.clusterID) = some wgIP ∧
      m = req.member id wgIP srv := by
  unfold newMember at new
  cases foundCluster : n.getClusterByID req.clusterID req.teamID with
  | none => rw [foundCluster] at new; cases new
  | some found =>
    cases foundServer : n.getServerByID req.serverID req.teamID with
    | none => rw [foundCluster, foundServer] at new; cases new
    | some srv =>
      cases foundMember : n.getClusterMemberByServerID req.serverID with
      | some other => rw [foundCluster, foundServer, foundMember] at new; cases new
      | none =>
        rw [foundCluster, foundServer, foundMember] at new
        obtain ⟨wgIP, allocated, row⟩ := Option.bind_eq_some_iff.mp new
        obtain ⟨-, row⟩ := Option.ite_none_right_eq_some.mp row
        exact ⟨found, srv, wgIP, rfl, allocated, (Option.some.inj row).symm⟩

theorem removed_sublist (n : Network) (clusterID serverID : UUID) :
    ((removeMember clusterID serverID {}).out n).clusters = n.clusters ∧
      List.Sublist ((removeMember clusterID serverID {}).out n).members.rows n.members.rows := by
  cases found : n.members.find? serverID with
  | none =>
    have out : (removeMember clusterID serverID {}).out n = n := by
      unfold removeMember Prog.out
      simp only [Prog.run_query_bind, Network.getClusterMemberByServerID, found, fetch, Prog.run_done]
    rw [out]
    exact ⟨rfl, List.Sublist.refl _⟩
  | some m =>
    have out : (removeMember clusterID serverID {}).out n =
        ((n.deletePeersByMember m.id).deleteClusterMember clusterID serverID).clearServerClusterID
          serverID := by
      rw [removeMember_out found rfl rfl]
      rfl
    rw [out]
    obtain ⟨-, same⟩ | ⟨gone, -, -, deleted⟩ :=
      deleteClusterMember_cases (n.deletePeersByMember m.id) clusterID serverID
    · rw [same]
      exact ⟨rfl, List.Sublist.refl _⟩
    · rw [deleted]
      exact ⟨rfl, List.filter_sublist⟩

theorem out_ignore {α : Type} (p : Prog Network α) (n : Network) : p.ignore.out n = p.out n := by
  rw [Prog.ignore, Prog.out, Prog.run_bind]
  rfl

theorem Addressed.serve (known : cluster ∈ n.clusters.rows) (net : Slash16 cluster.cidr)
    (addressed : Addressed n cluster) (c : MemberCall) :
    (Cluster.serve n c.call).clusters = n.clusters ∧ Addressed (Cluster.serve n c.call) cluster := by
  cases c with
  | remove clusterID serverID =>
    have out : Cluster.serve n (MemberCall.remove clusterID serverID).call =
        (removeMember clusterID serverID {}).out n := by
      unfold Cluster.serve MemberCall.call Call.prog
      exact out_ignore _ _
    obtain ⟨same, fewer⟩ := removed_sublist n clusterID serverID
    have ips := (fewer.filter fun m => m.clusterID = cluster.id).map MemberRow.wireguardIp
    rw [out]
    exact ⟨same, addressed.nodup.sublist ips, fun ip member => addressed.inside ip (ips.subset member)⟩
  | add req id =>
    have out : Cluster.serve n (MemberCall.add req id).call = (addMember req id {}).out n := by
      unfold Cluster.serve MemberCall.call Call.prog
      exact out_ignore _ _
    rw [out]
    obtain ⟨same, -⟩ | ⟨m, n', new, created, own, -, inserted⟩ := addMember_cases n req id {}
    · rw [same]
      exact ⟨rfl, addressed⟩
    · have ips := listIPs_created created cluster.id
      obtain ⟨found, srv, wgIP, here, allocated, rfl⟩ := newMember_some new
      rw [inserted, if_neg (by decide)]
      refine ⟨(created_rows created).1, ?_⟩
      have after : ((n'.updateServerClusterID req.serverID req.clusterID).listClusterMemberIPs cluster.id) =
          n'.listClusterMemberIPs cluster.id := rfl
      by_cases mine : req.clusterID = cluster.id
      · obtain rfl := cluster_of_found known mine here
        rw [mine] at allocated
        have least := net.allocate_some allocated
        rw [if_pos (own.trans mine)] at ips
        refine ⟨?_, ?_⟩
        · rw [after, ips]
          exact List.nodup_cons.mpr ⟨least.free, addressed.nodup⟩
        · rw [after, ips]
          exact List.forall_mem_cons.mpr ⟨least.host, addressed.inside⟩
      · rw [if_neg fun same => mine (own.symm.trans same)] at ips
        exact ⟨after ▸ ips ▸ addressed.nodup, after ▸ ips ▸ addressed.inside⟩

theorem Addressed.serveAll (known : cluster ∈ n.clusters.rows) (net : Slash16 cluster.cidr)
    (addressed : Addressed n cluster) (calls : List MemberCall) :
    cluster ∈ (Cluster.serveAll n calls).clusters.rows ∧
      Addressed (Cluster.serveAll n calls) cluster := by
  induction calls generalizing n with
  | nil => exact ⟨known, addressed⟩
  | cons c calls ih =>
    obtain ⟨same, after⟩ := addressed.serve known net c
    exact ih (same ▸ known) after

/-- What a request gets that gets to the allocation: the least free address, as long as the 65535
addresses are not all taken; then nothing but a row with the same key stands in its way. -/
structure Assigns (n : Network) (cluster : ClusterRow) (req : AddMemberRequest) (id : UUID) : Prop where
  least : ∀ member, (addMember req id {}).result n = .ok member →
    LeastFree cluster.cidr (n.listClusterMemberIPs cluster.id) member.wireguardIp ∧
      ((addMember req id {}).out n).listClusterMemberIPs cluster.id =
        member.wireguardIp :: n.listClusterMemberIPs cluster.id
  full : (addMember req id {}).result n = noAddress ↔
    ∀ ip, IsHost cluster.cidr ip → ip ∈ n.listClusterMemberIPs cluster.id
  count : (addMember req id {}).result n = noAddress ↔
    (n.listClusterMemberIPs cluster.id).length = 65535
  takes : (n.listClusterMemberIPs cluster.id).length ≠ 65535 → (∀ m ∈ n.members.rows, m.id ≠ id) →
    ∃ member, (addMember req id {}).result n = .ok member

theorem Addressed.assigns (known : cluster ∈ n.clusters.rows) (net : Slash16 cluster.cidr)
    (addressed : Addressed n cluster) (gets : GetsToAllocation n cluster req) (id : UUID) :
    Assigns n cluster req id := by
  obtain ⟨mine, hasCluster, hasServer, alone⟩ := gets
  obtain ⟨found, foundCluster⟩ := Option.isSome_iff_exists.mp hasCluster
  obtain ⟨srv, foundServer⟩ := Option.isSome_iff_exists.mp hasServer
  obtain rfl := cluster_of_found known mine foundCluster
  have run := @run_addMember n found req id srv foundCluster foundServer alone
  have fullIff := net.full_iff addressed.nodup addressed.inside
  rw [mine] at run
  have refused : ∀ err, ("create member: " ++ err) ≠ "allocate WireGuard IP: no available IPs in CIDR" := by
    intro err same
    have first := congrArg (fun s : String => s.toList.head?) same
    simp at first
  have failed : (addMember req id {}).result n = noAddress ↔
      allocateServerIP found.cidr (n.listClusterMemberIPs found.id) = none := by
    unfold Prog.result
    rw [run]
    cases allocateServerIP found.cidr (n.listClusterMemberIPs found.id) with
    | none => exact iff_of_true rfl rfl
    | some wgIP =>
      refine iff_of_false ?_ nofun
      dsimp only
      cases n.createClusterMember (req.member id wgIP srv) with
      | none => exact fun same => refused _ (Except.error.inj same)
      | some n' => exact nofun
  refine ⟨fun member answer => ?_, failed.trans net.allocate_none,
    (failed.trans net.allocate_none).trans fullIff, fun left fresh => ?_⟩
  · unfold Prog.result at answer
    unfold Prog.out
    rw [run] at answer ⊢
    cases allocated : allocateServerIP found.cidr (n.listClusterMemberIPs found.id) with
    | none => rw [allocated] at answer; cases answer
    | some wgIP =>
      rw [allocated] at answer
      dsimp only at answer ⊢
      cases created : n.createClusterMember (req.member id wgIP srv) with
      | none => rw [created] at answer; cases answer
      | some n' =>
        rw [created] at answer
        obtain rfl := Except.ok.inj answer
        have ips := listIPs_created created found.id
        have own : (req.member id wgIP srv).clusterID = found.id := mine
        rw [if_pos own] at ips
        exact ⟨net.allocate_some allocated, ips⟩
  · cases allocated : allocateServerIP found.cidr (n.listClusterMemberIPs found.id) with
    | none => exact absurd (fullIff.mp (net.allocate_none.mp allocated)) left
    | some wgIP =>
      have free := (net.allocate_some allocated).free
      rw [← mine] at free
      obtain ⟨n', created⟩ := created_of_fresh foundCluster foundServer alone free fresh
      refine ⟨req.member id wgIP srv, ?_⟩
      unfold Prog.result
      rw [run, allocated]
      dsimp only
      rw [created]

end

/-- **Members get the least free address.**  In every run of calls on a cluster with a network of 16
bits, the loop over the addresses ends, and a request that gets to it is given the first free address,
or none when there is none; the members' addresses stay different, and inside the network. -/
theorem addresses_least {n : Network} {cluster : ClusterRow} (known : cluster ∈ n.clusters.rows)
    (net : Slash16 cluster.cidr) (begins : Addressed n cluster) (calls : List MemberCall) :
    Addressed (serveAll n calls) cluster ∧
      (∀ usedIPs, Searches cluster.cidr usedIPs (firstIP cluster.cidr)
        (allocateServerIP cluster.cidr usedIPs)) ∧
      ∀ req id, GetsToAllocation (serveAll n calls) cluster req →
        Assigns (serveAll n calls) cluster req id := by
  obtain ⟨still, addressed⟩ := begins.serveAll known net calls
  exact ⟨addressed, net.searches, fun req id gets => addressed.assigns still net gets id⟩

/-- A member joins, leaves and joins again. -/
theorem addresses_rejoined :
    let cluster : ClusterRow := { id := 1, teamID := 9, cidr := ⟨0x0a640000, 16⟩ }
    let n := serveAll twoClusters [.add ⟨1, 5, 9⟩ 7, .remove 1 5]
    Addressed n cluster ∧ Assigns n cluster ⟨1, 5, 9⟩ 8 := by
  intro cluster n
  have begins : Addressed twoClusters cluster := ⟨List.nodup_nil, nofun⟩
  have gets : GetsToAllocation n cluster ⟨1, 5, 9⟩ :=
    ⟨rfl, by decide +kernel, by decide +kernel, by decide +kernel⟩
  obtain ⟨addressed, -, assigns⟩ := @addresses_least twoClusters cluster List.mem_cons_self
    ⟨rfl, by decide +kernel⟩ begins [.add ⟨1, 5, 9⟩ 7, .remove 1 5]
  exact ⟨addressed, assigns _ 8 gets⟩

end Nixway.Cluster
