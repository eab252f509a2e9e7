/-
# Cluster.Network -- clusters, their members and the mesh's tables

The tables of migration 3 that `internal/cluster/service.go` and `internal/mesh/manager.go`
change, with their statements, and the allocator of WireGuard addresses.  `cluster_members`
is keyed by `server_id`, which is UNIQUE; its primary key and the address's uniqueness are
checked by the insert.  Every statement that changes a member is stamped: `stamp` counts
them, and `changed` is the stamp of a cluster's last change.
-/
import Nixway.Intake.Handlers

namespace Nixway.Cluster

open Nixway.Theory Nixway.Store
open Nixway.Intake (PeerStatus)

set_option autoImplicit false

/-! ## Addresses -/

abbrev IP := BitVec 32

/-- An IPv4 network: `ip.Mask(mask)` and the length of the mask. -/
structure Cidr where
  ip : IP
  ones : Nat
deriving DecidableEq

/-- `IPNet.Contains`. -/
def Cidr.contains (cidr : Cidr) (ip : IP) : Bool :=
  ip >>> (32 - cidr.ones) == cidr.ip >>> (32 - cidr.ones)

/-- The loop of `AllocateServerIP`.  A round passes an address that is used, so as many
rounds as there are used addresses, and one more, are enough. -/
def nextFree (cidr : Cidr) (usedIPs : List IP) : Nat → IP → Option IP
  | 0, _ => none
  | n + 1, ip =>
    if cidr.contains ip then
      if ip ∈ usedIPs then nextFree cidr usedIPs n (ip + 1) else some ip
    else none

/-- Starting at `.1`, which skips the network address. -/
def allocateServerIP (cidr : Cidr) (usedIPs : List IP) : Option IP :=
  nextFree cidr usedIPs (usedIPs.length + 1) (cidr.ip &&& 0xffffff00 ||| 1)

/-! ## Rows -/

structure ClusterRow where
  id : UUID
  teamID : UUID
  slug : String := ""
  cidr : Cidr

structure ServerRow where
  id : UUID
  teamID : UUID
  name : String := ""
  agentID : Option String := none
  publicIp : String := ""
  clusterID : Option UUID := none

/-- `joined` is the stamp of the row's insertion. -/
structure MemberRow where
  id : UUID
  clusterID : UUID
  serverID : UUID
  wireguardIp : IP
  wireguardPublicKey : String := ""
  wireguardEndpoint : String
  listenPort : Int := 51820
  joined : Nat := 0

structure PeerRow where
  memberID : UUID
  peerMemberID : UUID
  status : PeerStatus := .pending

instance : Keyed ClusterRow UUID := ⟨ClusterRow.id⟩
instance : Keyed ServerRow UUID := ⟨ServerRow.id⟩
instance : Keyed MemberRow UUID := ⟨MemberRow.serverID⟩
instance : Keyed PeerRow (UUID × UUID) := ⟨fun p => (p.memberID, p.peerMemberID)⟩

structure Network where
  clusters : Table ClusterRow := .empty
  servers : Table ServerRow := .empty
  members : Table MemberRow := .empty
  peers : Table PeerRow := .empty
  stamp : Nat := 0
  changed : UUID → Nat := fun _ => 0

/-! ## Statements -/

namespace Network

variable (n : Network)

def getClusterByID (id teamID : UUID) : Option ClusterRow :=
  (n.clusters.find? id).filter fun c => c.teamID = teamID

def getServerByID (id teamID : UUID) : Option ServerRow :=
  (n.servers.find? id).filter fun s => s.teamID = teamID

def getClusterMemberByID (id : UUID) : Option MemberRow := n.members.rows.find? fun m => m.id = id

def getClusterMemberByServerID (serverID : UUID) : Option MemberRow := n.members.find? serverID

def listClusterMemberIPs (clusterID : UUID) : List IP :=
  (n.members.rows.filter fun m => m.clusterID = clusterID).map MemberRow.wireguardIp

/-- The network after a change of the cluster's members. -/
def mark (clusterID : UUID) (members : Table MemberRow) : Network :=
  { n with
    members := members
    stamp := n.stamp + 1
    changed := Function.update n.changed clusterID (n.stamp + 1) }

/-- Refused when the cluster or the server is unknown, or a key of the row is taken. -/
def createClusterMember (m : MemberRow) : Option Network :=
  if (n.clusters.find? m.clusterID).isSome ∧ (n.servers.find? m.serverID).isSome ∧
      (n.members.rows.all fun other => other.id ≠ m.id ∧
        ¬ (other.clusterID = m.clusterID ∧ other.wireguardIp = m.wireguardIp)) then
    (n.members.insert? { m with joined := n.stamp + 1 }).map (n.mark m.clusterID)
  else none

/-- `WHERE cluster_id = $1 AND server_id = $2`; the peers of the row go with it. -/
def deleteClusterMember (clusterID serverID : UUID) : Network :=
  match (n.members.find? serverID).filter fun m => m.clusterID = clusterID with
  | none => n
  | some m =>
    { n.mark clusterID (n.members.deleteWhere fun other => other.serverID = serverID) with
      peers := n.peers.deleteWhere fun p => p.memberID = m.id || p.peerMemberID = m.id }

def updateClusterMemberPublicKey (id : UUID) (key : String) : Network :=
  match n.getClusterMemberByID id with
  | none => n
  | some m => n.mark m.clusterID (n.members.update m.serverID fun r =>
    { r with wireguardPublicKey := key })

def deletePeersByMember (memberID : UUID) : Network :=
  { n with peers := n.peers.deleteWhere fun p => p.memberID = memberID || p.peerMemberID = memberID }

/-- Refused when one of the members is unknown. -/
def upsertWireGuardPeer (memberID peerMemberID : UUID) (status : PeerStatus) : Network :=
  if (n.getClusterMemberByID memberID).isSome ∧ (n.getClusterMemberByID peerMemberID).isSome then
    { n with peers := n.peers.upsert ⟨memberID, peerMemberID, status⟩ }
  else n

def updateServerClusterID (id clusterID : UUID) : Network :=
  { n with servers := n.servers.update id fun s => { s with clusterID := some clusterID } }

def clearServerClusterID (id : UUID) : Network :=
  { n with servers := n.servers.update id fun s => { s with clusterID := none } }

/-- The members of a cluster with the columns of their servers, in the order of the table. -/
def getClusterMembersForMesh (clusterID : UUID) : List (MemberRow × ServerRow) :=
  (n.members.rows.filter fun m => m.clusterID = clusterID).filterMap fun m =>
    (n.servers.find? m.serverID).map fun s => (m, s)

end Network

end Nixway.Cluster
