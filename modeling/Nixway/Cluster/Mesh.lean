/-
# Cluster.Mesh -- regenerations of the mesh beside requests and key results

The handlers `AddMember` and `RemoveMember` of `api/handler/cluster.go` with the service
behind them, `handleWireGuardKeyGenResult` of `internal/agent/server.go` and `RegenerateMesh`
of `internal/mesh/manager.go`, one statement or one command a step, on the tables of
`Cluster.Network`.  A regeneration reads the members once and pushes a configuration to each
of them from that snapshot, whatever is read or pushed in between.

A command is logged with the stamp of the cluster's last change in the snapshot it was made
from; a teardown with the stamp its deletion left.  No step reads them, nor `left`, the stamp
of the last deletion of a server's member, nor `serverID` of a member's info.
-/
import Nixway.Cluster.Membership
import Nixway.Theory.Crew

namespace Nixway.Cluster.Mesh

open Nixway.Theory Nixway.Store

set_option autoImplicit false

/-! ## Configurations -/

structure MemberInfo where
  memberID : UUID
  serverID : UUID
  serverName : String
  agentID : String
  wireGuardIP : IP
  publicKey : String
  endpoint : String
  listenPort : Int

/-- A `[Peer]` section: `AllowedIPs` is the address alone. -/
structure Peer where
  publicKey : String
  allowedIP : IP
  endpoint : String
deriving DecidableEq

structure Config where
  address : IP
  listenPort : Int
  peers : List Peer
deriving DecidableEq

def MemberInfo.peer (m : MemberInfo) : Peer := ⟨m.publicKey, m.wireGuardIP, m.endpoint⟩

/-- `GenerateConfig`: the peers are the members with another address. -/
def generateConfig (self : MemberInfo) (allMembers : List MemberInfo) : Config :=
  { address := self.wireGuardIP
    listenPort := self.listenPort
    peers := (allMembers.filter fun m => m.wireGuardIP ≠ self.wireGuardIP).map MemberInfo.peer }

def MemberInfo.of (m : MemberRow) (s : ServerRow) : MemberInfo :=
  { memberID := m.id
    serverID := m.serverID
    serverName := s.name
    agentID := s.agentID.getD ""
    wireGuardIP := m.wireguardIp
    publicKey := m.wireguardPublicKey
    endpoint := m.wireguardEndpoint
    listenPort := m.listenPort }

/-- `memberInfos` of `RegenerateMesh`. -/
def memberInfos (n : Network) (clusterID : UUID) : List MemberInfo :=
  (n.getClusterMembersForMesh clusterID).map fun r => .of r.1 r.2

def allHaveKeys (members : List MemberInfo) : Bool := members.all fun m => m.publicKey ≠ ""

/-! ## Commands and what an agent makes of them -/

inductive Command where
  | keyGen (memberID : UUID) (listenPort : Int)
  | apply (memberID : UUID) (config : Config) (wireguardIp : IP)
  | teardown (memberID : UUID)

def Command.configures : Command → Bool
  | .keyGen .. => false
  | .apply .. | .teardown _ => true

/-- The configuration a command leaves: `HandleWireGuardApply` writes the one it is sent and
`HandleWireGuardTeardown` removes the file, whichever member they name. -/
def Command.config : Command → Option Config
  | .apply _ config _ => some config
  | .keyGen .. | .teardown _ => none

structure Sent where
  agentID : String
  command : Command
  clusterID : UUID
  base : Nat

/-- The last command sent to the agent that configures it; the newest is first. -/
def lastTo (log : List Sent) (agentID : String) : Option Sent :=
  log.find? fun e => e.agentID = agentID && e.command.configures

/-- The configuration of an agent that has applied its commands in order. -/
def configured (log : List Sent) (agentID : String) : Option Config :=
  (lastTo log agentID).bind fun e => e.command.config

/-- `awaited` are the members whose `WireguardKeygen` is not answered; `down` says that a
goroutine has panicked, which ends the process. -/
structure World where
  net : Network
  log : List Sent := []
  awaited : List UUID := []
  down : Bool := false
  left : UUID → Nat := fun _ => 0

namespace World

variable (w : World)

def send (agentID : String) (command : Command) (clusterID : UUID) (base : Nat) : World :=
  { w with log := ⟨agentID, command, clusterID, base⟩ :: w.log }

def sendKeyGenCommand (agentID : String) (memberID : UUID) (listenPort : Int) : World :=
  { w with
    log := ⟨agentID, .keyGen memberID listenPort, 0, 0⟩ :: w.log
    awaited := memberID :: w.awaited }

/-- `DeleteClusterMember`. -/
def deleteMember (clusterID serverID : UUID) : World :=
  { w with
    net := w.net.deleteClusterMember clusterID serverID
    left := if ((w.net.members.find? serverID).any fun m => m.clusterID = clusterID) then
        Function.update w.left serverID (w.net.stamp + 1)
      else w.left }

end World

/-! ## Handlers -/

/-- The ids of a `RemoveMember` request. -/
structure Removal where
  teamID : UUID
  clusterID : UUID
  serverID : UUID

/-- Where a request, a key result or a regeneration stands. -/
inductive Handler where
  | getCluster (req : AddMemberRequest) (id : UUID)
  | getServer (req : AddMemberRequest) (id : UUID) (cluster : ClusterRow)
  | checkMember (req : AddMemberRequest) (id : UUID) (cluster : ClusterRow) (srv : ServerRow)
  | listIPs (req : AddMemberRequest) (id : UUID) (cluster : ClusterRow) (srv : ServerRow)
  | createMember (req : AddMemberRequest) (member : MemberRow)
  | updateServer (req : AddMemberRequest) (member : MemberRow)
  | findAgent (req : AddMemberRequest) (member : MemberRow)
  | requestKeyGen (agentID : String) (member : MemberRow)
  | loadServer (r : Removal)
  | loadMember (r : Removal) (agentID : Option String)
  | getMember (r : Removal) (agentID : Option String) (memberID : UUID)
  | deletePeers (r : Removal) (agentID : Option String) (memberID own : UUID)
  | deleteMember (r : Removal) (agentID : Option String) (memberID : UUID)
  | clearServer (r : Removal) (agentID : Option String) (memberID : UUID) (base : Nat)
  | teardownMember (r : Removal) (agentID : Option String) (memberID : UUID) (base : Nat)
  | updateKey (memberID : UUID) (publicKey : String)
  | findKeyed (memberID : UUID) (publicKey : String)
  | onKeyGenResult (clusterID : UUID) (publicKey : String)
  | getMembers (clusterID : UUID)
  | ensurePeers (clusterID : UUID) (base : Nat) (members : List MemberInfo)
      (pairs : List (UUID × UUID))
  | push (clusterID : UUID) (base : Nat) (members rest : List MemberInfo)

/-- The pairs of `ensurePeerRecords`. -/
def pairs (members : List MemberInfo) : List (UUID × UUID) :=
  members.flatMap fun source =>
    (members.filter fun dest => dest.memberID ≠ source.memberID).map fun dest =>
      (source.memberID, dest.memberID)

/-- The loop's body for `self`: a key is asked for where there is none, and a configuration
is pushed when every member of the snapshot has a key. -/
def pushTo (clusterID : UUID) (base : Nat) (members : List MemberInfo) (self : MemberInfo)
    (w : World) : World :=
  if self.agentID = "" then w
  else if self.publicKey = "" then w.sendKeyGenCommand self.agentID self.memberID self.listenPort
  else if allHaveKeys members then
    w.send self.agentID (.apply self.memberID (generateConfig self members) self.wireGuardIP)
      clusterID base
  else w

/-- `TeardownMember`, and nothing for a server without an agent. -/
def tearDown (r : Removal) (agentID : Option String) (memberID : UUID) (base : Nat)
    (w : World) : World :=
  match agentID with
  | none => w
  | some agentID =>
    if agentID = "" then w else w.send agentID (.teardown memberID) r.clusterID base

def advance (w : World) : Handler → World × List Handler
  | .getCluster req id =>
    (w, ((w.net.getClusterByID req.clusterID req.teamID).map fun cluster =>
      Handler.getServer req id cluster).toList)
  | .getServer req id cluster =>
    (w, ((w.net.getServerByID req.serverID req.teamID).map fun srv =>
      Handler.checkMember req id cluster srv).toList)
  | .checkMember req id cluster srv =>
    (w, if (w.net.getClusterMemberByServerID req.serverID).isSome then []
      else [.listIPs req id cluster srv])
  | .listIPs req id cluster srv =>
    (w, ((allocateServerIP cluster.cidr (w.net.listClusterMemberIPs req.clusterID)).map fun wgIP =>
      Handler.createMember req (req.member id wgIP srv)).toList)
  | .createMember req member =>
    match w.net.createClusterMember member with
    | none => (w, [])
    | some net => ({ w with net := net }, [.updateServer req member])
  | .updateServer req member =>
    ({ w with net := w.net.updateServerClusterID req.serverID req.clusterID },
      [.findAgent req member])
  | .findAgent req member =>
    -- an error leaves the zero server, which has no agent
    (w, (((w.net.getServerByID req.serverID req.teamID).bind ServerRow.agentID).map fun agentID =>
      Handler.requestKeyGen agentID member).toList)
  | .requestKeyGen agentID member =>
    (w.sendKeyGenCommand agentID member.id member.listenPort, [])
  | .loadServer r =>
    (w, [.loadMember r ((w.net.getServerByID r.serverID r.teamID).bind ServerRow.agentID)])
  | .loadMember r agentID =>
    (w, [.getMember r agentID
      (((w.net.getClusterMemberByServerID r.serverID).map MemberRow.id).getD 0)])
  | .getMember r agentID memberID =>
    (w, ((w.net.getClusterMemberByServerID r.serverID).map fun member =>
      Handler.deletePeers r agentID memberID member.id).toList)
  | .deletePeers r agentID memberID own =>
    ({ w with net := w.net.deletePeersByMember own }, [.deleteMember r agentID memberID])
  | .deleteMember r agentID memberID =>
    (w.deleteMember r.clusterID r.serverID,
      [.clearServer r agentID memberID (w.deleteMember r.clusterID r.serverID).net.stamp])
  | .clearServer r agentID memberID base =>
    ({ w with net := w.net.clearServerClusterID r.serverID },
      [.teardownMember r agentID memberID base])
  | .teardownMember r agentID memberID base =>
    (tearDown r agentID memberID base w, [.getMembers r.clusterID])
  | .updateKey memberID publicKey =>
    ({ w with net := w.net.updateClusterMemberPublicKey memberID publicKey },
      [.findKeyed memberID publicKey])
  | .findKeyed memberID publicKey =>
    (w, ((w.net.getClusterMemberByID memberID).map fun member =>
      Handler.onKeyGenResult member.clusterID publicKey).toList)
  | .onKeyGenResult clusterID publicKey =>
    -- `publicKey[:8]`
    if publicKey.utf8ByteSize < 8 then ({ w with down := true }, [])
    else (w, [.getMembers clusterID])
  | .getMembers clusterID =>
    (w, if (memberInfos w.net clusterID).isEmpty then []
      else [.ensurePeers clusterID (w.net.changed clusterID) (memberInfos w.net clusterID)
        (pairs (memberInfos w.net clusterID))])
  | .ensurePeers clusterID base members [] => (w, [.push clusterID base members members])
  | .ensurePeers clusterID base members (pair :: rest) =>
    ({ w with net := w.net.upsertWireGuardPeer pair.1 pair.2 .pending },
      [.ensurePeers clusterID base members rest])
  | .push _ _ _ [] => (w, [])
  | .push clusterID base members (self :: rest) =>
    (pushTo clusterID base members self w, [.push clusterID base members rest])

/-! ## The control plane -/

/-- The requests, and the result an agent sends for a `WireguardKeygen`. -/
inductive Request where
  | addMember (req : AddMemberRequest) (id : UUID)
  | removeMember (r : Removal)
  | regenerateMesh (clusterID : UUID)
  | keyGenResult (memberID : UUID) (publicKey : String) (success : Bool)

def Request.handler : Request → List Handler
  | .addMember req id => [.getCluster req id]
  | .removeMember r => [.loadServer r]
  | .regenerateMesh clusterID => [.getMembers clusterID]
  | .keyGenResult memberID publicKey success =>
    if success then [.updateKey memberID publicKey] else []

def Request.answered (w : World) : Request → World
  | .keyGenResult memberID _ _ => { w with awaited := w.awaited.erase memberID }
  | _ => w

/-- Nothing happens in a process that is down. -/
def machine : Machine World Handler Request Unit Empty where
  start request w := if w.down then (w, []) else (request.answered w, request.handler)
  turn k _ w := if w.down then (w, []) else advance w k
  outside e := nomatch e

/-- A request comes in, or the handler at `i` takes its next step. -/
inductive Event where
  | request (r : Request)
  | turn (i : Nat)

def Event.move : Event → Move Request Unit Empty
  | .request r => .command r
  | .turn i => .turn i ()

abbrev ControlPlane := Crew World Handler

def step (c : ControlPlane) (e : Event) : ControlPlane := c.step machine e.move

/-- Nothing is left to run and no agent has an answer to give. -/
structure Quiescent (c : ControlPlane) : Prop where
  idle : c.handlers = []
  answered : c.shared.awaited = []

/-! ## What is asked -/

def agentOf (n : Network) (serverID : UUID) : Option String :=
  (n.servers.find? serverID).bind ServerRow.agentID

def peerOf (m : MemberRow) : Peer := ⟨m.wireguardPublicKey, m.wireguardIp, m.wireguardEndpoint⟩

def othersOf (n : Network) (m : MemberRow) : List MemberRow :=
  n.members.rows.filter fun other => other.clusterID = m.clusterID && other.id ≠ m.id

structure Converged (w : World) : Prop where
  /-- A member's configuration lists exactly the other members of its cluster. -/
  members : ∀ m ∈ w.net.members.rows, ∃ agentID, agentOf w.net m.serverID = some agentID ∧
    ∃ config, configured w.log agentID = some config ∧ config.address = m.wireguardIp ∧
      config.peers = (othersOf w.net m).map peerOf
  /-- A configured agent is that of a member, and lists members only. -/
  removed : ∀ agentID config, configured w.log agentID = some config →
    (∃ m ∈ w.net.members.rows, agentOf w.net m.serverID = some agentID) ∧
      ∀ peer ∈ config.peers, ∃ m ∈ w.net.members.rows, peerOf m = peer
  /-- Nor does a peer row name a member that is gone. -/
  peers : ∀ p ∈ w.net.peers.rows, (∃ m ∈ w.net.members.rows, m.id = p.memberID) ∧
    ∃ m ∈ w.net.members.rows, m.id = p.peerMemberID

end Nixway.Cluster.Mesh
