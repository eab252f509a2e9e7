/-
# Cluster.FullMesh -- what one regeneration sends, and what the texts say

`RegenerateMesh` of `internal/mesh/manager.go` run by itself, and the text that the template of
`internal/mesh/config.go` makes of a configuration.  The text is read as a WireGuard configuration
is: settings in sections, with `#` before a comment.

Keys come from the agents and endpoints from the requests that change a server, and neither is
looked at on its way into the text.  `regenerateMesh_iff` says exactly when the mesh that is sent
is full: when every key and every endpoint that goes into a text stands there as it is.
-/
import Nixway.Cluster.Mesh
import Nixway.Theory.Settings
import Nixway.Theory.Text

namespace Nixway.Cluster.Mesh

open Nixway.Theory Nixway.Store
open Nixway.Theory.Settings hiding Line
open Nixway.Theory.Lines (unlines)

set_option autoImplicit false

/-! ## Texts -/

/-- `netip.Addr.String`. -/
def addrString (ip : IP) : String :=
  toString (ip.toNat / 2 ^ 24) ++ "." ++ toString (ip.toNat / 2 ^ 16 % 256) ++ "." ++
    toString (ip.toNat / 2 ^ 8 % 256) ++ "." ++ toString (ip.toNat % 256)

theorem splitOn_addrString (ip : IP) : (addrString ip).toList.splitOnP (· == '.') =
    [(toString (ip.toNat / 2 ^ 24)).toList, (toString (ip.toNat / 2 ^ 16 % 256)).toList,
      (toString (ip.toNat / 2 ^ 8 % 256)).toList, (toString (ip.toNat % 256)).toList] := by
  have undotted : ∀ n : Nat, ∀ c ∈ (toString n).toList, (c == '.') = false := by
    intro n c member
    rw [beq_eq_false_iff_ne]
    rintro rfl
    cases Text.isDigit_toString member
  have dot : ".".toList = ['.'] := rfl
  simp only [addrString, String.toList_append, dot, List.append_assoc, List.cons_append, List.nil_append]
  rw [List.splitOnP_append_cons_of_forall_mem (undotted _) '.' rfl,
    List.splitOnP_append_cons_of_forall_mem (undotted _) '.' rfl,
    List.splitOnP_append_cons_of_forall_mem (undotted _) '.' rfl,
    List.splitOnP_eq_singleton (undotted _)]

theorem addrString_inj {ip ip' : IP} : addrString ip = addrString ip' ↔ ip = ip' := by
  constructor
  · intro same
    have parts := splitOn_addrString ip
    rw [same, splitOn_addrString ip'] at parts
    simp only [List.cons.injEq, String.toList_inj, and_true] at parts
    obtain ⟨first, second, third, fourth⟩ := parts
    have first := Text.toString_inj first
    have second := Text.toString_inj second
    have third := Text.toString_inj third
    have fourth := Text.toString_inj fourth
    have bound := ip.isLt
    have bound' := ip'.isLt
    apply BitVec.eq_of_toNat_eq
    omega
  · rintro rfl
    rfl

/-- The lines of `wgConfigTemplate` before the peers. -/
def interfaceLines (config : Config) : List String :=
  ["[Interface]",
   "Address = " ++ addrString config.address ++ "/32",
   "ListenPort = " ++ toString config.listenPort,
   "PrivateKey = PRIVATE_KEY_PLACEHOLDER",
   "PostUp = iptables -A FORWARD -i wg0 -j ACCEPT",
   "PostDown = iptables -D FORWARD -i wg0 -j ACCEPT"]

def peerLines (peer : Peer) : List String :=
  ["",
   "[Peer]",
   "PublicKey = " ++ peer.publicKey,
   "AllowedIPs = " ++ addrString peer.allowedIP ++ "/32",
   "Endpoint = " ++ peer.endpoint,
   "PersistentKeepalive = 25"]

/-- `wgConfigTemplate`, executed. -/
def configText (config : Config) : String :=
  String.join ((interfaceLines config ++ config.peers.flatMap peerLines).map (· ++ "\n"))

/-! ## Reading a text -/

/-- `isspace`, within a line. -/
def isBlank (c : Char) : Bool := c ∈ [' ', '\t', '\x0b', '\x0c', '\r']

/-- The sections with a header. -/
def sectionsOf (header : String) (text : String) : List Section :=
  (sections isBlank text.toList).filter fun s => s.header = header.toList

/-- What a `[Interface]` section has for these keys. -/
structure InterfaceEntry where
  addresses : List (List Char)
  listenPorts : List (List Char)

def interfacesIn (text : String) : List InterfaceEntry :=
  (sectionsOf "[Interface]" text).map fun s =>
    ⟨s.values "Address".toList, s.values "ListenPort".toList⟩

/-- What a `[Peer]` section has for these keys. -/
structure PeerEntry where
  publicKeys : List (List Char)
  allowedIPs : List (List Char)
  endpoints : List (List Char)

def peersIn (text : String) : List PeerEntry :=
  (sectionsOf "[Peer]" text).map fun s =>
    ⟨s.values "PublicKey".toList, s.values "AllowedIPs".toList, s.values "Endpoint".toList⟩

/-- One address and one port: those of the member. -/
def InterfaceEntry.of (m : MemberInfo) : InterfaceEntry :=
  ⟨[(addrString m.wireGuardIP ++ "/32").toList], [(toString m.listenPort).toList]⟩

/-- One key, one address and one endpoint: those of the member. -/
def PeerEntry.of (m : MemberInfo) : PeerEntry :=
  ⟨[m.publicKey.toList], [(addrString m.wireGuardIP ++ "/32").toList], [m.endpoint.toList]⟩

def others (members : List MemberInfo) (self : MemberInfo) : List MemberInfo :=
  members.filter fun m => m.memberID ≠ self.memberID

/-- **The text is the configuration of a member in the full mesh.** -/
structure Describes (members : List MemberInfo) (m : MemberInfo) (text : String) : Prop where
  own : interfacesIn text = [.of m]
  peers : (peersIn text).Perm ((others members m).map PeerEntry.of)

/-! ## One regeneration -/

/-- `RegenerateMesh`, nothing else running. -/
def regenerateMesh (clusterID : UUID) (w : World) : World :=
  if (memberInfos w.net clusterID).isEmpty then w
  else
    (memberInfos w.net clusterID).foldl
      (fun now self =>
        pushTo clusterID (w.net.changed clusterID) (memberInfos w.net clusterID) self now)
      { w with
        net := (pairs (memberInfos w.net clusterID)).foldl
          (fun n pair => n.upsertWireGuardPeer pair.1 pair.2 .pending) w.net }

/-- What was sent in between, the oldest first. -/
def sentBetween (before after : World) : List Sent :=
  (after.log.take (after.log.length - before.log.length)).reverse

/-- The configurations sent for a member: to which agents, and their texts. -/
def configsFor (sent : List Sent) (m : MemberInfo) : List (String × String) :=
  sent.filterMap fun e =>
    match e.command with
    | .apply memberID config _ => if memberID = m.memberID then some (e.agentID, configText config) else none
    | .keyGen .. | .teardown _ => none

/-- The agents asked for a key of a member. -/
def keyGensFor (sent : List Sent) (m : MemberInfo) : List String :=
  sent.filterMap fun e =>
    match e.command with
    | .keyGen memberID _ => if memberID = m.memberID then some e.agentID else none
    | .apply .. | .teardown _ => none

/-- A configuration sent for `i` lists `j`. -/
def Lists (sent : List Sent) (i j : MemberInfo) : Prop :=
  ∃ entry ∈ configsFor sent i, PeerEntry.of j ∈ peersIn entry.2

structure FullMesh (members : List MemberInfo) (sent : List Sent) : Prop where
  configured : ∀ self ∈ members, self.agentID ≠ "" →
    ∃ text, configsFor sent self = [(self.agentID, text)] ∧ Describes members self text
  symmetric : ∀ i ∈ members, ∀ j ∈ members, i.agentID ≠ "" → j.agentID ≠ "" →
    (Lists sent i j ↔ Lists sent j i)

structure Waiting (members : List MemberInfo) (sent : List Sent) : Prop where
  asked : ∀ m ∈ members, m.publicKey = "" → m.agentID ≠ "" → keyGensFor sent m = [m.agentID]
  only : ∀ e ∈ sent, ∃ m ∈ members, m.publicKey = "" ∧ m.agentID ≠ "" ∧ e.agentID = m.agentID ∧
    e.command = .keyGen m.memberID m.listenPort

/-- **What a regeneration is for.** -/
def Regenerated (members : List MemberInfo) (sent : List Sent) : Prop :=
  if allHaveKeys members then FullMesh members sent else Waiting members sent

/-- What goes into the text of another member stands there as it is. -/
structure MemberInfo.PlainTexts (m : MemberInfo) : Prop where
  publicKey : Plain isBlank m.publicKey.toList
  endpoint : Plain isBlank m.endpoint.toList

/-! ## The text of a configuration -/

def interfaceSection (config : Config) : Section where
  header := "[Interface]".toList
  settings :=
    [("Address".toList, (addrString config.address ++ "/32").toList),
     ("ListenPort".toList, (toString config.listenPort).toList),
     ("PrivateKey".toList, "PRIVATE_KEY_PLACEHOLDER".toList),
     ("PostUp".toList, "iptables -A FORWARD -i wg0 -j ACCEPT".toList),
     ("PostDown".toList, "iptables -D FORWARD -i wg0 -j ACCEPT".toList)]

def peerSection (peer : Peer) : Section where
  header := "[Peer]".toList
  settings :=
    [("PublicKey".toList, peer.publicKey.toList),
     ("AllowedIPs".toList, (addrString peer.allowedIP ++ "/32").toList),
     ("Endpoint".toList, peer.endpoint.toList),
     ("PersistentKeepalive".toList, "25".toList)]

theorem toList_setting {start key : String} (literal : start.toList = key.toList ++ [' ', '=', ' '])
    (value : String) : (start ++ value).toList = settingLine (key.toList, value.toList) := by
  rw [String.toList_append, literal, settingLine, List.append_assoc]
  rfl

theorem interfaceLines_eq (config : Config) :
    (interfaceLines config).map String.toList = (interfaceSection config).lines := by
  have address := @toList_setting "Address = " "Address" (by decide)
    (addrString config.address ++ "/32")
  have port := @toList_setting "ListenPort = " "ListenPort" (by decide)
    (toString config.listenPort)
  have key : "PrivateKey = PRIVATE_KEY_PLACEHOLDER".toList =
      settingLine ("PrivateKey".toList, "PRIVATE_KEY_PLACEHOLDER".toList) := by
    unfold settingLine
    repeat rw [String.toList_ofList]
    rfl
  have up : "PostUp = iptables -A FORWARD -i wg0 -j ACCEPT".toList =
      settingLine ("PostUp".toList, "iptables -A FORWARD -i wg0 -j ACCEPT".toList) := by
    unfold settingLine
    repeat rw [String.toList_ofList]
    rfl
  have down : "PostDown = iptables -D FORWARD -i wg0 -j ACCEPT".toList =
      settingLine ("PostDown".toList, "iptables -D FORWARD -i wg0 -j ACCEPT".toList) := by
    unfold settingLine
    repeat rw [String.toList_ofList]
    rfl
  unfold interfaceLines interfaceSection Section.lines
  rw [List.map_cons, List.map_cons, List.map_cons, List.map_cons, List.map_cons, List.map_cons,
    String.append_assoc, address, port, key, up, down]
  rfl

theorem peerLines_eq (peer : Peer) :
    (peerLines peer).map String.toList = [] :: (peerSection peer).lines := by
  have key := @toList_setting "PublicKey = " "PublicKey" (by decide) peer.publicKey
  have address := @toList_setting "AllowedIPs = " "AllowedIPs" (by decide)
    (addrString peer.allowedIP ++ "/32")
  have endpoint := @toList_setting "Endpoint = " "Endpoint" (by decide) peer.endpoint
  have keepalive : "PersistentKeepalive = 25".toList =
      settingLine ("PersistentKeepalive".toList, "25".toList) := by
    unfold settingLine
    repeat rw [String.toList_ofList]
    rfl
  unfold peerLines peerSection Section.lines
  rw [List.map_cons, List.map_cons, List.map_cons, List.map_cons, List.map_cons, List.map_cons, key,
    String.append_assoc, address, endpoint, keepalive]
  rfl

theorem configText_eq (config : Config) :
    (configText config).toList = unlines ((interfaceSection config).lines ++
      (config.peers.map peerSection).flatMap fun s => [] :: s.lines) := by
  have peers : (config.peers.flatMap peerLines).map String.toList =
      (config.peers.map peerSection).flatMap fun s => [] :: s.lines := by
    rw [List.map_flatMap, List.flatMap_map]
    exact congrArg (List.flatMap · config.peers) (funext peerLines_eq)
  rw [← interfaceLines_eq, ← peers, ← List.map_append, configText, String.toList_join, unlines]
  simp [List.flatMap_map]

theorem toList_addrString (ip : IP) : ∀ c ∈ (addrString ip ++ "/32").toList, c ∈ ['.', '/'] ∨ c.isDigit := by
  intro c member
  have digits : ∀ n : Nat, c ∈ (toString n).toList → c ∈ ['.', '/'] ∨ c.isDigit :=
    fun n inside => .inr (Text.isDigit_toString inside)
  have dot : c ∈ ".".toList → c ∈ ['.', '/'] ∨ c.isDigit := fun inside =>
    .inl (List.mem_cons.mpr (.inl (List.mem_singleton.mp inside)))
  have mask : c ∈ "/32".toList → c ∈ ['.', '/'] ∨ c.isDigit := by
    intro inside
    have all : ("/32".toList.all fun d => d = '/' || d.isDigit) = true := by decide
    have kind := List.all_eq_true.mp all c inside
    rw [Bool.or_eq_true, decide_eq_true_eq] at kind
    exact kind.imp (fun slash => List.mem_cons_of_mem _ (List.mem_singleton.mpr slash)) id
  simp only [addrString, String.toList_append, List.mem_append] at member
  rcases member with ((((((n | d) | n) | d) | n) | d) | n) | m
  · exact digits _ n
  · exact dot d
  · exact digits _ n
  · exact dot d
  · exact digits _ n
  · exact dot d
  · exact digits _ n
  · exact mask m

theorem plain_of_numeric {cs : List Char} (numeric : ∀ c ∈ cs, c ∈ ['.', '/', '-'] ∨ c.isDigit) :
    Plain isBlank cs := by
  have apart : ∀ c, c ∈ ['.', '/', '-'] ∨ c.isDigit = true → c ≠ '\n' ∧ c ≠ '#' ∧ isBlank c = false := by
    intro c kind
    rcases kind with mark | digit
    · have all : (['.', '/', '-'].all fun d => d ≠ '\n' && d ≠ '#' && !isBlank d) = true := by
        decide
      simpa [and_assoc] using List.all_eq_true.mp all c mark
    · refine ⟨?_, ?_, ?_⟩
      · rintro rfl
        cases digit
      · rintro rfl
        cases digit
      · rw [isBlank, decide_eq_false_iff_not]
        intro blank
        have none : ([' ', '\t', '\x0b', '\x0c', '\r'].all fun d => !d.isDigit) = true := by
          decide
        have other := List.all_eq_true.mp none c blank
        rw [digit] at other
        cases other
  exact plain_of_unblank (fun inside => (apart _ (numeric _ inside)).1 rfl)
    (fun inside => (apart _ (numeric _ inside)).2.1 rfl)
    fun c inside => (apart c (numeric c inside)).2.2

theorem plain_addr (ip : IP) : Plain isBlank (addrString ip ++ "/32").toList := by
  refine plain_of_numeric fun c member => ?_
  rcases toList_addrString ip c member with mark | digit
  · refine .inl ?_
    rcases List.mem_cons.mp mark with rfl | slash
    · exact List.mem_cons_self
    · exact List.mem_cons_of_mem _ (List.mem_cons.mpr (.inl (List.mem_singleton.mp slash)))
  · exact .inr digit

theorem plain_port (n : Int) : Plain isBlank (toString n).toList := by
  refine plain_of_numeric fun c member => ?_
  rcases Text.isDigit_toString_int member with rfl | digit
  · exact .inl (by decide)
  · exact .inr digit

theorem header_interface : Header isBlank "[Interface]".toList := by
  rw [String.toList_ofList]
  exact ⟨by decide, _, rfl⟩

theorem header_peer : Header isBlank "[Peer]".toList := by
  rw [String.toList_ofList]
  exact ⟨by decide, _, rfl⟩

theorem plain_interfaceSection (config : Config) : (interfaceSection config).Plain isBlank where
  header := header_interface
  keys := by
    unfold interfaceSection
    simp only [List.forall_mem_cons]
    refine ⟨?_, ?_, ?_, ?_, ?_, List.forall_mem_nil _⟩ <;>
      (rw [String.toList_ofList]; decide)
  values := by
    unfold interfaceSection
    simp only [List.forall_mem_cons]
    refine ⟨plain_addr _, plain_port _, ?_, ?_, ?_, List.forall_mem_nil _⟩ <;>
      (rw [String.toList_ofList]; decide)

theorem plain_peerSection {peer : Peer} (key : Plain isBlank peer.publicKey.toList)
    (endpoint : Plain isBlank peer.endpoint.toList) : (peerSection peer).Plain isBlank where
  header := header_peer
  keys := by
    unfold peerSection
    simp only [List.forall_mem_cons]
    refine ⟨?_, ?_, ?_, ?_, List.forall_mem_nil _⟩ <;> (rw [String.toList_ofList]; decide)
  values := by
    unfold peerSection
    simp only [List.forall_mem_cons]
    exact ⟨key, plain_addr _, endpoint, by rw [String.toList_ofList]; decide,
      List.forall_mem_nil _⟩

/-- The entry that the section of a peer gives. -/
def Peer.entry (peer : Peer) : PeerEntry :=
  ⟨[peer.publicKey.toList], [(addrString peer.allowedIP ++ "/32").toList], [peer.endpoint.toList]⟩

/-- **Plain keys and endpoints are read back.** -/
theorem sections_configText {config : Config} (plain : ∀ peer ∈ config.peers,
    Plain isBlank peer.publicKey.toList ∧ Plain isBlank peer.endpoint.toList) :
    sections isBlank (configText config).toList =
      interfaceSection config :: config.peers.map peerSection := by
  rw [configText_eq]
  refine sections_paragraphs rfl rfl fun s member => ?_
  rcases List.mem_cons.mp member with rfl | later
  · exact plain_interfaceSection config
  · obtain ⟨peer, inside, rfl⟩ := List.mem_map.mp later
    exact plain_peerSection (plain peer inside).1 (plain peer inside).2

theorem sectionsOf_configText {config : Config} (plain : ∀ peer ∈ config.peers,
    Plain isBlank peer.publicKey.toList ∧ Plain isBlank peer.endpoint.toList) :
    sectionsOf "[Interface]" (configText config) = [interfaceSection config] ∧
      sectionsOf "[Peer]" (configText config) = config.peers.map peerSection := by
  have apart : "[Peer]".toList ≠ "[Interface]".toList := by decide
  unfold sectionsOf
  rw [sections_configText plain]
  constructor
  · have none : (config.peers.map peerSection).filter (fun s => s.header = "[Interface]".toList) = [] := by
      rw [List.filter_eq_nil_iff]
      intro s member
      obtain ⟨peer, -, rfl⟩ := List.mem_map.mp member
      rw [decide_eq_true_eq]
      exact apart
    have kept : (interfaceSection config :: config.peers.map peerSection).filter
        (fun s => s.header = "[Interface]".toList) = interfaceSection config ::
          (config.peers.map peerSection).filter fun s => s.header = "[Interface]".toList :=
      List.filter_cons_of_pos (decide_eq_true rfl)
    rw [kept, none]
  · have skipped : (interfaceSection config :: config.peers.map peerSection).filter
        (fun s => s.header = "[Peer]".toList) =
          (config.peers.map peerSection).filter fun s => s.header = "[Peer]".toList := by
      refine List.filter_cons_of_neg ?_
      rw [decide_eq_true_eq]
      exact apart.symm
    rw [skipped, List.filter_eq_self]
    intro s member
    obtain ⟨peer, -, rfl⟩ := List.mem_map.mp member
    exact decide_eq_true rfl

theorem interfacesIn_configText {config : Config} (plain : ∀ peer ∈ config.peers,
    Plain isBlank peer.publicKey.toList ∧ Plain isBlank peer.endpoint.toList) :
    interfacesIn (configText config) =
      [⟨[(addrString config.address ++ "/32").toList], [(toString config.listenPort).toList]⟩] := by
  have distinct : ((interfaceSection config).settings.map Prod.fst).Nodup := by
    have literal : ["Address".toList, "ListenPort".toList, "PrivateKey".toList, "PostUp".toList,
        "PostDown".toList].Nodup := by
      repeat rw [String.toList_ofList]
      decide
    exact literal
  rw [interfacesIn, (sectionsOf_configText plain).1, List.map_cons, List.map_nil,
    Section.values_of_mem distinct List.mem_cons_self,
    Section.values_of_mem distinct (List.mem_cons_of_mem _ List.mem_cons_self)]

theorem entry_peerSection (peer : Peer) :
    (⟨(peerSection peer).values "PublicKey".toList, (peerSection peer).values "AllowedIPs".toList,
      (peerSection peer).values "Endpoint".toList⟩ : PeerEntry) = peer.entry := by
  have distinct : ((peerSection peer).settings.map Prod.fst).Nodup := by
    have literal : ["PublicKey".toList, "AllowedIPs".toList, "Endpoint".toList,
        "PersistentKeepalive".toList].Nodup := by
      repeat rw [String.toList_ofList]
      decide
    exact literal
  rw [Section.values_of_mem distinct List.mem_cons_self,
    Section.values_of_mem distinct (List.mem_cons_of_mem _ List.mem_cons_self),
    Section.values_of_mem distinct
      (List.mem_cons_of_mem _ (List.mem_cons_of_mem _ List.mem_cons_self)), Peer.entry]

theorem peersIn_configText {config : Config} (plain : ∀ peer ∈ config.peers,
    Plain isBlank peer.publicKey.toList ∧ Plain isBlank peer.endpoint.toList) :
    peersIn (configText config) = config.peers.map Peer.entry := by
  rw [peersIn, (sectionsOf_configText plain).2, List.map_map]
  exact List.map_congr_left fun peer _ => entry_peerSection peer

theorem plainTexts_of_listed {m : MemberInfo} {text : String} (listed : PeerEntry.of m ∈ peersIn text) :
    m.PlainTexts := by
  obtain ⟨s, found, same⟩ := List.mem_map.mp listed
  obtain ⟨keys, -, endpoints⟩ := PeerEntry.mk.inj same
  have read : s ∈ sections isBlank text.toList := (List.mem_filter.mp found).1
  exact {
    publicKey := plain_of_mem_sections read (keys ▸ List.mem_singleton_self _)
    endpoint := plain_of_mem_sections read (endpoints ▸ List.mem_singleton_self _) }

/-! ## The members of one cluster -/

/-- Their ids and their addresses are pairwise distinct. -/
structure Distinct (members : List MemberInfo) : Prop where
  ids : (members.map MemberInfo.memberID).Nodup
  addresses : (members.map MemberInfo.wireGuardIP).Nodup

section Members

variable {members : List MemberInfo}

theorem generateConfig_others (distinct : Distinct members) {self : MemberInfo}
    (member : self ∈ members) :
    (generateConfig self members).peers = (others members self).map MemberInfo.peer := by
  unfold generateConfig others
  refine congrArg (List.map MemberInfo.peer) (List.filter_congr fun m inside => ?_)
  have same : m.wireGuardIP = self.wireGuardIP ↔ m.memberID = self.memberID :=
    ⟨fun address => congrArg _ (List.inj_on_of_nodup_map distinct.addresses inside member address),
      fun id => congrArg _ (List.inj_on_of_nodup_map distinct.ids inside member id)⟩
  exact decide_eq_decide.mpr (not_congr same)

/-- **The text for a member describes it in the full mesh just when the others' texts are plain.** -/
theorem describes_iff (distinct : Distinct members) {self : MemberInfo} (member : self ∈ members) :
    Describes members self (configText (generateConfig self members)) ↔
      ∀ m ∈ others members self, m.PlainTexts := by
  constructor
  · intro describes m other
    exact plainTexts_of_listed (describes.peers.mem_iff.mpr (List.mem_map_of_mem other))
  · intro plain
    have peersPlain : ∀ peer ∈ (generateConfig self members).peers,
        Plain isBlank peer.publicKey.toList ∧ Plain isBlank peer.endpoint.toList := by
      intro peer inside
      rw [generateConfig_others distinct member] at inside
      obtain ⟨m, other, rfl⟩ := List.mem_map.mp inside
      exact ⟨(plain m other).publicKey, (plain m other).endpoint⟩
    refine ⟨interfacesIn_configText peersPlain, ?_⟩
    rw [peersIn_configText peersPlain, generateConfig_others distinct member, List.map_map]
    exact .refl _

/-! ## What the loop sends -/

/-- What the loop's body sends for `self`. -/
def commandFor (clusterID : UUID) (base : Nat) (members : List MemberInfo) (self : MemberInfo) :
    Option Sent :=
  if self.agentID = "" then none
  else if self.publicKey = "" then
    some ⟨self.agentID, .keyGen self.memberID self.listenPort, 0, 0⟩
  else if allHaveKeys members then
    some ⟨self.agentID, .apply self.memberID (generateConfig self members) self.wireGuardIP,
      clusterID, base⟩
  else none

theorem log_pushTo (clusterID : UUID) (base : Nat) (self : MemberInfo) (w : World) :
    (pushTo clusterID base members self w).log =
      (commandFor clusterID base members self).toList ++ w.log := by
  unfold pushTo commandFor
  split_ifs <;> rfl

theorem log_foldl_pushTo (clusterID : UUID) (base : Nat) (rest : List MemberInfo) (w : World) :
    (rest.foldl (fun w self => pushTo clusterID base members self w) w).log =
      (rest.filterMap (commandFor clusterID base members)).reverse ++ w.log := by
  induction rest generalizing w with
  | nil => rfl
  | cons self rest ih =>
    rw [List.foldl_cons, ih, log_pushTo, List.filterMap_cons]
    cases commandFor clusterID base members self with
    | none => rfl
    | some e => simp

end Members

theorem sentBetween_of_append {before after : World} {sent : List Sent}
    (log : after.log = sent.reverse ++ before.log) : sentBetween before after = sent := by
  rw [sentBetween, log, List.length_append, Nat.add_sub_cancel, List.take_left, List.reverse_reverse]

/-- **What a regeneration sends**: one command at most for each member. -/
theorem sent_regenerateMesh (clusterID : UUID) (w : World) :
    sentBetween w (regenerateMesh clusterID w) =
      (memberInfos w.net clusterID).filterMap
        (commandFor clusterID (w.net.changed clusterID) (memberInfos w.net clusterID)) := by
  refine sentBetween_of_append ?_
  unfold regenerateMesh
  split
  · next none =>
    rw [List.isEmpty_iff.mp none]
    rfl
  · rw [log_foldl_pushTo]

theorem filterMap_of_id {α : Type} {members : List MemberInfo}
    (ids : (members.map MemberInfo.memberID).Nodup) {m : MemberInfo} (member : m ∈ members)
    {f : MemberInfo → Option α} (other : ∀ m' ∈ members, m'.memberID ≠ m.memberID → f m' = none) :
    members.filterMap f = (f m).toList := by
  induction members with
  | nil => cases member
  | cons first rest ih =>
    obtain ⟨fresh, ids⟩ := List.nodup_cons.mp ids
    rw [List.filterMap_cons]
    rcases List.mem_cons.mp member with rfl | later
    · have none : rest.filterMap f = [] := by
        rw [List.filterMap_eq_nil_iff]
        intro m' inside
        exact other m' (List.mem_cons_of_mem _ inside) fun same =>
          fresh (same ▸ List.mem_map_of_mem inside)
      rw [none]
      cases f m <;> rfl
    · have skipped : f first = none :=
        other first List.mem_cons_self fun same => fresh (same ▸ List.mem_map_of_mem later)
      rw [skipped]
      exact ih ids later fun m' inside => other m' (List.mem_cons_of_mem _ inside)

section Sent

variable {members : List MemberInfo} {clusterID : UUID} {base : Nat}

theorem configsFor_sent (distinct : Distinct members) (keyed : allHaveKeys members)
    {self : MemberInfo} (member : self ∈ members) (agent : self.agentID ≠ "") :
    configsFor (members.filterMap (commandFor clusterID base members)) self =
      [(self.agentID, configText (generateConfig self members))] := by
  have key : ∀ m ∈ members, m.publicKey ≠ "" := by simpa [allHaveKeys] using keyed
  unfold configsFor
  rw [List.filterMap_filterMap, filterMap_of_id distinct.ids member]
  · unfold commandFor
    rw [if_neg agent, if_neg (key self member), if_pos keyed, Option.bind_some]
    dsimp only
    rw [if_pos rfl]
    rfl
  · intro m inside other
    unfold commandFor
    rw [if_neg (key m inside), if_pos keyed]
    split_ifs with detached
    · rfl
    · rw [Option.bind_some]
      exact if_neg other

/-- **With all keys there.** -/
theorem fullMesh_iff (distinct : Distinct members) (keyed : allHaveKeys members) :
    FullMesh members (members.filterMap (commandFor clusterID base members)) ↔
      ∀ self ∈ members, self.agentID ≠ "" → ∀ m ∈ others members self, m.PlainTexts := by
  constructor
  · intro full self member agent
    obtain ⟨text, sent, describes⟩ := full.configured self member agent
    rw [configsFor_sent distinct keyed member agent] at sent
    obtain ⟨-, rfl⟩ := Prod.mk.inj (List.cons.inj sent).1
    exact (describes_iff distinct member).mp describes
  · intro plain
    have describes : ∀ self ∈ members, self.agentID ≠ "" →
        Describes members self (configText (generateConfig self members)) :=
      fun self member agent => (describes_iff distinct member).mpr (plain self member agent)
    have lists : ∀ i ∈ members, i.agentID ≠ "" → ∀ j ∈ members, j.memberID ≠ i.memberID →
        Lists (members.filterMap (commandFor clusterID base members)) i j := by
      intro i member agent j inside apart
      refine ⟨_, by rw [configsFor_sent distinct keyed member agent]; exact List.mem_singleton_self _, ?_⟩
      rw [(describes i member agent).peers.mem_iff]
      exact List.mem_map_of_mem (List.mem_filter.mpr ⟨inside, decide_eq_true apart⟩)
    refine ⟨fun self member agent => ⟨_, configsFor_sent distinct keyed member agent,
      describes self member agent⟩, fun i first j second agent agent' => ?_⟩
    by_cases same : j.memberID = i.memberID
    · rw [List.inj_on_of_nodup_map distinct.ids second first same]
    · exact iff_of_true (lists i first agent j second same) (lists j second agent' i first (Ne.symm same))

/-- **With a key missing.** -/
theorem waiting_sent (distinct : Distinct members) (missing : allHaveKeys members = false) :
    Waiting members (members.filterMap (commandFor clusterID base members)) where
  asked := by
    intro m member keyless agent
    unfold keyGensFor
    rw [List.filterMap_filterMap, filterMap_of_id distinct.ids member]
    · unfold commandFor
      rw [if_neg agent, if_pos keyless, Option.bind_some]
      dsimp only
      rw [if_pos rfl]
      rfl
    · intro m' inside other
      unfold commandFor
      rw [missing]
      split_ifs
      · rfl
      · rw [Option.bind_some]
        exact if_neg other
      · next yes => cases yes
      · rfl
  only := by
    intro e sent
    obtain ⟨m, member, made⟩ := List.mem_filterMap.mp sent
    unfold commandFor at made
    rw [missing] at made
    split_ifs at made with detached keyless yes
    · obtain rfl := Option.some.inj made
      exact ⟨m, member, keyless, detached, rfl, rfl⟩
    · cases yes

end Sent

/-! ## By itself, the handler does this -/

theorem run_alone {w : World} (up : w.down = false) {k : Handler} {w' : World} {next : List Handler}
    (turn : advance w k = (w', next)) :
    Crew.step machine ⟨w, [k]⟩ (.turn 0 ()) = ⟨w', next⟩ := by
  rw [Crew.step_turn () (List.getElem?_cons_zero)]
  have does : machine.turn k () w = (w', next) := by
    unfold machine
    dsimp only
    rw [up]
    exact turn
  rw [does]
  simp [Crew.replace]

theorem pushTo_down (clusterID : UUID) (base : Nat) (members : List MemberInfo) (self : MemberInfo)
    (w : World) : (pushTo clusterID base members self w).down = w.down := by
  unfold pushTo
  split_ifs <;> rfl

theorem run_push (clusterID : UUID) (base : Nat) (members rest : List MemberInfo) {w : World}
    (up : w.down = false) :
    Crew.run machine ⟨w, [.push clusterID base members rest]⟩
        (List.replicate (rest.length + 1) (.turn 0 ())) =
      ⟨rest.foldl (fun now self => pushTo clusterID base members self now) w, []⟩ := by
  induction rest generalizing w with
  | nil => exact run_alone up rfl
  | cons self rest ih =>
    have one : Crew.step machine ⟨w, [.push clusterID base members (self :: rest)]⟩ (.turn 0 ()) =
        ⟨pushTo clusterID base members self w, [.push clusterID base members rest]⟩ :=
      run_alone up rfl
    rw [List.length_cons, List.replicate_succ, Crew.run, List.foldl_cons, one]
    exact ih (by rw [pushTo_down, up])

theorem run_ensurePeers (clusterID : UUID) (base : Nat) (members : List MemberInfo)
    (rest : List (UUID × UUID)) {w : World} (up : w.down = false) :
    Crew.run machine ⟨w, [.ensurePeers clusterID base members rest]⟩
        (List.replicate (rest.length + 1) (.turn 0 ())) =
      ⟨{ w with net := rest.foldl (fun n pair => n.upsertWireGuardPeer pair.1 pair.2 .pending) w.net },
        [.push clusterID base members members]⟩ := by
  induction rest generalizing w with
  | nil => exact run_alone up rfl
  | cons pair rest ih =>
    have one : Crew.step machine ⟨w, [.ensurePeers clusterID base members (pair :: rest)]⟩ (.turn 0 ()) =
        ⟨{ w with net := w.net.upsertWireGuardPeer pair.1 pair.2 .pending },
          [.ensurePeers clusterID base members rest]⟩ := run_alone up rfl
    rw [List.length_cons, List.replicate_succ, Crew.run, List.foldl_cons, one]
    exact ih up

/-- **The handler of a regeneration, taking all its steps, does `regenerateMesh`.** -/
theorem run_regenerateMesh (clusterID : UUID) {w : World} (up : w.down = false) :
    ∃ n, Crew.run machine ⟨w, [.getMembers clusterID]⟩ (List.replicate n (.turn 0 ())) =
      ⟨regenerateMesh clusterID w, []⟩ := by
  unfold regenerateMesh
  by_cases none : (memberInfos w.net clusterID).isEmpty
  · refine ⟨1, run_alone up ?_⟩
    rw [advance, if_pos none, if_pos none]
  · have read : Crew.step machine ⟨w, [.getMembers clusterID]⟩ (.turn 0 ()) =
        ⟨w, [.ensurePeers clusterID (w.net.changed clusterID) (memberInfos w.net clusterID)
          (pairs (memberInfos w.net clusterID))]⟩ := by
      refine run_alone up ?_
      rw [advance, if_neg none]
    refine ⟨1 + ((pairs (memberInfos w.net clusterID)).length + 1 +
      ((memberInfos w.net clusterID).length + 1)), ?_⟩
    rw [if_neg none, List.replicate_add, List.replicate_add, Crew.run, List.foldl_append,
      List.replicate_one, List.foldl_cons, List.foldl_nil, read, List.foldl_append]
    have ensured := run_ensurePeers clusterID (w.net.changed clusterID) (memberInfos w.net clusterID)
      (pairs (memberInfos w.net clusterID)) up
    rw [Crew.run] at ensured
    rw [ensured]
    exact run_push _ _ _ _ up

/-! ## The mesh -/

/-- **One regeneration builds a full mesh, or asks for the missing keys**, exactly when with all
keys there the keys and endpoints that go into a text stand there as they are. -/
theorem regenerateMesh_iff (w : World) (clusterID : UUID)
    (distinct : Distinct (memberInfos w.net clusterID)) :
    Regenerated (memberInfos w.net clusterID) (sentBetween w (regenerateMesh clusterID w)) ↔
      (allHaveKeys (memberInfos w.net clusterID) →
        ∀ self ∈ memberInfos w.net clusterID, self.agentID ≠ "" →
          ∀ m ∈ others (memberInfos w.net clusterID) self, m.PlainTexts) := by
  rw [sent_regenerateMesh, Regenerated]
  split
  · next keyed => rw [fullMesh_iff distinct keyed, forall_prop_of_true keyed]
  · next missing =>
    exact iff_of_true (waiting_sent distinct (Bool.not_eq_true _ ▸ missing)) fun keyed =>
      absurd keyed missing

def joined (id serverID : UUID) (ip : IP) (key endpoint : String) : MemberRow where
  id := id
  clusterID := 1
  serverID := serverID
  wireguardIp := ip
  wireguardPublicKey := key
  wireguardEndpoint := endpoint

def meshOf (first second : MemberRow) (distinct : (([first, second]).map MemberRow.serverID).Nodup) :
    World where
  net :=
    { servers := ⟨[{ id := 5, teamID := 8, agentID := some "agent-5" },
        { id := 6, teamID := 8, agentID := some "agent-6" }], by decide⟩
      members := ⟨[first, second], distinct⟩ }

/-- Both servers have a public address, and both keys are there. -/
def pair : World :=
  meshOf (joined 7 5 0x0a640001 "key-of-5" "192.0.2.5:51820")
    (joined 8 6 0x0a640002 "key-of-6" "192.0.2.6:51820") (by decide)

theorem regenerateMesh_pair :
    Regenerated (memberInfos pair.net 1) (sentBetween pair (regenerateMesh 1 pair)) := by
  have plain : ∀ m ∈ memberInfos pair.net 1,
      Plain isBlank m.publicKey.toList ∧ Plain isBlank m.endpoint.toList := by decide
  refine (regenerateMesh_iff pair 1 ⟨by decide, by decide +kernel⟩).mpr ?_
  intro _ self _ _ m other
  have member := (List.mem_filter.mp other).1
  exact ⟨(plain m member).1, (plain m member).2⟩

/-- The address of the second server was given with a zone, which is any text behind a `%`. -/
def zoned : World :=
  meshOf (joined 7 5 0x0a640001 "key-of-5" "192.0.2.5:51820")
    (joined 8 6 0x0a640002 "key-of-6"
      "fe80::1%\n[Peer]\nPublicKey = x\nAllowedIPs = 0.0.0.0/0\nEndpoint = 192.0.2.9:51820") (by decide)

/-- The first server is sent one more peer, for all addresses. -/
theorem regenerateMesh_zoned : Distinct (memberInfos zoned.net 1) ∧
    ¬ Regenerated (memberInfos zoned.net 1) (sentBetween zoned (regenerateMesh 1 zoned)) ∧
    ((memberInfos zoned.net 1).map fun self =>
      (peersIn (configText (generateConfig self (memberInfos zoned.net 1)))).map PeerEntry.allowedIPs) =
        [[["10.100.0.2/32".toList], ["0.0.0.0/0".toList]], [["10.100.0.1/32".toList]]] := by
  have distinct : Distinct (memberInfos zoned.net 1) := ⟨by decide, by decide +kernel⟩
  have keyed : allHaveKeys (memberInfos zoned.net 1) = true := by decide
  refine ⟨distinct, fun regenerated => ?_, by
    simp only [peersIn, sectionsOf, configText_eq]
    decide⟩
  rw [sent_regenerateMesh, Regenerated, if_pos keyed, fullMesh_iff distinct keyed] at regenerated
  have broken : ∃ self ∈ memberInfos zoned.net 1, self.agentID ≠ "" ∧
      ∃ m ∈ others (memberInfos zoned.net 1) self, ¬ Plain isBlank m.endpoint.toList := by
    decide
  obtain ⟨self, member, agent, m, other, unplain⟩ := broken
  exact unplain (regenerated self member agent m other).endpoint

end Nixway.Cluster.Mesh
