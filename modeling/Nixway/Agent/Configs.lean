/-
# Agent.Configs -- the configuration files of a node under many commands

`receiveLoop` of `apps/agent/main.go` starts a goroutine for every command.  Here are the
commands that write configuration: the Traefik file of an app, `wg0.conf`, the hosts file
with the Corefile, and the stopping of a container that removes a Traefik file.  The control
plane sends them in the order it wants them to take effect; the goroutines keep no order, and
the file of an earlier command can be written over that of a later one
(`earlier_route_wins`).

`last_command_wins` is the condition: when every write and removal of a file comes before
those of later commands, the files end as if the commands had been carried out one after the
other, and what a command wrote is replaced by later commands only.
-/
import Nixway.Agent.Traefik
import Nixway.Theory.Ordered

namespace Nixway.Agent.Configs

open Nixway.Theory Nixway.Theory.Ordered Nixway.Store

set_option autoImplicit false

/-! ## Files -/

inductive File where
  | traefik (name : String)
  | wireguard
  | hosts
  | corefile
deriving DecidableEq

inductive Content where
  | dynamic (cfg : DynamicConfig)
  | text (content : String)
deriving DecidableEq

structure WireGuardApplyCommand where
  memberID : UUID
  config : String
  wireguardIp : String
deriving DecidableEq

structure DNSUpdateHostsCommand where
  clusterSlug : String
  hostsContent : String
  corefileContent : String
  deployCoredns : Bool
deriving DecidableEq

inductive Command where
  | trafficRoute (cmd : TrafficRouteCommand)
  | stopContainer (cmd : StopContainerCommand)
  | wireguardApply (cmd : WireGuardApplyCommand)
  | dnsUpdateHosts (cmd : DNSUpdateHostsCommand)
deriving DecidableEq

/-- What the handler of a command does to the files, in its order; no content is a removal.
`privKey` is the private key on the node, which none of these commands touches. -/
def writes (privKey : Option String) : Command → List (File × Option Content)
  | .trafficRoute cmd => (writeWeightedTraefikConfig cmd).toOption.toList.map fun file =>
    (.traefik file.1, some (.dynamic file.2))
  | .stopContainer cmd => (removed (.stopContainer cmd)).toList.map fun name =>
    (.traefik name, none)
  | .wireguardApply cmd => privKey.toList.map fun key =>
    (.wireguard, some (.text (cmd.config.replace "PRIVATE_KEY_PLACEHOLDER" key)))
  | .dnsUpdateHosts cmd =>
    [(.hosts, some (.text cmd.hostsContent)), (.corefile, some (.text cmd.corefileContent))]

/-- No command writes a file twice. -/
theorem writes_once (privKey : Option String) (cmd : Command) :
    ((writes privKey cmd).map Prod.fst).Nodup := by
  cases cmd with
  | trafficRoute cmd =>
    cases file : (writeWeightedTraefikConfig cmd).toOption <;> simp [writes, file]
  | stopContainer cmd =>
    cases name : removed (.stopContainer cmd) <;> simp [writes, name]
  | wireguardApply cmd => cases privKey <;> simp [writes]
  | dnsUpdateHosts cmd => simp [writes]

/-! ## Runs -/

/-- The files of a node, with the handlers of the commands received. -/
abbrev Node := Crew (Cells File (Option Content) Command) (Job File (Option Content))

abbrev Event := Move Command Unit Empty

/-- The node with the given files, before the first command. -/
def fresh (files : File → Option Content) : Node := ⟨{ value := files }, []⟩

def run (privKey : Option String) (files : File → Option Content) (events : List Event) : Node :=
  Crew.run (machine (writes privKey)) (fresh files) events

/-- A handler writes or removes a file before the handlers of later commands do. -/
def InOrder (privKey : Option String) (files : File → Option Content) (events : List Event) : Prop :=
  Runs.Along (Crew.step (machine (writes privKey))) (fun node event => inOrder node event = true)
    (fresh files) events

instance (privKey : Option String) (files : File → Option Content) (events : List Event) :
    Decidable (InOrder privKey files events) :=
  inferInstanceAs (Decidable (Runs.Along _ _ _ _))

/-- The handler of the command `m` has done the write. -/
def Done (node : Node) (m : Nat) (entry : File × Option Content) : Prop :=
  ∀ job ∈ node.handlers, job.number = m → entry ∉ job.todo

/-- **When every file is written and removed in the order of the commands, at quiescence the
files are those the commands leave when carried out one after the other; and at any time, what
a command wrote or removed is only replaced by what a later one writes or removes.** -/
theorem last_command_wins (privKey : Option String) (files : File → Option Content)
    (events : List Event) (stays : .restart ∉ events) (ordered : InOrder privKey files events) :
    ((run privKey files events).handlers = [] → (run privKey files events).shared.value =
      sequential (writes privKey) files (commands events)) ∧
    ∀ (m : Nat) (cmd : Command), (commands events)[m]? = some cmd → ∀ entry ∈ writes privKey cmd,
      Done (run privKey files events) m entry →
        ∃ m' cmd', m ≤ m' ∧ (commands events)[m']? = some cmd' ∧
          (entry.1, (run privKey files events).shared.value entry.1) ∈ writes privKey cmd' := by
  have tracked : Tracked (writes privKey) files (run privKey files events) :=
    Tracked.run files stays ordered
  have received : (run privKey files events).shared.received = commands events :=
    received_run (writes privKey) (fresh files) events
  constructor
  · intro quiet
    rw [← received]
    exact tracked.settled (writes_once privKey) quiet
  · intro m cmd found entry member done
    rw [← received] at found ⊢
    exact tracked.done_or_later found member done

def routeTo (url : String) : Command :=
  .trafficRoute { appSlug := "web", domains := ["web.example"], groups := [⟨"stable", 100, [url]⟩] }

def stopOld : Command :=
  .stopContainer
    { containerName := "old", timeoutSeconds := 30, removeTraefik := true, appSlug := "web" }

/-- A route, the stop of an old container and a new route, each carried out in its turn. -/
def takenInTurn : List Event :=
  [.command (routeTo "http://a"), .turn 0 (), .command stopOld, .turn 1 (),
    .command (routeTo "http://b"), .turn 2 (), .turn 0 (), .turn 0 (), .turn 0 ()]

theorem new_route_in_place :
    (run none (fun _ => none) takenInTurn).shared.value =
      sequential (writes none) (fun _ => none) (commands takenInTurn) :=
  (last_command_wins none (fun _ => none) takenInTurn (by decide +kernel) (by decide +kernel)).1
    (by decide +kernel)

/-- Two routes of one app; the handler of the first one writes last. -/
def overtaken : List Event :=
  [.command (routeTo "http://a"), .command (routeTo "http://b"), .turn 1 (), .turn 0 (),
    .turn 0 (), .turn 0 ()]

/-- The file of the first command stays. -/
theorem earlier_route_wins :
    .restart ∉ overtaken ∧ (run none (fun _ => none) overtaken).handlers = [] ∧
      (run none (fun _ => none) overtaken).shared.value (.traefik "web.yml") ≠
        sequential (writes none) (fun _ => none) (commands overtaken) (.traefik "web.yml") := by
  decide +kernel

end Nixway.Agent.Configs
