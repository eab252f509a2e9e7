/-
# Agent.Connect -- the streams of an agent and the connection manager

`Server.Connect` of `internal/agent/server.go` and `ConnManager` of
`internal/agent/connmanager.go` as a transition system.  A stream is opened, is
handed messages, and hangs up; its handler answers each message with a sequence of
`ConnManager` operations, each one step, and its deferred `Disconnect` is the last.
Any number of streams of one agent run beside each other.

Streams are numbered in the order they are started.  What a message does besides
its `ConnManager` operations (the rows it writes, what it publishes) is left out.
-/
import Nixway.Store.Schema
import Mathlib.Logic.Function.Basic

namespace Nixway.Agent

open Nixway.Store

set_option autoImplicit false

/-! ## The connection manager -/

structure ResourceData where
  cpuModel : String := ""
  cpuCores : Int := 0
  memoryTotal : Nat := 0
  memoryAvailable : Nat := 0
  kernelVersion : String := ""
  dockerVersion : String := ""
deriving DecidableEq

/-- `ConnState`; the stream is the number of a stream. -/
structure ConnEntry where
  agentID : String
  lastSeen : Nat
  status : AgentStatus
  resources : Option ResourceData := none
  stream : Option Nat := none

/-- `ConnManager.agents`. -/
abbrev ConnManager := String → Option ConnEntry

namespace ConnManager

def register (m : ConnManager) (agentID : String) (now : Nat) : ConnManager :=
  Function.update m agentID (some { agentID := agentID, lastSeen := now, status := .online })

/-- Change the entry of an agent that has one. -/
def modify (m : ConnManager) (agentID : String) (f : ConnEntry → ConnEntry) : ConnManager :=
  Function.update m agentID ((m agentID).map f)

def heartbeat (m : ConnManager) (agentID : String) (now : Nat) : ConnManager :=
  m.modify agentID fun entry => { entry with lastSeen := now, status := .online }

def disconnect (m : ConnManager) (agentID : String) : ConnManager :=
  Function.update m agentID none

def getState (m : ConnManager) (agentID : String) : Option ConnEntry := m agentID

def updateResources (m : ConnManager) (agentID : String) (report : ResourceData) : ConnManager :=
  m.modify agentID fun entry => { entry with resources := some report }

def setStream (m : ConnManager) (agentID : String) (stream : Nat) : ConnManager :=
  m.modify agentID fun entry => { entry with stream := some stream }

/-- The stream `SendToAgent` hands a message to. -/
def sendToAgent (m : ConnManager) (agentID : String) : Except String Nat :=
  match m agentID with
  | none => .error ("agent " ++ agentID ++ " not connected")
  | some entry =>
    match entry.stream with
    | none => .error ("agent " ++ agentID ++ " has no active stream")
    | some stream => .ok stream

end ConnManager

/-! ## Streams -/

/-- The messages of an agent, as far as the manager is concerned. -/
inductive AgentMessage where
  | heartbeat (agentID : String)
  | resourceReport (agentID : String) (report : ResourceData)
  | healthReport (agentID : String)
  | metricReport (agentID : String)
  | other
deriving DecidableEq

/-- The id a message carries. -/
def AgentMessage.agentID : AgentMessage → Option String
  | .heartbeat agentID => some agentID
  | .resourceReport agentID _ => some agentID
  | .healthReport agentID => some agentID
  | .metricReport agentID => some agentID
  | .other => none

/-- A heartbeat or a resource report. -/
def AgentMessage.registers : AgentMessage → Bool
  | .heartbeat _ => true
  | .resourceReport _ _ => true
  | _ => false

/-- Where the handler of a stream is. -/
inductive Handler where
  | unopened
  /-- In `stream.Recv`. -/
  | waiting
  /-- Before the `GetState`, `Register` and `SetStream` of a first message. -/
  | looking (msg : AgentMessage)
  | registering (msg : AgentMessage)
  | storing (msg : AgentMessage)
  /-- Before `Heartbeat`, and before `UpdateResources`. -/
  | beating (msg : AgentMessage)
  | updating (report : ResourceData)
  /-- Before the deferred `Disconnect`. -/
  | returning
  | returned
deriving DecidableEq

/-- A stream: its handler, the handler's variable `agentID`, and whether the manager
has heard a heartbeat or resource report of it. -/
structure Stream where
  handler : Handler := .unopened
  agentID : String := ""
  heard : Bool := false

/-- The stream is open: started, and its handler has not begun to return. -/
def Stream.isOpen (s : Stream) : Bool :=
  s.handler ≠ .unopened && s.handler ≠ .returning && s.handler ≠ .returned

structure System where
  manager : ConnManager := fun _ => none
  started : Nat := 0
  streams : Nat → Stream := fun _ => {}

inductive Event where
  | start
  | deliver (stream : Nat) (msg : AgentMessage)
  /-- The next operation of the stream's handler, at this time. -/
  | operate (stream : Nat) (now : Nat)
  | hangUp (stream : Nat)

namespace System

def setStream (sys : System) (k : Nat) (s : Stream) : System :=
  { sys with streams := Function.update sys.streams k s }

def receive (s : Stream) (msg : AgentMessage) : Stream :=
  match msg with
  | .heartbeat agentID =>
    if s.agentID = "" then { s with agentID := agentID, handler := .looking msg }
    else { s with handler := .beating msg }
  | .resourceReport agentID _ =>
    if s.agentID = "" then { s with agentID := agentID, handler := .looking msg }
    else { s with handler := .beating msg }
  | .healthReport agentID =>
    if s.agentID = "" then { s with agentID := agentID } else s
  | .metricReport agentID =>
    if s.agentID = "" then { s with agentID := agentID } else s
  | .other => s

/-- The id a heartbeat is counted for: its own, while a resource report counts for the
stream's. -/
def beatID (s : Stream) : AgentMessage → String
  | .heartbeat agentID => agentID
  | _ => s.agentID

/-- After the heartbeat a resource report still has its resources. -/
def afterBeat : AgentMessage → Handler
  | .resourceReport _ report => .updating report
  | _ => .waiting

/-- One `ConnManager` operation of the handler. -/
def operate (sys : System) (k now : Nat) : System :=
  let s := sys.streams k
  match s.handler with
  | .looking msg =>
    match sys.manager.getState s.agentID with
    | none => sys.setStream k { s with handler := .registering msg }
    | some _ => sys.setStream k { s with handler := .storing msg }
  | .registering msg =>
    { sys.setStream k { s with handler := .storing msg } with
      manager := sys.manager.register s.agentID now }
  | .storing msg =>
    { sys.setStream k { s with handler := .beating msg, heard := true } with
      manager := sys.manager.setStream s.agentID k }
  | .beating msg =>
    { sys.setStream k { s with handler := afterBeat msg, heard := true } with
      manager := sys.manager.heartbeat (beatID s msg) now }
  | .updating report =>
    { sys.setStream k { s with handler := .waiting } with
      manager := sys.manager.updateResources s.agentID report }
  | .returning =>
    { sys.setStream k { s with handler := .returned } with
      manager := if s.agentID = "" then sys.manager else sys.manager.disconnect s.agentID }
  | .unopened => sys
  | .waiting => sys
  | .returned => sys

/-- An event that cannot happen leaves the system as it is. -/
def step (sys : System) : Event → System
  | .start =>
    { sys.setStream sys.started { handler := .waiting } with started := sys.started + 1 }
  | .deliver k msg =>
    if (sys.streams k).handler = .waiting then sys.setStream k (receive (sys.streams k) msg)
    else sys
  | .operate k now => sys.operate k now
  | .hangUp k =>
    if (sys.streams k).handler = .waiting then
      sys.setStream k { sys.streams k with handler := .returning }
    else sys

def run (sys : System) (events : List Event) : System := events.foldl step sys

end System

end Nixway.Agent
