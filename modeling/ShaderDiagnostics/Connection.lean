import ShaderDiagnostics.Server
import ShaderDiagnostics.Service.Schedule

/-!
# Connections

A server at work: after every message of the editor all jobs go on until none can, and time passes only
when it is made to. What the server sends waits until it is taken. A connection has a fault if it ended
badly, be it by the rules of the server or by a message that cannot be read.
-/

namespace ShaderDiagnostics

/-- A server with the jobs that can go on and the messages that wait to be taken. -/
structure Connection where
  /-- The server. -/
  server : Server
  /-- The numbers of jobs that can go on, the first one next. -/
  queue : List Nat
  /-- The number of messages that have been taken. -/
  taken : Nat

namespace Connection

/-- A connection at its start. -/
def start (host : Host) : Connection := ⟨Server.start host, [], 0⟩

/-- The connection with something done to the schedule of its session, if there is one. -/
def onSchedule (c : Connection) (f : Schedule → Schedule) : Connection :=
  match c.server.session? with
  | none => c
  | some session =>
    let t := f ⟨session.service, c.queue⟩
    { c with server := c.server.update fun _ => t.service, queue := t.queue }

/-- Handles a message and lets all jobs go on. -/
def receive (c : Connection) (m : Incoming) : Connection :=
  { c with server := c.server.receive m }.onSchedule Schedule.run

/-- Lets time pass. -/
def elapse (c : Connection) (milliseconds : Nat) : Connection :=
  c.onSchedule fun t => t.advance milliseconds

/-- The editor has left. -/
def hangUp (c : Connection) : Connection := { c with server := c.server.hangUp }

/-- Whether the connection has ended. -/
def isOver (c : Connection) : Bool :=
  match c.server.phase with
  | .ended _ _ => true
  | _ => false

/-- Why the connection has ended badly, if it has. -/
def fault? (c : Connection) : Option ServerFault :=
  match c.server.phase with
  | .ended _ fault => fault
  | _ => none

/-- Handles a message as it arrives. Once the connection has ended nothing arrives any more. -/
def receiveJson (c : Connection) (j : Json) : Connection :=
  if c.isOver then c
  else
    match Incoming.decode j with
    | .ok m => c.receive m
    | .error e => { c with server := c.server.stop (some (.badMessage e)) }

/-- A whole connection: the messages of the editor in order, then its end. -/
def conversation (host : Host) (messages : List Json) : Connection :=
  (messages.foldl receiveJson (start host)).hangUp

/-! ### Messages to be taken -/

/-- The messages that wait, in the order in which they were sent. -/
def waiting (c : Connection) : List Outgoing := c.server.outbox.since c.taken

/-- Takes some of the messages that wait. -/
def take (c : Connection) (count : Nat) : Connection × List Outgoing :=
  let messages := c.waiting.take count
  ({ c with taken := c.taken + messages.length }, messages)

/-- Takes all messages that wait. -/
def takeAll (c : Connection) : Connection × List Outgoing := c.take c.waiting.length

/-- Lets time pass until so many messages wait, over at most so many deadlines. -/
def await (count : Nat) : Nat → Connection → Connection
  | 0, c => c
  | n + 1, c =>
    if count ≤ c.waiting.length then c
    else
      match c.server.session?.bind fun session => Schedule.nextDeadline? session.service with
      | none => c
      | some deadline => await count n (c.onSchedule fun t => (t.setClock deadline).run)

end Connection

end ShaderDiagnostics
