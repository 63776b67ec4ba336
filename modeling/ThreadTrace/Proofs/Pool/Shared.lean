import ThreadTrace.Proofs.Pool.Registry

namespace ThreadTrace

namespace SharedSupervisor

inductive Section
  | start (id size : Value) (outcome : Except Fault Pool)
  | take (id : Value) (found : Option Pool)

end SharedSupervisor

/-- A stop that somebody has asked for: the ids to come, the pool that was taken out last with those
of its workers that are `left` to be stopped, and the worker that is waited for. A lenient one passes
over ids that are not registered. -/
structure PendingStop where
  limit : Value
  ids : List Value
  lenient : Bool
  pool : Option Pool := none
  left : List Nat := []
  awaited : Option Nat := none
  outcome : Option (Except Fault Unit) := none

structure SharedSupervisor where
  supervisor : Supervisor := {}
  pendingStops : List PendingStop := []
  log : List SharedSupervisor.Section := []

namespace PendingStop

def fail (e : PendingStop) (f : Fault) : PendingStop := { e with outcome := some (.error f) }

def enter (e : PendingStop) (id : Value) (ids : List Value) (s : Supervisor) :
    PendingStop × Supervisor × List SharedSupervisor.Section :=
  match (Supervisor.takePool id).on s with
  | (.ok (some p), s) => ({ e with ids, pool := some p, left := p.workers }, s, [.take id (some p)])
  | (.ok none, s) =>
    match id.shown with
    | .ok shown =>
      (if e.lenient then { e with ids } else e.fail (.notRunning shown), s, [.take id none])
    | .error f => (e.fail f, s, [.take id none])
  | (.error f, s) => (e.fail f, s, [])

/-- The next thing that a stop does. How long a wait takes that has begun is left open. -/
def next (e : PendingStop) (s : Supervisor) : PendingStop × Supervisor × List SharedSupervisor.Section :=
  match e.outcome, e.awaited, e.left, e.ids with
  | some _, _, _, _ => (e, s, [])
  | none, some k, _, _ =>
    let e' := { e with awaited := none }
    match (s.crew.worker? k).map (Worker.await e.limit) with
    | some (.error f) => (e'.fail f, s, [])
    | _ => (e', s, [])
  | none, none, k :: left, _ =>
    match s.crew.worker? k with
    | none => ({ e with left }, s, [])
    | some w => ({ e with left, awaited := if w.running then some k else none },
        { s with crew := s.crew.putWorker k w.stop }, [])
  | none, none, [], id :: ids => e.enter id ids s
  | none, none, [], [] => ({ e with outcome := some (.ok ()) }, s, [])

def subject (e : PendingStop) : Option Value :=
  if e.awaited.isSome || !e.left.isEmpty then e.pool.map (·.id) else e.ids.head?

end PendingStop

namespace SharedSupervisor

/-- What can happen next: a request comes in, a stop proceeds, somebody sends an event to a worker, a
worker's thread takes an item. -/
inductive Turn
  | start (id size kind options : Value)
  | stop (id timeout : Value)
  | stopAll
  | proceed (n : Nat)
  | send (t : Target) (e : Event)
  | take (place : Nat)

variable (settings : Settings)

def turn (o : SharedSupervisor) : Turn → SharedSupervisor
  | .start id size kind options =>
    let (r, supervisor) := (Supervisor.startPool settings id size kind options).on o.supervisor
    { o with supervisor, log := o.log ++ [.start id size r] }
  | .stop id timeout =>
    let e : PendingStop := ⟨Supervisor.limitOf settings timeout, [id], false, none, [], none, none⟩
    { o with pendingStops := o.pendingStops ++ [e] }
  | .stopAll =>
    let e : PendingStop := ⟨settings.joinTimeout, o.supervisor.running, true, none, [], none, none⟩
    { o with pendingStops := o.pendingStops ++ [e] }
  | .proceed n =>
    match o.pendingStops[n]? with
    | none => o
    | some e =>
      let (e, supervisor, log) := e.next o.supervisor
      ⟨supervisor, o.pendingStops.set n e, o.log ++ log⟩
  | .send t e =>
    { o with supervisor.crew := (o.supervisor.crew.act t (.send e)).1 }
  | .take k =>
    { o with supervisor.crew := (o.supervisor.crew.act default (.take k)).1 }

def run (o : SharedSupervisor) (ts : List Turn) : SharedSupervisor := ts.foldl (turn settings) o

end SharedSupervisor

end ThreadTrace
