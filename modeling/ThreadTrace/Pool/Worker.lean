import ThreadTrace.Notice
import ThreadTrace.Sink.Basic

namespace ThreadTrace

inductive Item
  | event (e : Event)
  | stop
deriving DecidableEq, Inhabited

inductive Life
  | unstarted
  | alive
  | finished
deriving DecidableEq, Inhabited

/-- `pool` is the text of the owning pool's id. -/
structure Worker where
  pool : String
  index : Value
  indexText : String
  sink : Sink
  queue : List Item := []
  running : Bool := false
  life : Life := .unstarted
deriving Inhabited

namespace Worker

def threadName (w : Worker) : String := "glasstrace-" ++ w.pool ++ "-" ++ w.indexText

def shown (w : Worker) : String :=
  "<SinkWorker " ++ w.pool ++ "/" ++ w.indexText ++ " " ++ w.sink.name ++ ">"

def send (w : Worker) (e : Event) : Bool × Worker :=
  if w.running then (true, { w with queue := w.queue ++ [.event e] }) else (false, w)

def start (w : Worker) : Except Fault Unit × Worker :=
  let w := { w with running := true }
  match w.life with
  | .unstarted => (.ok (), { w with life := .alive })
  | _ => (.error .startedTwice, w)

def stop (w : Worker) : Worker :=
  if w.running then { w with running := false, queue := w.queue ++ [.stop] } else w

/-- The thread hands one event to the sink. A failure is reported if the event has a text. -/
def accept (w : Worker) (e : Event) (o : Outlets) : Worker × Outlets × List Notice :=
  let (r, sink, o) := w.sink.accept e o
  ({ w with sink }, o, match r with
    | .ok () => []
    | .error f => if e.IsShort then [Notice.sinkFailed w.sink.name e.shown f.message] else [])

def finish (w : Worker) (o : Outlets) : Worker × Outlets × List Notice :=
  let (r, sink, o) := w.sink.close o
  ({ w with sink, life := .finished }, o, match r with
    | .ok () => []
    | .error _ => [Notice.closeFailed w.sink.name])

def take (w : Worker) (o : Outlets) : Worker × Outlets × List Notice :=
  if w.life ≠ .alive then (w, o, [])
  else match w.queue with
    | [] => (w, o, [])
    | .event e :: r => accept { w with queue := r } e o
    | .stop :: r => finish { w with queue := r } o

/-- Whether the thread waits for the gate with the event that it has taken. -/
def isHeld (w : Worker) (gateOpen : Bool) : Bool :=
  match w.queue with
  | .event _ :: _ => w.sink.blocks && !gateOpen
  | _ => false

def drain (gateOpen : Bool) : Nat → Worker → Outlets → Worker × Outlets × List Notice
  | 0, w, o => (w, o, [])
  | n + 1, w, o =>
    if w.isHeld gateOpen then (w, o, [])
    else
      let (w, o, first) := w.take o
      let (w, o, others) := drain gateOpen n w o
      (w, o, first ++ others)

end Worker

end ThreadTrace
