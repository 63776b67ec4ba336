import ThreadTrace.Event.Printer
import ThreadTrace.Sink.Files
import ThreadTrace.Sink.Screen
import ThreadTrace.Value.Equality

namespace ThreadTrace

inductive Delivery
  | event (e : Event)
  | value (v : Value)
deriving Inhabited

structure Box where
  label : String
  fresh : List Delivery
deriving Inhabited

/-- What sinks have put into a list that callers share, and how much of it was read before. -/
structure Shelf where
  events : List Event := []
  read : Nat := 0
deriving Inhabited

structure Made where
  name : String
  closings : Nat := 0
  closed : Bool := false
deriving DecidableEq, Inhabited

/-- Everything that sinks write to: the lists that callers share, the library's own boxes, consoles,
files, and the sinks of factories. -/
structure Outlets where
  stores : Table String Shelf := []
  boxes : List Box := []
  screens : Table String String := []
  files : Files := {}
  made : List Made := []
deriving Inhabited

/-- What a memory sink appends to. A value that is no list is found out at the first event, and then
is the reason why that fails. -/
inductive Inbox
  | store (name : String)
  | box (n : Nat)
  | noList (f : Fault)
deriving DecidableEq, Inhabited

/-- What a console sink prints to. Its own console's text is not kept. -/
inductive Screen
  | own
  | named (name : String)
  | noConsole (f : Fault)
deriving DecidableEq, Inhabited

inductive Outlet
  | memory (inbox : Inbox)
  | console (tag : String) (screen : Screen)
  | file (path : Path) (place : Place) (written : List String)
  | made (w : Workshop) (slot box : Nat)
deriving Inhabited

structure Sink where
  name : String
  outlet : Outlet
  closed : Bool := false
deriving Inhabited

namespace Outlets

def contents (o : Outlets) (name : String) : List Event :=
  ((o.stores.get? name).getD {}).events

def deliver (o : Outlets) (e : Event) : Inbox → Outlets
  | .store name =>
    let shelf := (o.stores.get? name).getD {}
    { o with stores := o.stores.put name { shelf with events := shelf.events ++ [e] } }
  | .box n => { o with
      boxes := o.boxes.modify n fun b => { b with fresh := b.fresh ++ [.event e] } }
  | .noList _ => o

def addBox (o : Outlets) (label : String) (items : List Delivery) : Nat × Outlets :=
  (o.boxes.length, { o with boxes := o.boxes ++ [⟨label, items⟩] })

def addStore (o : Outlets) (name : String) : Outlets :=
  if o.stores.has name then o else { o with stores := o.stores.put name {} }

def addMade (o : Outlets) (name : String) : Nat × Outlets :=
  (o.made.length, { o with made := o.made ++ [{ name }] })

def print (o : Outlets) (text : String) : Screen → Outlets
  | .named name =>
    { o with screens := o.screens.put name ((o.screens.get? name).getD "" ++ Screen.printed text) }
  | _ => o

def takeFresh (o : Outlets) : List (String × Delivery) × Outlets :=
  let stores := o.stores.flatMap fun (name, s) =>
    (s.events.drop s.read).map fun e => ("store " ++ name, .event e)
  let boxes := o.boxes.flatMap fun b => b.fresh.map fun d => (b.label, d)
  (stores ++ boxes,
    { o with
      stores := o.stores.map fun (name, s) => (name, { s with read := s.events.length })
      boxes := o.boxes.map fun b => { b with fresh := [] } })

end Outlets

namespace Sink

def printEvent (tag : String) (screen : Screen) (e : Event) (o : Outlets) :
    Except Fault Outlets := do
  let line ← e.line
  match screen with
  | .noConsole f => .error f
  | screen =>
    let o := o.print ("[" ++ tag ++ "] " ++ line) screen
    match e.dump with
    | some d => .ok (if d.isEmpty then o else o.print d screen)
    | none => .ok o

/-- Hands one event to a sink. A failure leaves sink and outlets as they were. -/
def accept (s : Sink) (e : Event) (o : Outlets) : Except Fault Unit × Sink × Outlets :=
  match s.outlet with
  | .memory (.noList f) => (.error f, s, o)
  | .memory inbox => (.ok (), s, o.deliver e inbox)
  | .console tag screen =>
    match printEvent tag screen e o with
    | .ok o => (.ok (), s, o)
    | .error f => (.error f, s, o)
  | .file path place written =>
    if s.closed then (.error .closedFile, s, o)
    else (.ok (), { s with outlet := .file path place (written ++ [e.record ++ "\n"]) }, o)
  | .made w _ box =>
    match w.acceptRaises with
    | some m => (.error (.raised "RuntimeError" m), s, o)
    | none => (.ok (), s, o.deliver e (.box box))

/-- Closes a sink. A file gets what was written to it; a file that is closed stays as it is. -/
def close (s : Sink) (o : Outlets) : Except Fault Unit × Sink × Outlets :=
  match s.outlet with
  | .memory _ => (.ok (), { s with closed := true }, o)
  | .console .. => (.ok (), s, o)
  | .file path place written =>
    if s.closed then (.ok (), s, o)
    else (.ok (), ⟨s.name, .file path place [], true⟩,
      { o with files := o.files.append place (String.join written) })
  | .made w slot _ =>
    match w.closeRaises with
    | some m => (.error (.raised "RuntimeError" m), s,
        { o with made := o.made.modify slot fun x => { x with closings := x.closings + 1 } })
    | none => (.ok (), { s with closed := true },
        { o with made := o.made.modify slot fun x =>
            { x with closings := x.closings + 1, closed := true } })

def blocks (s : Sink) : Bool :=
  match s.outlet with
  | .made w _ _ => w.blocking
  | _ => false

end Sink

end ThreadTrace
