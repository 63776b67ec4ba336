import ThreadTrace.Act
import ThreadTrace.Profile.Dump
import ThreadTrace.Profile.State
import ThreadTrace.Value.Printer

namespace ThreadTrace

/-- What the hook needs from outside: workers that take an event or refuse it, a clock, and someone
to tell of targets that are dropped. -/
structure HookEnv (σ : Type) where
  offer : Nat → Event → σ → Bool × σ
  tick : σ → Double × σ
  dropped : Target → σ → σ

structure HookState (σ : Type) where
  host : ProfileHost
  outside : σ

structure Caller where
  ident : Nat
  thread : String
  isSink : Bool
deriving DecidableEq, Inhabited

namespace Hook

variable {σ : Type} (c : HookEnv σ)

def changeHost (f : ProfileHost → ProfileHost) : Act (HookState σ) Unit :=
  modify fun s => { s with host := f s.host }

def drop (t : Target) : Act (HookState σ) Unit :=
  modify fun s => { host := s.host.forget t, outside := c.dropped t s.outside }

def time (flags : Flags) : Act (HookState σ) (Option Double) :=
  if flags.timestamp then do
    let s ← get
    let (x, outside) := c.tick s.outside
    set { s with outside }
    return some x
  else return none

def offer (worker : Nat) (e : Event) : Act (HookState σ) Bool := do
  let s ← get
  let (taken, outside) := c.offer worker e s.outside
  set { s with outside }
  return taken

/-- Hands an event to the worker for its carrier. Without a worker, or if the worker refuses, the
target is dropped. -/
def emit (ident : Nat) (target : Target) (e : Event) : Act (HookState σ) Unit := do
  if target.mode == .profile && !e.kind.isProfiled then return
  match ← Act.result (target.route (.int ident)) with
  | none => drop c target
  | some worker => if !(← offer c worker e) then drop c target

/-- The attachment that a thread not seen before gets: the one waiting for it, or the one for
arrivals if the thread is no sink and was not known when that was armed. -/
def arriving (h : ProfileHost) (me : Caller) : Option Attachment :=
  match h.pending.get? me.thread with
  | some a => some a
  | none => if me.isSink || h.known.contains me.thread then none else h.arrivals

/-- The attachment of the running thread. It is settled when the thread's first call reaches the
hook. -/
def attachment (me : Caller) : Act (HookState σ) (Option Attachment) := do
  let h := (← get).host
  match h.traced.get? me.ident with
  | some a => return some a
  | none =>
    if h.ignored.contains me.ident then return none
    let found := arriving h me
    let h := { h with
      hooked := ProfileHost.insertNew me.ident h.hooked
      pending := h.pending.erase me.thread }
    changeHost fun _ => match found with
      | some a => { h with traced := h.traced.put me.ident a }
      | none => { h with ignored := ProfileHost.insertNew me.ident h.ignored }
    return found

def plainEvent (kind : EventKind) (ident : Nat) (a : Attachment) : Act (HookState σ) Event := do
  return { kind, carrier := ident, timestamp := ← time c a.flags, mode := a.target.mode }

def checkSwitch (ident : Nat) (a : Attachment) : Act (HookState σ) Unit := do
  let before := (← get).host.lastIdent
  if before == some ident then return
  changeHost fun h => { h with lastIdent := some ident }
  if let some p := before then
    if let some b := (← get).host.traced.get? p then
      if b.flags.running then
        emit c p b.target (← plainEvent c .scheduledOut p b)
  emit c ident a.target (← plainEvent c .scheduledIn ident a)

def inherit (isSink : String → Bool) (a : Attachment) (f : Frame) : Act (HookState σ) Unit :=
  match f.startsThread, f.local? "self" with
  | true, some (.thread child) =>
    if isSink child then return
    else changeHost fun h => { h with pending := h.pending.put child a }
  | _, _ => return

def arguments (f : Frame) : List String :=
  (f.localNames.take f.arity).map fun name => ((f.local? name).getD .null).brief

def callEvent (ident : Nat) (a : Attachment) (spec : MatchSpec) (f : Frame) (stack : List Frame) :
    Act (HookState σ) Event := do
  return {
    kind := .call
    carrier := ident
    unit := f.unit
    function := some f.function
    arity := some f.arity
    args := if a.flags.arity then none else some (arguments f)
    timestamp := ← time c a.flags
    dump := if spec == .processDump && a.target.mode == .trace then some (Dump.text stack) else none
    mode := a.target.mode }

def onCall (isSink : String → Bool) (me : Caller) (f : Frame) (stack : List Frame) :
    Act (HookState σ) Unit := do
  let some a ← attachment me | return
  if a.flags.running then checkSwitch c me.ident a
  if a.flags.setOnSpawn then inherit isSink a f
  if !a.flags.call then return
  let some spec := (← get).host.matchUnit f.unit | return
  emit c me.ident a.target (← callEvent c me.ident a spec f stack)

def place (f : Frame) : String := f.unit.getD "None" ++ ":" ++ f.function

def onEnd (me : Caller) : Act (HookState σ) Unit := do
  let h := (← get).host
  changeHost fun h => { h with
    ignored := ProfileHost.remove me.ident h.ignored
    hooked := ProfileHost.remove me.ident h.hooked }
  if let some a := h.traced.get? me.ident then
    changeHost fun h => { h with traced := h.traced.erase me.ident }
    if a.flags.procs then
      emit c me.ident a.target (← plainEvent c .exit me.ident a)

def onReturn (me : Caller) (f : Frame) (caller : Option Frame) : Act (HookState σ) Unit := do
  match caller with
  | none => onEnd c me
  | some caller =>
    let h := (← get).host
    let some a := h.traced.get? me.ident | return
    if !a.flags.returnTo || !a.flags.call then return
    if (h.matchUnit f.unit).isNone then return
    emit c me.ident a.target {
      kind := .returnTo
      carrier := me.ident
      unit := f.unit
      function := some f.function
      caller := some (place caller)
      timestamp := ← time c a.flags
      mode := a.target.mode }

/-- What the hook is told. Other events than calls and returns are of no interest. -/
inductive Signal
  | call
  | ret
  | other
deriving DecidableEq, Inhabited

def fire (isSink : String → Bool) (me : Caller) (signal : Signal) (f : Frame)
    (below : List Frame) : Act (HookState σ) Unit := do
  if !(← get).host.active then return
  match signal with
  | .call => onCall c isSink me f (f :: below)
  | .ret => onReturn c me f below.head?
  | .other => return

end Hook

end ThreadTrace
