import ThreadTrace.Profile.State

namespace ThreadTrace

/-- The host in the midst of the threads that it observes. -/
structure Observed where
  host : ProfileHost := {}
  threads : Threads
deriving Inhabited

namespace Observed

def observable (o : Observed) (t : Thread) : Bool :=
  o.threads.reachesRunning || t.name == o.threads.current ||
    t.ident?.any fun n => o.host.hooked.contains n

/-- Attaches a listed thread if it has an ident, is no sink and is observable; keeps the names of
those that are not observable. -/
def attachListed (o : Observed) (a : Attachment) (traced : Table Nat Attachment)
    (unreached : List String) : List Thread → Table Nat Attachment × List String
  | [] => (traced, unreached)
  | t :: ts =>
    match t.ident? with
    | none => attachListed o a traced unreached ts
    | some n =>
      if t.isSink then attachListed o a traced unreached ts
      else if o.observable t then attachListed o a (traced.put n a) unreached ts
      else attachListed o a traced (unreached ++ [t.name]) ts

def attachExisting (o : Observed) (a : Attachment) : ProfileHost × List Notice :=
  let (traced, unreached) := o.attachListed a o.host.traced [] o.threads.listed
  ({ o.host with traced }, if unreached.isEmpty then [] else [.threadsUnreached unreached])

/-- Arming takes the threads that exist from now on for known, unless it is armed already. -/
def attachArrivals (o : Observed) (a : Attachment) : ProfileHost :=
  let known := if o.host.arrivals.isNone then o.threads.listed.map (·.name) else o.host.known
  { o.host with known, arrivals := some a }

def attachSelector (o : Observed) (s : Selector) (a : Attachment) : ProfileHost × List Notice :=
  let (host, notices) := if s.coversExisting then o.attachExisting a else (o.host, [])
  (if s.coversNew then attachArrivals { o with host } a else host, notices)

def attachRunning (o : Observed) (t : Thread) (n : Nat) (a : Attachment) :
    ProfileHost × List Notice :=
  if o.observable t then ({ o.host with traced := o.host.traced.put n a }, [])
  else (o.host, [.threadUnreached t.name])

/-- A thread that has not started waits for its start; one that has finished is left alone. -/
def attachThread (o : Observed) (name : String) (a : Attachment) : ProfileHost × List Notice :=
  match o.threads.find? name with
  | none => (o.host, [])
  | some t =>
    if t.isSink then (o.host, [])
    else match t.ident? with
      | none => ({ o.host with pending := o.host.pending.put name a }, [])
      | some n => if t.isAlive then o.attachRunning t n a else (o.host, [])

/-- Of several listed threads with one ident the last one counts. -/
def attachIdent (o : Observed) (n : Nat) (a : Attachment) : ProfileHost × List Notice :=
  match o.threads.listed.reverse.find? fun t => t.ident? == some n with
  | none => (o.host, [])
  | some t => if t.isSink then (o.host, []) else o.attachRunning t n a

def attachCarrier (o : Observed) (c : Carrier) (a : Attachment) : ProfileHost × List Notice :=
  match c with
  | .selector s => o.attachSelector s a
  | .port _ => (o.host, [])
  | .thread name => o.attachThread name a
  | .ident n => o.attachIdent n a

def installHook (o : Observed) : Observed :=
  let all := o.threads.reachesRunning
  { host := { o.host with allThreads := all, installed := true }
    threads := if all then o.threads.hookAll true
      else (o.threads.hookStarted true).hookCurrent true }

/-- Installs the hook when there is something to observe; an installed hook that does not reach
every thread is put on the running thread again. -/
def refresh (o : Observed) : Observed :=
  let o := { o with host := { o.host with active := o.host.hasAttachments } }
  if o.host.active && !o.host.installed then o.installHook
  else if o.host.active && !o.host.allThreads then { o with threads := o.threads.hookCurrent true }
  else o

def attach (o : Observed) (c : Carrier) (a : Attachment) : Observed × List Notice :=
  let (host, notices) := o.attachCarrier c a
  (refresh { o with host := { host with ignored := [] } }, notices)

def forget (o : Observed) (t : Target) : Observed := { o with host := o.host.forget t }

def uninstallHook (o : Observed) : Observed :=
  if !o.host.installed then o
  else
    { host := { o.host with installed := false }
      threads := if o.host.allThreads then o.threads.hookAll false
        else (o.threads.hookStarted false).hookCurrent false }

def clear (o : Observed) : Observed :=
  uninstallHook { o with host := { o.host with
    traced := []
    pending := []
    arrivals := none
    ignored := []
    filters := []
    localOnly := []
    hooked := []
    lastIdent := none
    active := false } }

instance : TraceHost Observed where
  attach o v flags target := do return o.attach (← Carrier.ofValue v) ⟨flags, target⟩
  install o v spec localOnly := do
    return ({ o with host := o.host.install (← unitOfValue v) spec localOnly }, [])
  clear := clear

end Observed

end ThreadTrace
