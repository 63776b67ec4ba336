import ThreadTrace.Text.Quoted

namespace ThreadTrace

inductive Level
  | info
  | warning
  | error
deriving DecidableEq, Inhabited

/-- Where a notice names a value or a fault, it keeps the shown form. -/
inductive Notice
  | bundleMissing (name : String)
  | moduleFailed (unit fault : String)
  | threadsUnreached (names : List String)
  | threadUnreached (name : String)
  | targetDropped
  | poolStarted (shown : String) (size : Nat)
  | poolStopped (shown : String)
  | workerSlow (worker : String) (seconds : String)
  | sinkFailed (sink event fault : String)
  | closeFailed (sink : String)
deriving DecidableEq, Inhabited

namespace Notice

def level : Notice → Level
  | targetDropped | poolStarted .. | poolStopped _ => .info
  | sinkFailed .. | closeFailed _ => .error
  | _ => .warning

def source : Notice → String
  | bundleMissing _ => "core.normalizer"
  | moduleFailed .. => "core.dispatcher"
  | threadsUnreached _ | threadUnreached _ | targetDropped => "host.profile"
  | poolStarted .. | poolStopped _ => "pool.supervisor"
  | workerSlow .. | sinkFailed .. | closeFailed _ => "pool.worker"

def wording : Notice → String
  | bundleMissing name => "Bundle " ++ Text.Quoted.text name ++ " could not be loaded; skipping"
  | moduleFailed unit fault =>
    "Module " ++ unit ++ " failed while loading (" ++ fault ++ "); filter still installed"
  | threadsUnreached names =>
    toString names.length ++ " running thread(s) not traced; this interpreter cannot hook " ++
      "threads that are already running: " ++ ", ".intercalate names
  | threadUnreached name =>
    "Thread " ++ name ++
      " not traced; this interpreter cannot hook threads that are already running"
  | targetDropped => "Dropped registrations forwarding to a stopped sink pool"
  | poolStarted shown size =>
    "Started sink pool " ++ shown ++ " with " ++ toString size ++ " worker(s)"
  | poolStopped shown => "Stopped sink pool " ++ shown
  | workerSlow worker seconds =>
    "Sink worker " ++ worker ++ " did not stop within " ++ seconds ++ "s"
  | sinkFailed sink event fault => "Sink " ++ sink ++ " failed for event " ++ event ++ ": " ++ fault
  | closeFailed sink => "Sink " ++ sink ++ " failed to close"

def levelText : Level → String
  | .info => "INFO"
  | .warning => "WARNING"
  | .error => "ERROR"

def text (n : Notice) : String := levelText n.level ++ " " ++ n.source ++ ": " ++ n.wording

end Notice

end ThreadTrace
