namespace ThreadTrace

/-- `call`, `procs`, `returnTo`, `running` and `send` ask for calls, exits, returns, switches and
messages; `timestamp` asks for times, `arity` for the number of arguments in place of their values,
and `setOnSpawn` passes the flags on to threads that a traced one starts. -/
structure Flags where
  call : Bool := false
  procs : Bool := false
  timestamp : Bool := false
  arity : Bool := false
  returnTo : Bool := false
  setOnSpawn : Bool := false
  running : Bool := false
  send : Bool := false
deriving DecidableEq, Inhabited

namespace Flags

def base : Flags where
  call := true
  procs := true
  timestamp := true
  arity := true
  returnTo := true
  setOnSpawn := true

def names (f : Flags) : List String :=
  ([(f.arity, "arity"), (f.call, "call"), (f.procs, "procs"), (f.returnTo, "return_to"),
    (f.running, "running"), (f.send, "send"), (f.setOnSpawn, "set_on_spawn"),
    (f.timestamp, "timestamp")].filter (·.1)).map (·.2)

def ofNames (names : List String) : Flags where
  call := names.contains "call"
  procs := names.contains "procs"
  timestamp := names.contains "timestamp"
  arity := names.contains "arity"
  returnTo := names.contains "return_to"
  setOnSpawn := names.contains "set_on_spawn"
  running := names.contains "running"
  send := names.contains "send"

end Flags

inductive MatchSpec
  | passThrough
  | processDump
deriving DecidableEq, Inhabited

namespace MatchSpec

def text : MatchSpec → String
  | passThrough => "pass_through"
  | processDump => "process_dump"

def ofText? (s : String) : Option MatchSpec := [passThrough, processDump].find? (·.text = s)

end MatchSpec

end ThreadTrace
