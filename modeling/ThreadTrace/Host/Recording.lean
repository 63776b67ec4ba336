import ThreadTrace.Host.Basic

namespace ThreadTrace

inductive Registration
  | attach (carrier : Carrier) (flags : Flags) (target : Target)
  | filter (unit : String) (spec : MatchSpec) (localOnly : Bool)
deriving Inhabited

structure Recording where
  calls : List Registration := []
deriving Inhabited

namespace Recording

def attach (r : Recording) (c : Carrier) (f : Flags) (t : Target) : Recording :=
  ⟨r.calls ++ [.attach c f t]⟩

def install (r : Recording) (unit : String) (spec : MatchSpec) (localOnly : Bool) : Recording :=
  ⟨r.calls ++ [.filter unit spec localOnly]⟩

def clear (_ : Recording) : Recording := ⟨[]⟩

instance : TraceHost Recording where
  attach r v f t := do return (r.attach (← Carrier.ofValue v) f t, [])
  install r v spec localOnly := do return (r.install (← unitOfValue v) spec localOnly, [])
  clear := clear

end Recording

end ThreadTrace
