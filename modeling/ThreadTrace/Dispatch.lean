import ThreadTrace.Host.Basic
import ThreadTrace.Options
import ThreadTrace.Plan.Normal

namespace ThreadTrace

/-- A host together with the world in which units are imported. What either reports is kept by the
world. -/
structure Stage (H : Type) where
  world : World
  host : H
deriving Inhabited

namespace Options

def flags (o : Options) : Flags := { Flags.base with running := o.running, send := o.send }

def matchSpec (o : Options) : MatchSpec := if o.processDump then .processDump else .passThrough

end Options

namespace Dispatch

/-- Imports a unit so that filters on it can match; tells whether it is loaded. Only a request to
end the program comes through. -/
def ensureLoaded (unit : String) : Act World Bool := do
  if unit == Entry.wildcard || (← get).loaded.contains unit then return true
  match ← (importModule unit).attempt with
  | .ok () => return true
  | .error f =>
    if f.isImportFailure then return false
    else if f.isOrdinary then
      notice (.moduleFailed unit f.shown)
      return false
    else throw f

variable {H : Type} [TraceHost H]

def register (request : H → Except Fault (H × List Notice)) : Act (Stage H) Unit := do
  let s ← get
  let (host, notices) ← Act.result (request s.host)
  set { host, world := { s.world with notices := s.world.notices ++ notices } : Stage H }

def inWorld (act : Act World α) : Act (Stage H) α :=
  Act.within Stage.world (fun s world => { s with world }) act

def attachAll (flags : Flags) (target : Target) : List Value → Act (Stage H) Unit
  | [] => return
  | c :: cs => do
    register fun h => TraceHost.attach h c flags target
    attachAll flags target cs

def applyEntry (options : Options) (target : Target) (entry : Value) : Act (Stage H) Unit := do
  match entry with
  | .scope carriers => attachAll options.flags target carriers
  | entry =>
    match entry.asText? with
    | some unit =>
      let _ ← inWorld (ensureLoaded unit)
      register fun h => TraceHost.install h entry options.matchSpec true
    | none => throw (.badPattern (← Act.result entry.shown))

def apply (options : Options) (target : Target) : List Value → Act (Stage H) Unit
  | [] => return
  | entry :: plan => do
    applyEntry options target entry
    apply options target plan

end Dispatch

end ThreadTrace
