import ThreadTrace.Bundle.Units
import ThreadTrace.Fault
import ThreadTrace.Table
import ThreadTrace.Text.Case

namespace ThreadTrace

inductive BundleSource
  | declared (bundles : Table String (List String))
  | installed (distributions : List Distribution) (found : Table String Distribution)
deriving Inhabited

namespace BundleSource

def isSeparator (c : Char) : Bool := c == '-' || c == '_' || c == '.'

def joinRuns : List Char → List Char
  | [] => []
  | [c] => [if isSeparator c then '_' else c]
  | c :: d :: r =>
    if isSeparator c then
      if isSeparator d then joinRuns (d :: r) else '_' :: joinRuns (d :: r)
    else c :: joinRuns (d :: r)

/-- Names are equal for look-up if they differ in case and separators only. -/
def lookupKey (name : String) : String :=
  Text.Case.lower (String.ofList (joinRuns name.toList))

/-- Makes a bundle's metadata available; `false` if the bundle is absent. An installed source cannot
be asked for an empty name. -/
def load (s : BundleSource) (name : String) : Except Fault (Bool × BundleSource) :=
  match s with
  | declared bundles => .ok (bundles.has name, s)
  | installed ds found =>
    if found.has name then .ok (true, s)
    else if name.isEmpty then .error .emptyBundleName
    else match ds.find? fun d => lookupKey d.name == lookupKey name with
      | some d => .ok (true, installed ds (found.put name d))
      | none => .ok (false, s)

def units (s : BundleSource) (name : String) : Except Fault (List String × BundleSource) :=
  match s with
  | declared bundles => .ok ((bundles.get? name).getD [], s)
  | installed .. => do
    let (_, s) ← s.load name
    match s with
    | installed _ found => .ok (((found.get? name).map (·.units)).getD [], s)
    | declared _ => .ok ([], s)

def declare (s : BundleSource) (name : String) (units : List String) : BundleSource :=
  match s with
  | declared bundles => declared (bundles.put name units)
  | s => s

def remove (s : BundleSource) (name : String) : Bool × BundleSource :=
  match s with
  | installed ds found => (ds.any (·.name == name), installed (ds.filter (·.name != name)) found)
  | s => (false, s)

end BundleSource

end ThreadTrace
