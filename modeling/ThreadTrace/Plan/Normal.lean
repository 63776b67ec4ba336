import ThreadTrace.Plan.Entry
import ThreadTrace.Value.Printer
import ThreadTrace.World

namespace ThreadTrace

/-- What flattening asks for: the metadata of bundles, a report of a bundle that is missing, and the
values of functions. -/
structure Sources (σ : Type) where
  load : String → Act σ Bool
  units : String → Act σ (List String)
  missing : String → σ → σ
  invoke : String → String → Act σ Value

namespace World

def sources : Sources World where
  load := loadBundle
  units := bundleUnits
  missing name w := { w with notices := w.notices ++ [.bundleMissing name] }
  invoke := invoke

/-- How far callbacks can lead on to others without coming back to where they were: each time, a
function is called that was not called before with as many modules loaded. -/
def callbackDepth (w : World) : Nat := w.functionCount * (w.modules.length + 1) + 1

end World

namespace Plan

section Flattening

variable {σ : Type} (src : Sources σ)

mutual

def expand (callback : String → String → Act σ (List Value)) : Value → Act σ (List Value)
  | .app name => do
    if !(← src.load name) then modify (src.missing name)
    return (← src.units name).map .text
  | .callback unit function => callback unit function
  | .list items => expandAll callback items
  | .tuple items => expandAll callback items
  | .store _ events => return events.map .event
  | .moduleObject name _ => return [.text name]
  | v => return [v]

def expandAll (callback : String → String → Act σ (List Value)) :
    List Value → Act σ (List Value)
  | [] => return []
  | x :: xs => do
    let front ← expand callback x
    return front ++ (← expandAll callback xs)

end

/-- A bare entry stands for a list of it alone. -/
def itemsOf (request : Value) : List Value := request.sequence?.getD [request]

/-- The entries of a callback's value, which may hold callbacks in turn; the fuel bounds their
chain. -/
def resolve : Nat → String → String → Act σ (List Value)
  | 0, _, _ => throw .endlessCallback
  | fuel + 1, unit, function => do
    let produced ← src.invoke unit function
    expandAll src (resolve fuel) (itemsOf produced)

def flattenWith (fuel : Nat) (items : List Value) : Act σ (List Value) :=
  expandAll src (resolve src fuel) items

end Flattening

def flatten (items : List Value) : Act World (List Value) := do
  flattenWith World.sources (← get).callbackDepth items

def ensurePattern (entries : List Value) : List Value :=
  if entries.all Entry.isScope then .text Entry.wildcard :: entries else entries

def ensureScope (entries : List Value) : List Value :=
  if entries.any Entry.isScope then entries else .scope [.selector .processes] :: entries

def normalizeWith {σ : Type} (src : Sources σ) (fuel : Nat) (request : Value) :
    Act σ (List Value) := do
  return ensureScope (ensurePattern (← flattenWith src fuel (itemsOf request)))

def normalize (request : Value) : Act World (List Value) := do
  normalizeWith World.sources (← get).callbackDepth request

def fieldsOf? : Value → Option (List (String × Value))
  | .scope carriers => some [("carriers", .tuple carriers)]
  | .app name => some [("name", .text name)]
  | .callback unit function => some [("module", .text unit), ("function", .text function)]
  | .port handle => some [("handle", handle)]
  | .options m p n s r d => some [("mode", .text m.text), ("pool_id", p),
      ("pool_size", (n.map Value.int).getD .null), ("send", .bool s), ("running", .bool r),
      ("process_dump", .bool d)]
  | _ => none

def iterate (v : Value) : Except Fault (List Value) :=
  match v with
  | .dict items => .ok (items.map (·.1))
  | .bytes b => .ok (b.map fun x => .int x.toNat)
  | v =>
    match v.sequence?, v.asText?, fieldsOf? v with
    | some items, _, _ => .ok items
    | _, some s, _ => .ok (s.toList.map fun c => .text (String.singleton c))
    | _, _, some fields => .ok (fields.map fun f => .tuple [.text f.1, f.2])
    | _, _, _ => .error (.notIterable v.typeName)

end Plan

end ThreadTrace
