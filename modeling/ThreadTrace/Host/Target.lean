import ThreadTrace.Double.Remainder
import ThreadTrace.Value.Equality
import ThreadTrace.Value.Printer

namespace ThreadTrace

/-- Targets are told apart by `id`; a worker is named by its place among all workers. -/
structure Target where
  id : Nat
  mode : Mode := .trace
  sinks : List (Int × Nat) := []
deriving DecidableEq, Inhabited

/-- What the remainder sign makes of a value and a count: the remainder of a number, and of text the
template filled with the count. -/
def Value.remainder (v : Value) (n : Nat) : Except Fault Value :=
  let fill (m : Text.Template.Medium) (s : List Char) : Except Fault (List Char) :=
    (Text.Template.fill m s n).mapError .template
  match v with
  | .float x => .ok (.ofDouble (x.remainder n) 0)
  | .nan mark => .ok (.nan mark)
  | .bytes b => do
    let filled ← fill .bytes (b.map fun x => Char.ofNat x.toNat)
    .ok (.bytes (filled.map fun c => UInt8.ofNat c.toNat))
  | v =>
    match v.asInt?, v.asText? with
    | some k, _ => .ok (.int (Int.fmod k n))
    | none, some s => do .ok (.text (String.ofList (← fill .text s.toList)))
    | none, none => .error (.noRemainder v.typeName)

namespace Target

/-- How a key is named that has no worker. A remainder is less than a count, and so never too long. -/
def keyText : Value → Except Fault String
  | .int k => .ok (toString k)
  | key => key.shown

def route (t : Target) (carrier : Value) : Except Fault (Option Nat) := do
  if t.sinks.isEmpty then return none
  let key ← carrier.remainder t.sinks.length
  match t.sinks.find? fun s => key.equal (.int s.1) with
  | some s => return some s.2
  | none => throw (.noRoute (← keyText key))

def ofWorkers (id : Nat) (mode : Mode) (workers : List Nat) : Target where
  id := id
  mode := mode
  sinks := workers.zipIdx.map fun x => ((x.2 : Int), x.1)

end Target

end ThreadTrace
