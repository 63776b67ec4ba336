import ThreadTrace.Value.Equality
import ThreadTrace.Value.Field

namespace ThreadTrace.Entry

def wildcard : String := "_"

def carrier : Value → Value
  | .text s => match Selector.ofText? s with
    | some sel => .selector sel
    | none => .text s
  | v => v

/-- A single carrier may be given without a list around it. -/
def scope (given : Value) : Value :=
  .scope ((given.sequence?.getD [given]).map carrier)

def emptyScope : Value := .scope []

def app (name : Value) : Except Fault Value :=
  match Field.text name with
  | .ok s => .ok (.app s)
  | .error c => .error (.invalid "App" [⟨["name"], c⟩])

def callback (unit function : Value) : Except Fault Value :=
  match Field.text unit, Field.text function with
  | .ok m, .ok f => .ok (.callback m f)
  | m, f => .error (.invalid "Callback" (Field.problem "module" m ++ Field.problem "function" f))

def splitColon (s : List Char) : Option (List Char × List Char) :=
  match s.dropWhile (· != ':') with
  | _ :: r => some (s.takeWhile (· != ':'), r)
  | [] => none

def parseCallback (ref : String) : Except Fault Value :=
  match splitColon ref.toList with
  | some (m@(_ :: _), f@(_ :: _)) => .ok (.callback (String.ofList m) (String.ofList f))
  | _ => .error (.badCallback ref)

def selector (s : String) : Except Fault Value :=
  match Selector.ofText? s with
  | some sel => .ok (.selector sel)
  | none => .error (.badSelector s)

def refusal (entry : Value) (field : String) : Fault :=
  .invalid entry.typeName [⟨[field], .frozen⟩]

def isScope : Value → Bool
  | .scope _ => true
  | _ => false

/-- A dictionary of items in the order given; an equal key keeps its first place and takes the last
value. -/
def dictionary (items : List (Value × Value)) : Except Fault Value := do
  let put (d : List (Value × Value)) (item : Value × Value) : Except Fault (List (Value × Value)) :=
    match item.1.unhashable? with
    | some t => .error (.unhashable t)
    | none =>
      if d.any (·.1.same item.1) then
        .ok (d.map fun x => if x.1.same item.1 then (x.1, item.2) else x)
      else .ok (d ++ [item])
  return .dict (← items.foldlM put [])

end ThreadTrace.Entry
