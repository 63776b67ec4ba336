import ThreadTrace.Value.Printer

namespace ThreadTrace

inductive Carrier
  | selector (s : Selector)
  | thread (name : String)
  | ident (n : Nat)
  | port (handle : Value)
deriving Inhabited

namespace Carrier

def read? : Value → Option Carrier
  | .selector s => some (selector s)
  | .thread name => some (thread name)
  | .int n => if 0 ≤ n then some (ident n.toNat) else none
  | .port handle => some (port handle)
  | _ => none

def ofValue (v : Value) : Except Fault Carrier :=
  match read? v with
  | some c => .ok c
  | none => do .error (.badCarrier (← v.shown))

def toValue : Carrier → Value
  | selector s => .selector s
  | thread name => .thread name
  | ident n => .int n
  | port handle => .port handle

theorem read?_toValue (c : Carrier) : read? c.toValue = some c := by
  cases c <;> simp [toValue, read?]

end Carrier

def unitName? (v : Value) : Option String := v.asText?.filter (!·.isEmpty)

def unitOfValue (v : Value) : Except Fault String :=
  match unitName? v with
  | some s => .ok s
  | none => do .error (.badPattern (← v.shown))

end ThreadTrace
