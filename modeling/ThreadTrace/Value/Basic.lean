import ThreadTrace.Event.Basic
import ThreadTrace.Plan.Selector

namespace ThreadTrace

structure Workshop where
  name : String
  failAt : Option Int
  acceptRaises : Option String
  closeRaises : Option String
  blocking : Bool
deriving DecidableEq, Inhabited

/-- Objects that are equal only to themselves carry a mark: `nan`, modules, and sealed objects,
which cannot be shown. A store is a list that callers share under a name, with what sinks have put
into it. -/
inductive Value
  | null
  | bool (b : Bool)
  | int (n : Int)
  | float (x : Double)
  | nan (mark : Nat)
  | text (s : String)
  | bytes (b : List UInt8)
  | list (items : List Value)
  | tuple (items : List Value)
  | dict (items : List (Value × Value))
  | selector (s : Selector)
  | moduleObject (name : String) (mark : Nat)
  | thread (name : String)
  | sealed (type : String) (mark : Nat)
  | scope (carriers : List Value)
  | app (name : String)
  | callback (unit function : String)
  | port (handle : Value)
  | options (mode : Mode) (poolId : Value) (poolSize : Option Int) (send running processDump : Bool)
  | event (e : Event)
  | store (name : String) (events : List Event)
  | console (name : String)
  | workshop (w : Workshop) (mark : Nat)
deriving Inhabited

namespace Value

def ofDouble (x : Double) (mark : Nat) : Value :=
  match x with
  | .nan => nan mark
  | x => float x

def typeName : Value → String
  | null => "NoneType"
  | bool _ => "bool"
  | int _ => "int"
  | float _ | nan _ => "float"
  | text _ => "str"
  | bytes _ => "bytes"
  | list _ | store .. => "list"
  | tuple _ => "tuple"
  | dict _ => "dict"
  | selector _ => "ScopeSelector"
  | moduleObject .. => "module"
  | thread _ => "Thread"
  | sealed type _ => type
  | scope _ => "Scope"
  | app _ => "App"
  | callback .. => "Callback"
  | port _ => "Port"
  | options .. => "TraceOptions"
  | event _ => "TraceEvent"
  | console _ => "Console"
  | workshop .. => "function"

def asText? : Value → Option String
  | text s => some s
  | selector s => some s.text
  | _ => none

def asInt? : Value → Option Int
  | int n => some n
  | bool b => some (if b then 1 else 0)
  | _ => none

def sequence? : Value → Option (List Value)
  | list items | tuple items => some items
  | store _ events => some (events.map event)
  | _ => none

/-- Whether a value counts as present where an option may be left out: null, zero, and what is empty
count as absent. -/
def isTruthy : Value → Bool
  | null => false
  | bool b => b
  | int n => n != 0
  | float x => !x.isZero
  | text s => !s.isEmpty
  | bytes b => !b.isEmpty
  | list items | tuple items => !items.isEmpty
  | dict items => !items.isEmpty
  | store _ events => !events.isEmpty
  | _ => true

mutual

def withStores (contents : String → List Event) : Value → Value
  | list items => list (itemsWithStores contents items)
  | tuple items => tuple (itemsWithStores contents items)
  | dict items => dict (fieldsWithStores contents items)
  | scope carriers => scope (itemsWithStores contents carriers)
  | port handle => port (withStores contents handle)
  | options m p n s r d => options m (withStores contents p) n s r d
  | store name _ => store name (contents name)
  | v => v

def itemsWithStores (contents : String → List Event) : List Value → List Value
  | [] => []
  | x :: xs => withStores contents x :: itemsWithStores contents xs

def fieldsWithStores (contents : String → List Event) :
    List (Value × Value) → List (Value × Value)
  | [] => []
  | (k, v) :: r => (withStores contents k, withStores contents v) :: fieldsWithStores contents r

end

end Value

end ThreadTrace
