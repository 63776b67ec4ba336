import ThreadTrace.Double.Layout
import ThreadTrace.Fault
import ThreadTrace.Value.Basic

namespace ThreadTrace

inductive Wait
  | unlimited
  | upTo (seconds : Double)
deriving DecidableEq, Inhabited

namespace Wait

/-- Limits are counted in nanoseconds in words of 64 bits. -/
def bound : Int := 0x8000000000000000

def nanosecond : Nat := 1000000000

/-- The wait that a value asks for: none at all if it is null, else one of so many seconds. -/
def ofValue : Value → Except Fault Wait
  | .null => .ok unlimited
  | .float x => .ok (upTo x)
  | .nan _ => .ok (upTo .nan)
  | v =>
    match v.asInt? with
    | some n => .ok (upTo (Double.ofInt n))
    | none => .error (.notAbove v.typeName)

/-- Whether there is anything to wait for: a wait that ends at once shows what is there already. -/
def isOver : Wait → Bool
  | unlimited => false
  | upTo x => !x.isPositive

def checkStart : Wait → Except Fault Unit
  | unlimited => .ok ()
  | upTo .nan => .error .notTime
  | upTo (.infinite negative) => if negative then .ok () else .error .waitRange
  | upTo (.finite negative m e) =>
    let (a, b) := Double.ratio m e
    if !negative && bound < a * nanosecond / b then .error .waitRange else .ok ()

/-- The limit in tenths of seconds. Zero has no sign, and neither has a limit that is not given. -/
def text : Wait → String
  | unlimited => Double.zero.tenths
  | upTo x => if x.isZero then Double.zero.tenths else x.tenths

end Wait

end ThreadTrace
