namespace ThreadTrace

/-- A finite number has `mantissa < 2 ^ 53`, and `2 ^ 52 ≤ mantissa` unless `exponent = -1074`, so
that each number has one form. -/
inductive Double
  | finite (negative : Bool) (mantissa : Nat) (exponent : Int)
  | infinite (negative : Bool)
  | nan
deriving DecidableEq, Inhabited

namespace Double

/-- The nearest natural to `num / den`; of two equally near ones the even one. -/
def roundDiv (num den : Nat) : Nat :=
  let q := num / den
  let r := num % den
  if 2 * r < den then q else if den < 2 * r then q + 1 else q + q % 2

def scaled (num den : Nat) (e : Int) : Nat × Nat :=
  if 0 ≤ e then (num * Nat.pow 2 e.toNat, den) else (num, den * Nat.pow 2 (-e).toNat)

def magnitude (num den : Nat) : Int :=
  let e : Int := num.log2 - den.log2
  let (a, b) := scaled num den (-e)
  if a < b then e - 1 else e

def normal : Nat := 0x10000000000000

def zero : Double := finite false 0 (-1074)

def ofRatio (negative : Bool) (num den : Nat) : Double :=
  if num = 0 then finite negative 0 (-1074) else
  let e := max (magnitude num den - 52) (-1074)
  let (a, b) := scaled num den (-e)
  let m := roundDiv a b
  let (m, e) := if m = 2 * normal then (normal, e + 1) else (m, e)
  if 971 < e then infinite negative else finite negative m e

def ofInt (n : Int) : Double := ofRatio (n < 0) n.natAbs 1

def ratio (mantissa : Nat) (exponent : Int) : Nat × Nat := scaled mantissa 1 exponent

def isFinite : Double → Bool
  | finite .. => true
  | _ => false

def isZero : Double → Bool
  | finite _ 0 _ => true
  | _ => false

def toInt? : Double → Option Int
  | finite s m e =>
    let (a, b) := ratio m e
    if a % b = 0 then some (if s then -(a / b : Nat) else (a / b : Nat)) else none
  | _ => none

def same : Double → Double → Bool
  | finite s m e, finite t n f => (m == 0 && n == 0) || (s == t && m == n && e == f)
  | infinite s, infinite t => s == t
  | _, _ => false

def sameInt (x : Double) (n : Int) : Bool := x.toInt? == some n

def isPositive : Double → Bool
  | finite s m _ => !s && m != 0
  | infinite s => !s
  | nan => false

end Double

end ThreadTrace
