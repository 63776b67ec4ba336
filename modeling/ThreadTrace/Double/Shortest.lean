import ThreadTrace.Double.Basic

namespace ThreadTrace.Double

structure Digits where
  digits : Nat
  power : Int
deriving DecidableEq

/-- The interval of reals that round to `mantissa * 2 ^ exponent`, in quarters of the unit
`2 ^ exponent`: the gap below a power of two is half as wide as the gap above it. -/
structure Neighbourhood where
  low : Nat
  mid : Nat
  high : Nat
  closed : Bool

def neighbourhood (mantissa : Nat) (exponent : Int) : Neighbourhood where
  low := 4 * mantissa - if mantissa = normal ∧ exponent ≠ -1074 then 1 else 2
  mid := 4 * mantissa
  high := 4 * mantissa + 2
  closed := mantissa % 2 == 0

def gridUnits (power exponent : Int) : Nat × Nat :=
  let e := exponent - 2
  (Nat.pow 10 power.toNat * Nat.pow 2 (-e).toNat,
    Nat.pow 10 (-power).toNat * Nat.pow 2 e.toNat)

/-- The point of the grid of step `10 ^ power` that lies in the interval, the nearer one if both
neighbours of the middle do, the even one if they are equally near. -/
def onGrid? (n : Neighbourhood) (exponent power : Int) : Option Nat :=
  let (grid, unit) := gridUnits power exponent
  let inside (d : Nat) : Bool :=
    if n.closed then n.low * unit ≤ d * grid && d * grid ≤ n.high * unit
    else n.low * unit < d * grid && d * grid < n.high * unit
  let d := n.mid * unit / grid
  match d != 0 && inside d, inside (d + 1) with
  | true, true =>
    let below := n.mid * unit - d * grid
    let above := (d + 1) * grid - n.mid * unit
    some (if below < above || (below == above && d % 2 == 0) then d else d + 1)
  | true, false => some d
  | false, true => some (d + 1)
  | false, false => none

def search (n : Neighbourhood) (exponent : Int) : Nat → Int → Digits
  | 0, power => ⟨0, power⟩
  | fuel + 1, power =>
    match onGrid? n exponent power with
    | some d => ⟨d, power⟩
    | none => search n exponent fuel (power - 1)

/-- The shortest decimal for a number that is not zero. The search starts at a power of ten above
the number and meets a grid point after at most 17 further digits. -/
def shortest (mantissa : Nat) (exponent : Int) : Digits :=
  let top := Int.fdiv ((mantissa.log2 + exponent) * 30103) 100000 + 2
  search (neighbourhood mantissa exponent) exponent 24 top

end ThreadTrace.Double
