import ThreadTrace.Double.Shortest

namespace ThreadTrace.Double

/-- Positional notation is used for `10 ^ low ≤ |x| < 10 ^ high`; exponents have at least
`exponentDigits` digits. -/
structure Layout where
  low : Int
  high : Int
  exponentDigits : Nat

def Layout.shown : Layout := ⟨-4, 16, 2⟩

def Layout.recorded : Layout := ⟨-5, 16, 1⟩

def padLeft (width : Nat) (s : String) : String :=
  String.ofList (List.replicate (width - s.length) '0') ++ s

def magnitudeText (l : Layout) (d : Digits) : String :=
  let ds := toString d.digits
  let e := ds.length + d.power - 1
  if l.low ≤ e ∧ e < l.high then
    if 0 ≤ d.power then ds ++ String.ofList (List.replicate d.power.toNat '0') ++ ".0"
    else if 0 ≤ e then
      let cs := ds.toList
      let whole := (e + 1).toNat
      String.ofList (cs.take whole) ++ "." ++ String.ofList (cs.drop whole)
    else "0." ++ String.ofList (List.replicate (-e - 1).toNat '0') ++ ds
  else
    let sign := if e < 0 then "-" else "+"
    let fraction := match ds.toList with
      | c :: r@(_ :: _) => String.ofList (c :: '.' :: r)
      | cs => String.ofList cs
    fraction ++ "e" ++ sign ++ padLeft l.exponentDigits (toString e.natAbs)

def text (l : Layout) : Double → String
  | finite s m e =>
    (if s then "-" else "") ++ if m = 0 then "0.0" else magnitudeText l (shortest m e)
  | infinite s => if s then "-inf" else "inf"
  | nan => "nan"

def tenths : Double → String
  | finite s m e =>
    let (a, b) := ratio m e
    let n := roundDiv (10 * a) b
    (if s then "-" else "") ++ toString (n / 10) ++ "." ++ toString (n % 10)
  | infinite s => if s then "-inf" else "inf"
  | nan => "nan"

end ThreadTrace.Double
