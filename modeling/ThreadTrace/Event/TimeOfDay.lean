import ThreadTrace.Double.Basic
import ThreadTrace.Double.Layout
import ThreadTrace.Fault

namespace ThreadTrace.TimeOfDay

/-- A timestamp as whole seconds and microseconds. The fraction is scaled as a double before it is
rounded. -/
def split (negative : Bool) (mantissa : Nat) (exponent : Int) : Int × Int :=
  let (a, b) := Double.ratio mantissa exponent
  let whole : Int := a / b
  let micros : Int := match Double.ofRatio false (a % b * 1000000) b with
    | .finite _ m e => let (p, q) := Double.ratio m e; Double.roundDiv p q
    | _ => 0
  let (seconds, micros) := if negative then (-whole, -micros) else (whole, micros)
  if 1000000 ≤ micros then (seconds + 1, micros - 1000000)
  else if micros < 0 then (seconds - 1, micros + 1000000)
  else (seconds, micros)

def yearOf (seconds : Int) : Int :=
  let days := Int.fdiv seconds 86400 + 719468
  let cycle := Int.fdiv days 146097
  let d := days - cycle * 146097
  let y := (d - d / 1460 + d / 36524 - d / 146096) / 365
  let dayOfYear := d - (365 * y + y / 4 - y / 100)
  -- The count's years start in March, so January and February belong to the next one.
  y + cycle * 400 + if (5 * dayOfYear + 2) / 153 < 10 then 0 else 1

/-- Years are counted from 1900 in words of 32 bits. A count that is too large for them has no year,
and a year that is too large by itself wraps around. -/
def inCalendar (seconds : Int) : Except Fault Unit :=
  let y := yearOf seconds
  if y - 1900 < -0x80000000 ∨ 0x80000000 ≤ y - 1900 then .error .timeWidth
  else if y < 1 ∨ 9999 < y then .error (.year (Int.bmod y 0x100000000))
  else .ok ()

def digits (width : Nat) (n : Int) : String := Double.padLeft width (toString n)

/-- Hours, minutes, seconds and microseconds. The day before has to be in the calendar too. -/
def text (x : Double) : Except Fault String :=
  match x with
  | .nan => .error .notTime
  | .infinite _ => .error .timeRange
  | .finite s m e => do
    let (seconds, micros) := split s m e
    if seconds < -0x8000000000000000 ∨ 0x8000000000000000 < seconds then .error .timeRange
    inCalendar seconds
    inCalendar (seconds - 86400)
    let t := Int.fmod seconds 86400
    .ok (digits 2 (t / 3600) ++ ":" ++ digits 2 (t / 60 % 60) ++ ":" ++ digits 2 (t % 60) ++ "." ++
      digits 6 micros)

end ThreadTrace.TimeOfDay
