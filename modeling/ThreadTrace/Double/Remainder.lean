import ThreadTrace.Double.Basic

namespace ThreadTrace.Double

def remainder (x : Double) (n : Nat) : Double :=
  match x with
  | finite negative m e =>
    let (a, b) := ratio m e
    let r := a % (n * b)
    ofRatio false (if negative && r != 0 then n * b - r else r) b
  | _ => nan

end ThreadTrace.Double
