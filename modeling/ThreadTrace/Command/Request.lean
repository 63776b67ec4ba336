import ThreadTrace.Plan.Entry
import ThreadTrace.Text.Digit

namespace ThreadTrace.Command

/-- Text that consists of digits is the ident of a thread and must be a numeral; all else is left to
the scope. -/
def carrier (s : String) : Except Fault Value :=
  let digits := s.toList
  let decimals := digits.takeWhile fun c => (Text.Digit.value? c).isSome
  if digits.isEmpty || !digits.all Text.Digit.isDigit then .ok (.text s)
  else if Text.Digit.longest < decimals.length then .error (.longNumeral decimals.length)
  else match Text.Digit.number? digits with
    | some n => .ok (.int n)
    | none => .error (.badNumeral s)

def scopes (texts : List String) : Except Fault (List Value) :=
  if texts.isEmpty then .ok []
  else do return [Entry.scope (.list (← texts.mapM carrier))]

def callback (ref : String) : Except Fault Value :=
  match Entry.parseCallback ref with
  | .ok entry => .ok entry
  | .error f => .error (.badParameter f.message)

def request (patterns apps callbacks scopeTexts : List String) : Except Fault (List Value) := do
  let scope ← scopes scopeTexts
  let callbacks ← callbacks.mapM callback
  return scope ++ patterns.map Value.text ++ apps.map Value.app ++ callbacks

end ThreadTrace.Command
