import ThreadTrace.Double.Numeral
import ThreadTrace.Event.Basic
import ThreadTrace.Event.TimeOfDay
import ThreadTrace.Json.Basic

namespace ThreadTrace

/-- A whole number as text. A record may hold any number, but no text holds one with too many digits.
-/
def Numeral.text (n : Int) : Except Fault String :=
  if IsShort n then .ok (toString n) else .error .longInteger

namespace Event

open Text.Quoted (orNone)

def time (e : Event) : Except Fault String :=
  match e.timestamp with
  | none => .ok "-"
  | some x => TimeOfDay.text x

def IsShort (e : Event) : Prop :=
  Numeral.IsShort e.carrier ∧ ∀ n ∈ e.arity, Numeral.IsShort n

instance (e : Event) : Decidable e.IsShort := inferInstanceAs (Decidable (_ ∧ _))

def written (e : Event) : Except Fault String :=
  if e.function.isNone ∨ ∀ n ∈ e.arity, Numeral.IsShort n then .ok e.signature
  else .error .longInteger

def line (e : Event) : Except Fault String := do
  let head := (← e.time) ++ " <" ++ (← Numeral.text e.carrier) ++ "> " ++ e.kind.text
  match e.kind with
  | .call =>
    .ok (head ++ " " ++ (← e.written) ++ (match e.args with
      | some args => " (" ++ ", ".intercalate args ++ ")"
      | none => ""))
  | .returnTo =>
    .ok (head ++ " " ++ orNone e.unit ++ ":" ++ orNone e.function ++ " -> " ++ orNone e.caller)
  | _ => .ok head

def optional (write : α → Json) : Option α → Json
  | some a => write a
  | none => .null

def toJson (e : Event) : Json := .object [
  ("kind", .text e.kind.text),
  ("carrier", .int e.carrier),
  ("module", optional .text e.unit),
  ("function", optional .text e.function),
  ("arity", optional .int e.arity),
  ("args", optional (fun args => .array (args.map .text)) e.args),
  ("caller", optional .text e.caller),
  ("timestamp", optional .real e.timestamp),
  ("dump", optional .text e.dump),
  ("mode", .text e.mode.text)]

def record (e : Event) : String := e.toJson.render

def shownText (s : Option String) : String := orNone (s.map Text.Quoted.text)

def shownFields (e : Event) : List String := [
  "kind=<EventKind." ++ e.kind.memberName ++ ": '" ++ e.kind.text ++ "'>",
  "carrier=" ++ toString e.carrier,
  "module=" ++ shownText e.unit,
  "function=" ++ shownText e.function,
  "arity=" ++ orNone (e.arity.map toString),
  "args=" ++ orNone (e.args.map fun args => Text.Quoted.tuple (args.map Text.Quoted.text)),
  "caller=" ++ shownText e.caller,
  "timestamp=" ++ orNone (e.timestamp.map (·.text .shown)),
  "dump=" ++ shownText e.dump,
  "mode=" ++ e.mode.shown]

def shown (e : Event) : String := "TraceEvent(" ++ ", ".intercalate e.shownFields ++ ")"

def plain (e : Event) : String := " ".intercalate e.shownFields

end Event

end ThreadTrace
