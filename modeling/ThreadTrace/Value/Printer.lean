import ThreadTrace.Double.Layout
import ThreadTrace.Event.Printer
import ThreadTrace.Value.Basic

namespace ThreadTrace.Value

def boolText (b : Bool) : String := if b then "True" else "False"

def optionFields (m : Mode) (pool : String) (size : Option String) (s r d : Bool) : List String :=
  ["mode=" ++ m.shown, "pool_id=" ++ pool, "pool_size=" ++ Text.Quoted.orNone size,
    "send=" ++ boolText s, "running=" ++ boolText r, "process_dump=" ++ boolText d]

mutual

def shown : Value → Except Fault String
  | null => .ok "None"
  | bool b => .ok (boolText b)
  | int n => Numeral.text n
  | float x => .ok (x.text .shown)
  | nan _ => .ok "nan"
  | text s => .ok (Text.Quoted.text s)
  | bytes b => .ok (Text.Quoted.bytes b)
  | list items => do .ok ("[" ++ ", ".intercalate (← shownItems items) ++ "]")
  | tuple items => do .ok (Text.Quoted.tuple (← shownItems items))
  | dict items => do .ok ("\x7b" ++ ", ".intercalate (← shownFields items) ++ "\x7d")
  | selector s => .ok ("<ScopeSelector." ++ s.memberName ++ ": '" ++ s.text ++ "'>")
  | moduleObject name _ => .ok ("<module " ++ Text.Quoted.text name ++ ">")
  | thread name => .ok ("<thread " ++ name ++ ">")
  | sealed .. => .error .unprintable
  | scope carriers => do .ok ("Scope(carriers=" ++ Text.Quoted.tuple (← shownItems carriers) ++ ")")
  | app name => .ok ("App(name=" ++ Text.Quoted.text name ++ ")")
  | callback m f =>
    .ok ("Callback(module=" ++ Text.Quoted.text m ++ ", function=" ++ Text.Quoted.text f ++ ")")
  | port handle => do .ok ("Port(handle=" ++ (← shown handle) ++ ")")
  | options m p n s r d => do
    let pool ← shown p
    let size ← n.mapM Numeral.text
    .ok ("TraceOptions(" ++ ", ".intercalate (optionFields m pool size s r d) ++ ")")
  | event e => if e.IsShort then .ok e.shown else .error .longInteger
  | store _ events =>
    if ∀ e ∈ events, e.IsShort then
      .ok ("[" ++ ", ".intercalate (events.map Event.shown) ++ "]")
    else .error .longInteger
  | console _ => .ok "<console width=10000 None>"
  | workshop .. => .ok "<function>"

def shownItems : List Value → Except Fault (List String)
  | [] => .ok []
  | x :: xs => do .ok ((← shown x) :: (← shownItems xs))

def shownFields : List (Value × Value) → Except Fault (List String)
  | [] => .ok []
  | (k, v) :: r => do
    let k ← shown k
    let v ← shown v
    .ok ((k ++ ": " ++ v) :: (← shownFields r))

end

def plain : Value → Except Fault String
  | text s => .ok s
  | selector s => .ok ("ScopeSelector." ++ s.memberName)
  | scope carriers => do .ok ("carriers=" ++ Text.Quoted.tuple (← shownItems carriers))
  | app name => .ok ("name=" ++ Text.Quoted.text name)
  | callback m f => .ok (m ++ ":" ++ f)
  | port handle => do .ok ("handle=" ++ (← shown handle))
  | options m p n s r d => do
    let pool ← shown p
    let size ← n.mapM Numeral.text
    .ok (" ".intercalate (optionFields m pool size s r d))
  | event e => if e.IsShort then .ok e.plain else .error .longInteger
  | v => v.shown

def lacking (v : Value) (name : String) : Fault :=
  match v with
  | moduleObject unit _ => .noAttribute unit name
  | v => .noMethod v.typeName name

def briefLength : Nat := 80

def cutTo (n : Nat) (s : String) : String :=
  if n < s.length then String.ofList (s.toList.take (n - 3)) ++ "..." else s

/-- A shown form that never fails and is never long: the type stands for what cannot be shown. -/
def brief (v : Value) : String :=
  cutTo briefLength <| match v.shown with
    | .ok s => s
    | .error _ => "<" ++ v.typeName ++ ">"

end ThreadTrace.Value
