import ThreadTrace.Plan.Entry
import ThreadTrace.Sink.Recipe

namespace ThreadTrace.Command

def carrierText : Value → Except Fault String
  | .selector s => .ok s.text
  | v => v.plain

def describe (entry : Value) : Except Fault (String × String) :=
  match entry with
  | .scope carriers => do return ("scope", ", ".intercalate (← carriers.mapM carrierText))
  | entry =>
    if entry.equal (.text Entry.wildcard) then .ok ("pattern", Entry.wildcard ++ " (every module)")
    else do return ("pattern", ← entry.plain)

def entryHeading : String := "Entry"

def entryRows (width number : Nat) (kind text : String) : List (List String) :=
  match Screen.columnLines width text with
  | [] => [[toString number, kind, ""]]
  | first :: others =>
    [toString number, kind, first] :: others.map fun line => ["", "", line]

def planRows (plan : List Value) : Except Fault (List (List String)) := do
  let entries ← plan.mapM describe
  let width := (entries.map fun e => Screen.measure e.2).foldl max entryHeading.length
  return entries.zipIdx.flatMap fun ((kind, text), number) => entryRows width number kind text

def sinkRows (settings : Settings) : List (List String) :=
  SinkKind.names.map fun name =>
    [name, ((SinkKind.ofText? name).map SinkKind.qualifiedName).getD "",
      if (Value.text name).equal settings.defaultSink then "Yes" else ""]

end ThreadTrace.Command
