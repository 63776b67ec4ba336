import ThreadTrace.Command.Reader
import ThreadTrace.Host.Recording

namespace ThreadTrace.Main

def readIfThere (path : String) : IO (Option String) :=
  try
    return some (← IO.FS.readFile path)
  catch _ =>
    return none

def settingVariables : IO (List (String × String)) := do
  let names := Settings.names.map fun name => Text.Case.upper (Settings.variablePrefix ++ name)
  names.filterMapM fun name => do return (← IO.getEnv name).map (name, ·)

def report (code : Nat) (text : String) : IO UInt32 := do
  IO.print text
  return UInt32.ofNat code

def failure (f : Fault) : IO UInt32 :=
  report f.exitCode (if f.isQuiet then "" else f.kind ++ ": " ++ f.message ++ "\n")

def tableText (rows : List (List String)) : String :=
  String.join (rows.map fun row => "\t".intercalate row ++ "\n")

def run (settings : Settings) (command : Command) : Except Fault Output :=
  let tracer : Tracer Recording := {
    world := { modules := [], bundles := .installed [] [] }
    supervisor := {}
    host := {} }
  ((command.perform settings fun _ => return).on tracer).1

end ThreadTrace.Main

open ThreadTrace Main in
def main (args : List String) : IO UInt32 := do
  let file := (← readIfThere ".env").getD ""
  match Settings.load (← settingVariables) file with
  | .error f => failure f
  | .ok settings =>
    let scripts ← args.filterM fun arg => do return (← readIfThere arg).isSome
    match (Command.read settings scripts.contains args).bind (run settings) with
    | .error f => failure f
    | .ok output => report output.code (tableText output.rows ++ output.printed)
