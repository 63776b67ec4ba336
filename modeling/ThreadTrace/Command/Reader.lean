import ThreadTrace.Command.Arguments
import ThreadTrace.Command.Basic
import ThreadTrace.Command.Request

namespace ThreadTrace.Command

def requestOptions : List CommandOption := [.help, .pattern, .app, .callback, .scope]

def runOptions : List CommandOption :=
  requestOptions ++ [.sink, .out, .mode, .poolId, .poolSize, .running, .send, .processDump]

def topGrammar : Grammar := { options := [.help, .logLevel], mixes := false }

def planGrammar : Grammar := { options := requestOptions }

def sinksGrammar : Grammar := { options := [.help] }

/-- What is unknown belongs to the script. -/
def runGrammar : Grammar := { options := runOptions, keepsUnknown := true }

def orUsage (a : Option α) : Except Fault α :=
  match a with
  | some a => .ok a
  | none => .error .badUsage

def requestOf (a : Arguments) : Except Fault (List Value) :=
  request (a.all .pattern) (a.all .app) (a.all .callback) (a.all .scope)

def readPlan (args : List String) : Except Fault Command := do
  let a ← orUsage (planGrammar.read args)
  if a.has .help then return help
  if !a.rest.isEmpty then throw .badUsage
  return plan (← requestOf a)

def readSinks (args : List String) : Except Fault Command := do
  let a ← orUsage (sinksGrammar.read args)
  if a.has .help then return help
  if !a.rest.isEmpty then throw .badUsage
  return sinks

def orConfigured (given : Option String) (configured : Value) : Value :=
  match given with
  | some s => if s.isEmpty then configured else .text s
  | none => configured

def readValue (given : Option String) (absent : α) (read : String → Option α) : Except Fault α :=
  match given with
  | none => .ok absent
  | some s => orUsage (read s)

def poolSize? (s : String) : Option (Option Int) := ((Field.int (.text s)).toOption).map some

def sinkOptions (sink : Value) (out : Option String) : Value :=
  match out with
  | some path =>
    if sink.equal (.text "file") then .dict [(.text "path", .text (Path.ofString path).text)]
    else .null
  | none => .null

def checkPath (path : String) : Except Fault Unit := Files.checkBytes (Path.ofString path)

def modeOf (a : Arguments) : Except Fault Mode := readValue (a.last? .mode) .trace Mode.ofText?

def sizeOf (a : Arguments) : Except Fault (Option Int) :=
  readValue (a.last? .poolSize) none poolSize?

def checkOption (a : Arguments) : CommandOption → Except Fault Unit
  | .mode => do let _ ← modeOf a
  | .poolSize => do let _ ← sizeOf a
  | .out => ((a.last? .out).map checkPath).getD (.ok ())
  | _ => .ok ()

/-- Options are checked in the order in which they are given, and then the script. -/
def readRun (settings : Settings) (isScript : String → Bool) (args : List String) :
    Except Fault Command := do
  let a ← orUsage (runGrammar.read args)
  if a.has .help then return help
  a.given.forM fun x => checkOption a x.1
  match a.rest with
  | [] => throw .badUsage
  | script :: arguments =>
    checkPath script
    if !isScript script then throw .badUsage
    let mode ← modeOf a
    let size ← sizeOf a
    let sink := orConfigured (a.last? .sink) settings.defaultSink
    let poolId := orConfigured (a.last? .poolId) settings.defaultPoolId
    return run {
      launch := ⟨Path.ofString script, arguments⟩
      request := ← requestOf a
      sink
      sinkOptions := sinkOptions sink (a.last? .out)
      poolId
      options := .dict [
        (.text "mode", .text mode.text), (.text "pool_id", poolId),
        (.text "pool_size", (size.map Value.int).getD .null),
        (.text "running", .bool (a.has .running)), (.text "send", .bool (a.has .send)),
        (.text "process_dump", .bool (a.has .processDump))] }

def levels : List String :=
  ["CRITICAL", "FATAL", "ERROR", "WARN", "WARNING", "INFO", "DEBUG", "NOTSET"]

def checkLevel (settings : Settings) (asked : Option String) : Except Fault Unit :=
  let level := orConfigured asked settings.logLevel
  match level with
  | .bytes b => .error (.badLevel (Text.Quoted.bytes (Text.Case.upperBytes b)))
  | level =>
    match level.asText?.map Text.Case.upper with
    | some name => if levels.contains name then .ok () else .error (.unknownLevel name)
    | none => .error (level.lacking "upper")

def reader? (settings : Settings) (isScript : String → Bool) :
    String → Option (List String → Except Fault Command)
  | "plan" => some readPlan
  | "sinks" => some readSinks
  | "run" => some (readRun settings isScript)
  | _ => none

def readUnknown (args : List String) : Except Fault Command := do
  let a ← orUsage (topGrammar.read args)
  if a.has .help then return help else throw .badUsage

/-- Reads a command line. `isScript` tells which paths are those of files. -/
def read (settings : Settings) (isScript : String → Bool) (args : List String) :
    Except Fault Command := do
  let top ← orUsage (topGrammar.read args)
  if top.has .help then return help
  match top.rest with
  | [] => throw .badUsage
  | name :: rest =>
    match reader? settings isScript name with
    | none => readUnknown (name :: rest)
    | some readArguments =>
      checkLevel settings (top.last? .logLevel)
      readArguments rest

end ThreadTrace.Command
