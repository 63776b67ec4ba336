import ThreadTrace.Act
import ThreadTrace.Settings
import ThreadTrace.Sink.Basic
import ThreadTrace.Value.Printer

namespace ThreadTrace

inductive SinkKind
  | console
  | file
  | memory
  | workshop (w : Workshop)
deriving Inhabited

namespace SinkKind

def ofText? : String → Option SinkKind
  | "raw_console" => some console
  | "file" => some file
  | "memory" => some memory
  | _ => none

def names : List String := ["file", "memory", "raw_console"]

def ofValue (v : Value) : Except Fault SinkKind :=
  match v with
  | .workshop w _ => .ok (workshop w)
  | v =>
    match v.unhashable?, v.asText?.bind ofText? with
    | some t, _ => .error (.unhashable t)
    | none, some k => .ok k
    | none, none => do .error (.unknownSink (← v.shown))

def className : SinkKind → String
  | console => "RawConsoleSink"
  | file => "FileSink"
  | memory => "MemorySink"
  | workshop w => w.name

def qualifiedName : SinkKind → String
  | console => "glasstrace.sinks.raw_console.RawConsoleSink"
  | file => "glasstrace.sinks.file.FileSink"
  | memory => "glasstrace.sinks.memory.MemorySink"
  | workshop w => w.name

def optionName? : SinkKind → Option String
  | console => some "console"
  | file => some "path"
  | memory => some "store"
  | workshop _ => none

end SinkKind

def refusal (kind : SinkKind) (name : Value) : Except Fault Fault :=
  if name.asText? = some "self" then .ok (.repeatedReceiver kind.className)
  else do .ok (.unexpectedOption kind.className (← name.plain))

def sinkOptions (kind : SinkKind) (given : Value) : Except Fault (List (String × Value)) :=
  if !given.isTruthy then .ok []
  else match given with
    | .dict items =>
      if items.any (·.1.asText? == some "index") then
        .error (.repeatedOption kind.qualifiedName "index")
      else match items.mapM fun x => x.1.asText?.map (·, x.2) with
        | none => .error .optionNames
        | some options =>
          match kind.optionName?, items.find? fun x => x.1.asText? != kind.optionName? with
          | some _, some x => do .error (← refusal kind x.1)
          | _, _ => .ok options
    | v => .error (.optionsType kind.qualifiedName v.typeName)

inductive Recipe
  | memory (inbox : Option Inbox)
  | console (screen : Screen)
  | file (path : Option Value)
  | workshop (w : Workshop)
deriving Inhabited

namespace Recipe

def inboxOf (label : String) (v : Value) : Act Outlets (Option Inbox) := do
  match v with
  | .null => return none
  | .store name _ =>
    modify (·.addStore name)
    return some (.store name)
  | .list items =>
    let (n, o) := (← get).addBox label (items.map .value)
    set o
    return some (.box n)
  | v => return some (.noList (v.lacking "append"))

def screenOf (v : Value) : Screen :=
  match v with
  | .console name => .named name
  | v => if v.isTruthy then .noConsole (v.lacking "print") else .own

def ofOptions (label : String) (kind : SinkKind) (given : Value) : Act Outlets Recipe := do
  let options ← Act.result (sinkOptions kind given)
  let option : Option Value := kind.optionName?.bind fun name =>
    (options.find? (·.1 == name)).map (·.2)
  match kind with
  | .memory => return memory (← inboxOf label (option.getD .null))
  | .console => return console (screenOf (option.getD .null))
  | .file => return file (option.filter (·.isTruthy))
  | .workshop w => return workshop w

def pathOf (settings : Settings) : Option Value → Except Fault Path
  | none => .ok settings.fileSinkPath
  | some (.text s) => .ok (Path.ofString s)
  | some (.selector s) => do .ok (Path.ofString (← (Value.selector s).plain))
  | some (.bytes _) => .error .bytesPath
  | some v => .error (.notPath v.typeName)

/-- Builds one sink for the worker with this index; `owner` labels the box of the sink's own, if it
needs one. -/
def build (settings : Settings) (owner : String) (recipe : Recipe) (index : Value) :
    Act Outlets Sink := do
  match recipe with
  | memory inbox =>
    let name := "memory[" ++ (← Act.result index.plain) ++ "]"
    match inbox with
    | some inbox => return { name, outlet := .memory inbox }
    | none =>
      let (n, o) := (← get).addBox (owner ++ "/" ++ name) []
      set o
      return { name, outlet := .memory (.box n) }
  | console screen =>
    let tag ← Act.result index.plain
    return { name := "raw_console[" ++ tag ++ "]", outlet := .console tag screen }
  | file path =>
    let base ← Act.result (pathOf settings path)
    let tag ← Act.result index.plain
    let path ← Act.result (base.withName (base.name ++ "." ++ tag))
    let place ← Act.within Outlets.files (fun o files => { o with files }) (Files.openFile path)
    return { name := "file[" ++ tag ++ "]", outlet := .file path place [] }
  | workshop w =>
    let tag ← Act.result index.plain
    if w.failAt.any fun n => index.equal (.int n) then throw .cannotOpen
    let name := w.name ++ "[" ++ tag ++ "]"
    let (slot, o) := (← get).addMade name
    let (box, o) := o.addBox (owner ++ "/" ++ name) []
    set o
    return { name, outlet := .made w slot box }

def fileSink (settings : Settings) (given : Value) : Act Outlets Sink := do
  let fields := match given with
    | .dict items => items
    | _ => []
  let recipe ← ofOptions "" .file (.dict (fields.filter fun x => x.1.asText? != some "index"))
  recipe.build settings "" ((Field.find? "index" fields).getD (.int 0))

end Recipe

end ThreadTrace
