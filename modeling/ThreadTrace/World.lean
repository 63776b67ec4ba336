import ThreadTrace.Act
import ThreadTrace.Bundle.Source
import ThreadTrace.Notice
import ThreadTrace.World.Reserved

namespace ThreadTrace

inductive Attribute
  | function (outcome : Except Fault Value)
  | constant (v : Value)
deriving Inhabited

structure ModuleSpec where
  name : String
  isPackage : Bool
  body : Option Fault
  attributes : List (String × Attribute)
deriving Inhabited

namespace ModuleSpec

def attribute? (m : ModuleSpec) (name : String) : Option Attribute :=
  (m.attributes.find? (·.1 == name)).map (·.2)

/-- Modules can be imported from inside a package, or any module that says where to look. -/
def holdsModules (m : ModuleSpec) : Bool :=
  m.isPackage || (m.attribute? Reserved.pathName).isSome

/-- The name by which a module is reported, if its body has left it one. -/
def shownName? (m : ModuleSpec) : Option String :=
  match m.attribute? "__name__" with
  | none => some m.name
  | some (.constant v) => v.asText?
  | some (.function _) => none

def functionCount (m : ModuleSpec) : Nat :=
  (m.attributes.filter fun a => match a.2 with
    | .function _ => true
    | .constant _ => false).length

end ModuleSpec

structure World where
  modules : List ModuleSpec
  bundles : BundleSource
  loaded : List String := []
  imports : List String := []
  calls : List String := []
  notices : List Notice := []
deriving Inhabited

namespace World

def find? (w : World) (name : String) : Option ModuleSpec := w.modules.find? (·.name == name)

def functionCount (w : World) : Nat :=
  w.modules.foldl (fun n m => n + m.functionCount) 0

/-- The dotted ancestors of a name, outermost first; `front` holds what stands before the rest. -/
def ancestorsFrom (front : List Char) : List Char → List String
  | [] => []
  | c :: r =>
    if c = '.' then String.ofList front.reverse :: ancestorsFrom (c :: front) r
    else ancestorsFrom (c :: front) r

def ancestors (name : String) : List String := ancestorsFrom [] name.toList

end World

open World

def notice (n : Notice) : Act World Unit :=
  modify fun w => { w with notices := w.notices ++ [n] }

def importOne (parent : Option String) (name : String) : Act World Unit := do
  let w ← get
  if w.loaded.contains name then return
  if let some p := parent then
    if !(w.find? p).any (·.holdsModules) then throw (.notPackage name p)
  match w.find? name with
  | none => throw (.noModule name)
  | some m =>
    set { w with imports := w.imports ++ [name] }
    match m.body with
    | some f => throw f
    | none => modify fun w => { w with loaded := w.loaded ++ [name] }

def importChain (parent : Option String) : List String → Act World Unit
  | [] => pure ()
  | name :: r => do
    importOne parent name
    importChain (some name) r

def importModule (name : String) : Act World Unit :=
  if name.isEmpty then throw .emptyModuleName
  else if name.toList.head? = some '.' then throw (.relativeModule name)
  else importChain none (ancestors name ++ [name])

def World.inside (w : World) (unit : String) : List String :=
  (w.loaded.filter fun name => (World.ancestors name).getLast? = some unit).map fun name =>
    String.ofList (name.toList.drop (unit.length + 1))

def World.namesOf (w : World) (m : ModuleSpec) : List String :=
  (Reserved.factsOf m.isPackage ++ m.attributes.map (·.1) ++ w.inside m.name).foldl
    (fun names name => if names.contains name then names else names ++ [name]) []

def callReserved (w : World) (m : ModuleSpec) (name : String) : Except Fault Value :=
  match Reserved.call? (w.namesOf m) name, Reserved.typeOf? name with
  | some outcome, _ => outcome
  | none, some type =>
    if name = Reserved.pathName ∧ !m.isPackage then .error (.noAttribute m.shownName? name)
    else .error (.notCallable type)
  | none, none => .error (.noAttribute m.shownName? name)

/-- Calls a function of a loaded module without arguments. A submodule that was imported stands in
front of an attribute of its name, and that in front of what every module has. -/
def callFunction (unit function : String) : Act World Value := do
  let w ← get
  let some m := w.find? unit | throw (.noAttribute unit function)
  if w.loaded.contains (unit ++ "." ++ function) then throw (.notCallable "module")
  match if Reserved.isFixed function then none else m.attribute? function with
  | none => Act.result (callReserved w m function)
  | some (.constant v) => throw (.notCallable v.typeName)
  | some (.function outcome) =>
    set { w with calls := w.calls ++ [unit ++ ":" ++ function] }
    Act.result outcome

def invoke (unit function : String) : Act World Value := do
  importModule unit
  callFunction unit function

def loadBundle (name : String) : Act World Bool := do
  let w ← get
  let (known, bundles) ← Act.result (w.bundles.load name)
  set { w with bundles }
  return known

def bundleUnits (name : String) : Act World (List String) := do
  let w ← get
  let (units, bundles) ← Act.result (w.bundles.units name)
  set { w with bundles }
  return units

end ThreadTrace
