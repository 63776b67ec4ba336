import ThreadTrace.Event.Basic
import ThreadTrace.Json.Reader
import ThreadTrace.Value.Field

namespace ThreadTrace.Event

open Problem (Cause)

def modelName : String := "TraceEvent"

abbrev Read (α : Type) := Except (List Problem) α

def problemsOf : Read α → List Problem
  | .ok _ => []
  | .error ps => ps

def atField (name : String) : Except Cause α → Read α
  | .ok a => .ok a
  | .error c => .error [⟨[name], c⟩]

def required (fields : List (Value × Value)) (name : String) (read : Value → Except Cause α) :
    Read α :=
  match Field.find? name fields with
  | some v => atField name (read v)
  | none => .error [⟨[name], .missing⟩]

def orElse (fields : List (Value × Value)) (name : String) (fallback : α)
    (read : Value → Except Cause α) : Read α :=
  match Field.find? name fields with
  | some v => atField name (read v)
  | none => .ok fallback

def texts (name : String) (position : Nat) : List Value → Read (List String)
  | [] => .ok []
  | v :: vs =>
    match Field.text v, texts name (position + 1) vs with
    | .ok s, .ok r => .ok (s :: r)
    | .ok _, .error ps => .error ps
    | .error c, r => .error (⟨[name, toString position], c⟩ :: problemsOf r)

def argsOf (refusal : Cause) (fields : List (Value × Value)) : Read (Option (List String)) :=
  match Field.find? "args" fields with
  | none | some .null => .ok none
  | some v =>
    match v.sequence? with
    | some items => (texts "args" 0 items).map some
    | none => .error [⟨["args"], refusal⟩]

def kindOf : Value → Except Cause EventKind :=
  Field.member (EventKind.members.map EventKind.text) EventKind.ofText?

/-- Where the fields of an event come from: a dictionary of values or a written record. -/
inductive Origin
  | dictionary
  | record
deriving DecidableEq, Inhabited

def Origin.refusal : Origin → Cause
  | dictionary => .tupleType
  | record => .arrayType

/-- A time; in a record, a whole number beyond all doubles is infinity. -/
def timeOf (origin : Origin) (v : Value) : Except Cause Double :=
  match origin, v with
  | .record, .int n => .ok (Double.ofInt n)
  | _, v => Field.float v

def ofFields (origin : Origin) (fields : List (Value × Value)) : Except Fault Event :=
  let text := Field.optional Field.text
  let kind := required fields "kind" kindOf
  let carrier := required fields "carrier" Field.int
  let unit := orElse fields "module" none text
  let function := orElse fields "function" none text
  let arity := orElse fields "arity" none (Field.optional Field.int)
  let args := argsOf origin.refusal fields
  let caller := orElse fields "caller" none text
  let timestamp := orElse fields "timestamp" none (Field.optional (timeOf origin))
  let dump := orElse fields "dump" none text
  let mode := orElse fields "mode" Mode.trace Field.mode
  match kind, carrier, unit, function, arity, args, caller, timestamp, dump, mode with
  | .ok kind, .ok carrier, .ok unit, .ok function, .ok arity, .ok args, .ok caller, .ok timestamp,
    .ok dump, .ok mode =>
    .ok { kind, carrier, unit, function, arity, args, caller, timestamp, dump, mode }
  | _, _, _, _, _, _, _, _, _, _ => .error (.invalid modelName
      (problemsOf kind ++ problemsOf carrier ++ problemsOf unit ++ problemsOf function ++
        problemsOf arity ++ problemsOf args ++ problemsOf caller ++ problemsOf timestamp ++
        problemsOf dump ++ problemsOf mode))

def ofValue : Value → Except Fault Event
  | .dict fields => ofFields .dictionary fields
  | _ => .error (.invalid modelName [⟨[], .modelType modelName⟩])

mutual

/-- A document as a value. Numbers that are none are told apart by nothing here. -/
def valueOf : Json → Value
  | .null => .null
  | .bool b => .bool b
  | .int n => .int n
  | .real x => Value.ofDouble x 0
  | .text s => .text s
  | .array items => .list (valuesOf items)
  | .object fields => .dict (fieldsOf fields)

def valuesOf : List Json → List Value
  | [] => []
  | v :: vs => valueOf v :: valuesOf vs

/-- The last of several fields of one name is the one that counts, so it comes first. -/
def fieldsOf : List (String × Json) → List (Value × Value)
  | [] => []
  | (k, v) :: r => fieldsOf r ++ [(.text k, valueOf v)]

end

/-- Records whose arrays and objects are nested deeper are refused. -/
def deepest : Nat := 200

def parse (record : String) : Except Fault Event :=
  match (Json.parse? record).filter fun v => v.depth ≤ deepest with
  | none => .error (.invalid modelName [⟨[], .malformed⟩])
  | some (.object fields) => ofFields .record (fieldsOf fields)
  | some _ => .error (.invalid modelName [⟨[], .notObject⟩])

def parseLines (file : String) : Except Fault (List Event) :=
  ((Text.Blank.fileLines file).filter fun l => !(Text.Blank.trim l).isEmpty).mapM parse

end ThreadTrace.Event
