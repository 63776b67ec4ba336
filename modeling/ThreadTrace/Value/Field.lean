import ThreadTrace.Double.Numeral
import ThreadTrace.Fault
import ThreadTrace.Value.Equality

namespace ThreadTrace.Field

open Problem (Cause)

def textOf? : Value → Option String
  | .bytes b => String.fromUTF8? (ByteArray.mk b.toArray)
  | v => v.asText?

def text (v : Value) : Except Cause String :=
  match v with
  | .bytes _ => match textOf? v with
    | some s => .ok s
    | none => .error .textUnicode
  | v => match v.asText? with
    | some s => .ok s
    | none => .error .textType

/-- Doubles of this magnitude and beyond are too large for whole numbers. -/
def intBound : Int := 0x8000000000000000

def int (v : Value) : Except Cause Int :=
  match v with
  | .int n => .ok n
  | .bool b => .ok (if b then 1 else 0)
  | .nan _ => .error .finiteNumber
  | .float x =>
    if !x.isFinite then .error .finiteNumber
    else match x.toInt? with
      | some n => if -intBound < n ∧ n < intBound then .ok n else .error .intSize
      | none => .error .intFromFloat
  | .text _ | .bytes _ | .selector _ =>
    match (textOf? v).map fun s => Numeral.whole s.toList with
    | some (.number n) => .ok n
    | some .tooLong => .error .intSize
    | _ => .error .intParsing
  | _ => .error .intType

def positive (v : Value) : Except Cause Int := do
  let n ← int v
  if 0 < n then .ok n else .error .notPositive

def float (v : Value) : Except Cause Double :=
  match v with
  | .float x => .ok x
  | .nan _ => .ok .nan
  | .bool b => .ok (Double.ofInt (if b then 1 else 0))
  | .int n =>
    let x := Double.ofInt n
    if x.isFinite then .ok x else .error .floatType
  | .text _ | .bytes _ | .selector _ =>
    match (textOf? v).bind fun s => Numeral.double? s.toList with
    | some x => .ok x
    | none => .error .floatParsing
  | _ => .error .floatType

def falseWords : List String := ["0", "off", "f", "false", "n", "no"]

def trueWords : List String := ["1", "on", "t", "true", "y", "yes"]

def boolWord? (s : String) : Option Bool :=
  let w := String.ofList (s.toList.map Char.toLower)
  if falseWords.contains w then some false
  else if trueWords.contains w then some true
  else none

def bool (v : Value) : Except Cause Bool :=
  match v with
  | .bool b => .ok b
  | .int n =>
    if n = 0 then .ok false else if n = 1 then .ok true
    else if -intBound ≤ n ∧ n < intBound then .error .boolParsing
    else .error .boolType
  | .float x =>
    if x.sameInt 0 then .ok false else if x.sameInt 1 then .ok true else .error .boolType
  | .text _ | .bytes _ | .selector _ =>
    match (textOf? v).bind boolWord? with
    | some b => .ok b
    | none => .error .boolParsing
  | _ => .error .boolType

def member (names : List String) (find : String → Option α) (v : Value) : Except Cause α :=
  match (textOf? v).bind find with
  | some a => .ok a
  | none => .error (.notMember names)

def mode (v : Value) : Except Cause Mode := member (Mode.members.map Mode.text) Mode.ofText? v

def hashable (v : Value) : Except Cause Value :=
  if v.claimsHashable then .ok v else .error .notHashable

def optional (read : Value → Except Cause α) : Value → Except Cause (Option α)
  | .null => .ok none
  | v => (read v).map some

def find? (name : String) (fields : List (Value × Value)) : Option Value :=
  (fields.find? fun f => f.1.asText? == some name).map (·.2)

def problem (name : String) : Except Cause α → List Problem
  | .ok _ => []
  | .error c => [⟨[name], c⟩]

end ThreadTrace.Field
