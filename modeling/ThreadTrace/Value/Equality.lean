import ThreadTrace.Value.Basic

namespace ThreadTrace.Value

def sameEvents : List Event → List Event → Bool
  | [], [] => true
  | e :: es, d :: ds => e.same d && sameEvents es ds
  | _, _ => false

def equalAtom : Value → Value → Bool
  | null, null => true
  | bytes a, bytes b => a == b
  | moduleObject a m, moduleObject b n => a == b && m == n
  | thread a, thread b => a == b
  | sealed a m, sealed b n => a == b && m == n
  | app a, app b => a == b
  | callback a f, callback b g => a == b && f == g
  | event a, event b => a.same b
  | store a es, store b ds => a == b || sameEvents es ds
  | console a, console b => a == b
  | workshop _ m, workshop _ n => m == n
  | .float x, .float y => x.same y
  | .float x, b => b.asInt?.any x.sameInt
  | a, .float y => a.asInt?.any y.sameInt
  | a, b =>
    match a.asInt?, b.asInt? with
    | some n, some m => n == m
    | _, _ =>
      match a.asText?, b.asText? with
      | some s, some t => s == t
      | _, _ => false

def isSameNan : Value → Value → Bool
  | nan m, nan n => m == n
  | _, _ => false

def equalEvents : List Event → List Value → Bool
  | [], [] => true
  | e :: es, .event d :: xs => e.same d && equalEvents es xs
  | _, _ => false

mutual

def equal : Value → Value → Bool
  | list xs, list ys => equalItems xs ys
  | list xs, store _ es => equalEvents es xs
  | store _ es, list ys => equalEvents es ys
  | tuple xs, tuple ys => equalItems xs ys
  | dict xs, dict ys => xs.length == ys.length && equalFields xs ys
  | scope xs, scope ys => equalItems xs ys
  | port x, port y => isSameNan x y || equal x y
  | options m p n s r d, options m' p' n' s' r' d' =>
    m == m' && (isSameNan p p' || equal p p') && n == n' && s == s' && r == r' && d == d'
  | a, b => equalAtom a b

def equalItems : List Value → List Value → Bool
  | [], [] => true
  | x :: xs, y :: ys => (isSameNan x y || equal x y) && equalItems xs ys
  | _, _ => false

def equalFields : List (Value × Value) → List (Value × Value) → Bool
  | [], _ => true
  | (k, v) :: xs, ys =>
    ys.any (fun y => (isSameNan k y.1 || equal k y.1) && (isSameNan v y.2 || equal v y.2)) &&
      equalFields xs ys

end

def same (a b : Value) : Bool := isSameNan a b || equal a b

mutual

def unhashable? : Value → Option String
  | list _ | store .. => some "list"
  | dict _ => some "dict"
  | tuple items | scope items => unhashableItem? items
  | port handle => unhashable? handle
  | options _ p .. => unhashable? p
  | _ => none

def unhashableItem? : List Value → Option String
  | [] => none
  | x :: xs =>
    match unhashable? x with
    | some t => some t
    | none => unhashableItem? xs

end

/-- Whether a value offers itself as a key; what it holds is not looked at. -/
def claimsHashable : Value → Bool
  | list _ | store .. | dict _ => false
  | _ => true

end ThreadTrace.Value
