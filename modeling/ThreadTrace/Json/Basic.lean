import ThreadTrace.Double.Layout
import ThreadTrace.Text.Quoted

namespace ThreadTrace

inductive Json
  | null
  | bool (b : Bool)
  | int (n : Int)
  | real (x : Double)
  | text (s : String)
  | array (items : List Json)
  | object (fields : List (String × Json))
deriving Inhabited

namespace Json

/-- The last value of a repeated key counts. -/
def get? (key : String) : List (String × Json) → Option Json
  | [] => none
  | (k, v) :: r =>
    match get? key r with
    | some w => some w
    | none => if k = key then some v else none

def escape (c : Char) : List Char :=
  if c == '"' || c == '\\' then ['\\', c]
  else if c == '\n' then ['\\', 'n']
  else if c == '\r' then ['\\', 'r']
  else if c == '\t' then ['\\', 't']
  else if c == '\x08' then ['\\', 'b']
  else if c == '\x0c' then ['\\', 'f']
  else if c.toNat < 0x20 then '\\' :: 'u' :: Text.Quoted.hex 4 c.toNat
  else [c]

def quote (s : String) : List Char := '"' :: s.toList.flatMap escape ++ ['"']

def number (x : Double) : String :=
  if x.isFinite then x.text .recorded else "null"

mutual

def write : Json → List Char
  | null => "null".toList
  | bool b => (if b then "true" else "false").toList
  | int n => (toString n).toList
  | real x => (number x).toList
  | text s => quote s
  | array items => '[' :: writeItems items ++ [']']
  | object fields => '\x7b' :: writeFields fields ++ ['\x7d']

def writeItems : List Json → List Char
  | [] => []
  | [v] => write v
  | v :: w :: r => write v ++ ',' :: writeItems (w :: r)

def writeFields : List (String × Json) → List Char
  | [] => []
  | [(k, v)] => quote k ++ ':' :: write v
  | (k, v) :: f :: r => quote k ++ ':' :: write v ++ ',' :: writeFields (f :: r)

end

def render (v : Json) : String := String.ofList (write v)

mutual

/-- How many arrays and objects stand in each other, where they are nested most deeply. Empty ones
do not count. -/
def depth : Json → Nat
  | array [] | object [] => 0
  | array (v :: r) => max (depth v) (depthOfItems r) + 1
  | object ((_, v) :: r) => max (depth v) (depthOfFields r) + 1
  | _ => 0

def depthOfItems : List Json → Nat
  | [] => 0
  | v :: r => max (depth v) (depthOfItems r)

def depthOfFields : List (String × Json) → Nat
  | [] => 0
  | (_, v) :: r => max (depth v) (depthOfFields r)

end

end Json

end ThreadTrace
