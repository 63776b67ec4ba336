namespace ThreadTrace

/-- The root is the number of slashes that a path keeps in front: two are told apart from one, and
more than two count as one. -/
structure Path where
  root : Nat
  parts : List String
deriving DecidableEq, Inhabited

namespace Path

def pieces (piece : List Char) : List Char → List (List Char)
  | [] => [piece.reverse]
  | c :: r => if c = '/' then piece.reverse :: pieces [] r else pieces (c :: piece) r

def isPart (p : List Char) : Bool := !(p.isEmpty || p == ['.'])

def rootOf (s : List Char) : Nat :=
  let n := (s.takeWhile (· == '/')).length
  if n ≤ 2 then n else 1

def ofString (s : String) : Path where
  root := rootOf s.toList
  parts := ((pieces [] s.toList).filter isPart).map String.ofList

def text (p : Path) : String :=
  if p.root = 0 && p.parts.isEmpty then "."
  else String.ofList (List.replicate p.root '/') ++ "/".intercalate p.parts

def name (p : Path) : String := p.parts.getLast?.getD ""

def parent (p : Path) : Path := { p with parts := p.parts.dropLast }

/-- A name without its last ending, and that ending with its dot. A dot at either end of the name
starts no ending. -/
def splitEnding (name : List Char) : List Char × List Char :=
  let r := name.reverse
  let ending := r.takeWhile (· != '.')
  match r.dropWhile (· != '.') with
  | '.' :: stem@(_ :: _) =>
    if ending.isEmpty then (name, []) else (stem.reverse, '.' :: ending.reverse)
  | _ => (name, [])

end Path

end ThreadTrace
