import ThreadTrace.Command.Option

namespace ThreadTrace

/-- Which options a command knows. Others are an error unless they are kept among the rest; without
mixing, options end at the first argument that is none. -/
structure Grammar where
  options : List CommandOption
  keepsUnknown : Bool := false
  mixes : Bool := true

/-- Options in the order given; one without a value has an empty one. -/
structure Arguments where
  given : List (CommandOption × String) := []
  rest : List String := []
deriving DecidableEq, Inhabited

namespace Arguments

def has (a : Arguments) (o : CommandOption) : Bool := a.given.any (·.1 = o)

def all (a : Arguments) (o : CommandOption) : List String :=
  (a.given.filter (·.1 = o)).map (·.2)

def last? (a : Arguments) (o : CommandOption) : Option String := (a.all o).getLast?

end Arguments

namespace Grammar

/-- What one argument says: options, one of them perhaps still without its value, and what is
unknown. -/
structure Reading where
  given : List (CommandOption × String) := []
  awaiting : Option CommandOption := none
  unknown : List Char := []
deriving Inhabited

def long? (g : Grammar) (name : List Char) : Option CommandOption :=
  g.options.find? (·.long.toList = name)

def letter? (g : Grammar) (c : Char) : Option CommandOption :=
  g.options.find? (·.letter? = some c)

def readLetters (g : Grammar) : List Char → Option Reading
  | [] => some {}
  | c :: cs =>
    match g.letter? c with
    | none =>
      if g.keepsUnknown then
        (g.readLetters cs).map fun r => { r with unknown := c :: r.unknown }
      else none
    | some o =>
      if !o.takesValue then (g.readLetters cs).map fun r => { r with given := (o, "") :: r.given }
      else if cs.isEmpty then some { awaiting := some o }
      else some { given := [(o, String.ofList cs)] }

def readLong (o : CommandOption) (value : Option String) : Option Reading :=
  match o.takesValue, value with
  | true, some v => some { given := [(o, v)] }
  | true, none => some { awaiting := some o }
  | false, none => some { given := [(o, "")] }
  | false, some _ => none

def attached? (cs : List Char) : Option String :=
  match cs.dropWhile (· != '=') with
  | _ :: value => some (String.ofList value)
  | [] => none

def readOption (g : Grammar) (cs : List Char) : Option (Reading × List String) :=
  match g.long? (cs.takeWhile (· != '=')) with
  | some o => (readLong o (attached? cs)).map (·, [])
  | none =>
    if ['-', '-'].isPrefixOf cs then
      if g.keepsUnknown then some ({}, [String.ofList cs]) else none
    else (g.readLetters (cs.drop 1)).map fun r =>
      (r, if r.unknown.isEmpty then [] else [String.ofList ('-' :: r.unknown)])

def isOption (cs : List Char) : Bool :=
  match cs with
  | '-' :: _ :: _ => true
  | _ => false

/-- Reads arguments behind an option that still waits for its value, if there is one. -/
def readFrom (g : Grammar) : Option CommandOption → List String → Option Arguments
  | none, [] => some {}
  | some _, [] => none
  | some o, value :: r => (g.readFrom none r).map fun a => { a with given := (o, value) :: a.given }
  | none, arg :: r =>
    if arg = "--" then some { rest := r }
    else if isOption arg.toList then
      match g.readOption arg.toList with
      | none => none
      | some (x, kept) =>
        (g.readFrom x.awaiting r).map fun a => ⟨x.given ++ a.given, kept ++ a.rest⟩
    else if g.mixes then (g.readFrom none r).map fun a => { a with rest := arg :: a.rest }
    else some { rest := arg :: r }

def read (g : Grammar) (args : List String) : Option Arguments := g.readFrom none args

end Grammar

end ThreadTrace
