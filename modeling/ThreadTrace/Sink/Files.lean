import ThreadTrace.Act
import ThreadTrace.Path
import ThreadTrace.Table

namespace ThreadTrace

inductive Node
  | directory
  | file (content : String)
deriving DecidableEq, Inhabited

/-- A place in the tree is the list of names that leads to it from the root. -/
abbrev Place := List String

/-- The working directory and all above it are there from the start. -/
structure Files where
  home : Place := ["work"]
  nodes : Table Place Node := []
deriving Inhabited

inductive Obstacle
  | missing
  | taken
  | notDirectory
  | tooLong
deriving DecidableEq, Inhabited

def Obstacle.fault (o : Obstacle) (p : Path) : Fault :=
  let shown := Text.Quoted.text p.text
  match o with
  | missing => .noFile shown
  | taken => .fileExists shown
  | notDirectory => .notDirectory shown
  | tooLong => .longPath shown

namespace Files

def node? (f : Files) (p : Place) : Option Node :=
  if p.isPrefixOf f.home then some .directory else f.nodes.get? p

def putNode (f : Files) (p : Place) (n : Node) : Files := { f with nodes := f.nodes.put p n }

def begin (f : Files) (p : Path) : Place := if p.root = 0 then f.home else []

def nameLimit : Nat := 255

def pathLimit : Nat := 4095

def enter (f : Files) (here : Place) (name : String) : Except Obstacle Place :=
  if name = ".." then .ok here.dropLast
  else if nameLimit < name.utf8ByteSize then .error .tooLong
  else match f.node? (here ++ [name]) with
    | none => .error .missing
    | some (.file _) => .error .notDirectory
    | some .directory => .ok (here ++ [name])

def follow (f : Files) (p : Path) (names : List String) : Except Obstacle Place :=
  if pathLimit < p.text.utf8ByteSize then .error .tooLong
  else names.foldlM f.enter (f.begin p)

def makeOne (f : Files) (p : Path) : Except Obstacle Files := do
  let here ← f.follow p p.parts.dropLast
  match p.parts.getLast? with
  | none | some ".." => throw .taken
  | some name =>
    if nameLimit < name.utf8ByteSize then throw .tooLong
    match f.node? (here ++ [name]) with
    | none => return f.putNode (here ++ [name]) .directory
    | some _ => throw .taken

/-- What hinders making a directory is no matter if it is there. -/
def settle (f : Files) (p : Path) (o : Obstacle) : Except Fault Unit :=
  match f.follow p p.parts with
  | .ok _ => .ok ()
  | .error .tooLong => .error (Obstacle.tooLong.fault p)
  | .error _ => .error (o.fault p)

/-- Makes a directory together with the ones above it; its names are given from last to first. The
ones above are made even if this one cannot be. -/
def makeBelow (root : Nat) : List String → Act Files Unit
  | [] => return
  | name :: above => do
    let p : Path := ⟨root, (name :: above).reverse⟩
    match (← get).makeOne p with
    | .ok f => set f
    | .error .missing =>
      makeBelow root above
      match (← get).makeOne p with
      | .ok f => set f
      | .error o => Act.result ((← get).settle p o)
    | .error o => Act.result ((← get).settle p o)

def checkBytes (p : Path) : Except Fault Unit :=
  if p.text.toList.contains '\x00' then .error .zeroByte else .ok ()

def openFile (p : Path) : Act Files Place := do
  Act.result (checkBytes p.parent)
  makeBelow p.root p.parent.parts.reverse
  Act.result (checkBytes p)
  let f ← get
  match f.follow p p.parts.dropLast with
  | .error o => throw (o.fault p)
  | .ok here =>
    if nameLimit < p.name.utf8ByteSize then throw (Obstacle.tooLong.fault p)
    let there := here ++ [p.name]
    match f.node? there with
    | none =>
      set (f.putNode there (.file ""))
      return there
    | some (.file _) => return there
    | some .directory => throw (.isDirectory (Text.Quoted.text p.text))

def append (f : Files) (p : Place) (content : String) : Files :=
  match f.node? p with
  | some (.file old) => f.putNode p (.file (old ++ content))
  | _ => f

def nodeFrom? (f : Files) (here : Place) : List String → Option Node
  | [] => f.node? here
  | name :: r =>
    match f.node? here with
    | some .directory => f.nodeFrom? (if name = ".." then here.dropLast else here ++ [name]) r
    | _ => none

/-- Whether a path is that of a file. A path that ends in a slash or a dot can only be that of a
directory. -/
def isFile (f : Files) (path : String) : Bool :=
  let p := Path.ofString path
  let last := (Path.pieces [] path.toList).getLast?
  path.utf8ByteSize ≤ pathLimit && last.any Path.isPart &&
    match f.nodeFrom? (f.begin p) p.parts with
    | some (.file _) => true
    | _ => false

def listing (f : Files) : List (String × String) :=
  f.nodes.filterMap fun (p, n) => match n with
    | .file content =>
      if f.home.isPrefixOf p then some ("/".intercalate (p.drop f.home.length), content) else none
    | .directory => none

end Files

namespace Path

def withName (p : Path) (name : String) : Except Fault Path :=
  if p.name.isEmpty then
    .error (.emptyPathName ("PosixPath(" ++ Text.Quoted.text p.text ++ ")"))
  else if name.toList.getLast? = some '/' ∨ (ofString name).root ≠ 0 ∨
      (ofString name).parts.length ≠ 1 then
    .error (.badPathName (Text.Quoted.text name))
  else .ok { p with parts := p.parts.dropLast ++ [name] }

end Path

end ThreadTrace
