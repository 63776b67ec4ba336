import ThreadTrace.Path
import ThreadTrace.Text.Blank
import ThreadTrace.Text.Identifier

namespace ThreadTrace

structure Distribution where
  name : String
  files : Option (List String)
  topLevel : Option String
deriving DecidableEq, Inhabited

/-- The dotted name of the module that a file defines: the file is a source file, all its
directories and its name are identifiers, and an initialiser stands for its directory. -/
def unitOfPath? (p : Path) : Option String :=
  match p.parts.getLast? with
  | none => none
  | some last =>
    let (stem, ending) := Path.splitEnding last.toList
    if ending != ".py".toList || p.root != 0 then none
    else
      let dirs := p.parts.dropLast
      let names := if stem = "__init__".toList then dirs else dirs ++ [String.ofList stem]
      if names.isEmpty || !names.all (fun n => Text.Identifier.isIdentifier n.toList) then none
      else some (".".intercalate names)

def distinct [BEq α] (xs : List α) : List α :=
  xs.foldl (fun seen x => if seen.contains x then seen else seen ++ [x]) []

namespace Distribution

def listedUnits (d : Distribution) : List String :=
  distinct ((d.files.getD []).filterMap fun f => unitOfPath? (Path.ofString f))

def topLevelUnits (d : Distribution) : List String :=
  ((Text.Blank.lines (d.topLevel.getD "")).map Text.Blank.trim).filter (!·.isEmpty)

def units (d : Distribution) : List String :=
  match d.listedUnits with
  | [] => d.topLevelUnits
  | us => us

end Distribution

end ThreadTrace
