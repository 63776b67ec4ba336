import ThreadTrace.Thread.Basic
import ThreadTrace.Value.Basic

namespace ThreadTrace.Dump

def frameLine (f : Frame) : String :=
  "  File \"" ++ f.file ++ "\", line " ++ toString f.line ++ ", in " ++ f.function ++ "\n"

def shownRepeats : Nat := 3

def rest (count : Nat) : List String :=
  if count ≤ shownRepeats then []
  else
    let n := count - shownRepeats
    ["  [Previous line repeated " ++ toString n ++ " more time" ++ (if n = 1 then "" else "s") ++
      "]\n"]

/-- Cuts runs short; `count` lines equal to `last` stand directly before. -/
def shorten (last : Option String) (count : Nat) : List String → List String
  | [] => rest count
  | l :: ls =>
    if last = some l then
      if count < shownRepeats then l :: shorten last (count + 1) ls else shorten last (count + 1) ls
    else rest count ++ l :: shorten (some l) 1 ls

def text (stack : List Frame) : String :=
  String.join (shorten none 0 (stack.reverse.map frameLine))

end ThreadTrace.Dump
