namespace ThreadTrace.Text.Tag

def startsTag (c : Char) : Bool := c.isLower || c == '#' || c == '/' || c == '@'

/-- Whether a text behind an opening bracket goes on as a tag: it closes before another opens. -/
def isTag : List Char → Bool
  | [] => false
  | c :: r => startsTag c && (r.dropWhile fun c => c != '[' && c != ']').head? == some ']'

def printedAfter (held : Nat) : List Char → List Char
  | [] => List.replicate (if held = 1 then 2 else held) '\\'
  | c :: r =>
    if c = '\\' then printedAfter (held + 1) r
    else
      let kept := if c = '[' ∧ !isTag r then held - 1 else held
      List.replicate kept '\\' ++ c :: printedAfter 0 r

def printed (s : String) : String := String.ofList (printedAfter 0 s.toList)

end ThreadTrace.Text.Tag
