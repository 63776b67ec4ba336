namespace ThreadTrace

inductive Mode
  | trace
  | profile
deriving DecidableEq, Inhabited

namespace Mode

def members : List Mode := [trace, profile]

def text : Mode → String
  | trace => "trace"
  | profile => "profile"

def memberName : Mode → String
  | trace => "TRACE"
  | profile => "PROFILE"

def ofText? (s : String) : Option Mode := members.find? (·.text = s)

def shown (m : Mode) : String := "<TraceMode." ++ m.memberName ++ ": '" ++ m.text ++ "'>"

theorem ofText?_text (m : Mode) : ofText? m.text = some m := by cases m <;> decide

end Mode

end ThreadTrace
