import ThreadTrace.Command.Job
import ThreadTrace.Command.Listing

namespace ThreadTrace

inductive Command
  | help
  | plan (request : List Value)
  | sinks
  | run (job : Job)
deriving Inhabited

namespace Command

def showPlan (request : List Value) : Act World Output := do
  match ← (Plan.normalize (.list request)).attempt with
  | .ok entries => return { rows := ← Act.result (planRows entries) }
  | .error f =>
    if !f.isOrdinary then throw f
    let reason := f.kind ++ ": " ++ f.headline
    return { printed := Screen.message "Callback failed:" reason, code := 1 }

variable {H : Type} [TraceHost H]

def perform (settings : Settings) (script : Launch → Act (Tracer H) Unit) :
    Command → Act (Tracer H) Output
  | help => return {}
  | plan request => Tracer.inWorld (showPlan request)
  | sinks => return { rows := sinkRows settings }
  | run job => job.run settings script

end Command

end ThreadTrace
