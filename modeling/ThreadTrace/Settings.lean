import ThreadTrace.Path
import ThreadTrace.Settings.File
import ThreadTrace.Text.Case
import ThreadTrace.Value.Field

namespace ThreadTrace

/-- Callers may set a setting to any value, which is looked at where it is used. A pool size that
counts as absent means the number of processors; a null join timeout means no limit. -/
structure Settings where
  logLevel : Value := .text "WARNING"
  defaultSink : Value := .text "raw_console"
  defaultPoolId : Value := .text "default"
  defaultPoolSize : Value := .null
  joinTimeout : Value := .float (Double.ofInt 5)
  fileSinkPath : Path := ⟨0, ["glasstrace.jsonl"]⟩
  processors : Value := .int 2
deriving Inhabited

namespace Settings

def variablePrefix : String := "glasstrace_"

def names : List String :=
  ["log_level", "default_sink", "default_pool_id", "default_pool_size", "worker_join_timeout",
    "file_sink_path"]

/-- The value of a setting's variable; of several spellings the last one counts. -/
def lookup? (known : List (String × Option String)) (setting : String) : Option String :=
  (known.reverse.find? fun v => Text.Case.lower v.1 == variablePrefix ++ setting).bind (·.2)

def load (environment : List (String × String)) (file : String) : Except Fault Settings :=
  let bound := SettingsFile.read environment file
  let given (setting : String) : Option Value :=
    ((lookup? (environment.map fun v => (v.1, some v.2)) setting).or (lookup? bound setting)).map
      .text
  let d : Settings := {}
  let size := match given "default_pool_size" with
    | some v => (Field.positive v).map Value.int
    | none => .ok d.defaultPoolSize
  let timeout := match given "worker_join_timeout" with
    | some v => (Field.float v).map (Value.ofDouble · 0)
    | none => .ok d.joinTimeout
  match size, timeout with
  | .ok size, .ok timeout => .ok { d with
      logLevel := (given "log_level").getD d.logLevel
      defaultSink := (given "default_sink").getD d.defaultSink
      defaultPoolId := (given "default_pool_id").getD d.defaultPoolId
      defaultPoolSize := size
      joinTimeout := timeout
      fileSinkPath := (((given "file_sink_path").bind Value.asText?).map Path.ofString).getD
        d.fileSinkPath }
  | size, timeout => .error (.invalid "GlassConfig"
      (Field.problem "default_pool_size" size ++ Field.problem "worker_join_timeout" timeout))

end Settings

end ThreadTrace
