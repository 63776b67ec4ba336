import ThreadTrace.Settings

namespace ThreadTrace

/-- An absent size asks for the configured one. -/
structure Options where
  mode : Mode := .trace
  poolId : Value
  poolSize : Option Int := none
  send : Bool := false
  running : Bool := false
  processDump : Bool := false
deriving Inhabited

namespace Options

def modelName : String := "TraceOptions"

def default (s : Settings) : Options := { poolId := s.defaultPoolId }

def toValue (o : Options) : Value :=
  .options o.mode o.poolId o.poolSize o.send o.running o.processDump

def given (fields : List (Value × Value)) (name : String) (fallback : α)
    (read : Value → Except Problem.Cause α) : Except Problem.Cause α :=
  match Field.find? name fields with
  | some v => read v
  | none => .ok fallback

def ofFields (s : Settings) (fields : List (Value × Value)) : Except Fault Options :=
  let mode := given fields "mode" .trace Field.mode
  let poolId := given fields "pool_id" s.defaultPoolId Field.hashable
  let poolSize := given fields "pool_size" none (Field.optional Field.positive)
  let send := given fields "send" false Field.bool
  let running := given fields "running" false Field.bool
  let processDump := given fields "process_dump" false Field.bool
  match mode, poolId, poolSize, send, running, processDump with
  | .ok mode, .ok poolId, .ok poolSize, .ok send, .ok running, .ok processDump =>
    .ok { mode, poolId, poolSize, send, running, processDump }
  | _, _, _, _, _, _ => .error (.invalid modelName
      (Field.problem "mode" mode ++ Field.problem "pool_id" poolId ++
        Field.problem "pool_size" poolSize ++ Field.problem "send" send ++
        Field.problem "running" running ++ Field.problem "process_dump" processDump))

def ofValue (s : Settings) : Value → Except Fault Options
  | .options mode poolId poolSize send running processDump =>
    .ok { mode, poolId, poolSize, send, running, processDump }
  | .dict fields => ofFields s fields
  | _ => .error (.invalid modelName [⟨[], .modelType modelName⟩])

def coerce (s : Settings) : Value → Except Fault Options
  | .null => .ok (default s)
  | v => ofValue s v

/-- The size of the pool: the size asked for, else the configured one, else the number of
processors, else one. The first that does not count as absent is taken, whatever it is. -/
def resolvedSize (s : Settings) (o : Options) : Value :=
  ([(o.poolSize.map Value.int).getD .null, s.defaultPoolSize, s.processors].find?
    Value.isTruthy).getD (.int 1)

end Options

end ThreadTrace
