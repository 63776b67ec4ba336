namespace ThreadTrace

inductive CommandOption
  | help
  | logLevel
  | pattern
  | app
  | callback
  | scope
  | sink
  | out
  | mode
  | poolId
  | poolSize
  | running
  | send
  | processDump
deriving DecidableEq, Inhabited

namespace CommandOption

def long : CommandOption → String
  | help => "--help"
  | logLevel => "--log-level"
  | pattern => "--pattern"
  | app => "--app"
  | callback => "--callback"
  | scope => "--scope"
  | sink => "--sink"
  | out => "--out"
  | mode => "--mode"
  | poolId => "--pool-id"
  | poolSize => "--pool-size"
  | running => "--running"
  | send => "--send"
  | processDump => "--process-dump"

def letter? : CommandOption → Option Char
  | pattern => some 'p'
  | app => some 'a'
  | callback => some 'c'
  | scope => some 's'
  | out => some 'o'
  | mode => some 'm'
  | poolSize => some 'n'
  | _ => none

def takesValue : CommandOption → Bool
  | help | running | send | processDump => false
  | _ => true

end CommandOption

end ThreadTrace
