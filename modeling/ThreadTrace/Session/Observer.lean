import ThreadTrace.Host.Recording
import ThreadTrace.Profile.Attach

namespace ThreadTrace

inductive Observer
  | recording (r : Recording) (threads : Threads)
  | profile (o : Observed)
deriving Inhabited

namespace Observer

def threads : Observer → Threads
  | recording _ ts => ts
  | profile o => o.threads

def changeThreads (f : Threads → Threads) : Observer → Observer
  | recording r ts => recording r (f ts)
  | profile o => profile { o with threads := f o.threads }

def clear : Observer → Observer
  | recording r ts => recording r.clear ts
  | profile o => profile o.clear

instance : TraceHost Observer where
  attach
    | recording r ts, v, flags, target => do
      let (r, ns) ← TraceHost.attach r v flags target
      return (recording r ts, ns)
    | profile o, v, flags, target => do
      let (o, ns) ← TraceHost.attach o v flags target
      return (profile o, ns)
  install
    | recording r ts, v, spec, localOnly => do
      let (r, ns) ← TraceHost.install r v spec localOnly
      return (recording r ts, ns)
    | profile o, v, spec, localOnly => do
      let (o, ns) ← TraceHost.install o v spec localOnly
      return (profile o, ns)
  clear := clear

end Observer

end ThreadTrace
