import ThreadTrace.Host.Carrier
import ThreadTrace.Host.Flags
import ThreadTrace.Host.Target
import ThreadTrace.Notice

namespace ThreadTrace

class TraceHost (H : Type) where
  attach : H → Value → Flags → Target → Except Fault (H × List Notice)
  install : H → Value → MatchSpec → Bool → Except Fault (H × List Notice)
  clear : H → H

end ThreadTrace
