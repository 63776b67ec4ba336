import ThreadTrace.Event.Basic
import ThreadTrace.Host.Basic
import ThreadTrace.Plan.Entry
import ThreadTrace.Table
import ThreadTrace.Thread.Basic

namespace ThreadTrace

/-- What a carrier was attached with. -/
structure Attachment where
  flags : Flags
  target : Target
deriving DecidableEq, Inhabited

/-- `arrivals` holds what threads get that start after `known` was taken. `hooked` holds the threads
whose calls have reached the hook. -/
structure ProfileHost where
  traced : Table Nat Attachment := []
  pending : Table String Attachment := []
  arrivals : Option Attachment := none
  known : List String := []
  ignored : List Nat := []
  hooked : List Nat := []
  filters : Table String MatchSpec := []
  localOnly : Table String Bool := []
  lastIdent : Option Nat := none
  active : Bool := false
  installed : Bool := false
  allThreads : Bool := false
deriving Inhabited

namespace ProfileHost

/-- The unit of the library itself, which the wildcard leaves out together with all units below. -/
def ownUnit : String := "glasstrace"

def isOwn (unit : String) : Bool := unit == ownUnit || (ownUnit ++ ".").isPrefixOf unit

def matchUnit (h : ProfileHost) (unit : Option String) : Option MatchSpec :=
  unit.bind fun u =>
    match h.filters.get? u with
    | some spec => some spec
    | none => if isOwn u then none else h.filters.get? Entry.wildcard

def hasAttachments (h : ProfileHost) : Bool :=
  !h.traced.isEmpty || !h.pending.isEmpty || h.arrivals.isSome

def insertNew (n : Nat) (s : List Nat) : List Nat := if s.contains n then s else s ++ [n]

def remove (n : Nat) (s : List Nat) : List Nat := s.filter (· != n)

def forget (h : ProfileHost) (t : Target) : ProfileHost :=
  let h := { h with
    traced := h.traced.filter fun x => x.2.target.id != t.id
    pending := h.pending.filter fun x => x.2.target.id != t.id
    arrivals := h.arrivals.filter fun a => a.target.id != t.id }
  { h with active := h.hasAttachments }

def install (h : ProfileHost) (unit : String) (spec : MatchSpec) (localOnly : Bool) :
    ProfileHost :=
  { h with filters := h.filters.put unit spec, localOnly := h.localOnly.put unit localOnly }

end ProfileHost

end ThreadTrace
