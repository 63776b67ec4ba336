import ThreadTrace.Profile.Hook

namespace ThreadTrace

structure Code where
  unit : Option String
  function : String
  arity : Nat
deriving DecidableEq

def Frame.code (f : Frame) : Code := ⟨f.unit, f.function, f.arity⟩

/-- The calls that one function makes, each with those that it makes in turn. -/
inductive Calls
  | done
  | call (code : Code) (inner next : Calls)

structure Callback where
  what : Hook.Signal
  code : Code
  below : List Code
deriving DecidableEq

namespace Calls

/-- The callbacks during some calls, made above the given frames. -/
def walk : Calls → List Code → List Callback
  | done, _ => []
  | call code inner next, below =>
    ⟨.call, code, below⟩ :: (inner.walk (code :: below) ++ ⟨.ret, code, below⟩ :: next.walk below)

end Calls

/-- What is traced of a thread: which units are matched, under which ident and for which mode. -/
structure Traced where
  matched : Option String → Bool
  ident : Nat
  mode : Mode

namespace Traced

variable (tr : Traced)

def called (c : Code) : Event where
  kind := .call
  carrier := tr.ident
  unit := c.unit
  function := some c.function
  arity := some c.arity
  mode := tr.mode

def returned (c parent : Code) : Event where
  kind := .returnTo
  carrier := tr.ident
  unit := c.unit
  function := some c.function
  caller := some (parent.unit.getD "None" ++ ":" ++ parent.function)
  mode := tr.mode

def ended : Event where
  kind := .exit
  carrier := tr.ident
  mode := tr.mode

/-- One event for each matched call and one for its return, in the order of the tree. -/
def during (parent : Code) : Calls → List Event
  | .done => []
  | .call c inner next =>
    if tr.matched c.unit then
      tr.called c :: (during c inner ++ tr.returned c parent :: during parent next)
    else during c inner ++ during parent next

/-- All events of a thread that runs the given function, from its call to its return. -/
def whole (bottom : Code) (calls : Calls) : List Event :=
  (if tr.matched bottom.unit then [tr.called bottom] else []) ++ tr.during bottom calls ++ [tr.ended]

def answer (x : Callback) : List Event :=
  match x.what, x.below with
  | .call, _ => if tr.matched x.code.unit then [tr.called x.code] else []
  | .ret, parent :: _ => if tr.matched x.code.unit then [tr.returned x.code parent] else []
  | .ret, [] => [tr.ended]
  | .other, _ => []

theorem flatMap_answer (parent : Code) (below : List Code) (calls : Calls) :
    (calls.walk (parent :: below)).flatMap tr.answer = tr.during parent calls := by
  induction calls generalizing parent below with
  | done => rfl
  | call c inner next ihInner ihNext =>
    simp only [Calls.walk, List.flatMap_cons, List.flatMap_append, ihInner, ihNext, during, answer]
    by_cases hm : tr.matched c.unit = true
    · simp [hm]
    · simp [hm]

/-- No function that is called from another is the lowest of its thread. -/
theorem below_of_mem_walk {parent : Code} {below : List Code} {calls : Calls} {x : Callback}
    (hx : x ∈ calls.walk (parent :: below)) : x.below ≠ [] ∧ x.what ≠ .other := by
  induction calls generalizing parent below with
  | done => cases hx
  | call c inner next ihInner ihNext =>
    rw [Calls.walk] at hx
    rcases List.mem_cons.1 hx with rfl | hx
    · exact ⟨by simp, by simp⟩
    · rcases List.mem_append.1 hx with hx | hx
      · exact ihInner hx
      · rcases List.mem_cons.1 hx with rfl | hx
        · exact ⟨by simp, by simp⟩
        · exact ihNext hx

end Traced

end ThreadTrace
