import ThreadTrace.Fault
import ThreadTrace.Value.Basic

namespace ThreadTrace.Reserved

def facts : List String := ["__name__", "__doc__", "__package__", "__loader__", "__spec__"]

def pathName : String := "__path__"

def factsOf (isPackage : Bool) : List String := if isPackage then facts ++ [pathName] else facts

def typeOf? : String → Option String
  | "__name__" | "__package__" => some "str"
  | "__doc__" => some "NoneType"
  | "__loader__" => some "_Loader"
  | "__spec__" => some "ModuleSpec"
  | "__path__" => some "list"
  | "__dict__" | "__annotations__" => some "dict"
  | _ => none

/-- Whether a name stands for its fact whatever a module's body puts under it. -/
def isFixed (name : String) : Bool := name == "__class__" || name == "__dict__"

def size : Int := 56

def call? (names : List String) : String → Option (Except Fault Value)
  | "__dir__" => some (.ok (.list (names.map .text)))
  | "__init_subclass__" => some (.ok .null)
  | "__sizeof__" => some (.ok (.int size))
  | "__class__" | "__init__" => refused "module() missing required argument 'name' (pos 1)"
  | "__new__" => refused "module.__new__(): not enough arguments"
  | "__reduce__" => refused "cannot pickle 'module' object"
  | "__format__" => refused "__format__() takes exactly one argument (0 given)"
  | "__reduce_ex__" => refused "__reduce_ex__() takes exactly one argument (0 given)"
  | "__setattr__" => refused " expected 2 arguments, got 0"
  | "__eq__" | "__ne__" | "__lt__" | "__le__" | "__gt__" | "__ge__" | "__delattr__"
  | "__getattribute__" => refused "expected 1 argument, got 0"
  | _ => none
where
  refused (reason : String) : Option (Except Fault Value) := some (.error (.badCall reason))

end ThreadTrace.Reserved
