import ThreadTrace.Problem
import ThreadTrace.Text.Quoted
import ThreadTrace.Text.Template

namespace ThreadTrace

/-- Where a fault names a value, it keeps the value's shown form. -/
inductive Fault
  | raised (kind message : String)
  | invalid (model : String) (problems : List Problem)
  | unprintable
  | badSelector (text : String)
  | badCallback (ref : String)
  | badParameter (text : String)
  | badUsage
  | badNumeral (text : String)
  | notIterable (type : String)
  | notCallable (type : String)
  | badCall (reason : String)
  | noMethod (type name : String)
  | notOrdered (type : String)
  | notAbove (type : String)
  | notCount (type : String)
  | notPath (type : String)
  | bytesPath
  | unhashable (type : String)
  | noModule (name : String)
  | notPackage (name parent : String)
  | emptyModuleName
  | relativeModule (name : String)
  | noAttribute (unit : Option String) (name : String)
  | emptyBundleName
  | endlessCallback
  | badCarrier (shown : String)
  | badPattern (shown : String)
  | alreadyRunning (shown : String)
  | notRunning (shown : String)
  | unknownSink (shown : String)
  | poolSize (size : String)
  | unexpectedOption (callee name : String)
  | repeatedOption (callee name : String)
  | repeatedReceiver (callee : String)
  | optionsType (callee type : String)
  | optionNames
  | cannotOpen
  | noRoute (shown : String)
  | template (t : Text.Template.Trouble)
  | noRemainder (type : String)
  | longNumeral (length : Nat)
  | longInteger
  | noTarget
  | noWorker
  | startedTwice
  | emptyPathName (shown : String)
  | badPathName (shown : String)
  | zeroByte
  | noFile (shown : String)
  | longPath (shown : String)
  | fileExists (shown : String)
  | isDirectory (shown : String)
  | notDirectory (shown : String)
  | closedFile
  | year (n : Int)
  | timeRange
  | timeWidth
  | waitRange
  | notTime
  | unknownLevel (name : String)
  | badLevel (shown : String)
deriving DecidableEq, Inhabited

namespace Fault

def kind : Fault → String
  | raised kind _ => kind
  | invalid .. => "ValidationError"
  | unprintable | startedTwice => "RuntimeError"
  | badSelector _ | badCallback _ | badNumeral _ | longNumeral _ | longInteger | emptyModuleName
  | emptyBundleName | poolSize _ | zeroByte | emptyPathName _ | badPathName _ | closedFile | year _
  | notTime | unknownLevel _ => "ValueError"
  | badParameter _ => "BadParameter"
  | badUsage => "UsageError"
  | notIterable _ | notCallable _ | badCall _ | unhashable _ | relativeModule _
  | unexpectedOption .. | repeatedOption .. | repeatedReceiver _ | optionsType .. | optionNames
  | notOrdered _ | notAbove _ | notCount _ | notPath _ | bytesPath | noRemainder _ | badLevel _ =>
    "TypeError"
  | noMethod .. | noAttribute .. => "AttributeError"
  | noModule _ | notPackage .. => "ModuleNotFoundError"
  | endlessCallback => "RecursionError"
  | badCarrier _ => "InvalidCarrierError"
  | badPattern _ => "InvalidPatternError"
  | alreadyRunning _ => "PoolAlreadyStartedError"
  | notRunning _ => "PoolNotFoundError"
  | unknownSink _ => "UnknownSinkKindError"
  | cannotOpen | timeWidth | longPath _ => "OSError"
  | noFile _ => "FileNotFoundError"
  | noRoute _ => "KeyError"
  | template t => t.kind
  | noTarget | noWorker => "LookupError"
  | fileExists _ => "FileExistsError"
  | isDirectory _ => "IsADirectoryError"
  | notDirectory _ => "NotADirectoryError"
  | timeRange | waitRange => "OverflowError"

def reason : Fault → String
  | raised _ message => message
  | invalid _ problems => "; ".intercalate (problems.map Problem.text)
  | unprintable => "no repr"
  | badSelector text => Text.Quoted.text text ++ " is not a valid ScopeSelector"
  | badCallback ref =>
    "Callback reference must look like 'module:function', got " ++ Text.Quoted.text ref
  | badParameter text => text
  | badUsage => "the command line cannot be read"
  | badNumeral text =>
    "invalid literal for int() with base 10: " ++
      String.ofList ((Text.Quoted.text text).toList.take 200)
  | notIterable type => "'" ++ type ++ "' object is not iterable"
  | notCallable type => "'" ++ type ++ "' object is not callable"
  | badCall reason => reason
  | noMethod type name => "'" ++ type ++ "' object has no attribute '" ++ name ++ "'"
  | notOrdered type => "'<=' not supported between instances of '" ++ type ++ "' and 'int'"
  | notAbove type => "'>' not supported between instances of 'int' and '" ++ type ++ "'"
  | notCount type => "'" ++ type ++ "' object cannot be interpreted as an integer"
  | notPath type => "expected str, bytes or os.PathLike object, not " ++ type
  | bytesPath =>
    "argument should be a str object or an os.PathLike object returning str, not <class 'bytes'>"
  | unhashable type => "unhashable type: '" ++ type ++ "'"
  | noModule name => "No module named " ++ Text.Quoted.text name
  | notPackage name parent =>
    "No module named " ++ Text.Quoted.text name ++ "; " ++ Text.Quoted.text parent ++
      " is not a package"
  | emptyModuleName => "Empty module name"
  | relativeModule name =>
    "the 'package' argument is required to perform a relative import for " ++ Text.Quoted.text name
  | noAttribute unit name =>
    "module" ++ (unit.map fun u => " '" ++ u ++ "'").getD "" ++ " has no attribute '" ++ name ++ "'"
  | emptyBundleName => "A distribution name is required."
  | endlessCallback => "maximum recursion depth exceeded"
  | badCarrier shown => "Not a carrier reference: " ++ shown
  | badPattern shown => "Not a module name or wildcard: " ++ shown
  | alreadyRunning shown => "Sink pool " ++ shown ++ " is already running"
  | notRunning shown => "No sink pool " ++ shown ++ " is running"
  | unknownSink shown =>
    "Unknown sink kind " ++ shown ++ "; registered kinds: file, memory, raw_console"
  | poolSize size => "Pool size must be positive, got " ++ size
  | unexpectedOption callee name =>
    callee ++ ".__init__() got an unexpected keyword argument '" ++ name ++ "'"
  | repeatedOption callee name =>
    callee ++ "() got multiple values for keyword argument '" ++ name ++ "'"
  | repeatedReceiver callee => callee ++ ".__init__() got multiple values for argument 'self'"
  | optionsType callee type => callee ++ "() argument after ** must be a mapping, not " ++ type
  | optionNames => "keywords must be strings"
  | cannotOpen => "cannot open sink"
  | noRoute shown => shown
  | template t => t.message
  | noRemainder type => "unsupported operand type(s) for %: '" ++ type ++ "' and 'int'"
  | longNumeral length =>
    "Exceeds the limit (4300 digits) for integer string conversion: value has " ++
      toString length ++ " digits; use sys.set_int_max_str_digits() to increase the limit"
  | longInteger =>
    "Exceeds the limit (4300 digits) for integer string conversion; " ++
      "use sys.set_int_max_str_digits() to increase the limit"
  | noTarget => "no target"
  | noWorker => "no worker"
  | startedTwice => "threads can only be started once"
  | emptyPathName shown => shown ++ " has an empty name"
  | badPathName shown => "Invalid name " ++ shown
  | zeroByte => "embedded null byte"
  | noFile shown => "[Errno 2] No such file or directory: " ++ shown
  | longPath shown => "[Errno 36] File name too long: " ++ shown
  | fileExists shown => "[Errno 17] File exists: " ++ shown
  | isDirectory shown => "[Errno 21] Is a directory: " ++ shown
  | notDirectory shown => "[Errno 20] Not a directory: " ++ shown
  | closedFile => "I/O operation on closed file."
  | year n => "year " ++ toString n ++ " is out of range"
  | timeRange => "timestamp out of range for platform time_t"
  | timeWidth => "[Errno 75] Value too large for defined data type"
  | waitRange => "timestamp too large to convert to C _PyTime_t"
  | notTime => "Invalid value NaN (not a number)"
  | badLevel shown => "Level not an integer or a valid string: " ++ shown
  | unknownLevel name => "Unknown level: " ++ Text.Quoted.text name

def message : Fault → String
  | raised "KeyError" message => Text.Quoted.text message
  | f => f.reason

def headline : Fault → String
  | invalid model problems =>
    let n := problems.length
    toString n ++ (if n = 1 then " validation error for " else " validation errors for ") ++ model
  | f => f.message

def shown (f : Fault) : String := f.kind ++ "(" ++ Text.Quoted.text f.reason ++ ")"

/-- Requests to end the program are not failures, and nothing that mends failures catches them. -/
def isOrdinary (f : Fault) : Bool :=
  f.kind != "SystemExit" && f.kind != "KeyboardInterrupt" && f.kind != "GeneratorExit"

def isQuiet (f : Fault) : Bool :=
  ["BadParameter", "UsageError", "SystemExit", "KeyboardInterrupt", "EOFError"].contains f.kind

def exitCode (f : Fault) : Nat :=
  match f with
  | badUsage | badParameter _ => 2
  | f => if f.kind == "KeyboardInterrupt" then 130 else 1

def isImportFailure (f : Fault) : Bool := f.kind == "ImportError" || f.kind == "ModuleNotFoundError"

end Fault

end ThreadTrace
