namespace ThreadTrace

inductive Selector
  | all
  | processes
  | ports
  | existing
  | existingProcesses
  | existingPorts
  | new
  | newProcesses
  | newPorts
deriving DecidableEq, Inhabited

namespace Selector

def members : List Selector :=
  [all, processes, ports, existing, existingProcesses, existingPorts, new, newProcesses, newPorts]

def text : Selector → String
  | all => "all"
  | processes => "processes"
  | ports => "ports"
  | existing => "existing"
  | existingProcesses => "existing_processes"
  | existingPorts => "existing_ports"
  | new => "new"
  | newProcesses => "new_processes"
  | newPorts => "new_ports"

def memberName : Selector → String
  | all => "ALL"
  | processes => "PROCESSES"
  | ports => "PORTS"
  | existing => "EXISTING"
  | existingProcesses => "EXISTING_PROCESSES"
  | existingPorts => "EXISTING_PORTS"
  | new => "NEW"
  | newProcesses => "NEW_PROCESSES"
  | newPorts => "NEW_PORTS"

def ofText? (s : String) : Option Selector := members.find? (·.text = s)

def coversExisting : Selector → Bool
  | all | processes | existing | existingProcesses => true
  | _ => false

def coversNew : Selector → Bool
  | all | new | newProcesses => true
  | _ => false

theorem ofText?_text (s : Selector) : ofText? s.text = some s := by cases s <;> decide

end Selector

end ThreadTrace
