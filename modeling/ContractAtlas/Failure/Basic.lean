import ContractAtlas.Document.Error
import ContractAtlas.Settings.Error
import ContractAtlas.Yaml.Value.Scalar

/-!
All that can end an operation. Errors about documents and about the configuration are reported to the
user; the other failures are not foreseen by the program and stop it. One of them is that calls stand
deeper on one another than there is room for.
-/
namespace ContractAtlas
set_option autoImplicit false

inductive Failure where
  | document (error : DocumentError)
  | configuration (error : ConfigurationError)
  | longInteger (digits : Nat)
  | badScalar (fault : Yaml.ValueFault)
  | disk (fault : Disk.Fault)
  | notUtf8
  | folderNotText
  | sectionNotMapping (type : String)
  | noHome
  | tooDeep

namespace Failure

/-- The report of a failure that has one. -/
def report? : Failure → Option Report
  | .document e => some e.report
  | .configuration e => some e.report
  | _ => none

/-- The text that a failure without a report carries, if any. -/
def bareMessage? : Failure → Option String
  | .longInteger digits => some (Numeral.longIntegerText digits)
  | .badScalar fault => some fault.text
  | .disk .nullInPath => some Disk.Fault.nullInPath.text
  | .sectionNotMapping type => some ("'" ++ type ++ "' object has no attribute 'items'")
  | .noHome => some "Could not determine home directory."
  | .tooDeep => some "maximum recursion depth exceeded"
  | _ => none

end Failure

end ContractAtlas
