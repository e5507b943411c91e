import FormulaMap.Code.Methods
import FormulaMap.CommandLine.World
import FormulaMap.Oracle.Call

/-!
# Failures

Why a run ends without what was asked for, in which words it says so, and with which exit code.  A
source text that gives no records has a code of its own.
-/

namespace FormulaMap
namespace CommandLine

/-- Why a run fails. -/
inductive Failure where
  /-- The standard input cannot be read. -/
  | input (fault : AccessFault)
  /-- The file with the source text cannot be read. -/
  | file (path : String) (fault : AccessFault)
  /-- The source text is blank. -/
  | blank
  /-- The settings cannot be loaded. -/
  | settings (fault : Settings.LoadFault)
  /-- The source text gives no records. -/
  | source (path : String) (failure : Code.ReadFailure)
  /-- The oracle cannot be asked with these settings. -/
  | oracle (fault : SettingsFault)
  /-- No client for posts can be built. -/
  | client (cause : String)
  /-- No method has the name that is asked for. -/
  | method (name path : String)
  /-- The results cannot be written. -/
  | results (path : String) (fault : AccessFault)
  deriving DecidableEq

namespace Failure

/-- The wording of a failure. -/
def message : Failure → String
  | input fault => "failed to read source from stdin: " ++ fault.message
  | file path fault => "failed to read " ++ path ++ ": " ++ fault.message
  | blank => "No code provided"
  | settings fault =>
    "failed to load fmap config: " ++ fault.message ++
      (match fault.cause? with
        | some cause => ": " ++ cause
        | none => "")
  | source path failure => "failed to parse " ++ path ++ ": " ++ failure.message
  | oracle fault => "oracle is not usable: " ++ fault.message
  | client cause =>
    "failed to build oracle client: " ++ (Oracle.CallFault.transport cause).message
  | method name path => "no method named `" ++ name ++ "` in " ++ path
  | results path fault => "failed to write " ++ path ++ ": " ++ fault.message

/-- The exit code of a failure. -/
def code : Failure → Nat
  | source _ _ => 2
  | _ => 1

end Failure

end CommandLine
end FormulaMap
