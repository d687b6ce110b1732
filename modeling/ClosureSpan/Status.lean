/-!
# Status codes of the tool interface

Each function of the tool interface answers with a status, a 32-bit code that is zero on success.

## Main definitions

* `Status.name?` — the names of the codes that are known here.
* `Status.text` — a code as it is shown to a reader.
-/

namespace ClosureSpan

/-- The code that a function of the tool interface answers. -/
abbrev Status := Nat

namespace Status

/-- The function did what it was asked. -/
def success : Status := 0
/-- The class handle denotes no class. -/
def invalidClass : Status := 21
/-- The method handle denotes no method. -/
def invalidMethod : Status := 23
/-- The function is not available in this environment. -/
def notAvailable : Status := 98
/-- The class was compiled without the information asked for. -/
def absentInformation : Status := 101
/-- The argument is not acceptable. -/
def illegalArgument : Status := 103

/-- The name of a code. -/
def name? : Status → Option String
  | 0 => some "JVMTI_ERROR_NONE"
  | 10 => some "JVMTI_ERROR_INVALID_THREAD"
  | 21 => some "JVMTI_ERROR_INVALID_CLASS"
  | 23 => some "JVMTI_ERROR_INVALID_METHODID"
  | 98 => some "JVMTI_ERROR_NOT_AVAILABLE"
  | 99 => some "JVMTI_ERROR_MUST_POSSESS_CAPABILITY"
  | 100 => some "JVMTI_ERROR_NULL_POINTER"
  | 101 => some "JVMTI_ERROR_ABSENT_INFORMATION"
  | 104 => some "JVMTI_ERROR_NATIVE_METHOD"
  | 106 => some "JVMTI_ERROR_CLASS_LOADER_UNSUPPORTED"
  | 110 => some "JVMTI_ERROR_OUT_OF_MEMORY"
  | 111 => some "JVMTI_ERROR_ACCESS_DENIED"
  | 112 => some "JVMTI_ERROR_WRONG_PHASE"
  | 113 => some "JVMTI_ERROR_INTERNAL"
  | 115 => some "JVMTI_ERROR_UNATTACHED_THREAD"
  | 116 => some "JVMTI_ERROR_INVALID_ENVIRONMENT"
  | _ => none

/-- A known code is shown by its name with the number behind it, any other by its number. -/
def text (status : Status) : String :=
  match name? status with
  | some name => name ++ " (" ++ toString status ++ ")"
  | none => "JVMTI error " ++ toString status

end Status
end ClosureSpan
