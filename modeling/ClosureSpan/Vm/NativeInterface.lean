import ClosureSpan.Vm.Host

/-!
# The native interface

The functions through which native code works with classes and objects.  A null handle means that
the function failed, and then an exception may be pending.

## Main definitions

* `Native.findClass`, `Native.methodId`, `Native.newString`, `Native.newGlobalRef`,
  `Native.newObject` — functions that answer with a handle.
* `Native.clearPendingException` — drops the pending exception, if there is one.
* `Native.withLocalRef` — uses a local reference and drops it.
-/

namespace ClosureSpan
namespace Native

/-- Whether the machine that the environment belongs to can be reached. -/
def javaVm : HostM Bool := do
  let vm := (← get).vm
  Host.record .getJavaVm
  pure (vm.machineResult = 0 && !vm.nullMachine)

/-- The handle that a function answered with.  Null may come with an exception. -/
def answered (handle : Handle) : HostM (Option Handle) := do
  if handle = 0 ∧ (← get).vm.throws then Host.setPending true
  pure handle.nonNull?

/-- The bytes of a text that is passed with a zero byte as its end, unless there is one in it. -/
def terminated? (bytes : Bytes) : Option Bytes := if 0 ∈ bytes then none else some bytes

/-- Looks a class up by its internal name. -/
def findClass (name : String) : HostM (Option Handle) := do
  match terminated? (utf8 name) with
  | none => pure none
  | some bytes =>
    Host.record (.findClass bytes)
    answered (← get).vm.handles.foundClass

/-- Looks a method up by its name and the descriptor of its type. -/
def methodId (owner : Handle) (name signature : String) : HostM (Option Handle) := do
  match terminated? (utf8 name), terminated? (utf8 signature) with
  | some name, some signature =>
    Host.record (.getMethodId owner name signature)
    answered (← get).vm.handles.foundMethod
  | _, _ => pure none

/-- Makes a string.  Its text is passed in modified UTF-8, so any character may occur in it. -/
def newString (text : String) : HostM (Option Handle) := do
  match terminated? (ModifiedUtf8.encode text) with
  | none => pure none
  | some bytes =>
    Host.record (.newString bytes)
    answered (← get).vm.handles.newString

/-- Makes a global reference. -/
def newGlobalRef (object : Handle) : HostM (Option Handle) := do
  Host.record (.newGlobalRef object)
  answered (← get).vm.handles.globalRef

/-- Drops a local reference. -/
def deleteLocalRef (object : Handle) : HostM Unit := Host.record (.deleteLocalRef object)

/-- Makes an object with a constructor of a string and two numbers. -/
def newObject (owner constructor text : Handle) (start stop : Int) : HostM (Option Handle) := do
  Host.record (.newObject owner constructor text start stop)
  answered (← get).vm.handles.newObject

/-! ### Exceptions -/

/-- Whether an exception is pending.  Any byte but zero says so. -/
def exceptionCheck : HostM Bool := do
  let host ← get
  Host.record .exceptionCheck
  pure (host.pending && host.vm.trueByte ≠ 0)

/-- Drops the pending exception. -/
def exceptionClear : HostM Unit := do
  Host.record .exceptionClear
  Host.setPending false

/-- Drops the pending exception if there is one, and tells whether there was. -/
def clearPendingException : HostM Bool := do
  let pending ← exceptionCheck
  if pending then exceptionClear
  pure pending

/-! ### Local references -/

/-- Drops a local reference, unless it is null. -/
def dropLocalRef (object : Handle) : HostM Unit :=
  match object.nonNull? with
  | none => pure ()
  | some object => deleteLocalRef object

/-- Uses a local reference and drops it. -/
def withLocalRef {α : Type} (object : Handle) (body : HostM α) : HostM α := do
  let result ← body
  dropLocalRef object
  pure result

end Native
end ClosureSpan
