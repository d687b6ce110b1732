import ClosureSpan.Latch
import ClosureSpan.Location
import ClosureSpan.Vm.NativeInterface

/-!
# Binding the result type

Locations are handed to the machine as objects of a result class, made with its constructor of a
string and two numbers.  Class and constructor are looked up once.

## Main definitions

* `Binding.lookUp` — looks a result class and its constructor up.
* `Binding.construct` — makes a result object.
* `Binder` — a class name with the outcome of its look-up.
-/

namespace ClosureSpan

/-- The descriptor of the constructor of a result class. -/
def resultConstructorSignature : String := "(Ljava/lang/String;II)V"

/-- A result class and its constructor. -/
structure Binding where
  /-- A global reference to the class, which is never dropped. -/
  owner : Handle
  /-- The constructor. -/
  constructor : Handle
  deriving Repr, DecidableEq

namespace Binding

/-- An event about a result class. -/
def classEvent (level : Level) (message className : String) : Event where
  level := level
  message := message
  fields := [("class", .quoted className)]

/-- The warning that a result class has no suitable constructor. -/
def noConstructor (className : String) : Event where
  level := .warn
  message := "result constructor not found"
  fields := [("class", .quoted className), ("signature", .quoted resultConstructorSignature)]

/-- Drops what a failed look-up left pending, and warns of it. -/
def giveUp (event : Event) : HostM (Option Binding) := do
  let _ ← Native.clearPendingException
  Host.report event
  pure none

/-- Looks up the constructor of a class, and keeps both. -/
def ofClass (className : String) (found : Handle) : HostM (Option Binding) := do
  match ← Native.methodId found "<init>" resultConstructorSignature with
  | none => giveUp (noConstructor className)
  | some constructor =>
    match ← Native.newGlobalRef found with
    | none => giveUp (classEvent .warn "NewGlobalRef failed" className)
    | some owner =>
      Host.report (classEvent .debug "result type bound" className)
      pure (some ⟨owner, constructor⟩)

/-- Looks a result class and its constructor up.  The local reference to the class is dropped. -/
def lookUp (className : String) : HostM (Option Binding) := do
  match ← Native.findClass className with
  | none => giveUp (classEvent .warn "result class not found" className)
  | some found => Native.withLocalRef found (ofClass className found)

/-- Makes a result object.  The local reference to its string is dropped. -/
def construct (binding : Binding) (location : Location) : HostM (Option Handle) := do
  match ← Native.newString location.sourceFile with
  | none => pure none
  | some text => Native.withLocalRef text do
    let object ← Native.newObject binding.owner binding.constructor text location.startLine
      location.endLine
    if object.isNone then let _ ← Native.clearPendingException
    pure object

end Binding

/-- The name of a result class, with the outcome of looking it up. -/
structure Binder where
  /-- The internal name of the class. -/
  className : String
  /-- The outcome of the look-up. -/
  binding : Latch Binding := .fresh
  deriving Repr, DecidableEq

/-- Looks the class up, unless that was tried before. -/
def Binder.bind (binder : Binder) : HostM Binder := do
  pure { binder with binding := ← binder.binding.settle (Binding.lookUp binder.className) }

end ClosureSpan
