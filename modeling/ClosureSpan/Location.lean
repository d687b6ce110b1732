import ClosureSpan.Introspector

/-!
# Locations

The location of a class is its source file together with the lines of its entry method.

## Main definitions

* `Location` — a source file and the lines in it.
* `ResolveError` — why a class has no location.
* `Introspector.resolve` — the location of a class.
-/

namespace ClosureSpan

/-- Where the body of a function object is written. -/
structure Location where
  /-- The name of the source file. -/
  sourceFile : String
  /-- The first line. -/
  startLine : Int
  /-- The last line. -/
  endLine : Int
  deriving Repr, DecidableEq

/-- Why a class could not be mapped to a location. -/
inductive ResolveError where
  /-- The machine does not let line tables be read. -/
  | capabilityUnavailable
  /-- The result class or its constructor is missing. -/
  | bindingUnavailable
  /-- A question was not answered. -/
  | introspection (cause : QueryError)
  /-- No method of the class qualifies as entry method. -/
  | noResolvableMethod (entry : String)
  /-- The result object could not be made. -/
  | resultConstruction
  deriving Repr, DecidableEq

/-- The text of the error. -/
def ResolveError.message : ResolveError → String
  | capabilityUnavailable => "JVMTI line number capability is unavailable"
  | bindingUnavailable => "result class or its constructor could not be bound"
  | introspection cause => cause.message
  | noResolvableMethod entry => "no non-bridge `" ++ entry ++ "` method with line information"
  | resultConstruction => "constructing the result object failed"

/-- What is reported on a location that was found. -/
def locationEvent (location : Location) : Event where
  level := .debug
  message := "resolved lambda location"
  fields := [("source_file", .plain location.sourceFile), ("start", .number location.startLine),
    ("end", .number location.endLine)]

namespace Introspector

variable {m : Type → Type} [Monad m] {κ μ : Type} (source : Introspector m κ μ)

/-- The location of a class.  The source file is asked for only once a method has a span. -/
def resolve (entry : String) (owner : κ) : ExceptT ResolveError m Location := do
  match ← (source.select entry owner).adapt ResolveError.introspection with
  | none => throw (.noResolvableMethod entry)
  | some selection =>
    Held.use ((source.sourceFile owner).adapt ResolveError.introspection) fun name => do
      let location : Location :=
        ⟨ModifiedUtf8.decode name, selection.span.first, selection.span.last⟩
      source.report (locationEvent location)
      pure location

end Introspector
end ClosureSpan
