import ClosureSpan.Status

/-!
# Queries for method metadata

The six questions about classes and methods that a location is made from, and the three ways in
which one of them can fail.

## Main definitions

* `Query` — the questions.
* `QueryError` — why a question was not answered.
* `QueryError.ofStatus` — how a status of the tool interface is read.
-/

namespace ClosureSpan

/-- A question about a class or about one of its methods. -/
inductive Query where
  /-- The methods that a class declares. -/
  | methods
  /-- The modifier bits of a method. -/
  | modifiers
  /-- The name of a method. -/
  | name
  /-- The local variable table of a method. -/
  | locals
  /-- The line table of a method. -/
  | lines
  /-- The source file of a class. -/
  | sourceFile
  deriving Repr, DecidableEq

/-- The function of the tool interface that answers the question. -/
def Query.function : Query → String
  | methods => "GetClassMethods"
  | modifiers => "GetMethodModifiers"
  | name => "GetMethodName"
  | locals => "GetLocalVariableTable"
  | lines => "GetLineNumberTable"
  | sourceFile => "GetSourceFileName"

/-- Why a question was not answered. -/
inductive QueryError where
  /-- The machine refused, with this status. -/
  | failed (query : Query) (status : Status)
  /-- The class holds no such information. -/
  | absent (query : Query)
  /-- There is no such class or method. -/
  | invalidHandle (query : Query)
  deriving Repr, DecidableEq

namespace QueryError

/-- The question that was not answered. -/
def query : QueryError → Query
  | failed query _ => query
  | absent query => query
  | invalidHandle query => query

/-- The text of the error. -/
def message : QueryError → String
  | failed query status => query.function ++ " failed: " ++ Status.text status
  | absent query =>
    query.function ++ ": information not present (compiled without debug info?)"
  | invalidHandle query => query.function ++ ": invalid class or method handle"

/-- How a status other than success is read. -/
def ofStatus (query : Query) (status : Status) : QueryError :=
  if status = Status.absentInformation then absent query
  else if status = Status.invalidClass ∨ status = Status.invalidMethod then invalidHandle query
  else failed query status

end QueryError
end ClosureSpan
