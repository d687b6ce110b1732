import ClosureSpan.Session.Resolver

/-!
# Scripts

A script is a list of steps that a program takes with one machine and one set of long-lived objects:
an environment of its own, a binder of its own, and a resolver.  Between steps the machine may
change all of its answers.

## Main definitions

* `Step`, `Answer` — what can be done, and what it gives.
* `Session` — the long-lived objects.
* `Session.run` — takes a step; `Session.perform` also gathers the calls and events of the step.
* `Session.runAll` — takes all steps of a script.
-/

namespace ClosureSpan

/-- In which form a question that failed is answered. -/
inductive Failure where
  /-- As the status of the tool interface. -/
  | status
  /-- As the error of the question. -/
  | query
  deriving Repr, DecidableEq

/-- What a program does with a machine. -/
inductive Step where
  /-- The machine changes its answers, and perhaps its pending exception. -/
  | change (vm : Vm) (pending : Option Bool)
  /-- Settles the environment of the session. -/
  | acquire (reachable : Bool)
  /-- Looks at the environment of the session. -/
  | environment
  /-- Negotiates without keeping the outcome. -/
  | negotiate (reachable : Bool)
  /-- Opens a tool environment. -/
  | openEnvironment
  /-- Asks which capabilities can be asked for. -/
  | potentialCapabilities
  /-- Asks for capabilities. -/
  | addCapabilities (wanted : CapabilitySet)
  /-- Asks which capabilities were granted. -/
  | capabilities
  /-- Asks about a class or a method. -/
  | ask (failure : Failure) (query : Query) (subject : Handle)
  /-- Asks for the name of a status. -/
  | errorName (status : Status)
  /-- Selects the entry method of a class. -/
  | select (owner : Handle) (entry : String)
  /-- Locates a class. -/
  | resolve (owner : Handle) (entry : String)
  /-- Settles the binder of the session. -/
  | bind
  /-- Looks at the binder of the session. -/
  | binder
  /-- Settles the binder and makes a result object. -/
  | construct (location : Location)
  /-- Makes the result object for a class with the resolver of the session. -/
  | resolveClass (owner : Handle)
  /-- Looks at the resolver of the session. -/
  | resolver
  /-- Asks whether the machine can be reached. -/
  | javaVm
  /-- Looks a class up. -/
  | findClass (name : String)
  /-- Looks a method up. -/
  | methodId (owner : Handle) (name signature : String)
  /-- Makes a string. -/
  | newString (text : String)
  /-- Makes a global reference. -/
  | newGlobalRef (object : Handle)
  /-- Drops a local reference. -/
  | deleteLocalRef (object : Handle)
  /-- Asks whether an exception is pending. -/
  | exceptionCheck
  /-- Drops the pending exception. -/
  | exceptionClear
  /-- Drops the pending exception if there is one. -/
  | clearPendingException
  /-- Holds a local reference, and either drops it or hands it on. -/
  | localRef (object : Handle) (handOn : Bool)

/-- What a step gives. -/
inductive Answer where
  /-- Nothing. -/
  | done
  /-- A truth value. -/
  | flag (value : Bool)
  /-- The status of a function that failed. -/
  | status (status : Status)
  /-- The result of opening an environment that failed. -/
  | result (code : Int)
  /-- A set of capabilities. -/
  | capabilities (set : CapabilitySet)
  /-- The methods of a class. -/
  | methods (methods : List Handle)
  /-- The modifier bits of a method. -/
  | modifiers (value : Int)
  /-- A text of the machine. -/
  | text (bytes : Bytes)
  /-- A local variable table. -/
  | locals (rows : List LocalRow)
  /-- A line table. -/
  | lines (rows : List LineRow)
  /-- The name of a status. -/
  | errorName (name : String)
  /-- The entry method of a class, if it has one. -/
  | selection (selection : Option (Selection Handle))
  /-- The location of a class. -/
  | location (location : Location)
  /-- A question was not answered. -/
  | queryError (error : QueryError)
  /-- A class could not be located. -/
  | resolveError (error : ResolveError)
  /-- A handle, unless it is null. -/
  | handle (handle : Option Handle)
  /-- There is no result class. -/
  | unbound
  /-- An environment that may be settled. -/
  | environment (environment : Latch Environment)
  /-- A binder. -/
  | binder (binder : Binder)
  /-- A resolver. -/
  | resolver (resolver : Resolver)
  deriving DecidableEq

/-- The long-lived objects of a script. -/
structure Session where
  /-- An environment. -/
  environment : Latch Environment := .fresh
  /-- A binder. -/
  binder : Binder
  /-- A resolver. -/
  resolver : Resolver
  deriving Repr, DecidableEq

/-- What is done with a session and its machine. -/
abbrev SessionM := StateT Session HostM

namespace Session

/-- A session in which nothing has been done. -/
def ofOptions (options : Options) : Session where
  binder := { className := options.resultClass }
  resolver := Resolver.ofOptions options

/-! ### Answers -/

/-- The answer of a computation that may fail. -/
def answerOf {ε α : Type} (failed : ε → Answer) (answered : α → Answer)
    (computation : ExceptT ε HostM α) : HostM Answer := do
  match ← computation.run with
  | .ok value => pure (answered value)
  | .error error => pure (failed error)

/-- The answer of a question, whose buffers are given back before the step ends. -/
def ask {α : Type} (failure : Failure) (query : Query) (answered : α → Answer)
    (question : ToolM (Held HostM α)) : HostM Answer :=
  let value := Held.use question pure
  match failure with
  | .status => answerOf .status answered value
  | .query => answerOf .queryError answered (Tool.asked query value)

/-- The answer of one of the six questions. -/
def answerQuery (failure : Failure) (query : Query) (subject : Handle) : HostM Answer :=
  match query with
  | .methods => ask failure query .methods (Tool.methods subject)
  | .modifiers => ask failure query .modifiers (Held.owned <$> Tool.modifiers subject)
  | .name => ask failure query .text (Tool.name subject)
  | .locals =>
    ask failure query (fun rows => .locals (rows.map VariableEntry.row)) (Tool.locals subject)
  | .lines => ask failure query .lines (Tool.lines subject)
  | .sourceFile => ask failure query .text (Tool.sourceFile subject)

/-! ### Steps -/

/-- Takes a step. -/
def run : Step → SessionM Answer
  | .change vm pending => do
    modifyThe Host fun host => { host with vm, pending := pending.getD host.pending }
    pure .done
  | .acquire reachable => do
    let session ← get
    let environment ← session.environment.settle (negotiate reachable)
    set { session with environment }
    pure (if environment.get?.isSome then .flag true else .done)
  | .environment => do pure (.environment (← get).environment)
  | .negotiate reachable => do pure (.flag (← negotiate reachable).isSome)
  | .openEnvironment => answerOf .result (fun _ => .flag true) Tool.openEnvironment
  | .potentialCapabilities => answerOf .status .capabilities Tool.potentialCapabilities
  | .addCapabilities wanted =>
    answerOf .status (fun _ => .flag true) (Tool.addCapabilities wanted)
  | .capabilities => answerOf .status .capabilities Tool.capabilities
  | .ask failure query subject => answerQuery failure query subject
  | .errorName status => do pure (.errorName (← Tool.errorName status))
  | .select owner entry =>
    answerOf .queryError .selection (Tool.introspector.select entry owner)
  | .resolve owner entry =>
    answerOf .resolveError .location (Tool.introspector.resolve entry owner)
  | .bind => do
    let session ← get
    let binder ← session.binder.bind
    set { session with binder }
    pure (.handle (binder.binding.get?.map Binding.owner))
  | .binder => do pure (.binder (← get).binder)
  | .construct location => do
    let session ← get
    let binder ← session.binder.bind
    set { session with binder }
    match binder.binding.get? with
    | none => pure .unbound
    | some binding => pure (.handle (← binding.construct location))
  | .resolveClass owner => do
    let session ← get
    let (outcome, resolver) ← session.resolver.resolveClass owner
    set { session with resolver }
    match outcome with
    | .ok object => pure (.handle (some object))
    | .error error => pure (.resolveError error)
  | .resolver => do pure (.resolver (← get).resolver)
  | .javaVm => do pure (.flag (← Native.javaVm))
  | .findClass name => do pure (.handle (← Native.findClass name))
  | .methodId owner name signature => do
    pure (.handle (← Native.methodId owner name signature))
  | .newString text => do pure (.handle (← Native.newString text))
  | .newGlobalRef object => do pure (.handle (← Native.newGlobalRef object))
  | .deleteLocalRef object => do
    Native.deleteLocalRef object
    pure .done
  | .exceptionCheck => do pure (.flag (← Native.exceptionCheck))
  | .exceptionClear => do
    Native.exceptionClear
    pure .done
  | .clearPendingException => do pure (.flag (← Native.clearPendingException))
  | .localRef object handOn => do
    if !handOn then Native.dropLocalRef object
    pure (.handle object.nonNull?)

/-- Takes all steps of a script. -/
def runAll (steps : List Step) : SessionM (List Answer) := steps.mapM run

end Session

/-! ### What a step leaves behind -/

/-- The answer of a step, with the calls it made and the events it told. -/
structure Record (α : Type) where
  /-- The answer. -/
  answer : α
  /-- The calls, in order. -/
  calls : List Call
  /-- The events, in order. -/
  events : List Event

/-- Runs a step with an empty journal and gathers what is then in it. -/
def Host.recorded {σ α : Type} (step : StateT σ HostM α) : StateT σ HostM (Record α) := do
  modifyThe Host fun host => { host with journal := [], events := [] }
  let answer ← step
  let host ← getThe Host
  pure ⟨answer, host.calls, host.told⟩

end ClosureSpan
