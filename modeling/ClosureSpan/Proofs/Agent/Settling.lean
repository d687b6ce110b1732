import ClosureSpan.Proofs.Agent.Exceptions
import ClosureSpan.Proofs.Session.Visits

/-!
# What the hooks settle

The hooks of an agent have little in common but what they settle: its options and its resolver.  A
start hook settles the options that it is given, if they are acceptable; where a class is resolved,
the defaults are settled if nothing else was, and the resolver with them.  Everything else leaves
both as they are.

A hook is a step in the life of the agent, and a turn is a step with what it finds.  A turn goes in
one of four ways, and whatever is said of whole runs is read off these.

## Main definitions

* `Acceptable bytes options` — what a start hook may be given, and the options that it stands for.
* `AgentTurn`, `Agent.turns` — the steps of an agent with what they find.
* `AgentStep.Settles` — the step settles options.
* `AgentTurn.Course` — how a turn goes.

## Main results

* `acceptable_iff` — the options that are acceptable are those that are parsed.
* `Agent.start_settles` — **a start hook accepts exactly what is acceptable.**
* `AgentTurn.resolved` — **a class is resolved by a visit of the resolver in use.**
* `AgentTurn.course` — **a turn goes in one of four ways.**
-/

namespace ClosureSpan

variable {α β : Type}

/-! ### Acceptable options -/

/-- What a start hook is given is acceptable, and stands for these options. -/
inductive Acceptable : Option Bytes → Options → Prop
  /-- Nothing is given, so the defaults are meant. -/
  | absent : Acceptable none {}
  /-- A text in standard UTF-8 that is parsed. -/
  | text {bytes : Bytes} {text : String} {options : Options} (hbytes : utf8 text = bytes)
    (hparse : Options.parse text = .ok options) : Acceptable (some bytes) options

/-- The texts in standard UTF-8 are read. -/
theorem fromUTF8?_eq_some_iff {bytes : Bytes} {text : String} :
    String.fromUTF8? ⟨bytes.toArray⟩ = some text ↔ utf8 text = bytes := by
  have hdata : text.toByteArray.data = (utf8 text).toArray := by
    rw [← String.utf8Encode_toList]
    exact List.data_toByteArray
  have hsame : text.toByteArray = ⟨bytes.toArray⟩ ↔ utf8 text = bytes :=
    calc text.toByteArray = ⟨bytes.toArray⟩
      _ ↔ text.toByteArray.data = bytes.toArray := ByteArray.ext_iff
      _ ↔ (utf8 text).toArray = bytes.toArray := by rw [hdata]
      _ ↔ utf8 text = bytes := ⟨List.toArray_inj, congrArg List.toArray⟩
  rw [← hsame, String.fromUTF8?]
  constructor
  · intro h
    split at h
    next =>
      cases h
      rfl
    next => cases h
  · intro h
    rw [← h, dif_pos text.isValidUTF8]
    rfl

/-- The acceptable options are those that are parsed. -/
theorem acceptable_iff {bytes : Option Bytes} {options : Options} : Acceptable bytes options ↔
    ∃ text, Agent.optionsText? bytes = some text ∧ Options.parse text = .ok options := by
  cases bytes with
  | none =>
    constructor
    · rintro ⟨⟩
      exact ⟨"", rfl, rfl⟩
    · rintro ⟨text, htext, hparse⟩
      cases htext
      cases hparse
      exact .absent
  | some bytes =>
    constructor
    · rintro ⟨⟩
      next text hbytes hparse => exact ⟨text, fromUTF8?_eq_some_iff.mpr hbytes, hparse⟩
    · rintro ⟨text, htext, hparse⟩
      exact .text (fromUTF8?_eq_some_iff.mp htext) hparse

theorem Acceptable.unique {bytes : Option Bytes} {options options' : Options}
    (h : Acceptable bytes options) (h' : Acceptable bytes options') : options = options' := by
  obtain ⟨text, htext, hparse⟩ := acceptable_iff.mp h
  obtain ⟨text', htext', hparse'⟩ := acceptable_iff.mp h'
  obtain rfl := Option.some.inj (htext.symm.trans htext')
  exact Except.ok.inj (hparse.symm.trans hparse')

/-! ### Turns -/

/-- A step of an agent. -/
structure AgentTurn where
  /-- The agent, as the turn finds it. -/
  agent : Agent
  /-- The machine, as the turn finds it. -/
  machine : Host
  /-- The step. -/
  step : AgentStep

namespace AgentTurn

variable (turn : AgentTurn)

/-- The machine, where only the calls and the events of this turn will be entered. -/
def start : Host := { turn.machine with journal := [], events := [] }

/-- The turn: its answer, the agent and the machine that it leaves. -/
def run : (AgentAnswer × Agent) × Host := ((Agent.run turn.step).run turn.agent).run turn.start

/-- The answer of the step. -/
def answer : AgentAnswer := turn.run.1.1

/-- The agent after the turn. -/
def after : Agent := turn.run.1.2

/-- The machine after the turn. -/
def left : Host := turn.run.2

/-- The calls of the turn, in order. -/
def calls : List Call := turn.left.calls

/-- What the turn leaves behind. -/
def record : Record AgentAnswer := ⟨turn.answer, turn.calls, turn.left.told⟩

/-- The visit of the resolver in use, if a class is resolved. -/
def visit? : Option Visit :=
  match turn.step with
  | .resolve true owner =>
    if owner = 0 then none else some ⟨turn.agent.resolverInUse, turn.start, owner⟩
  | _ => none

end AgentTurn

namespace Agent

/-- The turns of a script.  Each finds the agent and the machine as the turn before has left
them. -/
def turns (agent : Agent) (machine : Host) : List AgentStep → List AgentTurn
  | [] => []
  | step :: steps =>
    let turn : AgentTurn := ⟨agent, machine, step⟩
    turn :: turns turn.after turn.left steps

theorem turns_cons (agent : Agent) (machine : Host) (step : AgentStep) (steps : List AgentStep) :
    turns agent machine (step :: steps) =
      ⟨agent, machine, step⟩ :: turns (AgentTurn.mk agent machine step).after
        (AgentTurn.mk agent machine step).left steps := rfl

/-- Running a script gathers what its turns leave. -/
theorem run_recorded (agent : Agent) (machine : Host) (steps : List AgentStep) :
    (((steps.mapM fun step => Host.recorded (run step)).run agent).run machine).1.1 =
      (turns agent machine steps).map AgentTurn.record := by
  induction steps generalizing agent machine with
  | nil => rfl
  | cons step steps ih =>
    rw [List.mapM_cons, turns_cons, List.map_cons]
    let turn : AgentTurn := ⟨agent, machine, step⟩
    exact congrArg (List.cons turn.record) (ih turn.after turn.left)

end Agent

/-! ### Steps that settle options -/

/-- What happens in a process: a hook is called, or the machine changes. -/
def AgentStep.InProcess : AgentStep → Prop
  | .load | .start _ _ | .unload | .resolve _ _ | .script (.change _ _) => True
  | _ => False

/-- The step settles these options, if none are settled. -/
inductive AgentStep.Settles : AgentStep → Options → Prop
  /-- A start hook settles the options that it is given, if they are acceptable. -/
  | start {hook : StartHook} {bytes : Option Bytes} {options : Options}
    (h : Acceptable bytes options) : Settles (.start hook bytes) options
  /-- Where a class is resolved, the defaults are settled. -/
  | resolve {owner : Handle} (h : owner ≠ 0) : Settles (.resolve true owner) {}

namespace Agent

/-! ### What the hooks leave -/

/-- What the agent has settled on. -/
def settled (agent : Agent) : Option Options × Option Resolver := (agent.options, agent.resolver)

/-- The computation makes no call, and `After` has of its result and the agent then. -/
def Leaves (agent : Agent) (x : AgentM α) (After : α → Agent → Prop) : Prop :=
  ∀ host, After ((x.run agent).run host).1.1 ((x.run agent).run host).1.2 ∧
    ((x.run agent).run host).2.journal = host.journal

namespace Leaves

variable {agent : Agent} {After : α → Agent → Prop}

theorem pure {a : α} (h : After a agent) : Leaves agent (pure a) After := fun _ => ⟨h, rfl⟩

theorem bind {x : AgentM α} {f : α → AgentM β} {Later : β → Agent → Prop}
    (h : Leaves agent x After) (hf : ∀ a after, After a after → Leaves after (f a) Later) :
    Leaves agent (x >>= f) Later := by
  intro host
  obtain ⟨hafter, hjournal⟩ := h host
  obtain ⟨hlater, hjournal'⟩ := hf _ _ hafter ((x.run agent).run host).2
  exact ⟨hlater, hjournal'.trans hjournal⟩

theorem mono {After' : α → Agent → Prop} {x : AgentM α} (h : Leaves agent x After)
    (hmono : ∀ a after, After a after → After' a after) : Leaves agent x After' :=
  fun host => ⟨hmono _ _ (h host).1, (h host).2⟩

/-- Telling an event calls nothing. -/
theorem report (event : Event) :
    Leaves agent (liftM (Host.report event)) fun _ after => after = agent := by
  intro host
  have hrun := Host.run_report event host
  exact ⟨rfl, congrArg (fun run => run.2.journal) hrun⟩

theorem report_bind (event : Event) {x : AgentM α} (h : Leaves agent x After) :
    Leaves agent (liftM (Host.report event) >>= fun _ => x) After := by
  refine bind (report event) ?_
  rintro _ _ rfl
  exact h

end Leaves

theorem listen_settles (agent : Agent) (directive : Option String) :
    Leaves agent (listen directive) fun _ after => after.settled = agent.settled := by
  obtain ⟨options, resolver, filtered, filterLanguage, surroundingFilter, session⟩ := agent
  cases filtered with
  | true => exact fun _ => ⟨rfl, rfl⟩
  | false => exact fun _ => ⟨rfl, rfl⟩

theorem install_settles (agent : Agent) (options : Options) :
    Leaves agent (install options) fun _ after =>
      after.settled = (agent.options.or (some options), agent.resolver) := by
  obtain ⟨installed, resolver, filtered, filterLanguage, surroundingFilter, session⟩ := agent
  cases installed with
  | none => exact fun _ => ⟨rfl, rfl⟩
  | some installed => exact fun _ => ⟨rfl, rfl⟩

theorem load_settles (agent : Agent) :
    Leaves agent load fun _ after => after.settled = agent.settled :=
  (agent.listen_settles none).bind fun _ _ hafter => Leaves.report_bind _ (Leaves.pure hafter)

theorem refuse_settles (agent : Agent) (hook : StartHook) (message : String) :
    Leaves agent (refuse hook message) fun code after =>
      code = rejected ∧ after.settled = agent.settled :=
  (agent.listen_settles none).bind fun _ _ hafter =>
    Leaves.report_bind _ (Leaves.pure ⟨rfl, hafter⟩)

/-- What a start hook answers, and what it leaves. -/
inductive Started (agent : Agent) (bytes : Option Bytes) : Int → Agent → Prop
  /-- Acceptable options are settled, unless others were settled before. -/
  | accepted {options : Options} {after : Agent} (h : Acceptable bytes options)
    (hafter : after.settled = (agent.options.or (some options), agent.resolver)) :
    Started agent bytes accepted after
  /-- What is not acceptable leaves nothing. -/
  | rejected {after : Agent} (h : ∀ options, ¬ Acceptable bytes options)
    (hafter : after.settled = agent.settled) : Started agent bytes rejected after

/-- **A start hook accepts exactly what is acceptable.** -/
theorem start_settles (agent : Agent) (hook : StartHook) (bytes : Option Bytes) :
    Leaves agent (start hook bytes) (Started agent bytes) := by
  have hrefuse : ∀ message, (∀ options, ¬ Acceptable bytes options) →
      Leaves agent (refuse hook message) (Started agent bytes) := by
    intro message hnone
    refine (agent.refuse_settles hook message).mono ?_
    rintro _ after ⟨rfl, hafter⟩
    exact .rejected hnone hafter
  unfold start
  split
  next htext =>
    refine hrefuse _ fun options hoptions => ?_
    obtain ⟨text, htext', -⟩ := acceptable_iff.mp hoptions
    rw [htext] at htext'
    cases htext'
  next text htext =>
    split
    next error hparse =>
      refine hrefuse _ fun options hoptions => ?_
      obtain ⟨text', htext', hparse'⟩ := acceptable_iff.mp hoptions
      rw [htext] at htext'
      cases htext'
      rw [hparse] at hparse'
      cases hparse'
    next options hparse =>
      have hoptions : Acceptable bytes options := acceptable_iff.mpr ⟨text, htext, hparse⟩
      refine (agent.listen_settles options.log).bind fun _ heard hheard => ?_
      refine (heard.install_settles options).bind fun installed after hafter => ?_
      obtain ⟨hoptions', hresolver⟩ := Prod.mk.inj hheard
      rw [hoptions', hresolver] at hafter
      have haccept : Leaves after (do
          Host.report (hookEvent .info "agent started" hook)
          Pure.pure accepted) (Started agent bytes) :=
        Leaves.report_bind _ (Leaves.pure (.accepted hoptions hafter))
      cases installed with
      | true => exact haccept
      | false => exact Leaves.report_bind _ haccept

/-! ### What a resolution leaves -/

/-- An agent without options has no resolver. -/
def Consistent (agent : Agent) : Prop := agent.options = none → agent.resolver = none

/-- The resolver in use is settled together with the options that it is made from. -/
theorem run_currentResolver_settled {agent : Agent} (h : agent.Consistent) (host : Host) :
    ∃ settled, (currentResolver.run agent).run host = ((agent.resolverInUse, settled), host) ∧
      settled.options = some (agent.options.getD {}) := by
  obtain ⟨options, resolver, filtered, filterLanguage, surroundingFilter, session⟩ := agent
  cases resolver with
  | none => exact ⟨_, rfl, rfl⟩
  | some resolver =>
    cases options with
    | none => cases h rfl
    | some options => exact ⟨_, rfl, rfl⟩

/-- The calls that look after the pending exception, if there is one. -/
def afterCare (host : Host) : List Call :=
  if host.pending && host.vm.trueByte ≠ 0 then [.exceptionCheck, .exceptionClear]
  else [.exceptionCheck]

/-- The machine is asked whether an exception is pending, and the answer decides what follows. -/
theorem run_clearPendingException (host : Host) :
    Native.clearPendingException.run host =
      StateT.run (do
        if host.pending && host.vm.trueByte ≠ 0 then Native.exceptionClear
        pure (host.pending && host.vm.trueByte ≠ 0)) (host.entered .exceptionCheck) := rfl

theorem calls_clearPendingException (host : Host) :
    (Native.clearPendingException.run host).2.calls = host.calls ++ afterCare host := by
  have hchecked : (host.entered .exceptionCheck).calls = host.calls ++ [.exceptionCheck] :=
    host.calls_entered .exceptionCheck
  have hcleared : (Native.exceptionClear.run (host.entered .exceptionCheck)).2.calls =
      (host.entered .exceptionCheck).calls ++ [.exceptionClear] :=
    (host.entered .exceptionCheck).calls_entered .exceptionClear
  rw [run_clearPendingException, afterCare]
  cases host.pending && host.vm.trueByte ≠ 0 with
  | false => exact hchecked
  | true =>
    rw [hchecked, List.append_assoc] at hcleared
    exact hcleared

/-- Once a class was visited the resolver is kept, and the pending exception is looked after. -/
theorem run_conclude (agent : Agent) (visit : Except ResolveError Handle × Resolver)
    (host : Host) :
    (((conclude visit).run agent).run host).1 =
        (visit.1.toOption, { agent with resolver := some visit.2 }) ∧
      (((conclude visit).run agent).run host).2.calls = host.calls ++ afterCare host := by
  obtain ⟨outcome, resolver⟩ := visit
  have hcare := calls_clearPendingException host
  cases outcome with
  | ok object => exact ⟨rfl, hcare⟩
  | error error =>
    have hreport := Host.run_report (failureEvent error) (Native.clearPendingException.run host).2
    exact ⟨rfl, (congrArg (fun run => run.2.calls) hreport).trans hcare⟩

end Agent

/-! ### How a turn goes -/

theorem AgentStep.Settles.unique {step : AgentStep} {options options' : Options}
    (h : step.Settles options) (h' : step.Settles options') : options = options' := by
  cases h with
  | resolve _ =>
    cases h'
    rfl
  | start h =>
    cases h' with
    | start h' => exact h.unique h'

namespace AgentTurn

/-- The class is resolved by the visit: its object is the answer, its calls are followed only by
those that look after the pending exception, and its resolver is kept. -/
structure Resolved (turn : AgentTurn) (visit : Visit) : Prop where
  /-- The answer. -/
  answer : turn.answer = .object visit.answer.toOption
  /-- The calls. -/
  calls : turn.calls = visit.calls ++ Agent.afterCare visit.run.2
  /-- The resolver is kept, and so are its options. -/
  after : turn.after.settled = (some (turn.agent.options.getD {}), some visit.after)

/-- How a turn goes. -/
inductive Course (turn : AgentTurn) : Prop
  /-- A class is resolved. -/
  | resolved {visit : Visit} (hvisit : turn.visit? = some visit) (h : turn.Resolved visit)
  /-- A start hook accepts its options. -/
  | accepted {hook : StartHook} {bytes : Option Bytes} {options : Options}
    (hstep : turn.step = .start hook bytes) (h : Acceptable bytes options)
    (hanswer : turn.answer = .code Agent.accepted) (hcalls : turn.calls = [])
    (hafter : turn.after.settled = (turn.agent.options.or (some options), turn.agent.resolver))
  /-- A start hook rejects its options. -/
  | rejected {hook : StartHook} {bytes : Option Bytes} (hstep : turn.step = .start hook bytes)
    (h : ∀ options, ¬ Acceptable bytes options) (hanswer : turn.answer = .code Agent.rejected)
    (hcalls : turn.calls = []) (hafter : turn.after.settled = turn.agent.settled)
  /-- Nothing is settled. -/
  | idle (hvisit : turn.visit? = none) (hstep : ∀ options, ¬ turn.step.Settles options)
    (hstart : ∀ hook bytes, turn.step ≠ .start hook bytes) (hcalls : turn.calls = [])
    (hafter : turn.after.settled = turn.agent.settled)

theorem exists_of_visit?_eq_some {turn : AgentTurn} {visit : Visit}
    (h : turn.visit? = some visit) : ∃ owner, owner ≠ 0 ∧ turn.step = .resolve true owner ∧
      visit = ⟨turn.agent.resolverInUse, turn.start, owner⟩ := by
  unfold visit? at h
  split at h
  next owner hstep =>
    split at h
    next => cases h
    next howner => exact ⟨owner, howner, hstep, (Option.some.inj h).symm⟩
  next => cases h

/-- Where a class is resolved, the defaults are settled. -/
theorem settles_of_visit?_eq_some {turn : AgentTurn} {visit : Visit}
    (h : turn.visit? = some visit) : turn.step.Settles {} := by
  obtain ⟨owner, howner, hstep, -⟩ := exists_of_visit?_eq_some h
  rw [hstep]
  exact .resolve howner

/-- **A class is resolved by a visit of the resolver in use.** -/
theorem resolved {agent : Agent} (h : agent.Consistent) (machine : Host) {owner : Handle}
    (howner : owner ≠ 0) {turn : AgentTurn} (hturn : turn = ⟨agent, machine, .resolve true owner⟩) :
    turn.Resolved ⟨agent.resolverInUse, turn.start, owner⟩ := by
  subst hturn
  let turn : AgentTurn := ⟨agent, machine, .resolve true owner⟩
  let visit : Visit := ⟨agent.resolverInUse, turn.start, owner⟩
  obtain ⟨settled, hsettled, hoptions⟩ := Agent.run_currentResolver_settled h turn.start
  have hresolve : ((Agent.resolve true owner).run agent).run turn.start =
      ((Agent.conclude visit.run.1).run settled).run visit.run.2 := by
    rw [Agent.resolve_eq_conclude_visit, if_neg (by simp [howner]), StateT.run_bind,
      StateT.run_bind, hsettled]
    rfl
  obtain ⟨hleft, hcalls⟩ := Agent.run_conclude settled visit.run.1 visit.run.2
  rw [← hresolve] at hleft hcalls
  exact {
    answer := congrArg (fun left : Option Handle × Agent => AgentAnswer.object left.1) hleft
    calls := hcalls
    after := by
      have hafter : turn.after = { settled with resolver := some visit.after } :=
        congrArg Prod.snd hleft
      rw [hafter, ← hoptions]
      rfl }

theorem calls_eq_nil {turn : AgentTurn} (h : turn.left.journal = []) : turn.calls = [] := by
  rw [calls, Host.calls, h]
  rfl

theorem Course.of_started {turn : AgentTurn} {hook : StartHook} {bytes : Option Bytes} {code : Int}
    (hstep : turn.step = .start hook bytes) (hanswer : turn.answer = .code code)
    (hcalls : turn.calls = []) (h : Agent.Started turn.agent bytes code turn.after) :
    turn.Course := by
  cases h with
  | accepted hoptions hafter => exact .accepted hstep hoptions hanswer hcalls hafter
  | rejected hnone hafter => exact .rejected hstep hnone hanswer hcalls hafter

/-- Without an environment or without a class nothing is done. -/
theorem run_of_null {turn : AgentTurn} {environment : Bool} {owner : Handle}
    (hstep : turn.step = .resolve environment owner) (hnull : environment = false ∨ owner = 0) :
    turn.run = ((.object none, turn.agent), turn.start) := by
  rw [run, hstep]
  rcases hnull with rfl | rfl
  · rfl
  · cases environment with
    | false => rfl
    | true => rfl

/-- **A turn goes in one of four ways.** -/
theorem course {turn : AgentTurn} (hstep : turn.step.InProcess) (h : turn.agent.Consistent) :
    turn.Course := by
  obtain ⟨agent, machine, step⟩ := turn
  let turn : AgentTurn := ⟨agent, machine, step⟩
  cases step with
  | script step =>
    cases step with
    | change vm pending => exact .idle rfl nofun nofun rfl rfl
    | _ => exact hstep.elim
  | load =>
    obtain ⟨hafter, hjournal⟩ := agent.load_settles turn.start
    exact .idle rfl nofun nofun (calls_eq_nil hjournal) hafter
  | start hook bytes =>
    obtain ⟨hstarted, hjournal⟩ := agent.start_settles hook bytes turn.start
    exact .of_started rfl rfl (calls_eq_nil hjournal) hstarted
  | unload =>
    have hunload : agent.Leaves Agent.unload fun _ after => after = agent := Agent.Leaves.report _
    obtain ⟨hafter, hjournal⟩ := hunload turn.start
    exact .idle rfl nofun nofun (calls_eq_nil hjournal) (congrArg Agent.settled hafter)
  | resolve environment owner =>
    by_cases hnull : environment = false ∨ owner = 0
    · have hrun : turn.run = ((.object none, agent), turn.start) := run_of_null rfl hnull
      have hvisit : turn.visit? = none := by
        rcases hnull with rfl | rfl
        · rfl
        · cases environment <;> rfl
      have hsettles : ∀ options, ¬ turn.step.Settles options := by
        intro options hsettles
        cases hsettles with
        | resolve howner => exact hnull.elim nofun howner
      refine .idle hvisit hsettles nofun (calls_eq_nil ?_) ?_
      · exact congrArg (fun run => run.2.journal) hrun
      · exact congrArg (fun run => run.1.2.settled) hrun
    · obtain ⟨henvironment, howner⟩ := not_or.mp hnull
      obtain rfl : environment = true := by simpa using henvironment
      have hvisit : turn.visit? = some ⟨agent.resolverInUse, turn.start, owner⟩ := if_neg howner
      exact .resolved hvisit (resolved h machine howner rfl)
  | _ => exact hstep.elim

namespace Course

variable {turn : AgentTurn}

/-- A step that settles options settles them, unless others were settled before. -/
theorem after_options (h : turn.Course) {options : Options}
    (hsettles : turn.step.Settles options) :
    turn.after.options = turn.agent.options.or (some options) := by
  cases h with
  | resolved hvisit hresolved =>
    obtain rfl := hsettles.unique (settles_of_visit?_eq_some hvisit)
    rw [(Prod.mk.inj hresolved.after).1]
    cases turn.agent.options with
    | none => rfl
    | some installed => rfl
  | accepted hstep hoptions _ _ hafter =>
    rw [hstep] at hsettles
    obtain rfl := hsettles.unique (.start hoptions)
    exact (Prod.mk.inj hafter).1
  | rejected hstep hnone _ _ _ =>
    rw [hstep] at hsettles
    cases hsettles with
    | start hoptions => exact absurd hoptions (hnone options)
  | idle _ hstep _ _ _ => exact absurd hsettles (hstep options)

/-- A step that settles nothing leaves everything as it is. -/
theorem after_settled (h : turn.Course) (hnone : ∀ options, ¬ turn.step.Settles options) :
    turn.after.settled = turn.agent.settled := by
  cases h with
  | resolved hvisit _ => exact absurd (settles_of_visit?_eq_some hvisit) (hnone {})
  | @accepted _ _ options hstep hoptions _ _ _ =>
    rw [hstep] at hnone
    exact absurd (.start hoptions) (hnone options)
  | rejected _ _ _ _ hafter => exact hafter
  | idle _ _ _ _ hafter => exact hafter

/-- The resolver is that of the visit, if there is one, and else it is as before. -/
theorem after_resolver (h : turn.Course) :
    turn.after.resolver = (turn.visit?.map Visit.after).or turn.agent.resolver := by
  cases h with
  | resolved hvisit hresolved =>
    rw [hvisit]
    exact (Prod.mk.inj hresolved.after).2
  | accepted hstep _ _ _ hafter =>
    rw [visit?, hstep]
    exact (Prod.mk.inj hafter).2
  | rejected hstep _ _ _ hafter =>
    rw [visit?, hstep]
    exact (Prod.mk.inj hafter).2
  | idle hvisit _ _ _ hafter =>
    rw [hvisit]
    exact (Prod.mk.inj hafter).2

/-- Options that are settled stay as they are. -/
theorem options_kept (h : turn.Course) {options : Options}
    (hoptions : turn.agent.options = some options) : turn.after.options = some options := by
  by_cases hsettles : ∃ other, turn.step.Settles other
  · obtain ⟨other, hother⟩ := hsettles
    rw [h.after_options hother, hoptions]
    rfl
  · rw [← hoptions]
    exact (Prod.mk.inj (h.after_settled (not_exists.mp hsettles))).1

/-- As long as no options are settled there is no resolver. -/
theorem consistent_after (h : turn.Course) (hagent : turn.agent.Consistent) :
    turn.after.Consistent := by
  intro hnone
  by_cases hsettles : ∃ other, turn.step.Settles other
  · obtain ⟨other, hother⟩ := hsettles
    rw [h.after_options hother] at hnone
    cases (Option.or_eq_none_iff.mp hnone).2
  · obtain ⟨hoptions, hresolver⟩ := Prod.mk.inj (h.after_settled (not_exists.mp hsettles))
    rw [hresolver]
    exact hagent (hoptions.symm.trans hnone)

theorem resolved_of_visit? (h : turn.Course) {visit : Visit} (hvisit : turn.visit? = some visit) :
    turn.Resolved visit := by
  obtain ⟨owner, -, hresolve, -⟩ := exists_of_visit?_eq_some hvisit
  cases h with
  | resolved hsame hresolved =>
    obtain rfl := Option.some.inj (hsame.symm.trans hvisit)
    exact hresolved
  | accepted hstep _ _ _ _ => cases hstep.symm.trans hresolve
  | rejected hstep _ _ _ _ => cases hstep.symm.trans hresolve
  | idle hnone _ _ _ _ => cases hnone.symm.trans hvisit

/-- Only where a class is resolved the machine is called. -/
theorem calls_eq_nil (h : turn.Course) (hnone : turn.visit? = none) : turn.calls = [] := by
  cases h with
  | resolved hvisit _ => cases hnone.symm.trans hvisit
  | accepted _ _ _ hcalls _ => exact hcalls
  | rejected _ _ _ hcalls _ => exact hcalls
  | idle _ _ _ hcalls _ => exact hcalls

/-- What a start hook is given is acceptable or not. -/
theorem of_start (h : turn.Course) {hook : StartHook} {bytes : Option Bytes}
    (hstart : turn.step = .start hook bytes) :
    (∃ options, Acceptable bytes options ∧ turn.answer = .code Agent.accepted ∧
      turn.after.settled = (turn.agent.options.or (some options), turn.agent.resolver)) ∨
    (∀ options, ¬ Acceptable bytes options) ∧ turn.answer = .code Agent.rejected ∧
      turn.after.settled = turn.agent.settled := by
  cases h with
  | resolved hvisit _ =>
    obtain ⟨owner, -, hresolve, -⟩ := exists_of_visit?_eq_some hvisit
    cases hstart.symm.trans hresolve
  | accepted hstep hoptions hanswer _ hafter =>
    cases hstep.symm.trans hstart
    exact .inl ⟨_, hoptions, hanswer, hafter⟩
  | rejected hstep hnone hanswer _ hafter =>
    cases hstep.symm.trans hstart
    exact .inr ⟨hnone, hanswer, hafter⟩
  | idle _ _ hother _ _ => exact absurd hstart (hother hook bytes)

end Course
end AgentTurn

end ClosureSpan
