import ClosureSpan.Proofs.Agent.Settling
import ClosureSpan.Proofs.Session.Once

/-!
# An agent is configured once

The options of an agent come from the first start hook that is given acceptable ones, unless a class
is resolved before: then they are the defaults.  Either way they stay as they are, and the one
resolver that is made from them answers for all classes.

## Main definitions

* `SettledBy steps options` — the first step that settles any options settles these.
* `Agent.Awaits` — these options are settled, or they will be.
* `Resolver.GoesBy` — a resolver has the names of these options.
* `ConfiguredOnce` — what is said of the life of an agent as a whole.

## Main results

* `Agent.exists_visits` — **one resolver answers for all classes.**
* `Agent.forall_mem_turns` — **what the turns keep holds along the run.**
* `Agent.pairwise_options` — **options are settled once.**
* `Agent.is_configured_once` — **an agent is configured once, whatever happens to it.**
-/

namespace ClosureSpan

/-! ### The first that settles -/

/-- The first of the steps that settles any options settles these. -/
def SettledBy (steps : List AgentStep) (options : Options) : Prop :=
  ∃ before step later, steps = before ++ step :: later ∧
    (∀ earlier ∈ before, ∀ other, ¬ earlier.Settles other) ∧ step.Settles options

theorem settledBy_cons {step : AgentStep} {steps : List AgentStep} {options : Options} :
    SettledBy (step :: steps) options ↔
      step.Settles options ∨ (∀ other, ¬ step.Settles other) ∧ SettledBy steps options := by
  constructor
  · rintro ⟨before, first, later, hsteps, hbefore, hfirst⟩
    cases before with
    | nil =>
      obtain ⟨rfl, -⟩ := List.cons.inj hsteps
      exact .inl hfirst
    | cons head before =>
      obtain ⟨rfl, rfl⟩ := List.cons.inj hsteps
      obtain ⟨hhead, hbefore⟩ := List.forall_mem_cons.mp hbefore
      exact .inr ⟨hhead, before, first, later, rfl, hbefore, hfirst⟩
  · rintro (hstep | ⟨hstep, before, first, later, rfl, hbefore, hfirst⟩)
    · exact ⟨[], step, steps, rfl, nofun, hstep⟩
    · exact ⟨step :: before, first, later, rfl, List.forall_mem_cons.mpr ⟨hstep, hbefore⟩, hfirst⟩

/-- If any step settles options, one is the first. -/
theorem exists_settledBy {steps : List AgentStep} {step : AgentStep} {options : Options}
    (hmem : step ∈ steps) (h : step.Settles options) : ∃ first, SettledBy steps first := by
  induction steps with
  | nil => cases hmem
  | cons head steps ih =>
    by_cases hhead : ∃ other, head.Settles other
    · obtain ⟨other, hother⟩ := hhead
      exact ⟨other, settledBy_cons.mpr (.inl hother)⟩
    · have hnone := not_exists.mp hhead
      rcases List.mem_cons.mp hmem with rfl | hmem
      · exact absurd h (hnone options)
      · obtain ⟨first, hfirst⟩ := ih hmem
        exact ⟨first, settledBy_cons.mpr (.inr ⟨hnone, hfirst⟩)⟩

namespace Agent

/-! ### Along a run -/

variable {agent : Agent} {machine : Host} {steps : List AgentStep} {options : Options}

/-- The resolver, if it is to be made from these options. -/
def resolverFrom (agent : Agent) (options : Options) : Resolver :=
  agent.resolver.getD (.ofOptions options)

/-- These options are settled, or they are the first to be settled. -/
def Awaits (agent : Agent) (steps : List AgentStep) (options : Options) : Prop :=
  agent.options = some options ∨ agent.options = none ∧ SettledBy steps options

/-- After a turn the same options are settled or awaited. -/
theorem Awaits.after {turn : AgentTurn} (h : turn.agent.Awaits (turn.step :: steps) options)
    (hcourse : turn.Course) : turn.after.Awaits steps options := by
  rcases h with hoptions | ⟨hnone, hsettled⟩
  · exact .inl (hcourse.options_kept hoptions)
  · rcases settledBy_cons.mp hsettled with hstep | ⟨hstep, hlater⟩
    · have hafter := hcourse.after_options hstep
      rw [hnone] at hafter
      exact .inl hafter
    · have hafter := (Prod.mk.inj (hcourse.after_settled hstep)).1
      exact .inr ⟨hafter.trans hnone, hlater⟩

/-- If a class is resolved, its resolver is made from them. -/
theorem Awaits.resolver_eq {turn : AgentTurn} {visit : Visit}
    (h : turn.agent.Awaits (turn.step :: steps) options) (hvisit : turn.visit? = some visit) :
    visit.resolver = turn.agent.resolverFrom options := by
  have hdefault : turn.step.Settles {} := AgentTurn.settles_of_visit?_eq_some hvisit
  obtain ⟨owner, -, -, rfl⟩ := AgentTurn.exists_of_visit?_eq_some hvisit
  change turn.agent.resolver.getD (.ofOptions (turn.agent.options.getD {})) = _
  rcases h with hoptions | ⟨hnone, hsettled⟩
  · rw [hoptions]
    rfl
  · rw [hnone]
    rcases settledBy_cons.mp hsettled with hstep | ⟨hstep, -⟩
    · rw [hstep.unique hdefault]
      rfl
    · exact absurd hdefault (hstep {})

/-- The resolver that is to be made is the same after a turn, but for what a visit has settled. -/
theorem resolverFrom_after {turn : AgentTurn} (hcourse : turn.Course) :
    turn.after.resolverFrom options =
      (turn.visit?.map Visit.after).getD (turn.agent.resolverFrom options) := by
  rw [resolverFrom, hcourse.after_resolver]
  cases turn.visit? with
  | none => rfl
  | some visit => rfl

/-- **One resolver answers for all classes**, and it is made from the options that are settled. -/
theorem exists_visits (hsteps : ∀ step ∈ steps, step.InProcess) (hagent : agent.Consistent)
    (h : agent.Awaits steps options) : ∃ occasions,
      (turns agent machine steps).filterMap AgentTurn.visit? =
        (agent.resolverFrom options).visits occasions := by
  induction steps generalizing agent machine with
  | nil => exact ⟨[], rfl⟩
  | cons step steps ih =>
    obtain ⟨hstep, hsteps⟩ := List.forall_mem_cons.mp hsteps
    let turn : AgentTurn := ⟨agent, machine, step⟩
    have hturn : turn.agent.Awaits (turn.step :: steps) options := h
    have hcourse : turn.Course := AgentTurn.course hstep hagent
    have hlater : ∃ occasions, (turns turn.after turn.left steps).filterMap AgentTurn.visit? =
        (turn.after.resolverFrom options).visits occasions :=
      ih hsteps (hcourse.consistent_after hagent) (hturn.after hcourse)
    obtain ⟨occasions, hrest⟩ := hlater
    rw [resolverFrom_after hcourse] at hrest
    rw [turns_cons]
    cases hvisit : turn.visit? with
    | none =>
      rw [hvisit] at hrest
      exact ⟨occasions, (List.filterMap_cons_none hvisit).trans hrest⟩
    | some visit =>
      rw [hvisit] at hrest
      refine ⟨(visit.machine, visit.owner) :: occasions, ?_⟩
      rw [List.filterMap_cons_some hvisit, hrest, Resolver.visits,
        ← hturn.resolver_eq hvisit]
      rfl

/-- **What the turns keep holds along the run.**  What is kept may depend on the steps that are
still to come. -/
theorem forall_mem_turns (Kept : Agent → List AgentStep → Prop) {Holds : AgentTurn → Prop}
    (hturn : ∀ (turn : AgentTurn) later, turn.Course → Kept turn.agent (turn.step :: later) →
      Holds turn ∧ Kept turn.after later)
    (hsteps : ∀ step ∈ steps, step.InProcess) (hagent : agent.Consistent)
    (h : Kept agent steps) : ∀ turn ∈ turns agent machine steps, Holds turn := by
  induction steps generalizing agent machine with
  | nil => exact List.forall_mem_nil _
  | cons step steps ih =>
    obtain ⟨hstep, hsteps⟩ := List.forall_mem_cons.mp hsteps
    let turn : AgentTurn := ⟨agent, machine, step⟩
    have hcourse : turn.Course := AgentTurn.course hstep hagent
    obtain ⟨hholds, hkept⟩ := hturn turn steps hcourse h
    rw [turns_cons]
    exact List.forall_mem_cons.mpr ⟨hholds, ih hsteps (hcourse.consistent_after hagent) hkept⟩

theorem course_of_mem (hsteps : ∀ step ∈ steps, step.InProcess) (hagent : agent.Consistent) :
    ∀ turn ∈ turns agent machine steps, turn.Course :=
  forall_mem_turns (fun _ _ => True) (fun _ _ hcourse _ => ⟨hcourse, trivial⟩) hsteps hagent trivial

/-- If no step settles options, no turn does. -/
theorem not_settles_of_mem (hsteps : ∀ step ∈ steps, step.InProcess) (hagent : agent.Consistent)
    (hnone : ∀ step ∈ steps, ∀ other, ¬ step.Settles other) :
    ∀ turn ∈ turns agent machine steps, ∀ other, ¬ turn.step.Settles other :=
  forall_mem_turns (fun _ later => ∀ step ∈ later, ∀ other, ¬ step.Settles other)
    (fun _ _ _ hlater => List.forall_mem_cons.mp hlater) hsteps hagent hnone

/-- Options that are settled are settled after every turn. -/
theorem options_eq_of_settled (hsteps : ∀ step ∈ steps, step.InProcess)
    (hagent : agent.Consistent) (h : agent.options = some options) :
    ∀ turn ∈ turns agent machine steps, turn.after.options = some options := by
  refine forall_mem_turns (fun agent _ => agent.options = some options) ?_ hsteps hagent h
  intro turn _ hcourse hoptions
  have hafter := hcourse.options_kept hoptions
  exact ⟨hafter, hafter⟩

/-- No turn leaves other options than those that are settled or awaited. -/
theorem options_eq_of_awaits (hsteps : ∀ step ∈ steps, step.InProcess)
    (hagent : agent.Consistent) (h : agent.Awaits steps options) :
    ∀ turn ∈ turns agent machine steps,
      turn.after.options = none ∨ turn.after.options = some options := by
  refine forall_mem_turns (fun agent later => agent.Awaits later options) ?_ hsteps hagent h
  intro turn later hcourse hawaits
  have hafter : turn.after.Awaits later options := Awaits.after hawaits hcourse
  exact ⟨hafter.symm.imp_left And.left, hafter⟩

/-- **Options are settled once.** -/
theorem pairwise_options (hsteps : ∀ step ∈ steps, step.InProcess) (hagent : agent.Consistent) :
    (turns agent machine steps).Pairwise fun earlier later =>
      ∀ options, earlier.after.options = some options → later.after.options = some options := by
  induction steps generalizing agent machine with
  | nil => exact .nil
  | cons step steps ih =>
    obtain ⟨hstep, hsteps⟩ := List.forall_mem_cons.mp hsteps
    have hcourse : (AgentTurn.mk agent machine step).Course := AgentTurn.course hstep hagent
    have hafter := hcourse.consistent_after hagent
    rw [turns_cons]
    refine List.pairwise_cons.mpr ⟨fun later hlater options hoptions => ?_, ih hsteps hafter⟩
    exact options_eq_of_settled hsteps hafter hoptions later hlater

end Agent

/-! ### The names that a resolver goes by -/

/-- The resolver looks the result class and the entry method of these options up. -/
def Resolver.GoesBy (resolver : Resolver) (options : Options) : Prop :=
  resolver.binder.className = options.resultClass ∧ resolver.entryMethod = options.entryMethod

/-- No visit changes the names. -/
theorem Visit.goesBy_after {visit : Visit} {options : Options} (h : visit.resolver.GoesBy options) :
    visit.after.GoesBy options := by
  unfold after
  cases visit.course with
  | refused _ hrun =>
    rw [hrun]
    exact h
  | unbound _ _ hrun =>
    rw [hrun]
    exact h
  | unlocated _ _ _ hrun =>
    rw [hrun]
    exact h
  | located _ _ _ hrun =>
    rw [hrun]
    exact h

theorem Resolver.goesBy_of_mem_visits {resolver : Resolver} {options : Options}
    (h : resolver.GoesBy options) (occasions : List (Host × Handle)) :
    ∀ visit ∈ resolver.visits occasions, visit.resolver.GoesBy options := by
  induction occasions generalizing resolver with
  | nil => exact List.forall_mem_nil _
  | cons occasion rest ih =>
    obtain ⟨machine, owner⟩ := occasion
    have hvisit : (Visit.mk resolver machine owner).after.GoesBy options := Visit.goesBy_after h
    rw [visits]
    exact List.forall_mem_cons.mpr ⟨h, ih hvisit⟩

/-! ### The life of an agent -/

/-- Everything about the options of an agent that takes these steps, and about the resolver that is
made from them. -/
structure ConfiguredOnce (agent : Agent) (machine : Host) (steps : List AgentStep) : Prop where
  /-- One resolver answers for all classes, and it is made from the options that are settled. -/
  resolves : ∀ options, SettledBy steps options → ∃ occasions,
    (agent.turns machine steps).filterMap AgentTurn.visit? =
      (Resolver.ofOptions options).visits occasions
  /-- All look the same result class and the same entry method up. -/
  names : ∀ options, SettledBy steps options → ∀ turn ∈ agent.turns machine steps,
    ∀ visit, turn.visit? = some visit → visit.resolver.GoesBy options
  /-- If no options are settled, no class was resolved. -/
  unsettled : (∀ options, ¬ SettledBy steps options) → ∀ turn ∈ agent.turns machine steps,
    turn.visit? = none ∧ turn.after.settled = turn.agent.settled
  /-- No other options are settled at any time. -/
  settled : ∀ options, SettledBy steps options → ∀ turn ∈ agent.turns machine steps,
    turn.after.options = none ∨ turn.after.options = some options
  /-- And what is settled does not change. -/
  fixed : (agent.turns machine steps).Pairwise fun earlier later =>
    ∀ options, earlier.after.options = some options → later.after.options = some options
  /-- A class is resolved by a visit of the resolver. -/
  visited : ∀ turn ∈ agent.turns machine steps, ∀ visit, turn.visit? = some visit →
    turn.Resolved visit
  /-- A start hook accepts what is acceptable, and settles it unless other options are settled. -/
  accepts : ∀ turn ∈ agent.turns machine steps, ∀ hook bytes options,
    turn.step = .start hook bytes → Acceptable bytes options →
    turn.answer = .code Agent.accepted ∧
      turn.after.settled = (turn.agent.options.or (some options), turn.agent.resolver)
  /-- It rejects what is not, and leaves the options and the resolver as they are. -/
  rejects : ∀ turn ∈ agent.turns machine steps, ∀ hook bytes,
    turn.step = .start hook bytes → (∀ options, ¬ Acceptable bytes options) →
    turn.answer = .code Agent.rejected ∧ turn.after.settled = turn.agent.settled
  /-- Only where a class is resolved the machine is called. -/
  quiet : ∀ turn ∈ agent.turns machine steps,
    (∀ owner, owner ≠ 0 → turn.step ≠ .resolve true owner) → turn.calls = []
  /-- Without an environment or without a class nothing happens at all. -/
  null : ∀ turn ∈ agent.turns machine steps, ∀ environment owner,
    turn.step = .resolve environment owner → environment = false ∨ owner = 0 →
    turn.answer = .object none ∧ turn.after = turn.agent ∧ turn.left = turn.start

namespace Agent

/-- **An agent is configured once, whatever happens to it.** -/
theorem is_configured_once (agent : Agent) (hagent : agent.settled = (none, none)) (machine : Host)
    (steps : List AgentStep) (hsteps : ∀ step ∈ steps, step.InProcess) :
    ConfiguredOnce agent machine steps := by
  obtain ⟨hoptions, hresolver⟩ := Prod.mk.inj hagent
  have hconsistent : agent.Consistent := fun _ => hresolver
  have hcourse : ∀ turn ∈ turns agent machine steps, turn.Course :=
    course_of_mem hsteps hconsistent
  have hresolves : ∀ options, SettledBy steps options → ∃ occasions,
      (turns agent machine steps).filterMap AgentTurn.visit? =
        (Resolver.ofOptions options).visits occasions := by
    intro options hsettled
    have hmade : agent.resolverFrom options = .ofOptions options := by
      rw [resolverFrom, hresolver]
      rfl
    rw [← hmade]
    exact exists_visits hsteps hconsistent (.inr ⟨hoptions, hsettled⟩)
  constructor
  case resolves => exact hresolves
  case names =>
    intro options hsettled turn hturn visit hvisit
    obtain ⟨occasions, hvisits⟩ := hresolves options hsettled
    have hmem : visit ∈ (turns agent machine steps).filterMap AgentTurn.visit? :=
      List.mem_filterMap.mpr ⟨turn, hturn, hvisit⟩
    rw [hvisits] at hmem
    exact Resolver.goesBy_of_mem_visits ⟨rfl, rfl⟩ occasions visit hmem
  case unsettled =>
    intro hnone turn hturn
    have hstep : ∀ options, ¬ turn.step.Settles options := by
      refine not_settles_of_mem hsteps hconsistent ?_ turn hturn
      intro step hmem options hsettles
      obtain ⟨first, hfirst⟩ := exists_settledBy hmem hsettles
      exact hnone first hfirst
    refine ⟨?_, (hcourse turn hturn).after_settled hstep⟩
    cases hvisit : turn.visit? with
    | none => rfl
    | some visit => exact absurd (AgentTurn.settles_of_visit?_eq_some hvisit) (hstep {})
  case settled =>
    intro options hsettled
    exact options_eq_of_awaits hsteps hconsistent (.inr ⟨hoptions, hsettled⟩)
  case fixed => exact pairwise_options hsteps hconsistent
  case visited =>
    intro turn hturn visit hvisit
    exact (hcourse turn hturn).resolved_of_visit? hvisit
  case accepts =>
    intro turn hturn hook bytes options hstep hacceptable
    rcases (hcourse turn hturn).of_start hstep with ⟨other, hother, hleft⟩ | ⟨hnone, -⟩
    · obtain rfl := hother.unique hacceptable
      exact hleft
    · exact absurd hacceptable (hnone options)
  case rejects =>
    intro turn hturn hook bytes hstep hnone
    rcases (hcourse turn hturn).of_start hstep with ⟨options, hoptions, -⟩ | ⟨-, hleft⟩
    · exact absurd hoptions (hnone options)
    · exact hleft
  case quiet =>
    intro turn hturn hother
    refine (hcourse turn hturn).calls_eq_nil ?_
    cases hvisit : turn.visit? with
    | none => rfl
    | some visit =>
      obtain ⟨owner, howner, hstep, -⟩ := AgentTurn.exists_of_visit?_eq_some hvisit
      exact absurd hstep (hother owner howner)
  case null =>
    intro turn _ environment owner hstep hnull
    have hrun := AgentTurn.run_of_null hstep hnull
    rw [AgentTurn.answer, AgentTurn.after, AgentTurn.left, hrun]
    exact ⟨rfl, rfl, rfl⟩

/-- The first options are no text, the next are settled, and the last come too late. -/
def attachedThrice : List AgentStep := [
  .start .attach (some [0xFF]), .resolve false 7,
  .start .attach (some (utf8 "entry_method=run")), .resolve true 7,
  .start .load (some (utf8 "entry_method=invoke")), .resolve true 7]

theorem is_configured_once_attachedThrice :
    ConfiguredOnce fresh { vm := withoutStrings } attachedThrice ∧
      SettledBy attachedThrice { entryMethod := "run" } ∧
      (turns fresh { vm := withoutStrings } attachedThrice).map AgentTurn.answer =
        [.code rejected, .object none, .code accepted, .object none, .code accepted,
          .object none] := by
  have hsteps : ∀ step ∈ attachedThrice, step.InProcess := by
    simp [attachedThrice, AgentStep.InProcess]
  have hsettled : SettledBy attachedThrice { entryMethod := "run" } := by
    refine ⟨[.start .attach (some [0xFF]), .resolve false 7], _, _, rfl, ?_, .start ?_⟩
    · intro earlier hearlier other hother
      rcases List.mem_pair.mp hearlier with rfl | rfl
      · cases hother with
        | start h =>
          obtain ⟨text, htext, -⟩ := acceptable_iff.mp h
          have hnone : optionsText? (some [0xFF]) = none := by decide +kernel
          cases hnone.symm.trans htext
      · cases hother
    · exact .text rfl (by decide +kernel)
  exact ⟨is_configured_once fresh rfl _ _ hsteps, hsettled, by decide +kernel⟩

end Agent
end ClosureSpan
