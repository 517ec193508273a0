import TacoRank.Orchestrator.Ports

/-!
# The context of a recovery

`ContextBuilder.build_recovery` of `context/builder.py` with `failure_chain` of `memory/retrieval.py`: the
checks before a recovery context is built, and the number of the repair. The identity, the packing and the
persisting of the document are a parameter, which sees what they are made of.
-/

namespace TacoRank

/-- `visible_development_events`. -/
def visibleDevelopmentEvents (events : List Event) : List Event :=
  events.filter fun event => event.payload.evaluation.all (·.population ≠ .hiddenFinal)

/-- The events that `failure_chain` collects. -/
def EventType.inFailureChain : EventType → Bool
  | .patchChecked | .executionFinished | .adapterFailed | .outputChecked | .evaluationCompleted
  | .recoveryDecided => true
  | _ => false

/-- `failure_chain`, with its default limit. -/
def failureChain (events : List Event) (experimentId : String) : List Event :=
  let failures := events.filter fun event =>
    event.payload.experiment = some experimentId ∧ event.payload.type.inFailureChain = true
  failures.drop (failures.length - 12)

/-- `getattr(payload, "result", None) is not None`, on the events of a failure chain. -/
def EventType.hasResult : EventType → Bool
  | .recoveryDecided => false
  | type => type.inFailureChain

/-- `ContextBuildError`. -/
def contextBuildError (message : String) : RouterError :=
  .internal ⟨"ContextBuildError", message, {}, ""⟩

/-- What `_identity`, `_pack` and `_persist` make of the visible events, the node, the specification, the
latest failure and the remaining budget. -/
abbrev RecoveryWriter :=
  List Event → ExperimentNode → ExperimentSpec → Event → Nat → Except AdapterError ContextDocument

/-- `build_recovery`. -/
def buildRecovery (write : RecoveryWriter) (events : List Event) (experimentId : String) (remaining : Nat) :
    Except RouterError RecoveryContext := do
  let visible := visibleDevelopmentEvents events
  let state ← (project visible).mapError .python
  match state.experiments.get? experimentId with
  | none => throw (contextBuildError "unknown experiment")
  | some node =>
    match (failureChain visible experimentId).getLast? with
    | none => throw (contextBuildError "no failure evidence exists for recovery")
    | some failure =>
      match (eventsOf EventPayload.spec visible).find? fun found =>
        found.2.experimentId = experimentId with
      | none => throw (contextBuildError "recovery experiment specification is missing")
      | some (_, spec) =>
        if failure.payload.type.hasResult = false then
          throw (contextBuildError "latest recovery evidence has no typed result")
        let document ← (write visible node spec failure remaining).mapError .internal
        return { document with
          role := .recovery
          experimentId := some experimentId
          repairAttempt := node.repairCount + 1 }

end TacoRank
