import TacoRank.Orchestrator.StateMachine

/-!
# The event store

`EventStore.append` of `memory/event_store.py` on the event list that the ledger file stores: an
action is acknowledged once per idempotency key, and a new event is validated against the events
before it. The hash chain and the artifact verification of the store are outside the development.
-/

namespace TacoRank

/-- The arguments of `EventStore.append`; the key ends in the digest of the payload. -/
structure Submission where
  runId : String
  key : EventKey
  payload : EventPayload
  causationEventId : Option EventId := none
  resourceDelta : ResourceDelta := {}
  timestamp : Int := 0

/-- The event that records a submission after a ledger. -/
def Submission.event (s : Submission) (events : List Event) : Event :=
  { eventId := events.length + 1
    timestamp := s.timestamp
    runId := s.runId
    key := s.key
    causationEventId := s.causationEventId
    payload := s.payload
    resourceDelta := s.resourceDelta }

/-- The event that has acknowledged a submission, if it is a repetition. -/
def Submission.existing (s : Submission) (events : List Event) : Option Event :=
  events.find? fun event => event.runId = s.runId ∧ event.key = s.key ∧ event.payload = s.payload

/-- `EventStore.append`, with the handler of `DuplicateIdempotencyKey` in `Harness._append`: the
acknowledged event and the ledger after it. -/
def EventStore.append (events : List Event) (s : Submission) :
    Except PyError (Event × List Event) :=
  match s.existing events with
  | some event => return (event, events)
  | none => do
    if events.head?.any fun event => event.runId ≠ s.runId then
      throw (.ledgerError "run_id does not match the existing ledger")
    if s.causationEventId.any fun eventId => eventId ∉ events.map Event.eventId then
      throw (.ledgerError "causation_event_id does not exist")
    validateTransition events s.payload
    return (s.event events, events ++ [s.event events])

end TacoRank
