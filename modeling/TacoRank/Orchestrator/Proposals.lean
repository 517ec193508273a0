import TacoRank.Orchestrator.RunStep
import TacoRank.Orchestrator.Scenario

/-!
# Proposals

The table of experiments lists the proposals of the ledger in order and no event changes the
duplicate key of a node, so the duplicate rule of `experiment.proposed`, which looks at the nodes,
speaks about all earlier proposals. Whatever other lanes do in between, a key is used again only
after all its holders have ended without evidence, and three times at most.
-/

namespace TacoRank
open Lib Lib.Result

/-- The proposals of a ledger, in order. -/
def proposals (es : List Event) : List ExperimentSpec :=
  es.filterMap fun e => EventKind.experimentProposed.read e.payload

/-- The experiments that hold a duplicate key, in a table. -/
def holders (experiments : Dict String ExperimentNode) (key : String) : List ExperimentNode :=
  experiments.values.filter (·.duplicateKey = key)

lemma proposals_snoc (es : List Event) (e : Event) : proposals (es ++ [e]) =
    proposals es ++ (EventKind.experimentProposed.read e.payload).toList := by
  rw [proposals, proposals, List.filterMap_append]
  cases h : EventKind.experimentProposed.read e.payload <;> simp [h]

/-- No event changes the duplicate key of a node. -/
lemma Reducer.nodeUpdate_duplicateKey (r : Reducer) (e : Event) (n : ExperimentNode) :
    (r.nodeUpdate e n).duplicateKey = n.duplicateKey := by
  unfold nodeUpdate
  cases e.payload with
  | executionFinished result =>
    simp only [ExperimentNode.executionFinished]
    split <;> rfl
  | recoveryDecided decision =>
    simp only [recoveryNode, ExperimentNode.recoveryCounted]
    cases decision.action <;> rfl
  | experimentDecided decision =>
    simp only [ExperimentNode.decided]
    split
    · split <;> rfl
    · rfl
  | _ => rfl

/-- The table lists the proposals with their keys. -/
def Listed (es : List Event) (experiments : Dict String ExperimentNode) : Prop :=
  experiments.entries.map (fun p => (p.1, p.2.duplicateKey)) =
    (proposals es).map fun spec => (spec.experimentId, spec.duplicateKey)

section Listed
variable {es : List Event} {d : Dict String ExperimentNode}

lemma Listed.ids (h : Listed es d) : d.keys = (proposals es).map (·.experimentId) := by
  have ids := congrArg (List.map Prod.fst) h
  simpa [List.map_map, Function.comp_def, Dict.keys] using ids

/-- As many experiments hold a key as proposals do. -/
lemma Listed.count (h : Listed es d) (key : String) :
    (holders d key).length = (proposals es).countP (·.duplicateKey = key) := by
  have keys := congrArg (fun l => l.countP fun p => decide (p.2 = key)) h
  simp only [List.countP_map, Function.comp_def] at keys
  rw [← keys, holders, ← List.countP_eq_length_filter, Dict.values, List.countP_map]
  rfl

/-- A proposal has a node, which holds its key. -/
lemma Listed.node (h : Listed es d) {spec : ExperimentSpec} (mem : spec ∈ proposals es) :
    ∃ n, d.get? spec.experimentId = some n ∧ n ∈ holders d spec.duplicateKey := by
  have listed : (spec.experimentId, spec.duplicateKey) ∈
      d.entries.map fun p => (p.1, p.2.duplicateKey) := by
    rw [h]
    exact List.mem_map.mpr ⟨spec, mem, rfl⟩
  obtain ⟨⟨x, n⟩, held, same⟩ := List.mem_map.mp listed
  simp only [Prod.mk.injEq] at same
  obtain ⟨rfl, key⟩ := same
  have found := Dict.mem_entries.mp held
  refine ⟨n, found, List.mem_filter.mpr ⟨Dict.mem_values.mpr ⟨_, found⟩, by simpa using key⟩⟩

end Listed

/-- What the duplicate rule of a proposal has checked. -/
structure Novel (experiments : Dict String ExperimentNode) (spec : ExperimentSpec) : Prop where
  unused : experiments.get? spec.experimentId = none
  few : (holders experiments spec.duplicateKey).length < 3
  ended : ∀ n ∈ holders experiments spec.duplicateKey, n.status = .invalid ∨ n.status = .noOp

/-- Inversion of the re-implementation of a no-op. -/
lemma authorizedNoOpReimplementation_inv {es s spec}
    (h : authorizedNoOpReimplementation es s spec = true) :
    ∃ node, holders s.experiments spec.duplicateKey = [node] ∧ node.status = .noOp := by
  unfold authorizedNoOpReimplementation at h
  unfold holders
  generalize s.experiments.values.filter (fun n => n.duplicateKey = spec.duplicateKey) = prior at h ⊢
  split at h
  · split at h
    · simp only [decide_eq_true_eq] at h
      exact ⟨_, rfl, h.1⟩
    · cases h
  · cases h

/-- Inversion of the re-exploration of failed attempts. -/
lemma authorizedFailedAttemptReexploration_inv {s spec}
    (h : authorizedFailedAttemptReexploration s spec = true) :
    (holders s.experiments spec.duplicateKey).length < 3 ∧
      ∀ n ∈ holders s.experiments spec.duplicateKey, n.status = .invalid ∨ n.status = .noOp := by
  simp only [authorizedFailedAttemptReexploration, decide_eq_true_eq,
    List.all_eq_true, List.mem_cons, List.not_mem_nil, or_false] at h
  exact ⟨h.2.1, h.2.2⟩

/-- Inversion of the duplicate rule. -/
lemma validateExperimentProposed_novel {es s spec}
    (h : validateExperimentProposed es s spec = .ok ()) : Novel s.experiments spec := by
  simp only [validateExperimentProposed, bind_eq_ok, require_ok] at h
  obtain ⟨_, _, _, unused, _, fresh, _⟩ := h
  rcases fresh with unseen | noOp | failed
  · have none : holders s.experiments spec.duplicateKey = [] := by
      rw [holders, List.filter_eq_nil_iff]
      intro n mem key
      exact unseen (List.any_eq_true.mpr ⟨n, mem, key⟩)
    exact ⟨unused, by simp [none], by simp [none]⟩
  · obtain ⟨node, one, status⟩ := authorizedNoOpReimplementation_inv noOp
    refine ⟨unused, by simp [one], fun n mem => ?_⟩
    rw [one, List.mem_singleton] at mem
    rw [mem]
    exact .inr status
  · obtain ⟨few, ended⟩ := authorizedFailedAttemptReexploration_inv failed
    exact ⟨unused, few, ended⟩

/-- An accepted proposal is novel. -/
lemma Accepted.novel {es r e spec} (hr : replay es = .ok r) (ok : Accepted es e)
    (payload : e.payload = .experimentProposed spec) : Novel r.state.experiments spec := by
  have branch := (ok.branch hr (by rw [payload]; simp [EventPayload.type])).2
  rw [payload] at branch
  have novel := validateExperimentProposed_novel branch
  rwa [RunState.aggregate_experiments] at novel

/-- The table of a ledger, with at most three holders of every key. -/
structure Ledgered (es : List Event) (experiments : Dict String ExperimentNode) : Prop where
  listed : Listed es experiments
  few : ∀ key, (holders experiments key).length ≤ 3

/-- Every accepted event keeps the table. -/
lemma Ledgered.step {es r r' e} (h : Ledgered es r.state.experiments) (hr : replay es = .ok r)
    (ok : Accepted es e) (step : r.step e = .ok r') :
    Ledgered (es ++ [e]) r'.state.experiments := by
  have table := (Reducer.step_write step).table
  generalize r'.state.experiments = d' at table
  have kept (silent : EventKind.experimentProposed.read e.payload = none)
      (same : d'.entries.map (fun p => (p.1, p.2.duplicateKey)) =
        r.state.experiments.entries.map fun p => (p.1, p.2.duplicateKey)) :
      Ledgered (es ++ [e]) d' := by
    have listed : Listed (es ++ [e]) d' := by
      rw [Listed, proposals_snoc, silent, Option.toList_none, List.append_nil, same]
      exact h.listed
    refine ⟨listed, fun key => ?_⟩
    have before := h.few key
    rw [h.listed.count] at before
    rw [listed.count, proposals_snoc, silent, Option.toList_none, List.append_nil]
    exact before
  cases table with
  | frame none =>
    refine kept ?_ rfl
    cases p : e.payload with
    | experimentProposed spec => simp [p, EventPayload.experiment] at none
    | _ => rfl
  | update owner old node =>
    refine kept ?_ (Dict.map_set_old node (Reducer.nodeUpdate_duplicateKey r e _))
    cases p : e.payload with
    | experimentProposed spec => exact absurd p (old spec)
    | _ => rfl
  | @proposed spec payload =>
    have novel := ok.novel hr payload
    have entries := Dict.entries_set_new (ExperimentNode.ofSpec spec) novel.unused
    have written : EventKind.experimentProposed.read e.payload = some spec := by
      rw [payload]
      rfl
    have listed : Listed (es ++ [e])
        (r.state.experiments.set spec.experimentId (.ofSpec spec)) := by
      rw [Listed, proposals_snoc, written, entries, List.map_append, List.map_append, h.listed]
      rfl
    refine ⟨listed, fun key => ?_⟩
    have before := h.few key
    have few := novel.few
    rw [h.listed.count] at before few
    rw [listed.count, proposals_snoc, written, List.countP_append]
    by_cases same : spec.duplicateKey = key
    · subst same
      simp
      omega
    · simpa [same] using before

/-- The table of a valid ledger. -/
lemma ValidLedger.ledgered {es r} (v : ValidLedger es) (hr : TacoRank.replay es = .ok r) :
    Ledgered es r.state.experiments := by
  refine v.run_induct (I := fun es r => Ledgered es r.state.experiments) ?_ ?_ hr
  · exact ⟨rfl, fun _ => Nat.zero_le 3⟩
  · intro es e r r' _ hr ok step ih
    exact ih.step hr ok step

/-- No duplicate research: experiment ids are unique, at most three proposals share a duplicate key,
and when a key is proposed again, every earlier experiment with this key is invalid or a no-op at
that moment. -/
theorem no_duplicate_research {es} (v : ValidLedger es) :
    ((proposals es).map (·.experimentId)).Nodup ∧
    (∀ key, (proposals es).countP (·.duplicateKey = key) ≤ 3) ∧
    ∀ pre e post spec, es = pre ++ e :: post → e.payload = .experimentProposed spec →
      ∀ earlier ∈ proposals pre, earlier.duplicateKey = spec.duplicateKey →
        ∃ n, nodeOf pre earlier.experimentId = some n ∧ (n.status = .invalid ∨ n.status = .noOp) := by
  obtain ⟨r, hr⟩ := v.replay
  have h := v.ledgered hr
  refine ⟨?_, fun key => ?_, ?_⟩
  · rw [← h.listed.ids]
    exact r.state.experiments.nodupKeys
  · rw [← h.listed.count]
    exact h.few key
  · rintro pre e post spec rfl payload earlier mem same
    obtain ⟨r0, hr0⟩ := v.front.replay
    obtain ⟨n, node, held⟩ := (v.front.ledgered hr0).listed.node mem
    rw [same] at held
    exact ⟨n, by rw [nodeOf_replay hr0, node], (v.accepted.novel hr0 payload).ended n held⟩

open Scenario in
/-- A run that proposes the method of an abandoned experiment again. -/
def reexploredRun : List Event := record (proposal 2 "exp" ++
  [ (some 6, failed "exp" 1 .coding), (some 7, recovery "exp" 7 1 2 .abandon),
    (some 8, .contextCreated { contextId := "planner", role := .planner, experimentId := none }),
    (some 9, .experimentProposed { spec "exp2" with duplicateKey := "exp" }) ])

theorem no_duplicate_research_run : ∃ n, nodeOf (reexploredRun.take 9) "exp" = some n ∧
    (n.status = .invalid ∨ n.status = .noOp) := by
  have v : ValidLedger reexploredRun := .of_check (by decide +kernel)
  have split : reexploredRun = reexploredRun.take 9 ++ reexploredRun.get ⟨9, by decide⟩ :: [] := by
    rfl
  exact (no_duplicate_research v).2.2 _ _ _ _ split rfl (Scenario.spec "exp")
    (by simp [reexploredRun, proposals, Scenario.record, Scenario.proposal,
      EventKind.experimentProposed]) rfl

end TacoRank
