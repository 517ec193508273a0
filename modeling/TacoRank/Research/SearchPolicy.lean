import TacoRank.Memory.Projections
import TacoRank.Research.LinUcb

/-!
# Parallel directions

`SearchPolicy.choose_parallel_direction` of `research/search_policy.py`, over the eligibility of method cards in
`research/method_eligibility.py`. The routing of `choose` and the capabilities of a context are parameters:
`parallel_choices_distinct` holds whatever the route of the first lane is.
-/

namespace TacoRank.Research
open Lib Lib.Result

/-- `DEFAULT_FAMILY_ORDER`. -/
def defaultFamilyOrder : List String :=
  ["objective", "temporal_history", "multitask", "duration_bias", "model", "features", "sampling", "ensemble",
    "evaluation", "other"]

/-- `DEFAULT_METHOD_ORDER`. -/
def defaultMethodOrder : List (String × List String) :=
  [ ("objective", ["objective_pairwise_bpr", "objective_loss_aligned_features", "objective_listwise_user_softmax"]),
    ("temporal_history", ["temporal_history_compact"]),
    ("multitask", ["multitask_single_auxiliary"]),
    ("duration_bias", ["duration_bias_censored_watch_time"]),
    ("features", ["temporal_drift_past_only"]),
    ("model", ["model_lgbm_lambdarank_blend", "model_lgbm_causal_history", "model_lgbm_xendcg",
      "model_compact_ranker"]),
    ("ensemble", ["ensemble_zblend_diverse", "ensemble_seed_mean", "ensemble_diverse_residual_candidate",
      "ensemble_confirmed_members"]),
    ("evaluation", ["evaluation_random_exposure_robustness"]) ]

/-- `sorted` of texts, by a key. -/
def sortedBy {A : Type} (key : A → String) (items : List A) : List A :=
  items.insertionSort fun a b => ¬ (key b).toList < (key a).toList

section Policy
variable {R : Type}

/-! ### Method cards -/

/-- `MethodEligibility`. -/
structure MethodEligibility where
  eligible : Bool
  reasons : List String
deriving DecidableEq

/-- `evaluate_method_card`, with the result of `available_capabilities`. -/
def evaluateMethodCard (availableCapabilities : PlannerContext R → List String) (card : PlannerMethodCardSummary)
    (context : PlannerContext R) (family : Option String) : MethodEligibility :=
  let contract := context.contractSummary
  let reasons :=
    (if normalized card.status ≠ "candidate" then ["METHOD_STATUS_NOT_CANDIDATE"] else []) ++
    (if family.any (card.family ≠ ·) then ["METHOD_FAMILY_MISMATCH"] else []) ++
    (if card.allowedData = [] then ["METHOD_ALLOWED_DATA_UNDECLARED"]
      else if card.allowedData.all (· ∈ contract.allowedData) then [] else ["METHOD_DATA_NOT_ALLOWED"]) ++
    (if card.prerequisites.all (· ∈ availableCapabilities context) then []
      else ["METHOD_PREREQUISITES_UNSATISFIED"]) ++
    (if contract.activeProhibitions.any (· ∈ card.prohibitionConditions) then ["METHOD_PROHIBITED"] else [])
  { eligible := reasons = [], reasons }

/-- `eligible_method_cards`. -/
def eligibleMethodCards (availableCapabilities : PlannerContext R → List String) (context : PlannerContext R)
    (family : Option String) : List PlannerMethodCardSummary :=
  context.methodCards.filter fun card => (evaluateMethodCard availableCapabilities card context family).eligible

/-- A dictionary of cards by their id, in which the last card of an id counts. -/
def cardsById (cards : List PlannerMethodCardSummary) : Dict String PlannerMethodCardSummary :=
  cards.foldl (fun byId card => byId.set card.methodId card) .empty

/-- `method_card_map`. -/
def methodCardMap (context : PlannerContext R) : Dict String PlannerMethodCardSummary :=
  cardsById (context.methodCards.filter (·.methodId ≠ ""))

/-- `_family_order`. -/
def familyOrder (context : PlannerContext R) : List String :=
  if context.playbook.familyOrder = [] then defaultFamilyOrder else context.playbook.familyOrder

/-- `_allowed_families`. -/
def allowedFamilies (context : PlannerContext R) : List String :=
  (familyOrder context).filter (· ∈ context.contractSummary.allowedFamilies)

/-- `_method_order`. -/
def methodOrder (context : PlannerContext R) (family : String) : List String :=
  let configured := (context.playbook.methodOrder.get? family).getD []
  if configured = [] then (defaultMethodOrder.lookup family).getD [] else configured

/-- One `by_id.pop(method_id)` of `_ordered_eligible_method_cards`, when the id is present. -/
def popCard (taken : List PlannerMethodCardSummary × List (String × PlannerMethodCardSummary)) (methodId : String) :
    List PlannerMethodCardSummary × List (String × PlannerMethodCardSummary) :=
  match taken.2.lookup methodId with
  | some card => (taken.1 ++ [card], taken.2.filter (·.1 ≠ methodId))
  | none => taken

/-- `_ordered_eligible_method_cards`. -/
def orderedEligibleMethodCards (availableCapabilities : PlannerContext R → List String) (context : PlannerContext R)
    (family : String) : List PlannerMethodCardSummary :=
  let byId := (cardsById (eligibleMethodCards availableCapabilities context (some family))).entries
  let taken := (methodOrder context family).foldl popCard ([], byId)
  taken.1 ++ (sortedBy Prod.fst taken.2).map Prod.snd

/-- `_globally_attempted_method_ids`. -/
def globallyAttemptedMethodIds (context : PlannerContext R) : List String :=
  (context.familyHistory.flatMap (·.methodCardIds)).filter (· ≠ "")

/-! ### Directions -/

/-- `_proposal`. -/
def proposal (parent : ExperimentNodeView R) (family : String) (card : PlannerMethodCardSummary)
    (phase reasonCode reason : String) : PolicyChoice R where
  action := "propose"
  parent := some parent
  family := some family
  costTier := card.costTier.value
  phase
  reasonCode
  reason
  methodCardId := some card.methodId

/-- The proposal of a scouting lane. -/
def scoutingProposal (parent : ExperimentNodeView R) (family : String) (card : PlannerMethodCardSummary) :
    PolicyChoice R :=
  proposal parent family card "parallel_round" "PARALLEL_GLOBALLY_UNTRIED_METHOD"
    ("Use spare round capacity to test globally untried research method " ++ card.methodId ++
      " from trusted parent " ++ parent.experimentId ++
      "; previously attempted directions are not replayed as scouting lanes.")

/-- `choices` and `selected_methods` of `_parallel_choices`. -/
structure Directions (R : Type) where
  choices : List (PolicyChoice R)
  selectedMethods : List String

/-- The body of the loop over the cards of a family. -/
def scoutCard (attempted : List String) (parent : ExperimentNodeView R) (family : String)
    (directions : Directions R) (card : PlannerMethodCardSummary) : Directions R :=
  if card.methodId = "" ∨ card.methodId ∈ attempted ∨ card.methodId ∈ directions.selectedMethods then directions
  else
    { choices := directions.choices ++ [scoutingProposal parent family card]
      selectedMethods := card.methodId :: directions.selectedMethods }

/-- The body of the loop over the families. -/
def scoutFamily (availableCapabilities : PlannerContext R → List String) (context : PlannerContext R)
    (parent : ExperimentNodeView R) (directions : Directions R) (family : String) : Directions R :=
  if family = "ensemble" then directions
  else
    (orderedEligibleMethodCards availableCapabilities context family).foldl
      (scoutCard (globallyAttemptedMethodIds context) parent family) directions

/-- The choices that the routing policy adds: its proposal, when it makes one. -/
def routed (primary : PolicyChoice R) : List (PolicyChoice R) :=
  if primary.action = "propose" then [primary] else []

/-- `choices` and `selected_methods` before the loops. -/
def Directions.primary (choice : PolicyChoice R) : Directions R where
  choices := routed choice
  selectedMethods := (routed choice).filterMap fun choice => choice.methodCardId.filter (· ≠ "")

section Lanes
variable [LinearOrder R]

/-- Whether the key of a parent in `_best_parent` is smaller; a parent without a score has the score -∞. -/
def parentBefore (a b : ExperimentNodeView R) : Bool :=
  let tie := decide (a.childCount < b.childCount) ||
    decide (a.childCount = b.childCount) && decide (a.experimentId.toList < b.experimentId.toList)
  match a.primaryScore, b.primaryScore with
  | some score, some other => decide (other < score) || decide (score = other) && tie
  | some _, none => true
  | none, some _ => false
  | none, none => tie

/-- `_best_parent`, of a list that may be empty. -/
def bestParent (eligible : List (ExperimentNodeView R)) : Option (ExperimentNodeView R) :=
  (eligible.insertionSort fun a b => ¬ parentBefore b a).head?

variable (choose : PlannerContext R → Except PyError (PolicyChoice R))
variable (availableCapabilities : PlannerContext R → List String)

/-- `_parallel_choices`. -/
def parallelChoices (context : PlannerContext R) : Except PyError (List (PolicyChoice R)) := do
  let primary ← choose context
  match bestParent (eligibleParents context) with
  | none => return routed primary
  | some parent =>
    if allowedFamilies context = [] ∨ (methodCardMap context).entries = [] then return routed primary
    return ((allowedFamilies context).foldl (scoutFamily availableCapabilities context parent)
      (.primary primary)).choices

/-- `choose_parallel_direction`. -/
def chooseParallelDirection (context : PlannerContext R) (directionIndex directionCount : Int) :
    Except PyError (PolicyChoice R) := do
  ensure (0 ≤ directionIndex ∧ directionIndex < directionCount)
    (.valueError "parallel direction index is out of range")
  let choices ← parallelChoices choose availableCapabilities context
  match choices[directionIndex.toNat]? with
  | some choice => return choice
  | none => throw (.valueError "parallel direction index exceeds unique legal search choices")

/-- `parallel_direction_capacity`. -/
def parallelDirectionCapacity (context : PlannerContext R) : Except PyError Nat := do
  let choices ← parallelChoices choose availableCapabilities context
  return choices.length

end Lanes

variable {availableCapabilities : PlannerContext R → List String}

/-! ### Cards -/

lemma mem_cardsById {cards : List PlannerMethodCardSummary} {key : String} {card : PlannerMethodCardSummary}
    (mem : (key, card) ∈ (cardsById cards).entries) : card ∈ cards := by
  have all : ∀ key card, (cardsById cards).get? key = some card → card ∈ cards := by
    refine List.foldlRecOn (motive := fun byId : Dict String PlannerMethodCardSummary =>
      ∀ key card, byId.get? key = some card → card ∈ cards) cards _ ?_ ?_
    · intro key card found
      cases found
    · intro byId ih new member key card found
      rw [Dict.get?_set] at found
      split at found
      · rw [← Option.some.inj found]
        exact member
      · exact ih key card found
  exact all key card (Dict.mem_entries.mp mem)

/-- Popped cards and cards that are left, all from one list. -/
def TakenFrom (cards : List PlannerMethodCardSummary)
    (taken : List PlannerMethodCardSummary × List (String × PlannerMethodCardSummary)) : Prop :=
  (∀ card ∈ taken.1, card ∈ cards) ∧ ∀ item ∈ taken.2, item.2 ∈ cards

lemma TakenFrom.pop {cards : List PlannerMethodCardSummary}
    {taken : List PlannerMethodCardSummary × List (String × PlannerMethodCardSummary)}
    (h : TakenFrom cards taken) (methodId : String) : TakenFrom cards (popCard taken methodId) := by
  unfold popCard
  cases found : taken.2.lookup methodId with
  | none => exact h
  | some card =>
    obtain ⟨front, back, entries, _⟩ := List.lookup_eq_some_iff.mp found
    have present : (methodId, card) ∈ taken.2 := by simp [entries]
    constructor
    · intro other mem
      rcases List.mem_append.mp mem with mem | mem
      · exact h.1 other mem
      · rw [List.mem_singleton.mp mem]
        exact h.2 _ present
    · intro item mem
      exact h.2 item (List.mem_of_mem_filter mem)

lemma TakenFrom.popAll {cards : List PlannerMethodCardSummary}
    {taken : List PlannerMethodCardSummary × List (String × PlannerMethodCardSummary)}
    (h : TakenFrom cards taken) (order : List String) : TakenFrom cards (order.foldl popCard taken) := by
  induction order generalizing taken with
  | nil => exact h
  | cons methodId order ih => exact ih (h.pop methodId)

lemma TakenFrom.cardsById (cards : List PlannerMethodCardSummary) : TakenFrom cards ([], (cardsById cards).entries) :=
  ⟨by simp, fun _ mem => mem_cardsById mem⟩

lemma mem_sortedBy {A : Type} {key : A → String} {items : List A} {item : A} :
    item ∈ sortedBy key items ↔ item ∈ items := List.mem_insertionSort _

/-- The ordered cards are eligible for the family. -/
lemma orderedEligibleMethodCards_mem {context : PlannerContext R} {family : String} {card : PlannerMethodCardSummary}
    (mem : card ∈ orderedEligibleMethodCards availableCapabilities context family) :
    card ∈ context.methodCards ∧
      (evaluateMethodCard availableCapabilities card context (some family)).eligible = true := by
  have eligible : card ∈ eligibleMethodCards availableCapabilities context (some family) := by
    have taken := (TakenFrom.cardsById (eligibleMethodCards availableCapabilities context (some family))).popAll
      (methodOrder context family)
    simp only [orderedEligibleMethodCards, List.mem_append, List.mem_map] at mem
    rcases mem with popped | ⟨item, left, rfl⟩
    · exact taken.1 card popped
    · exact taken.2 item (mem_sortedBy.mp left)
  rw [eligibleMethodCards, List.mem_filter] at eligible
  exact eligible

/-! ### Scouts -/

variable (availableCapabilities) in
/-- A scouting lane: it proposes an eligible card of a legal family that was attempted nowhere. -/
structure Scouts (context : PlannerContext R) (choice : PolicyChoice R) (family : String)
    (card : PlannerMethodCardSummary) : Prop where
  tests : choice.family = some family
  method : choice.methodCardId = some card.methodId
  named : card.methodId ≠ ""
  known : card ∈ context.methodCards
  eligible : (evaluateMethodCard availableCapabilities card context (some family)).eligible = true
  legal : family ∈ allowedFamilies context ∧ family ∈ context.contractSummary.allowedFamilies
  single : family ≠ "ensemble"
  untried : ∀ summary ∈ context.familyHistory, card.methodId ∉ summary.methodCardIds

variable (availableCapabilities) in
/-- The choices of the routing policy, followed by scouting lanes; all test different methods. -/
structure Scouted (context : PlannerContext R) (primary : PolicyChoice R) (directions : Directions R) : Prop where
  lanes : ∃ scouts, directions.choices = routed primary ++ scouts ∧
    ∀ scout ∈ scouts, ∃ family card, Scouts availableCapabilities context scout family card
  selected : ∀ choice ∈ directions.choices, ∀ methodId, choice.methodCardId = some methodId → methodId ≠ "" →
    methodId ∈ directions.selectedMethods
  distinct : (directions.choices.map (·.methodCardId)).Nodup

lemma Scouted.start (context : PlannerContext R) (primary : PolicyChoice R) :
    Scouted availableCapabilities context primary (.primary primary) where
  lanes := ⟨[], by simp [Directions.primary], by simp⟩
  selected choice mem methodId named nonempty :=
    List.mem_filterMap.mpr ⟨choice, mem, by simp [named, nonempty]⟩
  distinct := by
    unfold Directions.primary routed
    split <;> simp

/-- A card adds a lane only for a method that no lane tests. -/
lemma Scouted.card {context : PlannerContext R} {primary : PolicyChoice R} {directions : Directions R}
    (h : Scouted availableCapabilities context primary directions) (parent : ExperimentNodeView R) {family : String}
    (legal : family ∈ allowedFamilies context) (single : family ≠ "ensemble") {card : PlannerMethodCardSummary}
    (mem : card ∈ orderedEligibleMethodCards availableCapabilities context family) :
    Scouted availableCapabilities context primary
      (scoutCard (globallyAttemptedMethodIds context) parent family directions card) := by
  unfold scoutCard
  split
  · exact h
  next skip =>
    simp only [not_or] at skip
    obtain ⟨named, untried, unselected⟩ := skip
    obtain ⟨known, eligible⟩ := orderedEligibleMethodCards_mem mem
    obtain ⟨scouts, lanes, all⟩ := h.lanes
    have scout : Scouts availableCapabilities context (scoutingProposal parent family card) family card := by
      refine ⟨rfl, rfl, named, known, eligible, ⟨legal, ?_⟩, single, fun summary history attempted => untried ?_⟩
      · simpa using (List.mem_filter.mp legal).2
      · exact List.mem_filter.mpr ⟨List.mem_flatMap.mpr ⟨summary, history, attempted⟩, by simpa using named⟩
    refine ⟨⟨scouts ++ [scoutingProposal parent family card], ?_, ?_⟩, ?_, ?_⟩
    · rw [lanes, List.append_assoc]
    · intro other mem
      rcases List.mem_append.mp mem with mem | mem
      · exact all other mem
      · rw [List.mem_singleton.mp mem]
        exact ⟨family, card, scout⟩
    · intro choice mem methodId tests nonempty
      rcases List.mem_append.mp mem with mem | mem
      · exact List.mem_cons_of_mem _ (h.selected choice mem methodId tests nonempty)
      · rw [List.mem_singleton.mp mem, scout.method] at tests
        rw [← Option.some.inj tests]
        exact List.mem_cons_self
    · rw [List.map_append, List.map_singleton, scout.method]
      refine List.nodup_append.mpr ⟨h.distinct, List.nodup_singleton _, ?_⟩
      intro tested mem new fresh same
      rw [List.mem_singleton.mp fresh] at same
      obtain ⟨choice, member, tests⟩ := List.mem_map.mp mem
      exact unselected (h.selected choice member _ (tests.trans same) named)

lemma Scouted.family {context : PlannerContext R} {primary : PolicyChoice R} {directions : Directions R}
    (h : Scouted availableCapabilities context primary directions) (parent : ExperimentNodeView R) {family : String}
    (legal : family ∈ allowedFamilies context) :
    Scouted availableCapabilities context primary
      (scoutFamily availableCapabilities context parent directions family) := by
  unfold scoutFamily
  split
  · exact h
  next single =>
    exact List.foldlRecOn (motive := Scouted availableCapabilities context primary) _ _ h
      fun directions ih card mem => ih.card parent legal single mem

variable [LinearOrder R] {choose : PlannerContext R → Except PyError (PolicyChoice R)}

/-- Once the routing policy has chosen, the directions are built. -/
lemma parallelChoices_scouted {context : PlannerContext R} {primary : PolicyChoice R}
    (chosen : choose context = .ok primary) : ∃ directions, Scouted availableCapabilities context primary directions ∧
      parallelChoices choose availableCapabilities context = .ok directions.choices := by
  have alone : Scouted availableCapabilities context primary (.primary primary) := .start context primary
  unfold parallelChoices
  rw [chosen, ok_bind]
  cases bestParent (eligibleParents context) with
  | none => exact ⟨_, alone, rfl⟩
  | some parent =>
    dsimp only
    split
    · exact ⟨_, alone, rfl⟩
    · refine ⟨_, ?_, rfl⟩
      exact List.foldlRecOn (motive := Scouted availableCapabilities context primary) _ _ alone
        fun directions ih family legal => ih.family parent legal

/-- A direction is one of the choices. -/
lemma chooseParallelDirection_ok {context : PlannerContext R} {index count : Int} {choice : PolicyChoice R} :
    chooseParallelDirection choose availableCapabilities context index count = .ok choice ↔
      (0 ≤ index ∧ index < count) ∧ ∃ choices, parallelChoices choose availableCapabilities context = .ok choices ∧
        choices[index.toNat]? = some choice := by
  simp only [chooseParallelDirection, bind_eq_ok, ensure_eq_ok]
  constructor
  · rintro ⟨_, inside, choices, built, found⟩
    refine ⟨inside, choices, built, ?_⟩
    cases at_ : choices[index.toNat]? with
    | none =>
      rw [at_] at found
      cases found
    | some other =>
      rw [at_] at found
      cases found
      rfl
  · rintro ⟨inside, choices, built, found⟩
    refine ⟨(), inside, choices, built, ?_⟩
    rw [found]
    rfl

lemma parallelChoices_nodup {context : PlannerContext R} {choices : List (PolicyChoice R)}
    (built : parallelChoices choose availableCapabilities context = .ok choices) :
    (choices.map (·.methodCardId)).Nodup := by
  cases chosen : choose context with
  | error e =>
    rw [parallelChoices, chosen] at built
    cases built
  | ok primary =>
    obtain ⟨directions, scouted, directed⟩ := parallelChoices_scouted chosen
    rw [built] at directed
    cases directed
    exact scouted.distinct

/-- Directions at different indices test different methods. -/
lemma chooseParallelDirection_distinct {context : PlannerContext R} {index index' count count' : Int}
    {choice choice' : PolicyChoice R}
    (chosen : chooseParallelDirection choose availableCapabilities context index count = .ok choice)
    (chosen' : chooseParallelDirection choose availableCapabilities context index' count' = .ok choice')
    (apart : index ≠ index') : choice.methodCardId ≠ choice'.methodCardId := by
  obtain ⟨⟨low, _⟩, choices, built, found⟩ := chooseParallelDirection_ok.mp chosen
  obtain ⟨⟨low', _⟩, choices', built', found'⟩ := chooseParallelDirection_ok.mp chosen'
  rw [built] at built'
  cases built'
  intro same
  have methods : (choices.map (·.methodCardId))[index.toNat]? = (choices.map (·.methodCardId))[index'.toNat]? := by
    rw [List.getElem?_map, List.getElem?_map, found, found', Option.map_some, Option.map_some, same]
  have inside : index.toNat < (choices.map (·.methodCardId)).length := by
    obtain ⟨bound, _⟩ := List.getElem?_eq_some_iff.mp found
    simpa using bound
  have equal : index.toNat = index'.toNat := (List.getElem?_inj inside (parallelChoices_nodup built)).mp methods
  omega

/-- The methods of the lanes are distinct; every lane but the routed one tests an eligible card of a legal family
that was attempted nowhere; and a lane exists for every index below the capacity. -/
theorem parallel_choices_distinct (choose : PlannerContext R → Except PyError (PolicyChoice R))
    (availableCapabilities : PlannerContext R → List String) (context : PlannerContext R) :
    (∀ primary, choose context = .ok primary →
      ∃ choices, parallelChoices choose availableCapabilities context = .ok choices ∧
        (choices.map (·.methodCardId)).Nodup ∧ ∃ scouts, choices = routed primary ++ scouts ∧
          ∀ scout ∈ scouts, ∃ family card, Scouts availableCapabilities context scout family card) ∧
    (∀ capacity, parallelDirectionCapacity choose availableCapabilities context = .ok capacity →
      ∀ index count : Int, 0 ≤ index → index < capacity → index < count →
        ∃ choice, chooseParallelDirection choose availableCapabilities context index count = .ok choice) ∧
    ∀ index index' count count' choice choice',
      chooseParallelDirection choose availableCapabilities context index count = .ok choice →
      chooseParallelDirection choose availableCapabilities context index' count' = .ok choice' →
      index ≠ index' → choice.methodCardId ≠ choice'.methodCardId := by
  refine ⟨fun primary chosen => ?_, fun capacity counted index count low below inside => ?_,
    fun _ _ _ _ _ _ chosen chosen' apart => chooseParallelDirection_distinct chosen chosen' apart⟩
  · obtain ⟨directions, scouted, built⟩ := parallelChoices_scouted chosen
    exact ⟨_, built, scouted.distinct, scouted.lanes⟩
  · simp only [parallelDirectionCapacity, bind_eq_ok, pure_eq_ok] at counted
    obtain ⟨choices, built, rfl⟩ := counted
    have bound : index.toNat < choices.length := by omega
    exact ⟨_, chooseParallelDirection_ok.mpr ⟨⟨low, inside⟩, choices, built, List.getElem?_eq_getElem bound⟩⟩

end Policy

/-- A card without prerequisites. -/
def candidateCard (methodId family : String) : PlannerMethodCardSummary where
  methodId
  family
  status := "candidate"
  costTier := .medium
  prerequisites := []
  allowedData := ["user_id"]
  prohibitionConditions := []

/-- One verified parent, two cards of one family, a card that was attempted and an ensemble. -/
def scoutingContext : PlannerContext ℚ where
  contractSummary :=
    { allowedFamilies := ["objective", "model", "ensemble"], allowedData := ["user_id"], activeProhibitions := []
      predictionChangeNoOpThreshold := 0 }
  baseline := cleanNegative "exp_0000" "baseline"
  eligibleFrontier := [{ cleanNegative "exp_0000" "baseline" with
    trustVerdict := some .accepted, decision := some .accept, status := "accepted", parentEligible := true }]
  familyHistory := [{ cleanNegative "exp_0001" "objective" with methodCardIds := ["objective_pairwise_bpr"] }]
  methodCards := [candidateCard "objective_pairwise_bpr" "objective", candidateCard "model_compact_ranker" "model",
    candidateCard "model_lgbm_lambdarank_blend" "model", candidateCard "ensemble_seed_mean" "ensemble"]
  playbook := { familyOrder := [], methodOrder := .empty }

/-- A route that explores the family "model" first. -/
def modelRoute (_ : PlannerContext ℚ) : Except PyError (PolicyChoice ℚ) :=
  .ok { familyChoice "model" with methodCardId := some "model_lgbm_lambdarank_blend" }

theorem parallel_choices_distinct_route :
    parallelDirectionCapacity modelRoute (fun _ => []) scoutingContext = .ok 2 ∧
      ∃ choice, chooseParallelDirection modelRoute (fun _ => []) scoutingContext 1 2 = .ok choice := by
  have counted : parallelDirectionCapacity modelRoute (fun _ => []) scoutingContext = .ok 2 := by decide +kernel
  have lanes := (parallel_choices_distinct modelRoute (fun _ => []) scoutingContext).2.1
  exact ⟨counted, lanes 2 counted 1 2 (by decide) (by decide) (by decide)⟩

end TacoRank.Research
