import TacoRank.Lib.Program

/-!
# Exceptions of calls

`Meets rely T P m Q R` extends `Spec` by what becomes of an exception that a call raises. A run is
compared with the same run whose script has one more turn, which raises the exception: the program never
asks for that turn, or the exception leaves it where the call was made, or the program has caught it and
waits for its next turn where `T.handled` says. Which of the three it is does not depend on the exception.

The rules are those of `Spec`. A program that catches exceptions also has to handle the last one.
-/

namespace Lib

/-- How calls fail: what others submit during a call, which answers raise which exceptions, and how a
caught exception is handled. `handled log waits` is about the log where it arrived and the logs where the
program then waits. -/
structure Trouble (E S A ε : Type) where
  submit : List E → S → List E
  raises : A → ε → Prop
  handled : List E → (ε → List E → Prop) → Prop
  mono : ∀ {log waits waits'}, (∀ error final, waits error final → waits' error final) →
    handled log waits → handled log waits'

section Worlds
variable {E S A ε α : Type}

/-- The world with one more turn. -/
def World.push (w : World E S A) (turn : Turn S A) : World E S A :=
  { w with script := w.script ++ [turn] }

/-- The world in which the answer to the last call arrives. -/
def World.arrive (w : World E S A) (submit : List E → S → List E) (others : List S) (now : Int) :
    World E S A :=
  { log := others.foldl submit w.log, now, script := [] }

/-- A run waits for a turn at a log. -/
def WaitsAt (log : List E) (run : Except (Halt ε) α × World E S A) : Prop :=
  run.1 = .error .suspended ∧ run.2.log = log

/-- A program that waits has no rest. -/
lemma WaitsAt.bind {β : Type} {m : Program E S A ε α} {f : α → Program E S A ε β} {log : List E}
    {w : World E S A} (waits : WaitsAt log (m w)) : WaitsAt log ((m >>= f) w) := by
  obtain ⟨stopped, at_⟩ := waits
  cases run : m w with
  | mk result w' =>
    rw [run] at stopped at_
    cases stopped
    rw [Program.run_bind_error run]
    exact ⟨rfl, at_⟩

/-- A caught program waits where the program does. -/
lemma WaitsAt.attempt {m : Program E S A ε α} {log : List E} {w : World E S A} (waits : WaitsAt log (m w)) :
    WaitsAt log (Program.attempt m w) := by
  obtain ⟨stopped, at_⟩ := waits
  cases run : m w with
  | mk result w' =>
    rw [run] at stopped at_
    cases stopped
    simp only [Program.attempt, run]
    exact ⟨rfl, at_⟩

lemma Rely.Admits.push {rely : Rely E S} {w : World E S A} {turn : Turn S A} (admits : rely.Admits w)
    (others : ∀ s ∈ turn.interference, rely.submits s) : rely.Admits (w.push turn) := by
  refine ⟨admits.invariant, fun turn' mem => ?_⟩
  rcases List.mem_append.mp mem with old | last
  · exact admits.script turn' old
  · rw [List.mem_singleton.mp last]
    exact others

end Worlds

namespace Trouble
variable {E S A ε α β σ : Type}

/-- What becomes of a run of a program in a world with one more turn. -/
inductive Resumes (T : Trouble E S A ε) (m : Program E S A ε α) (w : World E S A) (others : List S)
    (now : Int) : Prop where
  | unasked
    (same : ∀ reply error, T.raises reply error →
      m (w.push ⟨others, now, reply⟩) = ((m w).1, (m w).2.push ⟨others, now, reply⟩))
  | escapes
    (waits : (m w).1 = .error .suspended)
    (leaves : ∀ reply error, T.raises reply error →
      m (w.push ⟨others, now, reply⟩) = (.error (.raised error), (m w).2.arrive T.submit others now))
  | caught
    (waits : (m w).1 = .error .suspended)
    (handled : T.handled (others.foldl T.submit (m w).2.log) fun error log =>
      ∀ reply, T.raises reply error → WaitsAt log (m (w.push ⟨others, now, reply⟩)))

/-- A handler raises the exception again, or it waits where it should. -/
inductive Handles (T : Trouble E S A ε) (handler : ε → Program E S A ε α) (w : World E S A) : Prop where
  | raises
    (again : ∀ reply error, T.raises reply error → handler error w = (.error (.raised error), w))
  | waits
    (handled : T.handled w.log fun error log =>
      ∀ reply, T.raises reply error → WaitsAt log (handler error w))

section Resumes
variable {T : Trouble E S A ε} {m : Program E S A ε α} {f : α → Program E S A ε β} {w : World E S A}
  {others : List S} {now : Int}

/-- The run of a program that returned goes on with the rest. -/
lemma Resumes.bind_ok {a : α} {w' : World E S A} (run : m w = (.ok a, w'))
    (first : T.Resumes m w others now) (rest : T.Resumes (f a) w' others now) :
    T.Resumes (m >>= f) w others now := by
  cases first with
  -- `m` returned, so the added turn is still unread: it belongs to the rest.
  | escapes waits => simp [run] at waits
  | caught waits => simp [run] at waits
  | unasked same =>
    rw [run] at same
    have goes : ∀ reply error, T.raises reply error →
        (m >>= f) (w.push ⟨others, now, reply⟩) = f a (w'.push ⟨others, now, reply⟩) :=
      fun reply error raised => Program.run_bind_ok (same reply error raised)
    have here : (m >>= f) w = f a w' := Program.run_bind_ok run
    cases rest with
    | unasked same' =>
      refine .unasked fun reply error raised => ?_
      rw [goes reply error raised, same' reply error raised, here]
    | escapes waits leaves =>
      refine .escapes (by rw [here]; exact waits) fun reply error raised => ?_
      rw [goes reply error raised, leaves reply error raised, here]
    | caught waits handled =>
      refine .caught (by rw [here]; exact waits) ?_
      rw [here]
      refine T.mono (fun error final waiting reply raised => ?_) handled
      rw [goes reply error raised]
      exact waiting reply raised

/-- A program that stopped before its end has no rest. -/
lemma Resumes.bind_error {halt : Halt ε} {w' : World E S A} (run : m w = (.error halt, w'))
    (first : T.Resumes m w others now) : T.Resumes (m >>= f) w others now := by
  have here : (m >>= f) w = (.error halt, w') := Program.run_bind_error run
  cases first with
  | unasked same =>
    refine .unasked fun reply error raised => ?_
    have same := same reply error raised
    rw [run] at same
    rw [Program.run_bind_error same, here]
  | escapes waits leaves =>
    rw [run] at waits leaves
    cases waits
    refine .escapes (by rw [here]) fun reply error raised => ?_
    rw [Program.run_bind_error (leaves reply error raised), here]
  | caught waits handled =>
    rw [run] at waits handled
    cases waits
    -- `m` waits inside its own handler, and the rest is not reached.
    refine .caught (by rw [here]) ?_
    rw [here]
    refine T.mono (fun error final waiting reply raised => ?_) handled
    exact (waiting reply raised).bind

/-- The handler of a caught program has its last exception. -/
lemma Resumes.handler {f : Except ε α → Program E S A ε β} {w' : World E S A}
    (stopped : m w = (.error .suspended, w'))
    (leaves : ∀ reply error, T.raises reply error →
      m (w.push ⟨others, now, reply⟩) = (.error (.raised error), w'.arrive T.submit others now))
    (handles : T.Handles (fun e => f (.error e)) (w'.arrive T.submit others now)) :
    T.Resumes (Program.attempt m >>= f) w others now := by
  have waits : (Program.attempt m >>= f) w = (.error .suspended, w') :=
    Program.run_bind_error (by simp only [Program.attempt, stopped])
  have goes : ∀ reply error, T.raises reply error → (Program.attempt m >>= f)
      (w.push ⟨others, now, reply⟩) = f (.error error) (w'.arrive T.submit others now) :=
    fun reply error raised =>
      Program.run_bind_ok (by simp only [Program.attempt, leaves reply error raised])
  cases handles with
  | raises again =>
    refine .escapes (by rw [waits]) fun reply error raised => ?_
    rw [goes reply error raised, again reply error raised, waits]
  | waits handled =>
    refine .caught (by rw [waits]) ?_
    rw [waits]
    refine T.mono (fun error final waiting reply raised => ?_) handled
    rw [goes reply error raised]
    exact waiting reply raised

/-- A caught program goes on as the program does, unless an exception leaves the program. -/
lemma Resumes.attempt {result : Except (Halt ε) α} {w' : World E S A} (run : m w = (result, w'))
    (resumes : T.Resumes m w others now) : T.Resumes (Program.attempt m) w others now ∨
      result = .error .suspended ∧ ∀ reply error, T.raises reply error →
        m (w.push ⟨others, now, reply⟩) = (.error (.raised error), w'.arrive T.submit others now) := by
  cases resumes with
  | unasked same =>
    rw [run] at same
    refine .inl (.unasked fun reply error raised => ?_)
    simp only [Program.attempt, same reply error raised, run]
    cases result with
    | ok a => rfl
    | error halt => cases halt <;> rfl
  | escapes waits leaves =>
    rw [run] at waits leaves
    exact .inr ⟨waits, leaves⟩
  | caught waits handled =>
    rw [run] at waits handled
    cases waits
    have stopped : Program.attempt m w = (.error .suspended, w') := by simp only [Program.attempt, run]
    refine .inl (.caught (by rw [stopped]) ?_)
    rw [stopped]
    exact T.mono (fun error final waiting reply raised => (waiting reply raised).attempt) handled

end Resumes
end Trouble

/-- Partial correctness under a rely condition, with the exceptions of calls handled. -/
structure Meets {E S A ε α : Type} (rely : Rely E S) (T : Trouble E S A ε) (P : List E → Prop)
    (m : Program E S A ε α) (Q : α → List E → Prop) (R : ε → List E → Prop) : Prop where
  spec : Spec rely P m Q R
  resumes : ∀ w others now, rely.Admits w → (∀ s ∈ others, rely.submits s) → P w.log →
    T.Resumes m w others now

namespace Meets
variable {E S A ε α β σ : Type} {rely : Rely E S} {T : Trouble E S A ε} {P P' : List E → Prop}
  {Q Q' : α → List E → Prop} {R R' : ε → List E → Prop}

/-- A program that calls nobody. -/
lemma of_spec {m : Program E S A ε α} (spec : Spec rely P m Q R)
    (local_ : ∀ (w : World E S A) (turn : Turn S A), m (w.push turn) = ((m w).1, (m w).2.push turn)) :
    Meets rely T P m Q R :=
  ⟨spec, fun w _ _ _ _ _ => .unasked fun _ _ _ => local_ w _⟩

/-- The rule of consequence. -/
lemma weaken {m : Program E S A ε α} (h : Meets rely T P m Q R)
    (pre : ∀ log, rely.invariant log → P' log → P log)
    (post : ∀ a log, rely.invariant log → Q a log → Q' a log)
    (exc : ∀ e log, rely.invariant log → R e log → R' e log) : Meets rely T P' m Q' R' :=
  ⟨h.spec.weaken pre post exc, fun w others now admits admitted hp =>
    h.resumes w others now admits admitted (pre w.log admits.invariant hp)⟩

/-- Strengthen the precondition. -/
lemma pre {m : Program E S A ε α} (h : Meets rely T P m Q R)
    (entails : ∀ log, rely.invariant log → P' log → P log) : Meets rely T P' m Q R :=
  h.weaken entails (fun _ _ _ q => q) (fun _ _ _ r => r)

/-- Weaken the postcondition. -/
lemma post {m : Program E S A ε α} (h : Meets rely T P m Q R)
    (entails : ∀ a log, rely.invariant log → Q a log → Q' a log) : Meets rely T P m Q' R :=
  h.weaken (fun _ _ p => p) entails (fun _ _ _ r => r)

/-- What is read off the log at the beginning is a parameter of the specification. -/
lemma fix {ι : Type} (read : List E → ι) {m : Program E S A ε α}
    (h : ∀ log, rely.invariant log → P log →
      Meets rely T (fun log' => P log' ∧ read log' = read log) m Q R) : Meets rely T P m Q R :=
  ⟨fun w admits hp => (h w.log admits.invariant hp).spec w admits ⟨hp, rfl⟩,
    fun w others now admits admitted hp =>
      (h w.log admits.invariant hp).resumes w others now admits admitted ⟨hp, rfl⟩⟩

/-- A fact about no log may be assumed. -/
lemma assuming {fact : Prop} {m : Program E S A ε α} (h : fact → Meets rely T P m Q R) :
    Meets rely T (fun log => fact ∧ P log) m Q R :=
  ⟨fun w admits hp => (h hp.1).spec w admits hp.2,
    fun w others now admits admitted hp => (h hp.1).resumes w others now admits admitted hp.2⟩

/-- A fact that the precondition entails may be assumed. -/
lemma given {fact : Prop} {m : Program E S A ε α}
    (entails : ∀ log, rely.invariant log → P log → fact) (h : fact → Meets rely T P m Q R) :
    Meets rely T P m Q R :=
  ⟨fun w admits hp => (h (entails w.log admits.invariant hp)).spec w admits hp,
    fun w others now admits admitted hp =>
      (h (entails w.log admits.invariant hp)).resumes w others now admits admitted hp⟩

lemma ret {a : α} (h : ∀ log, rely.invariant log → P log → Q a log) :
    Meets rely T P (pure a : Program E S A ε α) Q R :=
  of_spec (Spec.ret h) fun _ _ => rfl

lemma bind {m : Program E S A ε α} {f : α → Program E S A ε β} {U : β → List E → Prop}
    (first : Meets rely T P m Q R) (rest : ∀ a, Meets rely T (Q a) (f a) U R) :
    Meets rely T P (m >>= f) U R := by
  refine ⟨first.spec.bind fun a => (rest a).spec, fun w others now admits admitted hp => ?_⟩
  obtain ⟨admits', outcome⟩ := first.spec w admits hp
  have resumes := first.resumes w others now admits admitted hp
  cases run : m w with
  | mk result w' =>
    rw [run] at admits' outcome
    cases result with
    | ok a => exact resumes.bind_ok run ((rest a).resumes w' others now admits' admitted outcome)
    | error halt => exact resumes.bind_error run

lemma raise {error : ε} (h : ∀ log, rely.invariant log → P log → R error log) :
    Meets rely T P (Program.raise error : Program E S A ε α) Q R :=
  of_spec (Spec.raise h) fun _ _ => rfl

lemma suspend : Meets rely T P (Program.suspend : Program E S A ε α) Q R :=
  of_spec Spec.suspend fun _ _ => rfl

lemma ofExcept {x : Except ε α} (ok : ∀ a log, rely.invariant log → P log → x = .ok a → Q a log)
    (err : ∀ e log, rely.invariant log → P log → x = .error e → R e log) :
    Meets rely T P (Program.ofExcept x : Program E S A ε α) Q R := by
  refine of_spec (Spec.ofExcept ok err) fun w turn => ?_
  cases x <;> rfl

lemma inspect {f : List E → α} (h : ∀ log, rely.invariant log → P log → Q (f log) log) :
    Meets rely T P (Program.inspect f : Program E S A ε α) Q R :=
  of_spec (Spec.inspect h) fun _ _ => rfl

lemma transact {f : Int → List E → Except ε (α × List E)}
    (ok : ∀ now log a log', rely.invariant log → P log → f now log = .ok (a, log') →
      rely.invariant log' ∧ Q a log')
    (err : ∀ now e log, rely.invariant log → P log → f now log = .error e → R e log) :
    Meets rely T P (Program.transact f : Program E S A ε α) Q R := by
  refine of_spec (Spec.transact ok err) fun w turn => ?_
  simp only [Program.transact, World.push]
  cases f w.now w.log <;> rfl

/-- The exception of a call leaves it where its answer arrives. -/
lemma await {answer : A → Option (Except ε α)} (stable : Spec.Stable rely T.submit P)
    (ok : ∀ a reply log, rely.invariant log → P log → answer reply = some (.ok a) → Q a log)
    (err : ∀ e log, rely.invariant log → P log → R e log)
    (raised : ∀ reply error, T.raises reply error → answer reply = some (.error error)) :
    Meets rely T P (Program.await T.submit answer : Program E S A ε α) Q R := by
  refine ⟨Spec.await stable ok err, fun w others now _ _ _ => ?_⟩
  obtain ⟨log, clock, script⟩ := w
  cases script with
  | nil =>
    refine .escapes rfl fun reply error raises => ?_
    simp only [Program.await, World.push, World.arrive, List.nil_append, raised reply error raises]
  | cons turn rest =>
    refine .unasked fun reply error _ => ?_
    simp only [Program.await, World.push, List.cons_append]
    cases answer turn.answer with
    | none => rfl
    | some result => cases result <;> rfl

/-- Go on after a caught program, by its two results. An exception of its last call is handled. -/
lemma catching {m : Program E S A ε α} {f : Except ε α → Program E S A ε β} {U : β → List E → Prop}
    (first : Meets rely T P m Q R) (ok : ∀ a, Meets rely T (Q a) (f (.ok a)) U R')
    (err : ∀ e, Meets rely T (R e) (f (.error e)) U R')
    (handles : ∀ w, rely.Admits w → w.script = [] → (∀ reply error, T.raises reply error → R error w.log) →
      T.Handles (fun e => f (.error e)) w) :
    Meets rely T P (Program.attempt m >>= f) U R' := by
  refine ⟨first.spec.catching (fun a => (ok a).spec) fun e => (err e).spec,
    fun w others now admits admitted hp => ?_⟩
  obtain ⟨admits', outcome⟩ := first.spec w admits hp
  have resumes := first.resumes w others now admits admitted hp
  cases run : m w with
  | mk result w' =>
    rw [run] at admits' outcome
    rcases resumes.attempt run with resumes | ⟨waits, leaves⟩
    -- The last call was not what raised, or `m` has caught it itself: the rest decides.
    · cases result with
      | ok a =>
        have returned : Program.attempt m w = (.ok (.ok a), w') := by simp only [Program.attempt, run]
        exact resumes.bind_ok returned ((ok a).resumes w' others now admits' admitted outcome)
      | error halt =>
        cases halt with
        | raised e =>
          have returned : Program.attempt m w = (.ok (.error e), w') := by simp only [Program.attempt, run]
          exact resumes.bind_ok returned ((err e).resumes w' others now admits' admitted outcome)
        | suspended =>
          have stopped : Program.attempt m w = (.error .suspended, w') := by
            simp only [Program.attempt, run]
          exact resumes.bind_error stopped
    -- The exception leaves `m`. `R` holds where it arrives because the run that raises it is a run of `m`
    -- like any other, and `first.spec` says so.
    by_cases possible : ∃ reply error, T.raises reply error
    swap
    · exact .unasked fun reply error raised => absurd ⟨reply, error, raised⟩ possible
    have arrived : ∀ reply error, T.raises reply error → rely.Admits (w'.arrive T.submit others now) ∧
        R error (w'.arrive T.submit others now).log := by
      intro reply error raised
      have result := first.spec (w.push ⟨others, now, reply⟩) (admits.push admitted) hp
      rw [leaves reply error raised] at result
      exact result
    obtain ⟨reply, error, raised⟩ := possible
    exact Trouble.Resumes.handler (waits ▸ run) leaves (handles _ (arrived reply error raised).1 rfl
      fun reply error raised => (arrived reply error raised).2)

/-- A loop keeps the assertion that its body keeps. -/
lemma loop {body : σ → Program E S A ε (σ ⊕ α)} {J : σ → List E → Prop}
    (step : ∀ s, Meets rely T (J s) (body s) (Continues J Q) R) (fuel : Nat) (s : σ) :
    Meets rely T (J s) (Program.loop body fuel s) Q R := by
  induction fuel generalizing s with
  | zero => exact suspend
  | succ fuel ih =>
    refine (step s).bind fun result => ?_
    cases result with
    | inl s' => exact ih s'
    | inr a => exact ret fun _ _ q => q

end Meets
end Lib
