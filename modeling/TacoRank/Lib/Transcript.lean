import TacoRank.Lib.Program

/-!
# Programs that keep a transcript

A dialogue is a program that asks questions of its surroundings, each of which has a type of answers. Its log is the
transcript: every question with its answer, or with the exception that was raised in its place. A monitor reads a
transcript from left to right and may reject it; its states describe a dialogue independently of the program, and
`Spec` with the monitor's rely condition shows that the program only holds dialogues that the monitor accepts.
-/

namespace Lib

variable {Q : Type} {Answer : Q → Type} {ε α β σ : Type}

/-- A question with its answer, or with the exception that was raised in its place. -/
structure Exchange (Answer : Q → Type) (ε : Type) where
  question : Q
  answer : Except ε (Answer question)

/-- A program that asks questions of its surroundings. -/
abbrev Dialogue (Answer : Q → Type) (ε α : Type) :=
  Program (Exchange Answer ε) Empty (Exchange Answer ε) ε α

/-- The reply of a turn to a question, unless the turn replies to another one. -/
def Exchange.reply [DecidableEq Q] (e : Exchange Answer ε) (q : Q) : Option (Except ε (Answer q)) :=
  if same : e.question = q then some (same ▸ e.answer) else none

/-- Ask a question, and write down what is answered or raised. A turn that replies to another question suspends the
program. -/
def Dialogue.ask [DecidableEq Q] (q : Q) : Dialogue Answer ε (Answer q) := fun w =>
  match w.script with
  | [] => (.error .suspended, w)
  | turn :: script =>
    match turn.answer.reply q with
    | some (.ok a) => (.ok a, { log := w.log ++ [⟨q, .ok a⟩], now := turn.now, script })
    | some (.error error) => (.error (.raised error), { log := w.log ++ [⟨q, .error error⟩], now := turn.now, script })
    | none => (.error .suspended, w)

/-! ### Monitors -/

/-- An observer of transcripts. -/
structure Monitor (E σ : Type) where
  init : σ
  step : σ → E → σ

namespace Monitor
variable {E : Type} (m : Monitor E σ)

/-- The state after a transcript. -/
def run (log : List E) : σ := log.foldl m.step m.init

@[simp] lemma run_nil : m.run [] = m.init := rfl

@[simp] lemma run_snoc (log : List E) (e : E) : m.run (log ++ [e]) = m.step (m.run log) e := by
  rw [run, List.foldl_append, List.foldl_cons, List.foldl_nil, run]

/-- The rely condition of a program whose transcripts keep the monitor in safe states. -/
def rely (safe : σ → Prop) : Rely E Empty where
  invariant log := safe (m.run log)
  submits _ := True

end Monitor

/-- From a state with `p`, the program keeps the monitor in safe states, also when it is suspended, and returns with
`A` or raises with `R`. -/
def Monitored (m : Monitor (Exchange Answer ε) σ) (safe p : σ → Prop) (program : Dialogue Answer ε α)
    (A : α → σ → Prop) (R : ε → σ → Prop) : Prop :=
  Spec (m.rely safe) (fun log => p (m.run log)) program (fun a log => A a (m.run log))
    (fun error log => R error (m.run log))

namespace Monitored
variable {m : Monitor (Exchange Answer ε) σ} {safe p p' : σ → Prop} {A A' : α → σ → Prop} {R R' : ε → σ → Prop}

/-- The rule of consequence. -/
lemma weaken {program : Dialogue Answer ε α} (h : Monitored m safe p program A R) (pre : ∀ s, p' s → p s)
    (post : ∀ a s, A a s → A' a s) (exc : ∀ error s, R error s → R' error s) :
    Monitored m safe p' program A' R' :=
  Spec.weaken h (fun _ _ => pre _) (fun a _ _ => post a _) (fun error _ _ => exc error _)

lemma pre {program : Dialogue Answer ε α} (h : Monitored m safe p program A R) (entails : ∀ s, p' s → p s) :
    Monitored m safe p' program A R :=
  h.weaken entails (fun _ _ a => a) fun _ _ r => r

/-- A fact that does not depend on the monitor. -/
lemma assuming {fact : Prop} {program : Dialogue Answer ε α} (h : fact → Monitored m safe p program A R) :
    Monitored m safe (fun s => p s ∧ fact) program A R :=
  fun w admits held => h held.2 w admits held.1

lemma ret {a : α} (h : ∀ s, p s → A a s) : Monitored m safe p (pure a) A R :=
  Spec.ret fun _ _ => h _

lemma raise {error : ε} (h : ∀ s, p s → R error s) : Monitored m safe p (Program.raise error) A R :=
  Spec.raise fun _ _ => h _

lemma ofExcept {x : Except ε α} (ok : ∀ a s, x = .ok a → p s → A a s)
    (err : ∀ error s, x = .error error → p s → R error s) :
    Monitored m safe p (Program.ofExcept x) A R :=
  Spec.ofExcept (fun a _ _ hp eq => ok a _ eq hp) (fun error _ _ hp eq => err error _ eq hp)

lemma bind {program : Dialogue Answer ε α} {f : α → Dialogue Answer ε β} {B : β → σ → Prop}
    (first : Monitored m safe p program A R) (rest : ∀ a, Monitored m safe (A a) (f a) B R) :
    Monitored m safe p (program >>= f) B R :=
  Spec.bind first rest

/-- Go on after a caught program, by its two results. -/
lemma catching {program : Dialogue Answer ε α} {f : Except ε α → Dialogue Answer ε β} {B : β → σ → Prop}
    (first : Monitored m safe p program A R) (ok : ∀ a, Monitored m safe (A a) (f (.ok a)) B R')
    (err : ∀ error, Monitored m safe (R error) (f (.error error)) B R') :
    Monitored m safe p (Program.attempt program >>= f) B R' :=
  Spec.catching first ok err

/-- A loop keeps the assertion that its body keeps. -/
lemma loop {τ : Type} {body : τ → Dialogue Answer ε (τ ⊕ α)} {J : τ → σ → Prop}
    (step : ∀ t, Monitored m safe (J t) (body t) (fun result s => result.elim (J · s) (A · s)) R)
    (fuel : Nat) (t : τ) : Monitored m safe (J t) (Program.loop body fuel t) A R := by
  refine Spec.loop (J := fun t log => J t (m.run log)) (fun t => ?_) fuel t
  refine Spec.post (step t) fun result log _ h => ?_
  cases result with
  | inl t' => exact h
  | inr a => exact h

/-- A question moves the monitor by its answer. -/
lemma ask [DecidableEq Q] {q : Q} {A : Answer q → σ → Prop}
    (ok : ∀ s a, safe s → p s → safe (m.step s ⟨q, .ok a⟩) ∧ A a (m.step s ⟨q, .ok a⟩))
    (err : ∀ s error, safe s → p s → safe (m.step s ⟨q, .error error⟩) ∧ R error (m.step s ⟨q, .error error⟩)) :
    Monitored m safe p (Dialogue.ask q) A R := by
  intro w admits hp
  unfold Dialogue.ask
  cases script : w.script with
  | nil => exact ⟨admits, trivial⟩
  | cons turn rest =>
    have interference : ∀ t ∈ rest, ∀ s ∈ t.interference, (m.rely safe).submits s := fun _ _ _ _ => trivial
    cases reply : turn.answer.reply q with
    | none =>
      simp only [reply]
      exact ⟨admits, trivial⟩
    | some result =>
      cases result with
      | ok a =>
        simp only [reply]
        obtain ⟨keep, post⟩ := ok _ a admits.invariant hp
        rw [← m.run_snoc] at keep post
        exact ⟨⟨keep, interference⟩, post⟩
      | error error =>
        simp only [reply]
        obtain ⟨keep, post⟩ := err _ error admits.invariant hp
        rw [← m.run_snoc] at keep post
        exact ⟨⟨keep, interference⟩, post⟩

/-- A run from an empty transcript. -/
lemma start {program : Dialogue Answer ε α} (h : Monitored m safe p program A R) (initial : safe m.init ∧ p m.init)
    {w : World (Exchange Answer ε) Empty (Exchange Answer ε)} (empty : w.log = []) :
    safe (m.run (program w).2.log) ∧
      Outcome (fun a log => A a (m.run log)) (fun error log => R error (m.run log)) (program w) := by
  have first : safe (m.run w.log) ∧ p (m.run w.log) := by
    rw [empty, m.run_nil]
    exact initial
  obtain ⟨admits, outcome⟩ := h w ⟨first.1, fun _ _ _ _ => trivial⟩ first.2
  exact ⟨admits.invariant, outcome⟩

end Monitored
end Lib
