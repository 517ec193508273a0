import Mathlib.Data.List.Basic

/-!
# Programs over a shared log

A program reads and extends a log that it shares with other programs, calls the outside and raises
exceptions. Each call is answered by the next turn of a script, and while the program waits for the
answer the others submit entries of their own. A program whose script has ended is suspended, so its
runs over all scripts are all prefixes of all its runs, under every interleaving.

`Spec rely P m Q R` is partial correctness under a rely condition: from a log with `P`, `m` returns
with `Q` or raises with `R`, and keeps the invariant even when it is suspended.
-/

namespace Lib

/-- What happens during a call: the entries that others submit, the time, and the answer. -/
structure Turn (S A : Type) where
  interference : List S := []
  now : Int := 0
  answer : A

/-- The shared log, the clock and the rest of the script. -/
structure World (E S A : Type) where
  log : List E
  now : Int := 0
  script : List (Turn S A)

/-- Why a program stopped before its end. -/
inductive Halt (ε : Type) where
  | raised (error : ε)
  | suspended
deriving DecidableEq

/-- A program that returns an `α`, raises an `ε` or is suspended. -/
def Program (E S A ε α : Type) : Type := World E S A → Except (Halt ε) α × World E S A

namespace Program
variable {E S A ε α β σ : Type}

/-- Return a value. -/
protected def pure (a : α) : Program E S A ε α := fun w => (.ok a, w)

/-- Run one program after another. -/
protected def bind (m : Program E S A ε α) (f : α → Program E S A ε β) : Program E S A ε β :=
  fun w => match m w with
    | (.ok a, w') => f a w'
    | (.error halt, w') => (.error halt, w')

instance : Monad (Program E S A ε) where
  pure := Program.pure
  bind := Program.bind

/-- Raise an exception. -/
def raise (error : ε) : Program E S A ε α := fun w => (.error (.raised error), w)

/-- Wait for a turn that never comes. -/
def suspend : Program E S A ε α := fun w => (.error .suspended, w)

/-- Return what a computation returns, or raise what it raises. -/
def ofExcept : Except ε α → Program E S A ε α
  | .ok a => .pure a
  | .error error => raise error

/-- Catch the exceptions of a program. -/
def attempt (m : Program E S A ε α) : Program E S A ε (Except ε α) := fun w =>
  match m w with
  | (.ok a, w') => (.ok (.ok a), w')
  | (.error (.raised error), w') => (.ok (.error error), w')
  | (.error .suspended, w') => (.error .suspended, w')

/-- Look at the log. -/
def inspect (f : List E → α) : Program E S A ε α := fun w => (.ok (f w.log), w)

/-- Extend the log in one step, or raise and leave it alone. -/
def transact (f : Int → List E → Except ε (α × List E)) : Program E S A ε α := fun w =>
  match f w.now w.log with
  | .ok (a, log) => (.ok a, { w with log })
  | .error error => (.error (.raised error), w)

/-- Call the outside: others submit their entries, then `answer` reads the turn. A turn that answers
another question suspends the program. -/
def await (submit : List E → S → List E) (answer : A → Option (Except ε α)) : Program E S A ε α :=
  fun w => match w.script with
    | [] => (.error .suspended, w)
    | turn :: script =>
      let w' : World E S A := { log := turn.interference.foldl submit w.log, now := turn.now, script }
      match answer turn.answer with
      | some (.ok a) => (.ok a, w')
      | some (.error error) => (.error (.raised error), w')
      | none => (.error .suspended, w')

/-- `while True`: run the body until it returns, `fuel` times at most. -/
def loop (body : σ → Program E S A ε (σ ⊕ α)) : Nat → σ → Program E S A ε α
  | 0, _ => suspend
  | fuel + 1, s => do
    match ← body s with
    | .inl s' => loop body fuel s'
    | .inr a => return a

/-! ### Runs -/

/-- A run goes on after a program that returned. -/
lemma run_bind_ok {m : Program E S A ε α} {f : α → Program E S A ε β} {w w' : World E S A} {a : α}
    (first : m w = (.ok a, w')) : (m >>= f) w = f a w' := by
  change Program.bind m f w = f a w'
  rw [Program.bind, first]

/-- A run ends with a program that stopped before its end. -/
lemma run_bind_error {m : Program E S A ε α} {f : α → Program E S A ε β} {w w' : World E S A} {halt : Halt ε}
    (first : m w = (.error halt, w')) : (m >>= f) w = (.error halt, w') := by
  change Program.bind m f w = (.error halt, w')
  rw [Program.bind, first]

lemma run_map_ok {m : Program E S A ε α} {f : α → β} {w w' : World E S A} {a : α} (first : m w = (.ok a, w')) :
    (f <$> m) w = (.ok (f a), w') :=
  run_bind_ok first

lemma run_map_error {m : Program E S A ε α} {f : α → β} {w w' : World E S A} {halt : Halt ε}
    (first : m w = (.error halt, w')) : (f <$> m) w = (.error halt, w') :=
  run_bind_error first

lemma run_transact_ok {f : Int → List E → Except ε (α × List E)} {w : World E S A} {a : α} {log : List E}
    (made : f w.now w.log = .ok (a, log)) : (transact f : Program E S A ε α) w = (.ok a, { w with log }) := by
  simp only [transact, made]

lemma run_transact_error {f : Int → List E → Except ε (α × List E)} {w : World E S A} {error : ε}
    (failed : f w.now w.log = .error error) :
    (transact f : Program E S A ε α) w = (.error (.raised error), w) := by
  simp only [transact, failed]

/-- However a run of the program ends, its log is related to the log before. -/
def Moves (related : List E → List E → Prop) (m : Program E S A ε α) : Prop := ∀ w, related w.log (m w).2.log

section Moves
variable {related related' related'' : List E → List E → Prop}

/-- A program that leaves the log alone moves it as any reflexive relation does. -/
lemma Moves.still {m : Program E S A ε α} (refl : ∀ log, related log log) (still : ∀ w, (m w).2 = w) :
    Moves related m := by
  intro w
  rw [still]
  exact refl w.log

/-- Two moves; the first one may also be the last. -/
lemma Moves.bind {m : Program E S A ε α} {f : α → Program E S A ε β} (first : Moves related m)
    (rest : ∀ a, Moves related' (f a)) (stop : ∀ log log', related log log' → related'' log log')
    (trans : ∀ log log' log'', related log log' → related' log' log'' → related'' log log'') :
    Moves related'' (m >>= f) := by
  intro w
  have moved := first w
  cases run : m w with
  | mk result w' =>
    rw [run] at moved
    cases result with
    | ok a =>
      rw [run_bind_ok run]
      exact trans _ _ _ moved (rest a w')
    | error halt =>
      rw [run_bind_error run]
      exact stop _ _ moved

end Moves
end Program

/-- What a program relies on: an invariant of the log, and which entries others submit. -/
structure Rely (E S : Type) where
  invariant : List E → Prop
  submits : S → Prop

/-- The invariant holds and the rest of the script keeps to the rely condition. -/
structure Rely.Admits {E S A : Type} (rely : Rely E S) (w : World E S A) : Prop where
  invariant : rely.invariant w.log
  script : ∀ turn ∈ w.script, ∀ s ∈ turn.interference, rely.submits s

/-- What a run establishes at its end. -/
def Outcome {E S A ε α : Type} (Q : α → List E → Prop) (R : ε → List E → Prop) :
    Except (Halt ε) α × World E S A → Prop
  | (.ok a, w) => Q a w.log
  | (.error (.raised error), w) => R error w.log
  | (.error .suspended, _) => True

/-- What the body of a loop establishes: its assertion again, or the postcondition. -/
def Continues {E σ α : Type} (J : σ → List E → Prop) (Q : α → List E → Prop) :
    σ ⊕ α → List E → Prop
  | .inl s, log => J s log
  | .inr a, log => Q a log

/-- Partial correctness under a rely condition. -/
def Spec {E S A ε α : Type} (rely : Rely E S) (P : List E → Prop) (m : Program E S A ε α)
    (Q : α → List E → Prop) (R : ε → List E → Prop) : Prop :=
  ∀ w, rely.Admits w → P w.log → rely.Admits (m w).2 ∧ Outcome Q R (m w)

namespace Spec
variable {E S A ε α β σ : Type} {rely : Rely E S} {P P' : List E → Prop}
  {Q Q' : α → List E → Prop} {R R' : ε → List E → Prop}

/-- The rule of consequence. -/
lemma weaken {m : Program E S A ε α} (h : Spec rely P m Q R)
    (pre : ∀ log, rely.invariant log → P' log → P log)
    (post : ∀ a log, rely.invariant log → Q a log → Q' a log)
    (exc : ∀ e log, rely.invariant log → R e log → R' e log) : Spec rely P' m Q' R' := by
  intro w admits hp
  obtain ⟨admits', outcome⟩ := h w admits (pre w.log admits.invariant hp)
  refine ⟨admits', ?_⟩
  generalize m w = r at admits' outcome ⊢
  obtain ⟨result, w'⟩ := r
  cases result with
  | ok a => exact post a w'.log admits'.invariant outcome
  | error halt =>
    cases halt with
    | raised e => exact exc e w'.log admits'.invariant outcome
    | suspended => trivial

/-- Strengthen the precondition. -/
lemma pre {m : Program E S A ε α} (h : Spec rely P m Q R)
    (entails : ∀ log, rely.invariant log → P' log → P log) : Spec rely P' m Q R :=
  h.weaken entails (fun _ _ _ q => q) (fun _ _ _ r => r)

/-- Weaken the postcondition. -/
lemma post {m : Program E S A ε α} (h : Spec rely P m Q R)
    (entails : ∀ a log, rely.invariant log → Q a log → Q' a log) : Spec rely P m Q' R :=
  h.weaken (fun _ _ p => p) entails (fun _ _ _ r => r)

/-- A fact about no log may be assumed. -/
lemma assuming {fact : Prop} {m : Program E S A ε α} (h : fact → Spec rely P m Q R) :
    Spec rely (fun log => fact ∧ P log) m Q R :=
  fun w admits ⟨hf, hp⟩ => h hf w admits hp

lemma ret {a : α} (h : ∀ log, rely.invariant log → P log → Q a log) :
    Spec rely P (pure a : Program E S A ε α) Q R :=
  fun w admits hp => ⟨admits, h w.log admits.invariant hp⟩

lemma bind {m : Program E S A ε α} {f : α → Program E S A ε β} {T : β → List E → Prop}
    (first : Spec rely P m Q R) (rest : ∀ a, Spec rely (Q a) (f a) T R) :
    Spec rely P (m >>= f) T R := by
  intro w admits hp
  obtain ⟨admits', outcome⟩ := first w admits hp
  change rely.Admits (Program.bind m f w).2 ∧ Outcome T R (Program.bind m f w)
  unfold Program.bind
  generalize m w = r at admits' outcome ⊢
  obtain ⟨result, w'⟩ := r
  cases result with
  | ok a => exact rest a w' admits' outcome
  | error halt =>
    cases halt with
    | raised e => exact ⟨admits', outcome⟩
    | suspended => exact ⟨admits', trivial⟩

lemma raise {error : ε} (h : ∀ log, rely.invariant log → P log → R error log) :
    Spec rely P (Program.raise error : Program E S A ε α) Q R :=
  fun w admits hp => ⟨admits, h w.log admits.invariant hp⟩

lemma suspend : Spec rely P (Program.suspend : Program E S A ε α) Q R :=
  fun _ admits _ => ⟨admits, trivial⟩

lemma ofExcept {x : Except ε α} (ok : ∀ a log, rely.invariant log → P log → x = .ok a → Q a log)
    (err : ∀ e log, rely.invariant log → P log → x = .error e → R e log) :
    Spec rely P (Program.ofExcept x : Program E S A ε α) Q R := by
  intro w admits hp
  cases x with
  | ok a => exact ⟨admits, ok a w.log admits.invariant hp rfl⟩
  | error e => exact ⟨admits, err e w.log admits.invariant hp rfl⟩

/-- What a caught program raised becomes a result. -/
lemma attempt {m : Program E S A ε α} (h : Spec rely P m Q R) :
    Spec rely P (Program.attempt m)
      (fun result log => match result with
        | .ok a => Q a log
        | .error e => R e log) R' := by
  intro w admits hp
  obtain ⟨admits', outcome⟩ := h w admits hp
  unfold Program.attempt
  generalize m w = r at admits' outcome ⊢
  obtain ⟨result, w'⟩ := r
  cases result with
  | ok a => exact ⟨admits', outcome⟩
  | error halt =>
    cases halt with
    | raised e => exact ⟨admits', outcome⟩
    | suspended => exact ⟨admits', trivial⟩

/-- Go on after a caught program, by its two results. -/
lemma catching {m : Program E S A ε α} {f : Except ε α → Program E S A ε β} {T : β → List E → Prop}
    (first : Spec rely P m Q R) (ok : ∀ a, Spec rely (Q a) (f (.ok a)) T R')
    (err : ∀ e, Spec rely (R e) (f (.error e)) T R') :
    Spec rely P (Program.attempt m >>= f) T R' := by
  refine bind (attempt first) fun result => ?_
  cases result with
  | ok a => exact ok a
  | error e => exact err e

lemma inspect {f : List E → α} (h : ∀ log, rely.invariant log → P log → Q (f log) log) :
    Spec rely P (Program.inspect f : Program E S A ε α) Q R :=
  fun w admits hp => ⟨admits, h w.log admits.invariant hp⟩

lemma transact {f : Int → List E → Except ε (α × List E)}
    (ok : ∀ now log a log', rely.invariant log → P log → f now log = .ok (a, log') →
      rely.invariant log' ∧ Q a log')
    (err : ∀ now e log, rely.invariant log → P log → f now log = .error e → R e log) :
    Spec rely P (Program.transact f : Program E S A ε α) Q R := by
  intro w admits hp
  unfold Program.transact
  cases h : f w.now w.log with
  | ok r =>
    obtain ⟨a, log'⟩ := r
    obtain ⟨keep, post⟩ := ok w.now w.log a log' admits.invariant hp h
    exact ⟨⟨keep, admits.script⟩, post⟩
  | error e => exact ⟨admits, err w.now e w.log admits.invariant hp h⟩

/-- An assertion that no admitted submission disturbs. -/
def Stable (rely : Rely E S) (submit : List E → S → List E) (P : List E → Prop) : Prop :=
  ∀ log s, rely.submits s → rely.invariant log → P log →
    rely.invariant (submit log s) ∧ P (submit log s)

lemma Stable.fold {submit : List E → S → List E} (stable : Stable rely submit P)
    {submissions : List S} {log : List E} (admitted : ∀ s ∈ submissions, rely.submits s)
    (inv : rely.invariant log) (hp : P log) :
    rely.invariant (submissions.foldl submit log) ∧ P (submissions.foldl submit log) := by
  induction submissions generalizing log with
  | nil => exact ⟨inv, hp⟩
  | cons s rest ih =>
    obtain ⟨inv', hp'⟩ := stable log s (admitted s (by simp)) inv hp
    exact ih (fun s' mem => admitted s' (by simp [mem])) inv' hp'

/-- The answer to a call meets a log that others have extended. -/
lemma await {submit : List E → S → List E} {answer : A → Option (Except ε α)}
    (stable : Stable rely submit P)
    (ok : ∀ a reply log, rely.invariant log → P log → answer reply = some (.ok a) → Q a log)
    (err : ∀ e log, rely.invariant log → P log → R e log) :
    Spec rely P (Program.await submit answer : Program E S A ε α) Q R := by
  intro w admits hp
  unfold Program.await
  cases script : w.script with
  | nil => exact ⟨admits, trivial⟩
  | cons turn rest =>
    have admitted := admits.script
    rw [script] at admitted
    obtain ⟨inv, hp'⟩ := stable.fold (admitted turn (by simp)) admits.invariant hp
    have rest' : ∀ t ∈ rest, ∀ s ∈ t.interference, rely.submits s :=
      fun t mem => admitted t (by simp [mem])
    cases reply : answer turn.answer with
    | none =>
      simp only [reply]
      exact ⟨⟨inv, rest'⟩, trivial⟩
    | some result =>
      cases result with
      | ok a =>
        simp only [reply]
        exact ⟨⟨inv, rest'⟩, ok a turn.answer _ inv hp' reply⟩
      | error e =>
        simp only [reply]
        exact ⟨⟨inv, rest'⟩, err e _ inv hp'⟩

/-- A loop keeps the assertion that its body keeps. -/
lemma loop {body : σ → Program E S A ε (σ ⊕ α)} {J : σ → List E → Prop}
    (step : ∀ s, Spec rely (J s) (body s) (Continues J Q) R) (fuel : Nat) (s : σ) :
    Spec rely (J s) (Program.loop body fuel s) Q R := by
  induction fuel generalizing s with
  | zero => exact suspend
  | succ fuel ih =>
    refine (step s).bind fun result => ?_
    cases result with
    | inl s' => exact ih s'
    | inr a => exact ret fun _ _ q => q

end Spec
end Lib
