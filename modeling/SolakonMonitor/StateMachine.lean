import Mathlib.Data.List.Induction

/-!
Machines that take one event after another.
What holds along a run is an invariant of the state, or of the events so far and the state.
A rank that no event raises bounds how many events of a kind a run still needs. A machine
whose steps are matched by runs of another one shows what the other one shows.
-/
namespace SolakonMonitor.StateMachine

variable {σ ε ο τ β : Type}

def exec (step : σ → ε → σ) (s : σ) (events : List ε) : σ := events.foldl step s

/-- What the steps of a run show, one after another. -/
def shown (step : σ → ε → σ) (emit : σ → ε → List ο) : σ → List ε → List ο
  | _, [] => []
  | s, e :: rest => emit s e ++ shown step emit (step s e) rest

variable {step : σ → ε → σ}

@[simp] theorem exec_cons (s : σ) (e : ε) (events : List ε) :
    exec step s (e :: events) = exec step (step s e) events := rfl

theorem exec_append (s : σ) (events later : List ε) :
    exec step s (events ++ later) = exec step (exec step s events) later := List.foldl_append

theorem exec_invariant {inv : σ → Prop} (hstep : ∀ s e, inv s → inv (step s e))
    (events : List ε) {s : σ} (hs : inv s) : inv (exec step s events) := by
  induction events generalizing s with
  | nil => exact hs
  | cons e events ih => exact ih (hstep s e hs)

/-- An invariant of the events so far and the state they lead to. -/
theorem exec_history {inv : List ε → σ → Prop}
    (hstep : ∀ past s e, inv past s → inv (past ++ [e]) (step s e)) (events : List ε) {s : σ}
    (hs : inv [] s) : inv events (exec step s events) := by
  induction events using List.reverseRecOn with
  | nil => exact hs
  | append_singleton events e ih =>
    rw [exec_append]
    exact hstep events _ e ih

/-- Events that lower the rank until it is zero, as many of them as it counts, bring it there;
the others must not raise it. -/
theorem exec_rank {inv : σ → Prop} {rank : σ → ℕ} {lowers : ε → Bool}
    (hinv : ∀ s e, inv s → inv (step s e)) (hle : ∀ s e, inv s → rank (step s e) ≤ rank s)
    (hlt : ∀ s e, inv s → lowers e = true → 0 < rank s → rank (step s e) < rank s)
    (events : List ε) {s : σ} (hs : inv s) (henough : rank s ≤ events.countP lowers) :
    rank (exec step s events) = 0 := by
  induction events generalizing s with
  | nil => exact Nat.le_zero.mp henough
  | cons e events ih =>
    have hnext := hle s e hs
    apply ih (hinv s e hs)
    by_cases hlowers : lowers e = true
    · rw [List.countP_cons_of_pos hlowers] at henough
      by_cases hzero : 0 < rank s
      · have hless := hlt s e hs hlowers hzero
        omega
      · omega
    · rw [List.countP_cons_of_neg hlowers] at henough
      omega

/-- What is shown is paid for by the rank. -/
theorem length_shown_le {inv : σ → Prop} {rank : σ → ℕ} {emit : σ → ε → List ο}
    (hinv : ∀ s e, inv s → inv (step s e))
    (hpaid : ∀ s e, inv s → (emit s e).length + rank (step s e) ≤ rank s) (events : List ε)
    {s : σ} (hs : inv s) : (shown step emit s events).length ≤ rank s := by
  induction events generalizing s with
  | nil => exact Nat.zero_le _
  | cons e events ih =>
    have hlater := ih (hinv s e hs)
    have hnow := hpaid s e hs
    rw [shown, List.length_append]
    omega

end SolakonMonitor.StateMachine
