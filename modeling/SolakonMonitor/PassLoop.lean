import Mathlib.Data.List.Infix

/-!
Loops that make one pass for each input and are left after a pass.
A pass may break off. What every pass keeps is kept by the loop, and a loop whose passes follow
those of another one returns when the other one does.
-/
namespace SolakonMonitor.PassLoop

variable {α β σ τ : Type}

/-- The loop is left after a pass, or when the inputs come to an end. -/
def loop (pass : α → σ → Option σ) (leaves : α → Bool) : List α → σ → Option σ
  | [], s => some s
  | a :: rest, s => do
    let s ← pass a s
    if leaves a then return s else loop pass leaves rest s

def passed (leaves : α → Bool) : List α → List α
  | [] => []
  | a :: rest => if leaves a then [a] else a :: passed leaves rest

theorem passed_initial (leaves : α → Bool) (inputs : List α) :
    passed leaves inputs <+: inputs := by
  induction inputs with
  | nil => exact List.prefix_refl _
  | cons a rest ih =>
    rw [passed]
    split
    · exact ⟨rest, rfl⟩
    · exact List.cons_prefix_cons.mpr ⟨rfl, ih⟩

variable {pass : α → σ → Option σ} {leaves : α → Bool}

/-- When every pass comes to an end and keeps an invariant, so does the loop. -/
theorem loop_returns {inv : σ → Prop}
    (hpass : ∀ a s, inv s → ∃ s', pass a s = some s' ∧ inv s') (leaves : α → Bool)
    (inputs : List α) {s : σ} (hs : inv s) :
    ∃ s', loop pass leaves inputs s = some s' ∧ inv s' := by
  induction inputs generalizing s with
  | nil => exact ⟨s, rfl, hs⟩
  | cons a rest ih =>
    obtain ⟨s', hstep, hs'⟩ := hpass a s hs
    by_cases hleaves : leaves a = true
    · refine ⟨s', ?_, hs'⟩
      simp only [loop, hstep, hleaves, if_true, Option.bind_eq_bind, Option.bind_some,
        Option.pure_def]
    · obtain ⟨s'', hloop, hs''⟩ := ih hs'
      refine ⟨s'', ?_, hs''⟩
      simp only [loop, hstep, hleaves, Bool.false_eq_true, if_false, Option.bind_eq_bind,
        Option.bind_some, hloop]

/-- What every pass that returns keeps holds when the loop is left. -/
theorem loop_keeps {inv : σ → Prop} (hpass : ∀ a s s', inv s → pass a s = some s' → inv s')
    (inputs : List α) {s s' : σ} (hs : inv s) (hloop : loop pass leaves inputs s = some s') :
    inv s' := by
  induction inputs generalizing s with
  | nil =>
    cases hloop
    exact hs
  | cons a rest ih =>
    rw [loop, Option.bind_eq_bind] at hloop
    obtain ⟨s₁, hstep, hloop⟩ := Option.bind_eq_some_iff.mp hloop
    have hs₁ := hpass a s s₁ hs hstep
    split at hloop
    · cases hloop
      exact hs₁
    · exact ih hs₁ hloop

/-- A loop whose passes follow those of a loop that returns returns with it; the relation between
the states may depend on the inputs so far. -/
theorem loop_simulates {pass' : β → τ → Option τ} {leaves' : β → Bool} (f : α → β)
    {rel : List α → σ → τ → Prop} (hleaves : ∀ a, leaves a = leaves' (f a))
    (inputs : List α) {past : List α}
    (hpass : ∀ before a s t t', before ++ [a] <+: past ++ inputs → rel before s t →
      pass' (f a) t = some t' → ∃ s', pass a s = some s' ∧ rel (before ++ [a]) s' t')
    {s : σ} {t t' : τ} (hst : rel past s t)
    (hloop : loop pass' leaves' (inputs.map f) t = some t') :
    ∃ s', loop pass leaves inputs s = some s' ∧ rel (past ++ passed leaves inputs) s' t' := by
  induction inputs generalizing past s t with
  | nil =>
    cases hloop
    rw [passed, List.append_nil]
    exact ⟨s, rfl, hst⟩
  | cons a rest ih =>
    rw [List.map_cons, loop, Option.bind_eq_bind, ← hleaves] at hloop
    obtain ⟨t₁, hstep', hloop⟩ := Option.bind_eq_some_iff.mp hloop
    rw [List.append_cons] at hpass
    obtain ⟨s₁, hstep, hst₁⟩ := hpass past a s t t₁ (List.prefix_append _ _) hst hstep'
    rw [passed, loop, hstep, Option.bind_eq_bind, Option.bind_some]
    split at hloop
    · rename_i hleft
      cases hloop
      rw [if_pos hleft, if_pos hleft]
      exact ⟨s₁, rfl, hst₁⟩
    · rename_i hstays
      obtain ⟨s', hlater, hst'⟩ := ih hpass hst₁ hloop
      rw [if_neg hstays, if_neg hstays, List.append_cons]
      exact ⟨s', hlater, hst'⟩

end SolakonMonitor.PassLoop
