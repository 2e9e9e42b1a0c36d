import Mathlib.Logic.Function.Basic
import Mathlib.Data.List.Nodup

/-!
Computations that ask typed questions and go on with the answers.
A dialogue is a well-founded tree; it is given a meaning by a table that
answers every question, or by a handler that answers from a changing state and
may break off. A handler that keeps to a table gives the table's result, and
when no question is asked twice every run of a handler keeps to some table.
-/
namespace SolakonMonitor

inductive Dialogue (Q : Type) (A : Q → Type) (α : Type) : Type where
  | done (a : α)
  | ask (q : Q) (next : A q → Dialogue Q A α)

namespace Dialogue

variable {Q : Type} {A : Q → Type} {α β σ : Type}

def bind : Dialogue Q A α → (α → Dialogue Q A β) → Dialogue Q A β
  | .done a, k => k a
  | .ask q next, k => .ask q (fun b => (next b).bind k)

instance : Monad (Dialogue Q A) where
  pure := .done
  bind := bind

def question (q : Q) : Dialogue Q A (A q) := .ask q .done

/-- The result against a fixed table of answers. -/
def answer (table : (q : Q) → A q) : Dialogue Q A α → α
  | .done a => a
  | .ask q next => (next (table q)).answer table

/-- The result against a handler with a state; `none` is a run broken off. -/
def runWith (handler : (q : Q) → σ → Option (A q × σ)) : Dialogue Q A α → σ → Option (α × σ)
  | .done a, s => some (a, s)
  | .ask q next, s => (handler q s).bind (fun p => (next p.1).runWith handler p.2)

/-- The questions of a run against a handler, each with the answer it got. -/
def transcript (handler : (q : Q) → σ → Option (A q × σ)) :
    Dialogue Q A α → σ → List ((q : Q) × A q)
  | .done _, _ => []
  | .ask q next, s =>
    match handler q s with
    | none => []
    | some p => ⟨q, p.1⟩ :: (next p.1).transcript handler p.2

/-- Whatever the answers, the questions asked are exactly these, in order. -/
inductive Asks : Dialogue Q A α → List Q → Prop
  | done (a : α) : Asks (.done a) []
  | ask (q : Q) {next : A q → Dialogue Q A α} {qs : List Q} :
      (∀ b, Asks (next b) qs) → Asks (.ask q next) (q :: qs)

@[simp] theorem pure_eq_done (a : α) : (pure a : Dialogue Q A α) = .done a := rfl

@[simp] theorem answer_done (table : (q : Q) → A q) (a : α) :
    (.done a : Dialogue Q A α).answer table = a := rfl

theorem answer_bind (table : (q : Q) → A q) (d : Dialogue Q A α)
    (k : α → Dialogue Q A β) :
    (d >>= k).answer table = (k (d.answer table)).answer table := by
  induction d with
  | done a => rfl
  | ask q next ih => exact ih (table q)

theorem Asks.bind {d : Dialogue Q A α} {k : α → Dialogue Q A β} {qs rs : List Q}
    (hd : Asks d qs) (hk : ∀ a, Asks (k a) rs) : Asks (d >>= k) (qs ++ rs) := by
  induction hd with
  | done a => exact hk a
  | ask q _ ih => exact .ask q (fun b => ih b)

/-- Only the answers to the questions asked matter. -/
theorem answer_congr {table table' : (q : Q) → A q} {d : Dialogue Q A α} {qs : List Q}
    (hd : Asks d qs) (heq : ∀ q ∈ qs, table q = table' q) :
    d.answer table = d.answer table' := by
  induction hd with
  | done a => rfl
  | @ask q next qs _ ih =>
    have hq : table q = table' q := heq q List.mem_cons_self
    have htail := ih (table q) (fun r hr => heq r (List.mem_cons_of_mem q hr))
    simpa only [answer, hq] using htail

/-- A handler that answers from a table, as long as an invariant of its state
holds, runs every dialogue to the table's result. -/
theorem runWith_table {handler : (q : Q) → σ → Option (A q × σ)} {table : (q : Q) → A q}
    {inv : σ → Prop}
    (hstep : ∀ q s, inv s → ∃ s', handler q s = some (table q, s') ∧ inv s')
    (d : Dialogue Q A α) (s : σ) (hs : inv s) :
    ∃ s', d.runWith handler s = some (d.answer table, s') ∧ inv s' := by
  induction d generalizing s with
  | done a => exact ⟨s, rfl, hs⟩
  | ask q next ih =>
    obtain ⟨t, ht, hinv⟩ := hstep q s hs
    obtain ⟨s', hrun, hinv'⟩ := ih (table q) t hinv
    refine ⟨s', ?_, hinv'⟩
    simpa only [runWith, ht, Option.bind_some, answer] using hrun

/-- A handler that answers the questions asked, and keeps an invariant of its state, runs the
dialogue to its end. -/
theorem Asks.runWith_invariant {handler : (q : Q) → σ → Option (A q × σ)} {inv : σ → Prop}
    {d : Dialogue Q A α} {qs : List Q} (hd : Asks d qs)
    (hstep : ∀ q ∈ qs, ∀ s, inv s → ∃ b s', handler q s = some (b, s') ∧ inv s') {s : σ}
    (hs : inv s) : ∃ a s', d.runWith handler s = some (a, s') ∧ inv s' := by
  induction hd generalizing s with
  | done a => exact ⟨a, s, rfl, hs⟩
  | @ask q next qs _ ih =>
    obtain ⟨b, t, ht, hinv⟩ := hstep q List.mem_cons_self s hs
    obtain ⟨a, s', hrun, hinv'⟩ := ih b (fun r hr => hstep r (List.mem_cons_of_mem q hr)) hinv
    refine ⟨a, s', ?_, hinv'⟩
    simpa only [runWith, ht, Option.bind_some] using hrun

/-- A measure that each answer raises by no more than a cost is raised by no more than that for
every question. -/
theorem Asks.runWith_cost {handler : (q : Q) → σ → Option (A q × σ)} {inv : σ → Prop}
    {measure : σ → ℕ} {cost : ℕ} {d : Dialogue Q A α} {qs : List Q} (hd : Asks d qs)
    (hstep : ∀ q ∈ qs, ∀ s, inv s → ∃ b s', handler q s = some (b, s') ∧ inv s' ∧
      measure s' ≤ measure s + cost) {s : σ} (hs : inv s) :
    ∃ a s', d.runWith handler s = some (a, s') ∧ inv s' ∧
      measure s' ≤ measure s + qs.length * cost := by
  induction hd generalizing s with
  | done a => exact ⟨a, s, rfl, hs, Nat.le_add_right _ _⟩
  | @ask q next qs _ ih =>
    obtain ⟨b, t, ht, hinv, hnow⟩ := hstep q List.mem_cons_self s hs
    obtain ⟨a, s', hrun, hinv', hlater⟩ :=
      ih b (fun r hr => hstep r (List.mem_cons_of_mem q hr)) hinv
    refine ⟨a, s', ?_, hinv', ?_⟩
    · simpa only [runWith, ht, Option.bind_some] using hrun
    · rw [List.length_cons, Nat.succ_mul]
      omega

/-- When the answers depend on how many questions there have been, and none is asked twice, the
place of a question in the list says which answer it gets. -/
theorem Asks.runWith_counted [DecidableEq Q] {handler : (q : Q) → σ → Option (A q × σ)}
    {inv : σ → Prop} {count : σ → ℕ} {table : ℕ → (q : Q) → A q} {d : Dialogue Q A α}
    {qs : List Q} (hd : Asks d qs) (hn : qs.Nodup)
    (hstep : ∀ q ∈ qs, ∀ s, inv s → ∃ s', handler q s = some (table (count s) q, s') ∧ inv s' ∧
      count s' = count s + 1) {s : σ} (hs : inv s) :
    ∃ s', d.runWith handler s = some (d.answer (fun q => table (count s + qs.idxOf q) q), s') ∧
      inv s' ∧ count s' = count s + qs.length := by
  induction hd generalizing s with
  | done a => exact ⟨s, rfl, hs, rfl⟩
  | @ask q next qs hnext ih =>
    obtain ⟨hq, hqs⟩ := List.nodup_cons.mp hn
    obtain ⟨t, ht, hinv, hcount⟩ := hstep q List.mem_cons_self s hs
    obtain ⟨s', hrun, hinv', hcount'⟩ := ih (table (count s) q) hqs
      (fun r hr => hstep r (List.mem_cons_of_mem q hr)) hinv
    refine ⟨s', ?_, hinv', ?_⟩
    · have hfirst : count s + (q :: qs).idxOf q = count s := by
        rw [List.idxOf_cons_self, Nat.add_zero]
      have hlater : ∀ r ∈ qs, table (count t + qs.idxOf r) r =
          table (count s + (q :: qs).idxOf r) r := by
        intro r hr
        have hne : q ≠ r := fun h => hq (h ▸ hr)
        rw [List.idxOf_cons_ne _ hne, hcount, Nat.succ_eq_add_one]
        congr 1
        omega
      rw [answer_congr (hnext _) hlater] at hrun
      simp only [runWith, ht, Option.bind_some, answer, hfirst]
      exact hrun
    · rw [hcount', hcount, List.length_cons]
      omega

/-- What each question adds to is what a finished run has added, in order. -/
theorem Asks.runWith_history {handler : (q : Q) → σ → Option (A q × σ)} {inv : List Q → σ → Prop}
    {d : Dialogue Q A α} {qs : List Q} (hd : Asks d qs)
    (hstep : ∀ q ∈ qs, ∀ past s b s', inv past s → handler q s = some (b, s') →
      inv (past ++ [q]) s') {past : List Q} {s s' : σ} {a : α} (hs : inv past s)
    (hrun : d.runWith handler s = some (a, s')) : inv (past ++ qs) s' := by
  induction hd generalizing past s with
  | done b =>
    cases hrun
    rw [List.append_nil]
    exact hs
  | @ask q next qs _ ih =>
    rw [runWith] at hrun
    obtain ⟨⟨b, t⟩, ht, hrun⟩ := Option.bind_eq_some_iff.mp hrun
    have hnext := hstep q List.mem_cons_self past s b t hs ht
    rw [List.append_cons]
    exact ih b (fun r hr => hstep r (List.mem_cons_of_mem q hr)) hnext hrun

/-- Whatever the answers, the result has a property. -/
inductive Yields (P : α → Prop) : Dialogue Q A α → Prop
  | done {a : α} : P a → Yields P (.done a)
  | ask (q : Q) {next : A q → Dialogue Q A α} :
      (∀ b, Yields P (next b)) → Yields P (.ask q next)

theorem yields_true (d : Dialogue Q A α) : Yields (fun _ => True) d := by
  induction d with
  | done a => exact .done trivial
  | ask q next ih => exact .ask q ih

theorem Yields.bind {P : α → Prop} {R : β → Prop} {d : Dialogue Q A α}
    {k : α → Dialogue Q A β} (hd : Yields P d) (hk : ∀ a, P a → Yields R (k a)) :
    Yields R (d >>= k) := by
  induction hd with
  | done ha => exact hk _ ha
  | ask q _ ih => exact .ask q ih

theorem Yields.runWith {P : α → Prop} {handler : (q : Q) → σ → Option (A q × σ)}
    {d : Dialogue Q A α} (hd : Yields P d) {s s' : σ} {a : α}
    (hrun : d.runWith handler s = some (a, s')) : P a := by
  induction hd generalizing s with
  | done ha =>
    cases hrun
    exact ha
  | ask q _ ih =>
    rw [Dialogue.runWith] at hrun
    obtain ⟨⟨b, t⟩, _, hrun⟩ := Option.bind_eq_some_iff.mp hrun
    exact ih b hrun

/-- A finished run of a dialogue that repeats no question is its result against
one fixed table, which holds the answers the run got and is free elsewhere. -/
theorem exists_table [DecidableEq Q] {handler : (q : Q) → σ → Option (A q × σ)}
    {d : Dialogue Q A α} {qs : List Q} (hd : Asks d qs) (hn : qs.Nodup)
    (table₀ : (q : Q) → A q) {s s' : σ} {a : α} (hrun : d.runWith handler s = some (a, s')) :
    ∃ table : (q : Q) → A q, (∀ q, q ∉ qs → table q = table₀ q) ∧ d.answer table = a ∧
      d.transcript handler s = qs.map (fun q => ⟨q, table q⟩) := by
  induction hd generalizing s table₀ with
  | done b =>
    have hb : b = a := congrArg Prod.fst (Option.some.inj hrun)
    exact ⟨table₀, fun _ _ => rfl, hb, rfl⟩
  | @ask q next qs _ ih =>
    have hq : q ∉ qs := (List.nodup_cons.mp hn).1
    cases hstep : handler q s with
    | none => simp [runWith, hstep] at hrun
    | some p =>
      simp only [runWith, hstep, Option.bind_some] at hrun
      obtain ⟨table, hfree, hanswer, htranscript⟩ :=
        ih p.1 (List.nodup_cons.mp hn).2 (Function.update table₀ q p.1) hrun
      have hp : table q = p.1 := by rw [hfree q hq, Function.update_self]
      refine ⟨table, ?_, ?_, ?_⟩
      · intro r hr
        have hrq : r ≠ q := fun h => hr (h ▸ List.mem_cons_self)
        rw [hfree r (fun h => hr (List.mem_cons_of_mem q h)), Function.update_of_ne hrq]
      · simpa only [answer, hp] using hanswer
      · simp only [transcript, hstep, htranscript, List.map_cons, hp]

end Dialogue

end SolakonMonitor
