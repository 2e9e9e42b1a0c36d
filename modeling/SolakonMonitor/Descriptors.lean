import Mathlib.Data.List.Nodup
import Mathlib.Data.List.Perm.Basic
import Mathlib.Data.List.Range

/-!
The sockets that a process opens and closes.
A descriptor is given out again after it is closed, so every socket gets a number of its
own when it is opened. A close of a descriptor that is not open is counted apart. A table
carries the proof that each socket opened so far is either open or has been closed, once.
What holds along a run is an invariant of the calls made and the state they lead to.
-/
namespace SolakonMonitor.Descriptors

variable {δ : Type}

/-- Each of the first `count` sockets is open or closed, and not both. -/
def Accounted (count : ℕ) (opened : List (δ × ℕ)) (closed : List ℕ) : Prop :=
  (opened.map Prod.snd ++ closed).Perm (List.range count)

structure Table (δ : Type) where
  count : ℕ
  opened : List (δ × ℕ)
  closed : List ℕ
  stray : ℕ
  accounted : Accounted count opened closed

theorem accounted_nil : Accounted 0 ([] : List (δ × ℕ)) [] := List.Perm.nil

theorem accounted_enter {count : ℕ} {opened : List (δ × ℕ)} {closed : List ℕ}
    (h : Accounted count opened closed) (fd : δ) :
    Accounted (count + 1) ((fd, count) :: opened) closed := by
  rw [Accounted, List.range_succ, List.map_cons, List.cons_append]
  exact (h.cons count).trans (List.perm_append_singleton count (List.range count)).symm

theorem accounted_erase [DecidableEq δ] {count : ℕ} {opened : List (δ × ℕ)} {closed : List ℕ}
    (h : Accounted count opened closed) {p : δ × ℕ} (hp : p ∈ opened) :
    Accounted count (opened.erase p) (p.2 :: closed) := by
  refine List.Perm.trans ?_ h
  have hmove := ((List.perm_cons_erase hp).map Prod.snd).append_right closed
  rw [List.map_cons, List.cons_append] at hmove
  exact List.perm_middle.trans hmove.symm

namespace Table

def empty : Table δ := ⟨0, [], [], 0, accounted_nil⟩

instance : Inhabited (Table δ) := ⟨empty⟩

def enter (t : Table δ) (fd : δ) : Table δ :=
  ⟨t.count + 1, (fd, t.count) :: t.opened, t.closed, t.stray, accounted_enter t.accounted fd⟩

def close [DecidableEq δ] (t : Table δ) (fd : δ) : Table δ :=
  match h : t.opened.find? (fun p => p.1 = fd) with
  | some p =>
    ⟨t.count, t.opened.erase p, p.2 :: t.closed, t.stray,
      accounted_erase t.accounted (List.mem_of_find?_eq_some h)⟩
  | none => ⟨t.count, t.opened, t.closed, t.stray + 1, t.accounted⟩

theorem closed_once {t : Table δ} (h : t.opened = []) {s : ℕ} (hs : s < t.count) :
    t.closed.count s = 1 := by
  have hperm := t.accounted
  rw [Accounted, h, List.map_nil, List.nil_append] at hperm
  rw [hperm.count_eq, List.count_eq_one_of_mem List.nodup_range (List.mem_range.mpr hs)]

theorem count_accounted (t : Table δ) {s : ℕ} (hs : s < t.count) :
    (t.opened.map Prod.snd).count s + t.closed.count s = 1 := by
  rw [← List.count_append, t.accounted.count_eq,
    List.count_eq_one_of_mem List.nodup_range (List.mem_range.mpr hs)]

theorem close_single [DecidableEq δ] {t : Table δ} {fd : δ} (h : t.opened.map Prod.fst = [fd]) :
    (t.close fd).opened = [] ∧ (t.close fd).stray = t.stray := by
  obtain ⟨p, hopened, hfd⟩ : ∃ p, t.opened = [p] ∧ p.1 = fd := by
    obtain ⟨p, hp, hfd⟩ := List.map_eq_singleton_iff.mp h
    exact ⟨p, hp, hfd⟩
  have hfind : t.opened.find? (fun q => q.1 = fd) = some p := by
    rw [hopened, List.find?_cons_of_pos (by simpa using hfd)]
  unfold close
  split
  · rename_i q hq
    rw [hfind, Option.some.injEq] at hq
    subst hq
    refine ⟨?_, rfl⟩
    change t.opened.erase p = []
    rw [hopened, List.erase_cons_head]
  · rename_i hq
    rw [hfind] at hq
    cases hq

theorem enter_empty {t : Table δ} (h : t.opened = []) (fd : δ) :
    (t.enter fd).opened.map Prod.fst = [fd] := by
  change fd :: t.opened.map Prod.fst = [fd]
  rw [h, List.map_nil]

end Table

/-- A step that is always possible, and leads from what holds before a call to what holds
after it, makes every run possible. -/
theorem run_invariant {α β : Type} {step : β → α → Option β} {start : β}
    (inv : List α → β → Prop) (hstart : inv [] start)
    (hstep : ∀ calls st call, inv calls st → ∃ st', step st call = some st' ∧
      inv (calls ++ [call]) st') (calls : List α) :
    ∃ st, calls.foldlM step start = some st ∧ inv calls st := by
  induction calls using List.reverseRecOn with
  | nil => exact ⟨start, rfl, hstart⟩
  | append_singleton calls call ih =>
    obtain ⟨st, hrun, hinv⟩ := ih
    obtain ⟨st', hnext, hinv'⟩ := hstep calls st call hinv
    refine ⟨st', ?_, hinv'⟩
    rw [List.foldlM_append, hrun]
    simpa using hnext

end SolakonMonitor.Descriptors
