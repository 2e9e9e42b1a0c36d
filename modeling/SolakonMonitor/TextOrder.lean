import SolakonMonitor.DecimalText
import Mathlib.Data.List.Pairwise
import Mathlib.Data.List.Sort

/-!
Texts in the order of their bytes: the first byte that differs decides, and a text
comes before its continuations. A common beginning does not change the order, and
neither does what follows two texts of digits.
-/
namespace SolakonMonitor.TextOrder

open BigEndian DecimalText

def textLess : Bytes → Bytes → Bool
  | _, [] => false
  | [], _ :: _ => true
  | a :: x, b :: y => if a = b then textLess x y else a.toNat < b.toNat

@[simp] theorem textLess_nil (x : Bytes) : textLess x [] = false := by
  cases x <;> rfl

@[simp] theorem textLess_nil_cons (b : UInt8) (y : Bytes) : textLess [] (b :: y) = true := rfl

theorem textLess_cons (a b : UInt8) (x y : Bytes) :
    textLess (a :: x) (b :: y) = if a = b then textLess x y else a.toNat < b.toNat := rfl

theorem textLess_irrefl (x : Bytes) : textLess x x = false := by
  induction x with
  | nil => rfl
  | cons a x ih => rw [textLess_cons, if_pos rfl, ih]

theorem textLess_asymm {x y : Bytes} (h : textLess x y = true) : textLess y x = false := by
  induction x generalizing y with
  | nil => exact textLess_nil y
  | cons a x ih =>
    cases y with
    | nil => cases h
    | cons b y =>
      rw [textLess_cons] at h ⊢
      by_cases hab : a = b
      · rw [if_pos hab] at h
        rw [if_pos hab.symm]
        exact ih h
      · rw [if_neg hab] at h
        rw [if_neg (Ne.symm hab)]
        simp only [decide_eq_true_eq, decide_eq_false_iff_not] at h ⊢
        omega

theorem textLess_total {x y : Bytes} (hne : x ≠ y) : textLess x y = true ∨ textLess y x = true := by
  induction x generalizing y with
  | nil =>
    cases y with
    | nil => exact absurd rfl hne
    | cons b y => exact Or.inl rfl
  | cons a x ih =>
    cases y with
    | nil => exact Or.inr rfl
    | cons b y =>
      rw [textLess_cons, textLess_cons]
      by_cases hab : a = b
      · subst hab
        rw [if_pos rfl, if_pos rfl]
        exact ih (fun hxy => hne (by rw [hxy]))
      · have hnat : a.toNat ≠ b.toNat := fun h => hab (UInt8.toNat_inj.mp h)
        rw [if_neg hab, if_neg (Ne.symm hab), decide_eq_true_eq, decide_eq_true_eq]
        omega

theorem textLess_trans {x y z : Bytes} (h : textLess x y = true) (h' : textLess y z = true) :
    textLess x z = true := by
  induction x generalizing y z with
  | nil =>
    cases z with
    | nil => rw [textLess_nil] at h'; cases h'
    | cons c z => rfl
  | cons a x ih =>
    cases y with
    | nil => cases h
    | cons b y =>
      cases z with
      | nil => cases h'
      | cons c z =>
        rw [textLess_cons] at h h' ⊢
        by_cases hab : a = b
        · subst hab
          rw [if_pos rfl] at h
          by_cases hac : a = c
          · rw [if_pos hac] at h' ⊢
            exact ih h h'
          · rw [if_neg hac] at h' ⊢
            exact h'
        · rw [if_neg hab, decide_eq_true_eq] at h
          by_cases hbc : b = c
          · subst hbc
            rw [if_neg hab, decide_eq_true_eq]
            exact h
          · rw [if_neg hbc, decide_eq_true_eq] at h'
            have hac : a ≠ c := by
              intro hac
              subst hac
              omega
            rw [if_neg hac, decide_eq_true_eq]
            omega

theorem textLe_trans {x y z : Bytes} (h : textLess y x = false) (h' : textLess z y = false) :
    textLess z x = false := by
  rw [Bool.eq_false_iff] at h h' ⊢
  intro hzx
  by_cases hxy : x = y
  · subst hxy
    exact h' hzx
  · rcases textLess_total hxy with hlt | hgt
    · exact h' (textLess_trans hzx hlt)
    · exact h hgt

/-- A common beginning does not decide. -/
theorem textLess_append_left (p x y : Bytes) : textLess (p ++ x) (p ++ y) = textLess x y := by
  induction p with
  | nil => rfl
  | cons a p ih => rw [List.cons_append, List.cons_append, textLess_cons, if_pos rfl, ih]

/-- What follows two texts of digits does not decide, when no digit comes before it. -/
theorem textLess_append_right {x y rest : Bytes} (hx : ∀ b ∈ x, isDigit b = true)
    (hy : ∀ b ∈ y, isDigit b = true) (hrest : ∀ b ∈ rest.head?, b.toNat < 48) :
    textLess (x ++ rest) (y ++ rest) = textLess x y := by
  induction x generalizing y with
  | nil =>
    cases y with
    | nil => exact textLess_irrefl rest
    | cons b y =>
      have hb := ((isDigit_iff b).mp (hy b List.mem_cons_self)).1
      cases rest with
      | nil => rfl
      | cons c rest =>
        have hc : c.toNat < 48 := hrest c rfl
        have hne : c ≠ b := by
          intro h
          subst h
          omega
        rw [List.nil_append, List.cons_append, textLess_cons, if_neg hne, textLess_nil_cons,
          decide_eq_true_eq]
        omega
  | cons a x ih =>
    have ha := ((isDigit_iff a).mp (hx a List.mem_cons_self)).1
    cases y with
    | nil =>
      cases rest with
      | nil => simp
      | cons c rest =>
        have hc : c.toNat < 48 := hrest c rfl
        have hne : a ≠ c := by
          intro h
          subst h
          omega
        rw [List.nil_append, List.cons_append, textLess_cons, if_neg hne, textLess_nil,
          decide_eq_false_iff_not]
        omega
    | cons b y =>
      rw [List.cons_append, List.cons_append, textLess_cons, textLess_cons,
        ih (fun c hc => hx c (List.mem_cons_of_mem a hc))
          (fun c hc => hy c (List.mem_cons_of_mem b hc))]

variable {α : Type}

/-- Sort by the texts, smaller ones first. -/
def sortBy (text : α → Bytes) (l : List α) : List α :=
  l.insertionSort (fun a b => textLess (text b) (text a) = false)

theorem sortBy_perm (text : α → Bytes) (l : List α) : (sortBy text l).Perm l :=
  List.perm_insertionSort _ l

theorem sortBy_pairwise (text : α → Bytes) (l : List α) :
    (sortBy text l).Pairwise (fun a b => textLess (text b) (text a) = false) := by
  have htotal : Std.Total (fun a b : α => textLess (text b) (text a) = false) := by
    refine ⟨fun a b => ?_⟩
    cases h : textLess (text b) (text a) with
    | false => exact Or.inl rfl
    | true => exact Or.inr (textLess_asymm h)
  have htrans : IsTrans α (fun a b => textLess (text b) (text a) = false) :=
    ⟨fun _ _ _ h h' => textLe_trans h h'⟩
  exact List.pairwise_insertionSort _ l

theorem sortBy_map {β : Type} (f : β → α) (text : α → Bytes) (l : List β) :
    sortBy text (l.map f) = (sortBy (fun b => text (f b)) l).map f :=
  (List.map_insertionSort _ _ f l (fun _ _ _ _ => Iff.rfl)).symm

/-- The texts are in the order of the ranks, whichever rank is smaller. -/
def RanksAgree (text : α → Bytes) (rank : α → ℕ) (a b : α) : Prop :=
  (rank a < rank b → textLess (text a) (text b) = true) ∧
    (rank b < rank a → textLess (text b) (text a) = true)

/-- Sorting by texts is sorting by a rank exactly when the texts are in the order of the
ranks, if a text determines the rank. -/
theorem sortBy_ranked_iff {text : α → Bytes} {rank : α → ℕ} {l : List α}
    (hrank : ∀ a ∈ l, ∀ b ∈ l, text a = text b → rank a = rank b) :
    (sortBy text l).Pairwise (fun a b => rank a ≤ rank b) ↔
      ∀ a ∈ l, ∀ b ∈ l, rank a < rank b → textLess (text a) (text b) = true := by
  have hmem : ∀ {a}, a ∈ sortBy text l ↔ a ∈ l := (sortBy_perm text l).mem_iff
  constructor
  · intro h
    have hsymm : Std.Symm (RanksAgree text rank) := ⟨fun _ _ => And.symm⟩
    have hself : ∀ a ∈ sortBy text l, RanksAgree text rank a a :=
      fun a _ => ⟨fun hlt => absurd hlt (Nat.lt_irrefl _), fun hlt => absurd hlt (Nat.lt_irrefl _)⟩
    have hagree : (sortBy text l).Pairwise (RanksAgree text rank) := by
      refine ((sortBy_pairwise text l).and h).imp_of_mem (fun {a b} ha hb hab => ?_)
      refine ⟨?_, fun hgt => absurd hab.2 (Nat.not_le_of_lt hgt)⟩
      intro hlt
      have hne : text a ≠ text b :=
        fun heq => Nat.ne_of_lt hlt (hrank a (hmem.mp ha) b (hmem.mp hb) heq)
      rcases textLess_total hne with hless | hless
      · exact hless
      · rw [hab.1] at hless
        cases hless
    intro a ha b hb
    exact (hagree.forall_of_forall hself (hmem.mpr ha) (hmem.mpr hb)).1
  · intro h
    refine (sortBy_pairwise text l).imp_of_mem (fun {a b} ha hb hle => ?_)
    by_contra hgt
    rw [h b (hmem.mp hb) a (hmem.mp ha) (Nat.lt_of_not_le hgt)] at hle
    cases hle

end SolakonMonitor.TextOrder
