import Mathlib.Data.List.DropRight

/-!
Splitting and trimming of texts, over any alphabet.
`fields` are the pieces that successive reads up to a delimiter deliver: the
delimiter ends a piece, and no empty piece follows a final delimiter. `trim`
takes the letters satisfying a predicate off both ends.
-/
namespace SolakonMonitor.TextLines

variable {α : Type}

def trim (p : α → Bool) (l : List α) : List α := (l.dropWhile p).rdropWhile p

/-- Nothing is to be trimmed off either end. -/
structure Trimmed (p : α → Bool) (l : List α) : Prop where
  head : ∀ a ∈ l.head?, p a = false
  last : ∀ a ∈ l.getLast?, p a = false

theorem Trimmed.nil (p : α → Bool) : Trimmed p [] := ⟨by simp, by simp⟩

theorem dropWhile_of_head {p : α → Bool} {l : List α} (h : ∀ a ∈ l.head?, p a = false) :
    l.dropWhile p = l := by
  cases l with
  | nil => rfl
  | cons a l => rw [List.dropWhile_cons, h a (by simp), if_neg Bool.false_ne_true]

theorem rdropWhile_of_last {p : α → Bool} {l : List α} (h : ∀ a ∈ l.getLast?, p a = false) :
    l.rdropWhile p = l := by
  refine List.rdropWhile_eq_self_iff.mpr (fun hl => ?_)
  rw [h (l.getLast hl) (List.getLast?_eq_some_getLast hl)]
  exact Bool.false_ne_true

theorem Trimmed.trim_eq {p : α → Bool} {l : List α} (h : Trimmed p l) : trim p l = l := by
  rw [trim, dropWhile_of_head h.head, rdropWhile_of_last h.last]

theorem rdropWhile_append_of_all {p : α → Bool} {r : List α} (hr : ∀ a ∈ r, p a = true)
    (l : List α) : (l ++ r).rdropWhile p = l.rdropWhile p := by
  induction r using List.reverseRecOn generalizing l with
  | nil => rw [List.append_nil]
  | append_singleton r a ih =>
    have ha : p a = true := hr a (by simp)
    rw [← List.append_assoc, List.rdropWhile_concat_pos p _ a ha]
    exact ih (fun b hb => hr b (by simp [hb])) l

theorem Trimmed.trim_append {p : α → Bool} {x : List α} (h : Trimmed p x) (l r : List α)
    (hl : ∀ a ∈ l, p a = true) (hr : ∀ a ∈ r, p a = true) : trim p (l ++ x ++ r) = x := by
  cases x with
  | nil =>
    have hall : ∀ a ∈ l ++ r, p a = true := by
      intro a ha
      rcases List.mem_append.mp ha with ha | ha
      · exact hl a ha
      · exact hr a ha
    rw [List.append_nil, trim, List.dropWhile_eq_nil_iff.mpr hall]
    rfl
  | cons a x =>
    have hhead : ∀ b ∈ (a :: x ++ r).head?, p b = false := h.head
    rw [List.append_assoc, trim, List.dropWhile_append_of_pos hl, dropWhile_of_head hhead,
      rdropWhile_append_of_all hr, rdropWhile_of_last h.last]

theorem trimmed_trim (p : α → Bool) (l : List α) : Trimmed p (trim p l) := by
  constructor
  · intro a ha
    have hne : (l.dropWhile p).rdropWhile p ≠ [] := fun hnil => by simp [trim, hnil] at ha
    obtain ⟨rest, hrest⟩ := List.rdropWhile_prefix p (l.dropWhile p)
    have hhead : (l.dropWhile p).head? = some a := by
      rw [← hrest, List.head?_append_of_ne_nil _ hne]
      exact ha
    have hnot := List.head?_dropWhile_not p l
    rw [hhead] at hnot
    simpa using hnot
  · intro a ha
    have hne : (l.dropWhile p).rdropWhile p ≠ [] := fun hnil => by simp [trim, hnil] at ha
    have hlast := List.rdropWhile_last_not p (l.dropWhile p) hne
    rw [trim, List.getLast?_eq_some_getLast hne] at ha
    rw [← Option.some.inj ha]
    simpa using hlast

/-- What is trimmed off stands around the rest. -/
theorem exists_trim (p : α → Bool) (l : List α) :
    ∃ x z, l = x ++ trim p l ++ z ∧ (∀ a ∈ x, p a = true) ∧ (∀ a ∈ z, p a = true) := by
  refine ⟨l.takeWhile p, (l.dropWhile p).rtakeWhile p, ?_, ?_, ?_⟩
  · have hend : (l.dropWhile p).rdropWhile p ++ (l.dropWhile p).rtakeWhile p =
        l.dropWhile p := by
      rw [List.rdropWhile, List.rtakeWhile, ← List.reverse_append,
        List.takeWhile_append_dropWhile, List.reverse_reverse]
    rw [trim, List.append_assoc, hend, List.takeWhile_append_dropWhile]
  · exact fun a ha => List.mem_takeWhile_imp ha
  · exact fun a ha => List.mem_rtakeWhile_imp ha

/-- What stands between two trimmed texts is not trimmed off. -/
theorem Trimmed.between {p : α → Bool} {l m r : List α} (hl : Trimmed p l) (hr : Trimmed p r)
    (hne : l ≠ []) (hne' : r ≠ []) : Trimmed p (l ++ m ++ r) where
  head := by
    rw [List.append_assoc, List.head?_append_of_ne_nil _ hne]
    exact hl.head
  last := by
    rw [List.getLast?_append_of_ne_nil _ hne']
    exact hr.last

theorem trimmed_of_forall {p : α → Bool} {l : List α} (h : ∀ a ∈ l, p a = false) :
    Trimmed p l where
  head := fun a ha => h a (List.mem_of_mem_head? ha)
  last := fun a ha => h a (List.mem_of_mem_getLast? ha)

theorem mem_of_mem_trim {p : α → Bool} {l : List α} {a : α} (h : a ∈ trim p l) : a ∈ l :=
  (List.dropWhile_suffix p).subset ((List.rdropWhile_prefix p (l.dropWhile p)).subset h)

theorem drop_delimiter (d : α) (x rest : List α) : (x ++ d :: rest).drop (x.length + 1) = rest := by
  rw [List.append_cons, List.drop_left' (by simp)]

variable [DecidableEq α]

def fields (d : α) : List α → List (List α)
  | [] => []
  | a :: l =>
    if a = d then [] :: fields d l
    else match fields d l with
      | [] => [[a]]
      | x :: xs => (a :: x) :: xs

theorem findIdx?_of_not_mem {d : α} {x : List α} (hx : d ∉ x) :
    x.findIdx? (fun a => a = d) = none := by
  rw [List.findIdx?_eq_none_iff]
  intro a ha
  exact decide_eq_false (fun heq => hx (heq ▸ ha))

theorem findIdx?_delimiter {d : α} {x : List α} (hx : d ∉ x) (rest : List α) :
    (x ++ d :: rest).findIdx? (fun a => a = d) = some x.length := by
  rw [List.findIdx?_append, findIdx?_of_not_mem hx, Option.none_or, List.findIdx?_cons,
    decide_eq_true rfl]
  simp

theorem append_delimiter_inj {d : α} {x y r s : List α} (hx : d ∉ x) (hy : d ∉ y)
    (h : x ++ d :: r = y ++ d :: s) : x = y ∧ r = s := by
  have hlen := congrArg (fun l => l.findIdx? (fun a => a = d)) h
  simp only [findIdx?_delimiter hx, findIdx?_delimiter hy, Option.some.injEq] at hlen
  obtain ⟨hxy, hrs⟩ := List.append_inj h hlen
  exact ⟨hxy, (List.cons.inj hrs).2⟩

theorem not_mem_of_mem_fields {d : α} {l x : List α} (h : x ∈ fields d l) : d ∉ x := by
  induction l generalizing x with
  | nil => cases h
  | cons a l ih =>
    rw [fields] at h
    split at h
    · rcases List.mem_cons.mp h with rfl | h
      · exact List.not_mem_nil
      · exact ih h
    · rename_i hne
      cases hfields : fields d l with
      | nil =>
        rw [hfields, List.mem_singleton] at h
        rw [h, List.mem_singleton]
        exact fun heq => hne heq.symm
      | cons y ys =>
        rw [hfields] at h ih
        rcases List.mem_cons.mp h with rfl | h
        · rintro (_ | ⟨_, hmem⟩)
          · exact hne rfl
          · exact ih List.mem_cons_self hmem
        · exact ih (List.mem_cons_of_mem y h)

/-- A delimiter ends the first piece. -/
theorem fields_append (d : α) (x rest : List α) (hx : d ∉ x) :
    fields d (x ++ d :: rest) = x :: fields d rest := by
  induction x with
  | nil => rw [List.nil_append, fields, if_pos rfl]
  | cons a x ih =>
    have ha : a ≠ d := fun heq => hx (heq ▸ List.mem_cons_self)
    rw [List.cons_append, fields, if_neg ha, ih (fun hmem => hx (List.mem_cons_of_mem a hmem))]

theorem fields_singleton (d : α) (x : List α) (hx : d ∉ x) (hne : x ≠ []) : fields d x = [x] := by
  induction x with
  | nil => exact absurd rfl hne
  | cons a x ih =>
    have ha : a ≠ d := fun heq => hx (heq ▸ List.mem_cons_self)
    rw [fields, if_neg ha]
    cases x with
    | nil => rfl
    | cons b x => rw [ih (fun hmem => hx (List.mem_cons_of_mem a hmem)) (List.cons_ne_nil b x)]

/-- Pieces each ended by a delimiter are read back, before anything that follows. -/
theorem fields_flatMap_append (d : α) (xs : List (List α)) (hxs : ∀ x ∈ xs, d ∉ x)
    (rest : List α) :
    fields d (xs.flatMap (fun x => x ++ [d]) ++ rest) = xs ++ fields d rest := by
  induction xs with
  | nil => rfl
  | cons x xs ih =>
    rw [List.flatMap_cons, List.append_assoc, List.append_assoc, List.singleton_append,
      fields_append d x _ (hxs x List.mem_cons_self),
      ih (fun y hy => hxs y (List.mem_cons_of_mem x hy)), List.cons_append]

theorem fields_flatMap (d : α) (xs : List (List α)) (hxs : ∀ x ∈ xs, d ∉ x) :
    fields d (xs.flatMap (fun x => x ++ [d])) = xs := by
  have h := fields_flatMap_append d xs hxs []
  rwa [List.append_nil, fields, List.append_nil] at h

/-- Nonempty pieces joined by a delimiter are read back. -/
theorem fields_intercalate (d : α) (xs : List (List α)) (hxs : ∀ x ∈ xs, d ∉ x ∧ x ≠ []) :
    fields d (List.intercalate [d] xs) = xs := by
  induction xs with
  | nil => rfl
  | cons x xs ih =>
    obtain ⟨hd, hne⟩ := hxs x List.mem_cons_self
    cases xs with
    | nil => simpa only [List.intercalate_singleton] using fields_singleton d x hd hne
    | cons y ys =>
      have hrest := ih (fun z hz => hxs z (List.mem_cons_of_mem x hz))
      rw [List.intercalate_cons_cons, List.append_assoc, List.singleton_append,
        fields_append d x _ hd, hrest]

end SolakonMonitor.TextLines
