import Mathlib

/-!
Linear feedback shift registers, lowest bit first.
A bit is added to the lowest place, and one shift follows. Shifts are linear, and
invertible when the highest place is a tap. Up to as many bits as the register has
places may all be added at once, before their shifts; this decides which inputs leave
the register empty.
-/
namespace SolakonMonitor.ShiftRegister

variable {w : ℕ}

/-- The bit that falls out feeds the taps. -/
def shift (taps s : BitVec w) : BitVec w :=
  if s.getLsbD 0 then (s >>> 1) ^^^ taps else s >>> 1

def feed (taps s : BitVec w) (b : Bool) : BitVec w :=
  shift taps (s ^^^ (BitVec.ofBool b).setWidth w)

def run (taps s : BitVec w) (bits : List Bool) : BitVec w := bits.foldl (feed taps) s

/-- The register that holds these bits, the first in the lowest place. -/
def holding (w : ℕ) (bits : List Bool) : BitVec w := (BitVec.ofBoolListLE bits).setWidth w

theorem run_append (taps s : BitVec w) (bs cs : List Bool) :
    run taps s (bs ++ cs) = run taps (run taps s bs) cs :=
  List.foldl_append

theorem xor_xor_xor_comm (a b c d : BitVec w) :
    (a ^^^ b) ^^^ (c ^^^ d) = (a ^^^ c) ^^^ (b ^^^ d) := by
  ac_rfl

theorem shift_xor (taps s t : BitVec w) : shift taps (s ^^^ t) = shift taps s ^^^ shift taps t := by
  have hboth (x y : BitVec w) : (x ^^^ taps) ^^^ (y ^^^ taps) = x ^^^ y := by
    rw [xor_xor_xor_comm, BitVec.xor_self, BitVec.xor_zero]
  simp only [shift, BitVec.getLsbD_xor, BitVec.ushiftRight_xor_distrib]
  cases s.getLsbD 0 <;> cases t.getLsbD 0
  · rfl
  · exact BitVec.xor_assoc _ _ _
  · change s >>> 1 ^^^ t >>> 1 ^^^ taps = s >>> 1 ^^^ taps ^^^ t >>> 1
    ac_rfl
  · exact (hboth _ _).symm

theorem shift_zero (taps : BitVec w) : shift taps 0#w = 0#w := by
  simp [shift]

theorem ofBool_xor_setWidth (b c : Bool) : (BitVec.ofBool (b ^^ c)).setWidth w =
    (BitVec.ofBool b).setWidth w ^^^ (BitVec.ofBool c).setWidth w := by
  cases b <;> cases c <;> simp

theorem run_xor (taps : BitVec w) {bs cs : List Bool} (hlength : bs.length = cs.length)
    (s t : BitVec w) :
    run taps (s ^^^ t) (List.zipWith xor bs cs) = run taps s bs ^^^ run taps t cs := by
  induction bs generalizing cs s t with
  | nil =>
    rw [List.length_eq_zero_iff.mp hlength.symm]
    rfl
  | cons b bs ih =>
    cases cs with
    | nil => cases hlength
    | cons c cs =>
      have hfeed : feed taps (s ^^^ t) (b ^^ c) = feed taps s b ^^^ feed taps t c := by
        simp only [feed, ofBool_xor_setWidth, ← shift_xor]
        rw [xor_xor_xor_comm]
      have hrest := ih (Nat.succ.inj hlength) (feed taps s b) (feed taps t c)
      simp only [run, List.zipWith_cons_cons, List.foldl_cons, hfeed] at hrest ⊢
      exact hrest

theorem shift_shiftLeft {taps v : BitVec w} (hv : v.getLsbD (w - 1) = false) :
    shift taps (v <<< 1) = v := by
  have hlow : (v <<< 1).getLsbD 0 = false := by simp
  rw [shift, hlow, if_neg Bool.false_ne_true]
  apply BitVec.eq_of_getLsbD_eq
  intro i hi
  simp only [BitVec.getLsbD_ushiftRight, BitVec.getLsbD_shiftLeft]
  by_cases hlast : i + 1 < w
  · simp [Nat.add_comm 1 i, hlast]
  · have hi' : i = w - 1 := by omega
    subst hi'
    rw [hv]
    simp [show ¬ 1 + (w - 1) < w by omega]

theorem getLsbD_holding (bits : List Bool) (i : ℕ) :
    (holding w bits).getLsbD i = (decide (i < w) && bits.getD i false) := by
  rw [holding, BitVec.getLsbD_setWidth, BitVec.getLsbD_ofBoolListLE]

theorem holding_nil : holding w [] = 0#w := by
  apply BitVec.eq_of_getLsbD_eq
  intro i hi
  rw [getLsbD_holding, List.getD_nil, Bool.and_false, BitVec.getLsbD_zero]

theorem holding_cons (b : Bool) (rest : List Bool) :
    holding w (b :: rest) = (BitVec.ofBool b).setWidth w ^^^ (holding w rest <<< 1) := by
  apply BitVec.eq_of_getLsbD_eq
  intro i hi
  simp only [getLsbD_holding, BitVec.getLsbD_xor, BitVec.getLsbD_setWidth, BitVec.getLsbD_ofBool,
    BitVec.getLsbD_shiftLeft]
  cases i with
  | zero => simp
  | succ i => simp [hi, Nat.lt_of_succ_lt hi]

theorem run_eq_shifts (taps s : BitVec w) {bits : List Bool} (hbits : bits.length ≤ w) :
    run taps s bits = (shift taps)^[bits.length] (s ^^^ holding w bits) := by
  induction bits generalizing s with
  | nil =>
    rw [holding_nil, BitVec.xor_zero]
    rfl
  | cons b rest ih =>
    have hlength : rest.length < w := hbits
    have htop : (holding w rest).getLsbD (w - 1) = false := by
      rw [getLsbD_holding, List.getD_eq_getElem?_getD, List.getElem?_eq_none (by omega),
        Option.getD_none, Bool.and_false]
    calc run taps s (b :: rest) = run taps (feed taps s b) rest := rfl
      _ = (shift taps)^[rest.length] (feed taps s b ^^^ holding w rest) := ih _ hlength.le
      _ = (shift taps)^[rest.length] (shift taps (s ^^^ holding w (b :: rest))) := by
        rw [holding_cons, ← BitVec.xor_assoc, shift_xor, shift_shiftLeft htop, feed]
      _ = (shift taps)^[(b :: rest).length] (s ^^^ holding w (b :: rest)) := by
        rw [List.length_cons, Function.iterate_succ_apply]

theorem shift_eq_zero_iff {taps : BitVec w} (htaps : taps.getLsbD (w - 1) = true) (s : BitVec w) :
    shift taps s = 0#w ↔ s = 0#w := by
  constructor
  · intro h
    have hw : 0 < w := by
      by_contra hzero
      rw [BitVec.getLsbD_of_ge taps _ (by omega)] at htaps
      cases htaps
    have hplace (i : ℕ) : (shift taps s).getLsbD i = false := by
      rw [h, BitVec.getLsbD_zero]
    cases hlow : s.getLsbD 0 with
    | true =>
      have htop := hplace (w - 1)
      rw [shift, hlow, if_pos rfl, BitVec.getLsbD_xor, BitVec.getLsbD_ushiftRight, htaps,
        BitVec.getLsbD_of_ge s _ (by omega)] at htop
      cases htop
    | false =>
      apply BitVec.eq_of_getLsbD_eq
      intro i hi
      cases i with
      | zero => rw [hlow, BitVec.getLsbD_zero]
      | succ i =>
        have hnext := hplace i
        rw [shift, hlow, if_neg Bool.false_ne_true, BitVec.getLsbD_ushiftRight,
          Nat.add_comm] at hnext
        rw [hnext, BitVec.getLsbD_zero]
  · rintro rfl
    exact shift_zero taps

theorem shifts_eq_zero_iff {taps : BitVec w} (htaps : taps.getLsbD (w - 1) = true) (n : ℕ)
    (s : BitVec w) : (shift taps)^[n] s = 0#w ↔ s = 0#w := by
  induction n generalizing s with
  | zero => rfl
  | succ n ih => rw [Function.iterate_succ_apply, ih, shift_eq_zero_iff htaps]

/-- A short input empties the register exactly when it is what the register holds. -/
theorem run_eq_zero_iff {taps : BitVec w} (htaps : taps.getLsbD (w - 1) = true) (s : BitVec w)
    {bits : List Bool} (hbits : bits.length ≤ w) : run taps s bits = 0#w ↔ s = holding w bits := by
  rw [run_eq_shifts taps s hbits, shifts_eq_zero_iff htaps, BitVec.xor_eq_zero_iff]

theorem holding_eq_zero_iff {bits : List Bool} (hbits : bits.length ≤ w) :
    holding w bits = 0#w ↔ true ∉ bits := by
  constructor
  · intro h hmem
    obtain ⟨i, hi, hbit⟩ := List.getElem_of_mem hmem
    have hplace : (holding w bits).getLsbD i = true := by
      rw [getLsbD_holding, List.getD_eq_getElem?_getD, List.getElem?_eq_getElem hi, hbit]
      simp [Nat.lt_of_lt_of_le hi hbits]
    rw [h, BitVec.getLsbD_zero] at hplace
    cases hplace
  · intro h
    apply BitVec.eq_of_getLsbD_eq
    intro i hi
    rw [getLsbD_holding, BitVec.getLsbD_zero, List.getD_eq_getElem?_getD]
    cases hbit : bits[i]? with
    | none => rw [Option.getD_none, Bool.and_false]
    | some b =>
      cases b with
      | false => rw [Option.getD_some, Bool.and_false]
      | true => exact absurd (List.mem_of_getElem? hbit) h

theorem run_unset_eq_zero_iff {taps : BitVec w} (htaps : taps.getLsbD (w - 1) = true)
    {bits : List Bool} (hunset : true ∉ bits) (s : BitVec w) :
    run taps s bits = 0#w ↔ s = 0#w := by
  induction bits generalizing s with
  | nil => rfl
  | cons b rest ih =>
    obtain ⟨hne, hrest⟩ := not_or.mp (fun h => hunset (List.mem_cons.mpr h))
    have hb : b = false := by
      cases b
      · rfl
      · exact absurd rfl hne
    subst hb
    have hfeed : feed taps s false = shift taps s := by
      rw [feed, show (BitVec.ofBool false).setWidth w = 0#w by simp, BitVec.xor_zero]
    rw [run, List.foldl_cons, hfeed]
    exact (ih hrest _).trans (shift_eq_zero_iff htaps s)

/-- All set bits stand within as many consecutive positions as the register has places. -/
def WithinWindow (w : ℕ) (bits : List Bool) : Prop :=
  ∃ p, ∀ i, bits[i]? = some true → p ≤ i ∧ i < p + w

theorem run_ne_zero_of_withinWindow {taps : BitVec w} (htaps : taps.getLsbD (w - 1) = true)
    {bits : List Bool} (hset : true ∈ bits) (hwindow : WithinWindow w bits) :
    run taps 0#w bits ≠ 0#w := by
  obtain ⟨p, hp⟩ := hwindow
  have hbefore : true ∉ bits.take p := by
    intro hmem
    obtain ⟨i, hi, hbit⟩ := List.getElem_of_mem hmem
    rw [List.length_take] at hi
    rw [List.getElem_take] at hbit
    have hinside := hp i (List.getElem?_eq_some_iff.mpr ⟨by omega, hbit⟩)
    omega
  have hafter : true ∉ (bits.drop p).drop w := by
    intro hmem
    obtain ⟨i, hi, hbit⟩ := List.getElem_of_mem hmem
    rw [List.length_drop, List.length_drop] at hi
    rw [List.getElem_drop, List.getElem_drop] at hbit
    have hinside := hp (p + (w + i)) (List.getElem?_eq_some_iff.mpr ⟨by omega, hbit⟩)
    omega
  have hsplit : bits = bits.take p ++ ((bits.drop p).take w ++ (bits.drop p).drop w) := by
    rw [List.take_append_drop, List.take_append_drop]
  have hlength : ((bits.drop p).take w).length ≤ w := List.length_take_le _ _
  have hmiddle : true ∈ (bits.drop p).take w := by
    rw [hsplit, List.mem_append, List.mem_append] at hset
    rcases hset with h | h | h
    · exact absurd h hbefore
    · exact h
    · exact absurd h hafter
  intro hzero
  rw [hsplit, run_append, run_append, (run_unset_eq_zero_iff htaps hbefore 0#w).mpr rfl,
    run_unset_eq_zero_iff htaps hafter, run_eq_zero_iff htaps 0#w hlength] at hzero
  exact (holding_eq_zero_iff hlength).mp hzero.symm hmiddle

/-- The number of set places, as far as even and odd go. -/
def parity (s : BitVec w) : ZMod 2 := ∑ i ∈ Finset.range w, if s.getLsbD i then 1 else 0

theorem parity_xor (s t : BitVec w) : parity (s ^^^ t) = parity s + parity t := by
  rw [parity, parity, parity, ← Finset.sum_add_distrib]
  refine Finset.sum_congr rfl (fun i _ => ?_)
  rw [BitVec.getLsbD_xor]
  cases s.getLsbD i <;> cases t.getLsbD i <;> decide

theorem parity_zero : parity (0#w) = 0 := by
  simp [parity]

theorem parity_ofBool (hw : 0 < w) (b : Bool) :
    parity ((BitVec.ofBool b).setWidth w) = if b then 1 else 0 := by
  obtain ⟨n, rfl⟩ := Nat.exists_eq_succ_of_ne_zero hw.ne'
  rw [parity, Finset.sum_range_succ']
  simp

/-- The bit that falls out is the only one lost. -/
theorem parity_ushiftRight (s : BitVec w) :
    parity (s >>> 1) + (if s.getLsbD 0 then 1 else 0) = parity s := by
  cases w with
  | zero => simp [parity]
  | succ n =>
    have hlast : (s >>> 1).getLsbD n = false := by
      rw [BitVec.getLsbD_ushiftRight, BitVec.getLsbD_of_ge _ _ (by omega)]
    rw [parity, parity, Finset.sum_range_succ, Finset.sum_range_succ', hlast]
    simp [Nat.add_comm 1]

/-- With an odd number of taps a shift keeps the parity: the taps make up for the bit lost. -/
theorem parity_shift {taps : BitVec w} (htaps : parity taps = 1) (s : BitVec w) :
    parity (shift taps s) = parity s := by
  have hlost := parity_ushiftRight s
  rw [shift]
  cases hlow : s.getLsbD 0 with
  | true =>
    rw [hlow, if_pos rfl] at hlost
    rw [if_pos rfl, parity_xor, htaps, hlost]
  | false =>
    rw [hlow, if_neg Bool.false_ne_true, add_zero] at hlost
    rw [if_neg Bool.false_ne_true, hlost]

theorem parity_run {taps : BitVec w} (htaps : parity taps = 1) (s : BitVec w) (bits : List Bool) :
    parity (run taps s bits) = parity s + (bits.count true : ℕ) := by
  have hw : 0 < w := by
    by_contra hzero
    obtain rfl : w = 0 := by omega
    revert htaps
    simp [parity]
  induction bits generalizing s with
  | nil => simp [run]
  | cons b rest ih =>
    have hfeed : parity (feed taps s b) = parity s + if b then 1 else 0 := by
      rw [feed, parity_shift htaps, parity_xor, parity_ofBool hw]
    have hrest := ih (feed taps s b)
    rw [hfeed] at hrest
    rw [run, List.foldl_cons]
    refine hrest.trans ?_
    cases b <;> simp [add_assoc, add_comm]

theorem run_ne_zero_of_odd {taps : BitVec w} (htaps : parity taps = 1) {bits : List Bool}
    (hodd : Odd (bits.count true)) : run taps 0#w bits ≠ 0#w := by
  intro hzero
  have hparity := parity_run htaps 0#w bits
  rw [hzero, parity_zero, zero_add] at hparity
  have heven := (ZMod.natCast_eq_zero_iff_even).mp hparity.symm
  exact Nat.not_even_iff_odd.mpr hodd heven

end SolakonMonitor.ShiftRegister
