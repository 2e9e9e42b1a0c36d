import SolakonMonitor.BigEndian
import Mathlib.Data.List.DropRight
import Mathlib.Data.List.TakeWhile
import Mathlib.Data.Nat.Digits.Defs
import Mathlib.Data.Nat.Log
import Mathlib.Data.Rat.Defs

/-!
Text literals, and numbers in decimal.
Printing gives the digits without leading zeros. Reading follows the C library:
leading blanks, a sign, then the longest run of digits; what follows is ignored,
and no digits is a separate outcome. Reading back a printed number gives it.
-/
namespace SolakonMonitor.DecimalText

open BigEndian

def utf8 (s : String) : Bytes := s.toList.flatMap String.utf8EncodeChar

/-- The bytes up to the first NUL. -/
def cString (s : Bytes) : Bytes := s.takeWhile (fun b => b ≠ 0)

def isDigit (b : UInt8) : Bool := 48 ≤ b && b ≤ 57

/-- Blank, horizontal and vertical tab, line feed, form feed, carriage return. -/
def isSpace (b : UInt8) : Bool := b = 32 || (9 ≤ b && b ≤ 13)

def digit (d : ℕ) : UInt8 := UInt8.ofNat (48 + d)

def decimal (n : ℕ) : Bytes :=
  if n = 0 then [48] else (Nat.digits 10 n).reverse.map digit

def decimalInt (z : ℤ) : Bytes :=
  if z < 0 then 45 :: decimal z.natAbs else decimal z.natAbs

def digitsValue (ds : Bytes) : ℕ := ds.foldl (fun n b => 10 * n + (b.toNat - 48)) 0

/-- The value of the leading digits; none without any. -/
def unsignedPrefix (s : Bytes) : Option ℕ :=
  if s.takeWhile isDigit = [] then none else some (digitsValue (s.takeWhile isDigit))

/-- The value `strtol` finds before it is cut to a range; none without digits. -/
def strtol (s : Bytes) : Option ℤ :=
  match s.dropWhile isSpace with
  | 45 :: rest => (unsignedPrefix rest).map (fun n : ℕ => -(n : ℤ))
  | 43 :: rest => (unsignedPrefix rest).map (fun n : ℕ => (n : ℤ))
  | rest => (unsignedPrefix rest).map (fun n : ℕ => (n : ℤ))

/-- `n / d` rounded to the nearest integer, halves to the even one. -/
def roundHalfEven (n d : ℕ) : ℕ :=
  if 2 * (n % d) < d ∨ (2 * (n % d) = d ∧ n / d % 2 = 0) then n / d else n / d + 1

/-- The exponent of the leading decimal digit of a positive fraction. -/
def leadingExponent (n d : ℕ) : ℤ :=
  if d ≤ n then Nat.log 10 (n / d) else -(Nat.clog 10 ((d + n - 1) / n) : ℤ)

/-- `m / 10 ^ f` without zeros at the end of its fraction. -/
def fractionText (m f : ℕ) : Bytes :=
  let padded : Bytes :=
    List.replicate (f - (decimal (m % 10 ^ f)).length) 48 ++ decimal (m % 10 ^ f)
  let fraction : Bytes := padded.rdropWhile (fun b => b = 48)
  decimal (m / 10 ^ f) ++ if fraction = [] then [] else 46 :: fraction

def exponentText (x : ℤ) : Bytes :=
  [101, if x < 0 then 45 else 43] ++
    (if x.natAbs < 10 then 48 :: decimal x.natAbs else decimal x.natAbs)

/-- The first six digits of a positive fraction as an integer, and the exponent of
the leading one; rounding up may carry into a new leading digit. -/
def sixDigits (n d : ℕ) : ℕ × ℤ :=
  let x := leadingExponent n d
  let m := if x ≤ 5 then roundHalfEven (n * 10 ^ (5 - x).toNat) d
    else roundHalfEven n (d * 10 ^ (x - 5).toNat)
  if m = 1000000 then (100000, x + 1) else (m, x)

/-- A stream's default format for floating point: six significant digits. -/
def generalText (q : ℚ) : Bytes :=
  if q = 0 then [48]
  else
    let (m, x) := sixDigits q.num.natAbs q.den
    (if q < 0 then [45] else []) ++
      if -4 ≤ x ∧ x < 6 then fractionText m (5 - x).toNat
      else fractionText m 5 ++ exponentText x

/-- The digits of a number, filled up with zeros to `width` of them. -/
def padded (width n : ℕ) : Bytes :=
  List.replicate (width - (decimal n).length) 48 ++ decimal n

/-- A fixed number of decimals; the sign stays where everything is rounded away. -/
def fixedText (f : ℕ) (q : ℚ) : Bytes :=
  let m := roundHalfEven (q.num.natAbs * 10 ^ f) q.den
  (if q < 0 then [45] else []) ++
    (decimal (m / 10 ^ f) ++ if f = 0 then [] else 46 :: padded f (m % 10 ^ f))

example : generalText (-2305 / 10) = utf8 "-230.5" := by decide +kernel

example : generalText 4294967295 = utf8 "4.29497e+09" := by decide +kernel

example : fixedText 2 (-125 / 1000) = utf8 "-0.12" := by decide +kernel

theorem digit_toNat {d : ℕ} (hd : d < 10) : (digit d).toNat = 48 + d := by
  rw [digit, UInt8.toNat_ofNat_of_lt' (by change 48 + d < 256; omega)]

theorem isDigit_iff (b : UInt8) : isDigit b = true ↔ 48 ≤ b.toNat ∧ b.toNat ≤ 57 := by
  simp only [isDigit, Bool.and_eq_true, decide_eq_true_eq, UInt8.le_iff_toNat_le]
  rfl

theorem isDigit_of_mem_decimal {n : ℕ} {b : UInt8} (hb : b ∈ decimal n) : isDigit b = true := by
  rw [decimal] at hb
  split at hb
  · rw [List.mem_singleton.mp hb]
    rfl
  · obtain ⟨d, hd, rfl⟩ := List.mem_map.mp hb
    have hlt : d < 10 := Nat.digits_lt_base (by decide) (List.mem_reverse.mp hd)
    rw [isDigit_iff, digit_toNat hlt]
    omega

theorem decimal_ne_nil (n : ℕ) : decimal n ≠ [] := by
  rw [decimal]
  split
  · exact List.cons_ne_nil 48 []
  · rename_i hn
    simpa only [ne_eq, List.map_eq_nil_iff, List.reverse_eq_nil_iff] using
      Nat.digits_ne_nil_iff_ne_zero.mpr hn

theorem digitsValue_append (ds es : Bytes) :
    digitsValue (ds ++ es) = es.foldl (fun n b => 10 * n + (b.toNat - 48)) (digitsValue ds) :=
  List.foldl_append

/-- Horner's rule over the printed digits is the number they were taken from. -/
theorem digitsValue_map_digit (ds : List ℕ) (hds : ∀ d ∈ ds, d < 10) :
    digitsValue (ds.reverse.map digit) = Nat.ofDigits 10 ds := by
  induction ds with
  | nil => rfl
  | cons d ds ih =>
    have hd := digit_toNat (hds d List.mem_cons_self)
    rw [List.reverse_cons, List.map_append, digitsValue_append,
      ih (fun e he => hds e (List.mem_cons_of_mem d he)), Nat.ofDigits_cons]
    simp only [List.map_cons, List.map_nil, List.foldl_cons, List.foldl_nil, hd]
    omega

theorem digitsValue_decimal (n : ℕ) : digitsValue (decimal n) = n := by
  rw [decimal]
  split
  · rename_i hn
    rw [hn]
    rfl
  · rw [digitsValue_map_digit _ (fun d hd => Nat.digits_lt_base (by decide) hd),
      Nat.ofDigits_digits]

theorem unsignedPrefix_decimal (n : ℕ) : unsignedPrefix (decimal n) = some n := by
  have hall : (decimal n).takeWhile isDigit = decimal n :=
    List.takeWhile_eq_self_iff.mpr (fun b hb => isDigit_of_mem_decimal hb)
  rw [unsignedPrefix, hall, if_neg (decimal_ne_nil n), digitsValue_decimal]

theorem isSpace_of_isDigit {b : UInt8} (hb : isDigit b = true) : isSpace b = false := by
  rw [isDigit_iff] at hb
  rw [Bool.eq_false_iff]
  intro hspace
  simp only [isSpace, Bool.or_eq_true, Bool.and_eq_true, decide_eq_true_eq, ← UInt8.toNat_inj,
    UInt8.le_iff_toNat_le] at hspace
  rcases hspace with heq | ⟨_, hle⟩
  · change b.toNat = 32 at heq
    omega
  · change b.toNat ≤ 13 at hle
    omega

/-- A text that begins with a digit has neither blanks nor a sign to skip. -/
theorem strtol_of_digit (b : UInt8) (s : Bytes) (hb : isDigit b = true) :
    strtol (b :: s) = (unsignedPrefix (b :: s)).map (fun n : ℕ => (n : ℤ)) := by
  have hdrop : (b :: s).dropWhile isSpace = b :: s := by
    rw [List.dropWhile_cons, isSpace_of_isDigit hb, if_neg Bool.false_ne_true]
  have hminus : b ≠ 45 := by rintro rfl; cases hb
  have hplus : b ≠ 43 := by rintro rfl; cases hb
  rw [strtol, hdrop]
  split
  · rename_i heq
    exact absurd (List.cons.inj heq).1 hminus
  · rename_i heq
    exact absurd (List.cons.inj heq).1 hplus
  · rfl

theorem strtol_decimal (n : ℕ) : strtol (decimal n) = some (n : ℤ) := by
  cases hn : decimal n with
  | nil => exact absurd hn (decimal_ne_nil n)
  | cons b s =>
    have hb : isDigit b = true := isDigit_of_mem_decimal (hn ▸ List.mem_cons_self)
    rw [strtol_of_digit b s hb, ← hn, unsignedPrefix_decimal, Option.map_some]

theorem strtol_decimalInt (z : ℤ) : strtol (decimalInt z) = some z := by
  rw [decimalInt]
  split
  · have hdrop : (45 :: decimal z.natAbs).dropWhile isSpace = 45 :: decimal z.natAbs := rfl
    rw [strtol, hdrop]
    simp only [unsignedPrefix_decimal, Option.map_some, Option.some.injEq]
    omega
  · rw [strtol_decimal, Option.some.injEq]
    omega

end SolakonMonitor.DecimalText
