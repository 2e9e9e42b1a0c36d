import SolakonMonitor.DecimalText
import Mathlib.Data.Nat.Digits.Lemmas

/-!
JSON texts: a reader, and what it makes of an object laid out line by line.
The reader takes whole documents and keeps numbers and strings as they are written.
A text that stands for a value wherever no number continues can be put into an object,
and the object stands for its members.
-/
namespace SolakonMonitor.JsonText

open BigEndian DecimalText

def isDigits (s : Bytes) : Bool := s ≠ [] && s.all isDigit

def isSignedDigits : Bytes → Bool
  | 43 :: s => isDigits s
  | 45 :: s => isDigits s
  | s => isDigits s

/-- Nothing, or the letter e with an integer. -/
def isExponent : Bytes → Bool
  | [] => true
  | e :: s => (e = 101 || e = 69) && isSignedDigits s

/-- What may follow the digits before the point. -/
def isFraction : Bytes → Bool
  | 46 :: s => s.takeWhile isDigit ≠ [] && isExponent (s.dropWhile isDigit)
  | s => isExponent s

/-- Digits without a leading zero, then a fraction and an exponent. -/
def isUnsigned (s : Bytes) : Bool :=
  (s.takeWhile isDigit = [48] ||
    (s.takeWhile isDigit ≠ [] && (s.takeWhile isDigit).head? ≠ some 48)) &&
    isFraction (s.dropWhile isDigit)

def isNumber : Bytes → Bool
  | 45 :: s => isUnsigned s
  | s => isUnsigned s

abbrev NumberText := { text : Bytes // isNumber text = true }

def isNumberByte (b : UInt8) : Bool :=
  isDigit b || b = 43 || b = 45 || b = 46 || b = 69 || b = 101

inductive Json where
  | null
  | bool (b : Bool)
  | number (text : NumberText)
  | string (content : Bytes)
  | array (items : List Json)
  | object (members : List (Bytes × Json))

/-- Blank, tab, line feed, carriage return. -/
def isBlank (b : UInt8) : Bool := b = 32 || b = 9 || b = 10 || b = 13

def skipBlanks (s : Bytes) : Bytes := s.dropWhile isBlank

def isHexDigit (b : UInt8) : Bool := isDigit b || (65 ≤ b && b ≤ 70) || (97 ≤ b && b ≤ 102)

/-- The content of a string up to its closing quote, and what follows the quote. -/
def readContent : Bytes → Option (Bytes × Bytes)
  | 34 :: rest => some ([], rest)
  | 92 :: 117 :: a :: b :: c :: d :: rest =>
    if isHexDigit a && isHexDigit b && isHexDigit c && isHexDigit d then
      (readContent rest).map (fun r => (92 :: 117 :: a :: b :: c :: d :: r.1, r.2))
    else none
  | 92 :: e :: rest =>
    if [34, 92, 47, 98, 102, 110, 114, 116].contains e then
      (readContent rest).map (fun r => (92 :: e :: r.1, r.2))
    else none
  | b :: rest => if b < 32 then none else (readContent rest).map (fun r => (b :: r.1, r.2))
  | [] => none

/-- The longest run of bytes of numbers has to be one. -/
def readNumber (s : Bytes) : Option (Json × Bytes) :=
  if h : isNumber (s.takeWhile isNumberByte) = true then
    some (.number ⟨s.takeWhile isNumberByte, h⟩, s.dropWhile isNumberByte)
  else none

def readWord (word : Bytes) (value : Json) (s : Bytes) : Option (Json × Bytes) :=
  if s.take word.length = word then some (value, s.drop word.length) else none

/-- The key of a member and the colon after it. -/
def readKey (s : Bytes) : Option (Bytes × Bytes) :=
  match skipBlanks s with
  | 34 :: rest =>
    (readContent rest).bind (fun r =>
      match skipBlanks r.2 with
      | 58 :: rest => some (r.1, rest)
      | _ => none)
  | _ => none

mutual

/-- A value at the beginning of a text, and what follows it. -/
def readValue : ℕ → Bytes → Option (Json × Bytes)
  | 0, _ => none
  | fuel + 1, s =>
    match skipBlanks s with
    | 123 :: rest =>
      match skipBlanks rest with
      | 125 :: rest => some (.object [], rest)
      | rest => (readMembers fuel rest).map (fun r => (.object r.1, r.2))
    | 91 :: rest =>
      match skipBlanks rest with
      | 93 :: rest => some (.array [], rest)
      | rest => (readItems fuel rest).map (fun r => (.array r.1, r.2))
    | 34 :: rest => (readContent rest).map (fun r => (.string r.1, r.2))
    | 110 :: rest => readWord (utf8 "null") .null (110 :: rest)
    | 116 :: rest => readWord (utf8 "true") (.bool true) (116 :: rest)
    | 102 :: rest => readWord (utf8 "false") (.bool false) (102 :: rest)
    | rest => readNumber rest

/-- The members of an object up to its closing brace. -/
def readMembers : ℕ → Bytes → Option (List (Bytes × Json) × Bytes)
  | 0, _ => none
  | fuel + 1, s => do
    let (key, rest) ← readKey s
    let (value, rest) ← readValue fuel rest
    match skipBlanks rest with
    | 44 :: rest => (readMembers fuel rest).map (fun r => ((key, value) :: r.1, r.2))
    | 125 :: rest => return ([(key, value)], rest)
    | _ => none

/-- The items of an array up to its closing bracket. -/
def readItems : ℕ → Bytes → Option (List Json × Bytes)
  | 0, _ => none
  | fuel + 1, s => do
    let (value, rest) ← readValue fuel s
    match skipBlanks rest with
    | 44 :: rest => (readItems fuel rest).map (fun r => (value :: r.1, r.2))
    | 93 :: rest => return ([value], rest)
    | _ => none

end

def readDocument (s : Bytes) : Option Json :=
  (readValue (s.length + 1) s).bind (fun r => if skipBlanks r.2 = [] then some r.1 else none)

/-- No number goes on here. -/
def Ends (rest : Bytes) : Prop := ∀ b ∈ rest.head?, isNumberByte b = false

theorem ends_cons {b : UInt8} (hb : isNumberByte b = false) (rest : Bytes) : Ends (b :: rest) := by
  intro c hc
  cases hc
  exact hb

/-- The text stands for the value wherever no number goes on after it. -/
def StandsFor (text : Bytes) (value : Json) : Prop :=
  ∀ fuel rest, text.length < fuel → Ends rest → readValue fuel (text ++ rest) = some (value, rest)

theorem takeWhile_append_of_all {p : UInt8 → Bool} {l r : Bytes} (hl : ∀ b ∈ l, p b = true)
    (hr : ∀ b ∈ r.head?, p b = false) :
    (l ++ r).takeWhile p = l ∧ (l ++ r).dropWhile p = r := by
  rw [List.takeWhile_append_of_pos hl, List.dropWhile_append_of_pos hl]
  cases r with
  | nil => exact ⟨List.append_nil l, rfl⟩
  | cons b r =>
    have hb : p b = false := hr b rfl
    rw [List.takeWhile_cons, List.dropWhile_cons, hb]
    exact ⟨List.append_nil l, rfl⟩

theorem isNumberByte_of_isDigit {b : UInt8} (hb : isDigit b = true) : isNumberByte b = true := by
  simp [isNumberByte, hb]

theorem bytes_of_isDigits {s : Bytes} (h : isDigits s = true) : ∀ b ∈ s, isNumberByte b = true := by
  intro b hb
  simp only [isDigits, Bool.and_eq_true, List.all_eq_true] at h
  exact isNumberByte_of_isDigit (h.2 b hb)

theorem bytes_cons {e : UInt8} {s : Bytes} (he : isNumberByte e = true)
    (hs : ∀ b ∈ s, isNumberByte b = true) : ∀ b ∈ e :: s, isNumberByte b = true := by
  intro b hb
  rcases List.mem_cons.mp hb with rfl | hb
  · exact he
  · exact hs b hb

theorem bytes_of_isSignedDigits {s : Bytes} (h : isSignedDigits s = true) :
    ∀ b ∈ s, isNumberByte b = true := by
  rw [isSignedDigits.eq_def] at h
  split at h
  · exact bytes_cons rfl (bytes_of_isDigits h)
  · exact bytes_cons rfl (bytes_of_isDigits h)
  · exact bytes_of_isDigits h

theorem bytes_of_isExponent {s : Bytes} (h : isExponent s = true) :
    ∀ b ∈ s, isNumberByte b = true := by
  cases s with
  | nil =>
    intro b hb
    cases hb
  | cons e s =>
    simp only [isExponent, Bool.and_eq_true, Bool.or_eq_true, decide_eq_true_eq] at h
    refine bytes_cons ?_ (bytes_of_isSignedDigits h.2)
    rcases h.1 with rfl | rfl <;> rfl

theorem bytes_of_dropWhile {s : Bytes} (h : ∀ b ∈ s.dropWhile isDigit, isNumberByte b = true) :
    ∀ b ∈ s, isNumberByte b = true := by
  intro b hb
  rw [← List.takeWhile_append_dropWhile (p := isDigit) (l := s)] at hb
  rcases List.mem_append.mp hb with hb | hb
  · exact isNumberByte_of_isDigit (List.mem_takeWhile_imp hb)
  · exact h b hb

theorem bytes_of_isFraction {s : Bytes} (h : isFraction s = true) :
    ∀ b ∈ s, isNumberByte b = true := by
  rw [isFraction.eq_def] at h
  split at h
  · rw [Bool.and_eq_true] at h
    exact bytes_cons rfl (bytes_of_dropWhile (bytes_of_isExponent h.2))
  · exact bytes_of_isExponent h

theorem bytes_of_isUnsigned {s : Bytes} (h : isUnsigned s = true) :
    ∀ b ∈ s, isNumberByte b = true := by
  rw [isUnsigned, Bool.and_eq_true] at h
  exact bytes_of_dropWhile (bytes_of_isFraction h.2)

theorem bytes_of_isNumber {s : Bytes} (h : isNumber s = true) :
    ∀ b ∈ s, isNumberByte b = true := by
  rw [isNumber.eq_def] at h
  split at h
  · exact bytes_cons rfl (bytes_of_isUnsigned h)
  · exact bytes_of_isUnsigned h

theorem readNumber_append (t : NumberText) {rest : Bytes} (hrest : Ends rest) :
    readNumber (t.val ++ rest) = some (.number t, rest) := by
  obtain ⟨htake, hdrop⟩ := takeWhile_append_of_all (bytes_of_isNumber t.property) hrest
  have hnumber : isNumber ((t.val ++ rest).takeWhile isNumberByte) = true := by
    rw [htake]
    exact t.property
  rw [readNumber, dif_pos hnumber]
  simp only [htake, hdrop]

theorem number_ne_nil (t : NumberText) : t.val ≠ [] := by
  intro hnil
  have h := t.property
  rw [hnil] at h
  cases h

theorem readValue_of_isNumberByte (fuel : ℕ) {b : UInt8} (hb : isNumberByte b = true)
    (s : Bytes) : readValue (fuel + 1) (b :: s) = readNumber (b :: s) := by
  have hskip : skipBlanks (b :: s) = b :: s := by
    have hblank : isBlank b = false := by
      rw [Bool.eq_false_iff]
      intro hblank
      simp only [isBlank, Bool.or_eq_true, decide_eq_true_eq] at hblank
      rcases hblank with ((rfl | rfl) | rfl) | rfl <;> cases hb
    rw [skipBlanks, List.dropWhile_cons, hblank, if_neg Bool.false_ne_true]
  have hne : ∀ c, isNumberByte c = false → b ≠ c := by
    intro c hc hbc
    rw [hbc, hc] at hb
    cases hb
  rw [readValue, hskip]
  split
  · rename_i heq
    exact absurd (List.cons.inj heq).1 (hne 123 rfl)
  · rename_i heq
    exact absurd (List.cons.inj heq).1 (hne 91 rfl)
  · rename_i heq
    exact absurd (List.cons.inj heq).1 (hne 34 rfl)
  · rename_i heq
    exact absurd (List.cons.inj heq).1 (hne 110 rfl)
  · rename_i heq
    exact absurd (List.cons.inj heq).1 (hne 116 rfl)
  · rename_i heq
    exact absurd (List.cons.inj heq).1 (hne 102 rfl)
  · rfl

theorem StandsFor.number (t : NumberText) : StandsFor t.val (.number t) := by
  intro fuel rest hfuel hrest
  obtain ⟨n, rfl⟩ : ∃ n, fuel = n + 1 := ⟨fuel - 1, by omega⟩
  rw [← readNumber_append t hrest]
  cases ht : t.val with
  | nil => exact absurd ht (number_ne_nil t)
  | cons b s =>
    have hb : isNumberByte b = true :=
      bytes_of_isNumber t.property b (ht ▸ List.mem_cons_self)
    exact readValue_of_isNumberByte n hb (s ++ rest)

theorem StandsFor.bool (b : Bool) :
    StandsFor (if b then utf8 "true" else utf8 "false") (.bool b) := by
  intro fuel rest hfuel _
  obtain ⟨n, rfl⟩ : ∃ n, fuel = n + 1 := ⟨fuel - 1, by omega⟩
  cases b <;> rfl

/-- No quote, backslash or control byte. -/
def isPlain (key : Bytes) : Bool := key.all (fun b => 32 ≤ b && b ≠ 34 && b ≠ 92)

/-- A key with a text that stands for a value. -/
structure Member where
  key : Bytes
  text : Bytes
  value : Json
  plain : isPlain key = true
  standsFor : StandsFor text value

def Member.entry (m : Member) : Bytes × Json := (m.key, m.value)

/-- A line up to the text of its value. -/
def lineStart (indent : ℕ) (key : Bytes) : Bytes :=
  List.replicate indent 32 ++ 34 :: (key ++ [34, 58, 32])

/-- One member a line, as deep as `indent` blanks, with commas between them. -/
def linePieces (indent : ℕ) : List Member → List Bytes
  | [] => []
  | [m] => [lineStart indent m.key, m.text, [10]]
  | m :: rest => lineStart indent m.key :: m.text :: [44, 10] :: linePieces indent rest

def membersText (indent : ℕ) (members : List Member) : Bytes := (linePieces indent members).flatten

def objectText (indent : ℕ) (members : List Member) : Bytes :=
  123 :: 10 :: (membersText (indent + 2) members ++ (List.replicate indent 32 ++ [125]))

theorem linePieces_flatten (indent : ℕ) (members : List Member) :
    (linePieces indent members).flatten = membersText indent members := rfl

theorem membersText_last (indent : ℕ) (m : Member) :
    membersText indent [m] =
      List.replicate indent 32 ++ 34 :: (m.key ++ 34 :: 58 :: 32 :: (m.text ++ [10])) := by
  simp [membersText, linePieces, lineStart]

theorem membersText_cons (indent : ℕ) (m next : Member) (rest : List Member) :
    membersText indent (m :: next :: rest) =
      List.replicate indent 32 ++ 34 :: (m.key ++ 34 :: 58 :: 32 ::
        (m.text ++ 44 :: 10 :: membersText indent (next :: rest))) := by
  simp [membersText, linePieces, lineStart]

theorem skipBlanks_append (indent : ℕ) (s : Bytes) :
    skipBlanks (List.replicate indent 32 ++ s) = skipBlanks s :=
  List.dropWhile_append_of_pos (fun b hb => by rw [List.eq_of_mem_replicate hb]; rfl)

theorem readContent_plain {key : Bytes} (hkey : isPlain key = true) (rest : Bytes) :
    readContent (key ++ 34 :: rest) = some (key, rest) := by
  induction key with
  | nil => rfl
  | cons b key ih =>
    simp only [isPlain, List.all_cons, Bool.and_eq_true, decide_eq_true_eq] at hkey
    obtain ⟨⟨⟨hcontrol, hquote⟩, hescape⟩, hkey⟩ := hkey
    rw [List.cons_append, readContent.eq_def]
    split
    · rename_i heq
      exact absurd (List.cons.inj heq).1 hquote
    · rename_i heq
      exact absurd (List.cons.inj heq).1 hescape
    · rename_i heq
      exact absurd (List.cons.inj heq).1 hescape
    · rename_i heq
      obtain ⟨rfl, rfl⟩ := List.cons.inj heq
      rw [if_neg (UInt8.not_lt.mpr hcontrol), ih hkey]
      rfl
    · rename_i heq
      cases heq

theorem readKey_line (indent : ℕ) {key : Bytes} (hkey : isPlain key = true) (rest : Bytes) :
    readKey (List.replicate indent 32 ++ 34 :: (key ++ 34 :: 58 :: rest)) = some (key, rest) := by
  rw [readKey, skipBlanks_append]
  change (readContent (key ++ 34 :: 58 :: rest)).bind _ = _
  rw [readContent_plain hkey]
  rfl

theorem readValue_blank (fuel : ℕ) (s : Bytes) : readValue fuel (32 :: s) = readValue fuel s := by
  cases fuel with
  | zero => rfl
  | succ fuel =>
    have hskip : skipBlanks (32 :: s) = skipBlanks s := rfl
    rw [readValue, readValue, hskip]

/-- Blanks before the first key do not matter. -/
theorem readMembers_congr (fuel : ℕ) {s t : Bytes} (h : skipBlanks s = skipBlanks t) :
    readMembers fuel s = readMembers fuel t := by
  cases fuel with
  | zero => rfl
  | succ fuel =>
    have hkey : readKey s = readKey t := by
      rw [readKey, readKey, h]
    rw [readMembers, readMembers, hkey]

/-- A line is read as its member, and the reader goes on after the text of the value. -/
theorem readMembers_line (indent fuel : ℕ) (m : Member) {tail : Bytes} (htail : Ends tail)
    (hfuel : m.text.length < fuel) :
    readMembers (fuel + 1)
        (List.replicate indent 32 ++ 34 :: (m.key ++ 34 :: 58 :: 32 :: (m.text ++ tail))) =
      match skipBlanks tail with
      | 44 :: rest => (readMembers fuel rest).map (fun r => (m.entry :: r.1, r.2))
      | 125 :: rest => some ([m.entry], rest)
      | _ => none := by
  rw [readMembers, readKey_line indent m.plain]
  change (readValue fuel (32 :: (m.text ++ tail))).bind _ = _
  rw [readValue_blank, m.standsFor fuel tail hfuel htail]
  rfl

/-- The lines of an object are read as its members. -/
theorem readMembers_text (indent outer : ℕ) (rest : Bytes) {members : List Member}
    (hne : members ≠ []) (fuel : ℕ) (hfuel : (membersText indent members).length < fuel) :
    readMembers fuel (membersText indent members ++ (List.replicate outer 32 ++ 125 :: rest)) =
      some (members.map Member.entry, rest) := by
  induction members generalizing fuel with
  | nil => exact absurd rfl hne
  | cons m tail ih =>
    obtain ⟨n, rfl⟩ : ∃ n, fuel = n + 1 := ⟨fuel - 1, by omega⟩
    cases tail with
    | nil =>
      have hlen : m.text.length < n := by
        simp only [membersText_last, List.length_append, List.length_cons] at hfuel
        omega
      have hline := readMembers_line indent n m
        (ends_cons rfl (List.replicate outer 32 ++ 125 :: rest) : Ends (10 :: _)) hlen
      have hskip : skipBlanks (10 :: (List.replicate outer 32 ++ 125 :: rest)) = 125 :: rest :=
        skipBlanks_append outer (125 :: rest)
      rw [hskip] at hline
      simpa only [membersText_last, List.append_assoc, List.cons_append, List.nil_append,
        List.map_cons, List.map_nil] using hline
    | cons next tail =>
      have hlen : m.text.length < n := by
        simp only [membersText_cons, List.length_append, List.length_cons] at hfuel
        omega
      have hrest : (membersText indent (next :: tail)).length < n := by
        simp only [membersText_cons, List.length_append, List.length_cons] at hfuel ⊢
        omega
      have hline := readMembers_line indent n m (ends_cons rfl (10 ::
        (membersText indent (next :: tail) ++ (List.replicate outer 32 ++ 125 :: rest))) :
          Ends (44 :: _)) hlen
      have htail := ih (List.cons_ne_nil next tail) n hrest
      have hskip : skipBlanks (44 :: 10 :: (membersText indent (next :: tail) ++
          (List.replicate outer 32 ++ 125 :: rest))) = 44 :: 10 ::
            (membersText indent (next :: tail) ++ (List.replicate outer 32 ++ 125 :: rest)) := rfl
      have hnewline : ∀ s, readMembers n (10 :: s) = readMembers n s :=
        fun s => readMembers_congr n rfl
      rw [hskip] at hline
      simp only [hnewline, htail, Option.map_some] at hline
      simpa only [membersText_cons, List.append_assoc, List.cons_append, List.nil_append,
        List.map_cons] using hline

theorem membersText_eq_quote (indent : ℕ) {members : List Member} (hne : members ≠ [])
    (rest : Bytes) : ∃ s, skipBlanks (membersText indent members ++ rest) = 34 :: s := by
  cases members with
  | nil => exact absurd rfl hne
  | cons m tail =>
    cases tail with
    | nil =>
      rw [membersText_last, List.append_assoc, skipBlanks_append]
      exact ⟨_, rfl⟩
    | cons next tail =>
      rw [membersText_cons, List.append_assoc, skipBlanks_append]
      exact ⟨_, rfl⟩

theorem StandsFor.object (indent : ℕ) {members : List Member} (hne : members ≠ []) :
    StandsFor (objectText indent members) (.object (members.map Member.entry)) := by
  intro fuel rest hfuel _
  obtain ⟨n, rfl⟩ : ∃ n, fuel = n + 1 := ⟨fuel - 1, by omega⟩
  have hlen : (membersText (indent + 2) members).length < n := by
    simp only [objectText, List.length_cons, List.length_append] at hfuel
    omega
  have hread := readMembers_text (indent + 2) indent rest hne n hlen
  obtain ⟨s, hs⟩ := membersText_eq_quote (indent + 2) hne
    (List.replicate indent 32 ++ 125 :: rest)
  have hskip : readMembers n (34 :: s) = readMembers n (membersText (indent + 2) members ++
      (List.replicate indent 32 ++ 125 :: rest)) :=
    readMembers_congr n (hs ▸ List.dropWhile_idempotent _ _)
  have htext : objectText indent members ++ rest = 123 :: 10 :: (membersText (indent + 2) members ++
      (List.replicate indent 32 ++ 125 :: rest)) := by
    simp only [objectText, List.cons_append, List.append_assoc, List.nil_append]
  have hopen : ∀ t, skipBlanks (123 :: t) = 123 :: t := fun _ => rfl
  have hnewline : ∀ t, skipBlanks (10 :: t) = skipBlanks t := fun _ => rfl
  rw [htext, readValue, hopen]
  simp only [hnewline, hs]
  change (readMembers n (34 :: s)).map (fun r => (Json.object r.1, r.2)) = _
  rw [hskip, hread]
  rfl

theorem readDocument_of_standsFor {text : Bytes} {value : Json} (h : StandsFor text value) :
    readDocument (text ++ [10]) = some value := by
  have hends : Ends [10] := ends_cons rfl []
  have hfuel : text.length < (text ++ [10]).length + 1 := by
    rw [List.length_append]
    omega
  rw [readDocument, h _ [10] hfuel hends]
  rfl

theorem takeWhile_decimal (n : ℕ) {rest : Bytes} (hrest : ∀ b ∈ rest.head?, isDigit b = false) :
    (decimal n ++ rest).takeWhile isDigit = decimal n ∧
      (decimal n ++ rest).dropWhile isDigit = rest :=
  takeWhile_append_of_all (fun _ hb => isDigit_of_mem_decimal hb) hrest

/-- No zero leads a printed number but zero itself. -/
theorem decimal_head (n : ℕ) : decimal n = [48] ∨ (decimal n).head? ≠ some 48 := by
  rw [decimal]
  split
  · exact Or.inl rfl
  · rename_i hn
    refine Or.inr (fun hzero => ?_)
    have hne : Nat.digits 10 n ≠ [] := Nat.digits_ne_nil_iff_ne_zero.mpr hn
    rw [List.head?_map, List.head?_reverse, List.getLast?_eq_some_getLast hne, Option.map_some,
      Option.some.injEq] at hzero
    have hlt := Nat.digits_lt_base (b := 10) (by decide) (List.getLast_mem hne)
    have hvalue := congrArg UInt8.toNat hzero
    rw [digit_toNat hlt] at hvalue
    change _ = 48 at hvalue
    exact Nat.getLast_digit_ne_zero 10 hn (by omega)

theorem isUnsigned_decimal_append (n : ℕ) {rest : Bytes}
    (hrest : ∀ b ∈ rest.head?, isDigit b = false) (hfraction : isFraction rest = true) :
    isUnsigned (decimal n ++ rest) = true := by
  obtain ⟨htake, hdrop⟩ := takeWhile_decimal n hrest
  have hne := decimal_ne_nil n
  rw [isUnsigned, htake, hdrop, hfraction, Bool.and_true]
  rcases decimal_head n with h | h
  · simp [h]
  · simp [h, hne]

theorem isNumber_of_isUnsigned {s : Bytes} (h : isUnsigned s = true) :
    isNumber s = true ∧ isNumber (45 :: s) = true := by
  refine ⟨?_, h⟩
  rw [isNumber.eq_def]
  split
  · cases h
  · exact h

theorem isNumber_decimalInt (z : ℤ) : isNumber (decimalInt z) = true := by
  have h : isUnsigned (decimal z.natAbs ++ []) = true :=
    isUnsigned_decimal_append z.natAbs (fun b hb => by cases hb) rfl
  rw [List.append_nil] at h
  rw [decimalInt]
  split
  · exact (isNumber_of_isUnsigned h).2
  · exact (isNumber_of_isUnsigned h).1

theorem isDigits_decimal (n : ℕ) : isDigits (decimal n) = true := by
  rw [isDigits, Bool.and_eq_true, decide_eq_true_eq, List.all_eq_true]
  exact ⟨decimal_ne_nil n, fun _ hb => isDigit_of_mem_decimal hb⟩

theorem isExponent_exponentText (x : ℤ) : isExponent (exponentText x) = true := by
  have hdigits : isDigits (if x.natAbs < 10 then 48 :: decimal x.natAbs else decimal x.natAbs) =
      true := by
    split
    · rw [isDigits, Bool.and_eq_true, decide_eq_true_eq, List.all_cons, Bool.and_eq_true]
      refine ⟨List.cons_ne_nil _ _, rfl, ?_⟩
      exact (Bool.and_eq_true_iff.mp (isDigits_decimal x.natAbs)).2
    · exact isDigits_decimal x.natAbs
  rw [exponentText]
  split <;> exact hdigits

/-- A printed fraction may be followed by an exponent or by nothing. -/
theorem isUnsigned_fractionText (m f : ℕ) {e : Bytes} (he : isExponent e = true) :
    isUnsigned (fractionText m f ++ e) = true := by
  have hends : ∀ b ∈ e.head?, isDigit b = false ∧ b ≠ 46 := by
    intro b hb
    cases e with
    | nil => cases hb
    | cons c e =>
      cases hb
      simp only [isExponent, Bool.and_eq_true, Bool.or_eq_true, decide_eq_true_eq] at he
      rcases he.1 with rfl | rfl <;> decide
  have hfraction : isFraction e = true := by
    rw [isFraction.eq_def]
    split
    · exact absurd rfl (hends 46 rfl).2
    · exact he
  rw [fractionText]
  generalize hpadded : List.replicate (f - (decimal (m % 10 ^ f)).length) 48 ++
    decimal (m % 10 ^ f) = padded
  have hdigits : ∀ b ∈ padded.rdropWhile (fun b => b = 48), isDigit b = true := by
    intro b hb
    have hmem := (List.rdropWhile_prefix _ padded).subset hb
    rw [← hpadded] at hmem
    rcases List.mem_append.mp hmem with hmem | hmem
    · rw [List.eq_of_mem_replicate hmem]
      rfl
    · exact isDigit_of_mem_decimal hmem
  split
  · rw [List.append_nil]
    exact isUnsigned_decimal_append _ (fun b hb => (hends b hb).1) hfraction
  · rename_i hne
    rw [List.append_assoc]
    apply isUnsigned_decimal_append
    · intro b hb
      cases hb
      rfl
    · obtain ⟨htake, hdrop⟩ := takeWhile_append_of_all hdigits (fun b hb => (hends b hb).1)
      rw [List.cons_append, isFraction, htake, hdrop, he, Bool.and_true, decide_eq_true_eq]
      exact hne

theorem isUnsigned_generalText (m : ℕ) (x : ℤ) :
    isUnsigned (if -4 ≤ x ∧ x < 6 then fractionText m (5 - x).toNat
      else fractionText m 5 ++ exponentText x) = true := by
  split
  · have h : isUnsigned (fractionText m (5 - x).toNat ++ []) = true :=
      isUnsigned_fractionText m (5 - x).toNat rfl
    rwa [List.append_nil] at h
  · exact isUnsigned_fractionText m 5 (isExponent_exponentText x)

/-- What a stream prints for a finite number is a number of JSON. -/
theorem isNumber_generalText (q : ℚ) : isNumber (generalText q) = true := by
  rw [generalText]
  split
  · rfl
  · generalize sixDigits q.num.natAbs q.den = digits
    obtain ⟨m, x⟩ := digits
    obtain ⟨hplus, hminus⟩ := isNumber_of_isUnsigned (isUnsigned_generalText m x)
    by_cases hneg : q < 0
    · simp only [if_pos hneg]
      exact hminus
    · simp only [if_neg hneg]
      exact hplus

/-- After blanks comes a byte that begins no value. -/
def isForeign (text : Bytes) : Bool :=
  match skipBlanks text with
  | [] => false
  | b :: _ => !isNumberByte b && !(utf8 "\x7b[\"ntf").contains b

theorem isForeign_append {text : Bytes} (h : isForeign text = true) (more : Bytes) :
    isForeign (text ++ more) = true := by
  rw [isForeign, skipBlanks, List.dropWhile_append]
  unfold isForeign at h
  change (match text.dropWhile isBlank with
    | [] => false
    | b :: _ => !isNumberByte b && !(utf8 "\x7b[\"ntf").contains b) = true at h
  cases hdrop : text.dropWhile isBlank with
  | nil =>
    rw [hdrop] at h
    cases h
  | cons b rest =>
    rw [hdrop] at h
    exact h

theorem readValue_foreign {text : Bytes} (h : isForeign text = true) (fuel : ℕ) :
    readValue fuel text = none := by
  unfold isForeign at h
  cases fuel with
  | zero => rfl
  | succ fuel =>
    cases hskip : skipBlanks text with
    | nil =>
      rw [hskip] at h
      cases h
    | cons b rest =>
      simp only [hskip, Bool.and_eq_true, Bool.not_eq_true'] at h
      obtain ⟨hnumber, hopening⟩ := h
      have hread : readNumber (b :: rest) = none := by
        rw [readNumber, List.takeWhile_cons_of_neg (by rw [hnumber]; exact Bool.false_ne_true)]
        rfl
      rw [readValue, hskip]
      -- Every branch but the last is for a byte that opens a value.
      split
      all_goals
        first
        | exact hread
        | rename_i heq
          rw [(List.cons.inj heq).1] at hopening
          cases hopening

theorem readDocument_foreign {text : Bytes} (h : isForeign text = true) :
    readDocument text = none := by
  rw [readDocument, readValue_foreign h, Option.bind_none]

/-- As many documents as there are at the beginning of a text, and what follows them. -/
def readStream : ℕ → Bytes → List Json × Bytes
  | 0, s => ([], s)
  | fuel + 1, s =>
    (readValue (s.length + 1) s).elim ([], skipBlanks s) (fun r =>
      (r.1 :: (readStream fuel r.2).1, (readStream fuel r.2).2))

/-- Every document takes a byte at least. -/
def readDocuments (s : Bytes) : List Json × Bytes := readStream (s.length + 1) s

theorem skipBlanks_blanks {blanks : Bytes} (h : ∀ b ∈ blanks, isBlank b = true) (s : Bytes) :
    skipBlanks (blanks ++ s) = skipBlanks s :=
  List.dropWhile_append_of_pos h

theorem readValue_blanks {blanks : Bytes} (h : ∀ b ∈ blanks, isBlank b = true) (fuel : ℕ)
    (s : Bytes) : readValue fuel (blanks ++ s) = readValue fuel s := by
  cases fuel with
  | zero => rfl
  | succ fuel => rw [readValue, readValue, skipBlanks_blanks h]

theorem readStream_flatMap {ι : Type} {text : ι → Bytes} {value : ι → Json}
    (hvalue : ∀ i, StandsFor (text i) (value i)) {rest : Bytes} (hrest : isForeign rest = true)
    (docs : List ι) {blanks : Bytes} (hblanks : ∀ b ∈ blanks, isBlank b = true) {fuel : ℕ}
    (hfuel : docs.length < fuel) :
    readStream fuel (blanks ++ (docs.flatMap (fun i => text i ++ [10]) ++ rest)) =
      (docs.map value, skipBlanks rest) := by
  induction docs generalizing blanks fuel with
  | nil =>
    obtain ⟨n, rfl⟩ : ∃ n, fuel = n + 1 := ⟨fuel - 1, by simp at hfuel; omega⟩
    rw [List.flatMap_nil, List.nil_append, readStream, readValue_blanks hblanks,
      readValue_foreign hrest, skipBlanks_blanks hblanks]
    rfl
  | cons i docs ih =>
    obtain ⟨n, rfl⟩ : ∃ n, fuel = n + 1 := ⟨fuel - 1, by simp at hfuel; omega⟩
    have hn : docs.length < n := by simpa using hfuel
    have hnewline : ∀ b ∈ [10], isBlank b = true := List.all_eq_true.mp rfl
    have hlater := ih hnewline hn
    have hsplit : (i :: docs).flatMap (fun i => text i ++ [10]) ++ rest =
        text i ++ ([10] ++ (docs.flatMap (fun i => text i ++ [10]) ++ rest)) := by
      simp only [List.flatMap_cons, List.append_assoc]
    have hread : ∀ k, (text i).length < k →
        readValue k (blanks ++ ((i :: docs).flatMap (fun i => text i ++ [10]) ++ rest)) =
          some (value i, [10] ++ (docs.flatMap (fun i => text i ++ [10]) ++ rest)) := by
      intro k hk
      rw [readValue_blanks hblanks, hsplit]
      exact hvalue i k _ hk (ends_cons rfl _)
    rw [readStream, hread _ (by rw [hsplit]; simp only [List.length_append]; omega),
      Option.elim_some, hlater]
    rfl

/-- Documents that end their lines are read back one by one, up to a text that begins none. -/
theorem readDocuments_flatMap {ι : Type} {text : ι → Bytes} {value : ι → Json}
    (hvalue : ∀ i, StandsFor (text i) (value i)) {rest : Bytes} (hrest : isForeign rest = true)
    (docs : List ι) :
    readDocuments (docs.flatMap (fun i => text i ++ [10]) ++ rest) =
      (docs.map value, skipBlanks rest) := by
  have hlength : docs.length ≤ (docs.flatMap (fun i => text i ++ [10])).length := by
    induction docs with
    | nil => exact Nat.zero_le _
    | cons i docs ih =>
      rw [List.flatMap_cons, List.length_append, List.length_append, List.length_cons,
        List.length_singleton]
      omega
  refine readStream_flatMap hvalue hrest docs (List.forall_mem_nil _) ?_
  rw [List.length_append]
  omega

end SolakonMonitor.JsonText
