import Mathlib.Data.Nat.Notation
import Mathlib.Logic.Basic

/-!
A terminal that is told by codes which style, cursor and screen to use.
Bytes are shown or are part of a code. The second screen is left with its contents, so the
terminal keeps the text of the main one only. Texts are put together by what they do to a
terminal between two codes: they keep its style, they leave another one, or they clear it. What
is shown of a text is known with it.
-/
namespace SolakonMonitor.TerminalCodes

structure Style where
  bold : Bool := false
  foreground : Option ℕ := none
  deriving DecidableEq

inductive Phase where
  | ground
  | escape
  | control (params : List UInt8)
  deriving DecidableEq

structure Terminal where
  phase : Phase := .ground
  style : Style := {}
  alternate : Bool := false
  cursorHidden : Bool := false
  main : List UInt8 := []
  deriving DecidableEq

def number (digits : List UInt8) : ℕ := digits.foldl (fun n b => 10 * n + (b.toNat - 48)) 0

def selectStyle (style : Style) (param : List UInt8) : Style :=
  let n := number param
  if n = 0 then {}
  else if n = 1 then { style with bold := true }
  else if 30 ≤ n ∧ n ≤ 37 ∨ 90 ≤ n ∧ n ≤ 97 then { style with foreground := some n }
  else style

/-- The codes that are known, by their parameters and their last byte. -/
def execute (t : Terminal) (params : List UInt8) (final : UInt8) : Terminal :=
  if final = 109 then { t with style := (params.splitOn 59).foldl selectStyle t.style }
  else if final = 104 ∧ params = [63, 49, 48, 52, 57] then { t with alternate := true }
  else if final = 108 ∧ params = [63, 49, 48, 52, 57] then { t with alternate := false }
  else if final = 108 ∧ params = [63, 50, 53] then { t with cursorHidden := true }
  else if final = 104 ∧ params = [63, 50, 53] then { t with cursorHidden := false }
  else if final = 74 ∧ params = [50] ∧ t.alternate = false then { t with main := [] }
  else t

/-- Text goes to the screen in use. -/
def write (t : Terminal) (text : List UInt8) : Terminal :=
  if t.alternate then t else { t with main := t.main ++ text }

/-- The last byte of a code is from `@` to `~`. -/
def isParam (b : UInt8) : Bool := b < 64 || 126 < b

def step (t : Terminal) (b : UInt8) : Terminal :=
  match t.phase with
  | .ground => if b = 27 then { t with phase := .escape } else write t [b]
  | .escape => { t with phase := if b = 91 then .control [] else .ground }
  | .control params =>
    if isParam b then { t with phase := .control (params ++ [b]) }
    else execute { t with phase := .ground } params b

def run (t : Terminal) (text : List UInt8) : Terminal := text.foldl step t

theorem run_append (t : Terminal) (a b : List UInt8) : run t (a ++ b) = run (run t a) b :=
  List.foldl_append

@[simp] theorem write_phase (t : Terminal) (text : List UInt8) :
    (write t text).phase = t.phase := by
  rw [write]
  split <;> rfl

@[simp] theorem write_style (t : Terminal) (text : List UInt8) :
    (write t text).style = t.style := by
  rw [write]
  split <;> rfl

theorem write_append (t : Terminal) (a b : List UInt8) :
    write t (a ++ b) = write (write t a) b := by
  cases halternate : t.alternate with
  | true => simp [write, halternate]
  | false => simp [write, halternate]

theorem write_restyle (t : Terminal) (text : List UInt8) (style : Style) :
    write { t with style := style } text = { write t text with style := style } := by
  cases halternate : t.alternate with
  | true => simp [write, halternate]
  | false => simp [write, halternate]

/-- Shown in the style that the terminal has. -/
def Shows (text plain : List UInt8) : Prop :=
  ∀ t : Terminal, t.phase = .ground → t.style = {} → run t text = write t plain

/-- Shown, and another style is left. -/
def Paints (text plain : List UInt8) : Prop :=
  ∀ t : Terminal, t.phase = .ground → ∃ style, run t text = { write t plain with style := style }

/-- Shown, and no style is left. -/
def Clears (text plain : List UInt8) : Prop :=
  ∀ t : Terminal, t.phase = .ground → run t text = { write t plain with style := {} }

def Keeps (text : List UInt8) : Prop := ∃ plain, Shows text plain

theorem Shows.keeps {text plain : List UInt8} (h : Shows text plain) : Keeps text := ⟨plain, h⟩

theorem Shows.append {a b p q : List UInt8} (ha : Shows a p) (hb : Shows b q) :
    Shows (a ++ b) (p ++ q) := by
  intro t ht hstyle
  have hlater :=
    hb (write t p) ((write_phase t p).trans ht) ((write_style t p).trans hstyle)
  rw [run_append, ha t ht hstyle, hlater, write_append]

theorem Clears.shows {text plain : List UInt8} (h : Clears text plain) : Shows text plain := by
  intro t ht hstyle
  have hsame : ({ write t plain with style := {} } : Terminal) = write t plain := by
    rw [← hstyle, ← write_style t plain]
  rw [h t ht, hsame]

theorem Paints.append {a b p q : List UInt8} (ha : Paints a p) (hb : Paints b q) :
    Paints (a ++ b) (p ++ q) := by
  intro t ht
  obtain ⟨style, hrun⟩ := ha t ht
  obtain ⟨style', hrun'⟩ := hb { write t p with style := style } ((write_phase t p).trans ht)
  refine ⟨style', ?_⟩
  rw [run_append, hrun, hrun', write_restyle, write_append]

theorem Clears.append {a b p q : List UInt8} (ha : Clears a p) (hb : Shows b q) :
    Clears (a ++ b) (p ++ q) := by
  intro t ht
  have hlater := hb { write t p with style := {} } ((write_phase t p).trans ht) rfl
  rw [run_append, ha t ht, hlater, write_restyle, write_append]

theorem Clears.keeps {text plain : List UInt8} (h : Clears text plain) : Keeps text := h.shows.keeps

theorem Keeps.append {a b : List UInt8} (ha : Keeps a) (hb : Keeps b) : Keeps (a ++ b) := by
  obtain ⟨p, hp⟩ := ha
  obtain ⟨q, hq⟩ := hb
  exact (hp.append hq).keeps

end SolakonMonitor.TerminalCodes
