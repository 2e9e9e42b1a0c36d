import Mathlib.Data.List.Basic

/-!
A buffered output stream on an open file whose writes can fail at any point.
An inserted text waits in the buffer or is flushed with everything before it; a flush
that fails has passed on some of the waiting letters, and from then on insertions are
ignored. Closing flushes what still waits. What is passed on is the beginning of what was
inserted, in order; it is all of it exactly when no insertion but the last fails and
the last flush takes everything that waits.
-/
namespace SolakonMonitor.FileStream

variable {α : Type}

/-- `passed` has reached the file, `waiting` is in the buffer. -/
structure Stream (α : Type) where
  passed : List α := []
  waiting : List α := []
  failed : Bool := false

/-- What happens at an insertion; `broken` took this many letters before it failed. -/
inductive Insertion where
  | buffered
  | flushed
  | broken (taken : ℕ)
  deriving DecidableEq, Repr

namespace Stream

def insert (s : Stream α) (text : List α) (outcome : Insertion) : Stream α :=
  if s.failed then s
  else
    match outcome with
    | .buffered => { s with waiting := s.waiting ++ text }
    | .flushed => { s with passed := s.passed ++ (s.waiting ++ text), waiting := [] }
    | .broken taken =>
      { passed := s.passed ++ (s.waiting ++ text).take taken
        waiting := (s.waiting ++ text).drop taken
        failed := true }

/-- Insert texts, the one numbered `i` with the outcome `outcomes i`. -/
def insertAll (s : Stream α) : List (List α) → (ℕ → Insertion) → Stream α
  | [], _ => s
  | text :: rest, outcomes =>
    (s.insert text (outcomes 0)).insertAll rest (fun i => outcomes (i + 1))

/-- The file after the stream is closed; `some taken` is a final flush that failed. -/
def close (s : Stream α) (closing : Option ℕ) : List α :=
  match closing with
  | none => s.passed ++ s.waiting
  | some taken => s.passed ++ s.waiting.take taken

end Stream

/-- How many of the texts are not ignored. -/
def accepted : List (List α) → (ℕ → Insertion) → ℕ
  | [], _ => 0
  | _ :: rest, outcomes =>
    match outcomes 0 with
    | .broken _ => 1
    | _ => accepted rest (fun i => outcomes (i + 1)) + 1

theorem insert_open {s : Stream α} (h : s.failed = false) (text : List α) (outcome : Insertion) :
    s.insert text outcome = match outcome with
      | .buffered => ⟨s.passed, s.waiting ++ text, false⟩
      | .flushed => ⟨s.passed ++ (s.waiting ++ text), [], false⟩
      | .broken taken =>
        ⟨s.passed ++ (s.waiting ++ text).take taken, (s.waiting ++ text).drop taken, true⟩ := by
  obtain ⟨passed, waiting, failed⟩ := s
  cases h
  cases outcome <;> rfl

/-- The file that a stream over an empty file leaves behind. -/
def streamed (texts : List (List α)) (outcomes : ℕ → Insertion) (closing : Option ℕ) : List α :=
  (({} : Stream α).insertAll texts outcomes).close closing

theorem insertAll_buffered {s : Stream α} (h : s.failed = false) (texts : List (List α)) :
    s.insertAll texts (fun _ => .buffered) = ⟨s.passed, s.waiting ++ texts.flatten, false⟩ := by
  induction texts generalizing s with
  | nil =>
    obtain ⟨passed, waiting, failed⟩ := s
    cases h
    rw [Stream.insertAll, List.flatten_nil, List.append_nil]
  | cons text rest ih =>
    rw [Stream.insertAll, insert_open h, ih rfl, List.flatten_cons, List.append_assoc]

end SolakonMonitor.FileStream
