import Mathlib.Data.List.TakeDrop
import SolakonMonitor.ConfigMeaning
import SolakonMonitor.FileStream

/-!
Saving the configuration when a write can fail at any point.
The file is emptied before anything is written, and the stream is never asked whether
its writes succeeded, so the result only tells that the file was opened. Every insertion
and the final flush, which happens when the stream goes out of scope, have an outcome of
their own.
-/
namespace SolakonMonitor.SavingFailures

open BigEndian DecimalText ConfigLoader ConfigRoundTrip ConfigMeaning FileStream

/-- What `save` inserts, one `<<` after another; the ports are inserted in a loop. -/
def insertions (cfg : Settings) : List Bytes :=
  (settingsPieces cfg).dropLast.dropLast ++
    (cfg.scanPorts.map (fun port => decimal port.toNat)).intersperse [44] ++ [utf8 "\n"]

/-- `save` with the outcome of each insertion and of the final flush. -/
def saveStreamed (fs : FileSystem) (cfg : Settings) (outcomes : ℕ → Insertion)
    (closing : Option ℕ) : Bool × FileSystem :=
  if cfg.configPath = [] then (false, fs)
  else
    match (fs.makeParent cfg.configPath).openTruncated cfg.configPath with
    | none => (false, fs.makeParent cfg.configPath)
    | some opened =>
      (true, { opened with
        files := Function.update opened.files (cString cfg.configPath)
          (some (streamed (insertions cfg) outcomes closing)) })

theorem insertions_flatten (cfg : Settings) : (insertions cfg).flatten = settingsText cfg := by
  have hports : ((cfg.scanPorts.map (fun port => decimal port.toNat)).intersperse [44]).flatten =
      List.intercalate [44] (cfg.scanPorts.map (fun port => decimal port.toNat)) := rfl
  rw [insertions, List.flatten_append, List.flatten_append, hports]
  simp only [settingsText, settingsPieces, List.dropLast_cons_cons, List.dropLast_singleton,
    List.flatten_cons, List.flatten_nil, List.append_assoc, List.append_nil]

/-- The configuration has a path, and the file there can be opened for writing. -/
def Opens (fs : FileSystem) (cfg : Settings) : Prop :=
  cfg.configPath ≠ [] ∧ ((fs.makeParent cfg.configPath).openTruncated cfg.configPath).isSome

/-- Success means that the file holds the new text, failure that it holds what it held. -/
def AllOrNothing (fs : FileSystem) (cfg : Settings) (result : Bool × FileSystem) : Prop :=
  (result.1 = true →
      result.2.files (cString cfg.configPath) = some (settingsText cfg)) ∧
    (result.1 = false →
      result.2.files (cString cfg.configPath) = fs.files (cString cfg.configPath))

theorem makeParent_files (fs : FileSystem) (path : Bytes) :
    (fs.makeParent path).files = fs.files := by
  unfold FileSystem.makeParent
  split
  · rfl
  · unfold FileSystem.mkdir
    split <;> rfl

theorem saveStreamed_closed {fs : FileSystem} {cfg : Settings} (h : ¬ Opens fs cfg)
    (outcomes : ℕ → Insertion) (closing : Option ℕ) :
    (saveStreamed fs cfg outcomes closing).1 = false ∧
      (saveStreamed fs cfg outcomes closing).2.files = fs.files := by
  unfold saveStreamed
  by_cases hpath : cfg.configPath = []
  · rw [if_pos hpath]
    exact ⟨rfl, rfl⟩
  · rw [if_neg hpath]
    cases hopen : (fs.makeParent cfg.configPath).openTruncated cfg.configPath with
    | none => exact ⟨rfl, makeParent_files fs cfg.configPath⟩
    | some opened => exact absurd ⟨hpath, by rw [hopen]; rfl⟩ h

theorem saveStreamed_opened {fs : FileSystem} {cfg : Settings} (h : Opens fs cfg)
    (outcomes : ℕ → Insertion) (closing : Option ℕ) :
    (saveStreamed fs cfg outcomes closing).1 = true ∧
      (saveStreamed fs cfg outcomes closing).2.files (cString cfg.configPath) =
        some (streamed (insertions cfg) outcomes closing) := by
  obtain ⟨hpath, hopen⟩ := h
  obtain ⟨opened, hopen⟩ := Option.isSome_iff_exists.mp hopen
  unfold saveStreamed
  rw [if_neg hpath, hopen]
  exact ⟨rfl, Function.update_self _ _ _⟩

theorem streamed_buffered (fs : FileSystem) (cfg : Settings) :
    streamed (insertions cfg) (fun _ => .buffered) fs.room = fs.taken (settingsText cfg) := by
  rw [streamed, insertAll_buffered rfl, insertions_flatten, FileSystem.taken]
  cases fs.room <;> rfl

theorem taken_eq_iff (fs : FileSystem) (text : Bytes) :
    fs.taken text = text ↔ Takes fs text.length := by
  rw [FileSystem.taken, Takes]
  cases fs.room with
  | none => simp
  | some room => simp [List.take_eq_self_iff]

/-- A disk with room for a number of bytes is a final flush that takes as many. -/
theorem save_eq_streamed (fs : FileSystem) (cfg : Settings) :
    (save fs cfg).1 = (saveStreamed fs cfg (fun _ => .buffered) fs.room).1 ∧
      (save fs cfg).2.files = (saveStreamed fs cfg (fun _ => .buffered) fs.room).2.files := by
  unfold save saveStreamed
  by_cases hpath : cfg.configPath = []
  · rw [if_pos hpath, if_pos hpath]
    exact ⟨rfl, rfl⟩
  · rw [if_neg hpath, if_neg hpath]
    cases hopen : (fs.makeParent cfg.configPath).openTruncated cfg.configPath with
    | none => exact ⟨rfl, rfl⟩
    | some opened =>
      obtain ⟨_, hempty, _, hroom⟩ := openTruncated_some hopen
      rw [makeParent_room] at hroom
      refine ⟨rfl, ?_⟩
      rw [streamed_buffered]
      simp only [FileSystem.write, hempty, Option.map_some, List.nil_append, FileSystem.taken,
        hroom]

/-- On a disk with that much room a save is truthful when the text fits, or no file is opened. -/
theorem save_allOrNothing_iff (fs : FileSystem) (cfg : Settings) :
    AllOrNothing fs cfg (save fs cfg) ↔ (Opens fs cfg → Takes fs (settingsText cfg).length) := by
  obtain ⟨hresult, hfiles⟩ := save_eq_streamed fs cfg
  rw [AllOrNothing, hresult, hfiles]
  by_cases hopens : Opens fs cfg
  · obtain ⟨htrue, hfile⟩ := saveStreamed_opened hopens (fun _ => .buffered) fs.room
    rw [htrue, hfile, streamed_buffered, Option.some.injEq, taken_eq_iff]
    exact ⟨fun h _ => h.1 rfl, fun h => ⟨fun _ => h hopens, fun hfalse => by cases hfalse⟩⟩
  · obtain ⟨hfalse, hsame⟩ := saveStreamed_closed hopens (fun _ => .buffered) fs.room
    rw [hfalse, hsame]
    exact iff_of_true ⟨fun htrue => (by cases htrue), fun _ => rfl⟩ (fun h => absurd h hopens)

end SolakonMonitor.SavingFailures
