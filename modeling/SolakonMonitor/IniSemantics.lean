import SolakonMonitor.ConfigMeaning

/-!
The meaning of a configuration file does not depend on what the reader ignores.
The settings are determined by the last assignment of each key in the solakon sections,
so the edits that keep these leave the settings unchanged: taking out idle lines,
exchanging assignments to different keys, and taking out an assignment that a later one
replaces. A carriage return at the end of a line is trimmed off.
-/
namespace SolakonMonitor.IniSemantics

open BigEndian DecimalText TextLines ConfigLoader ConfigRoundTrip ConfigMeaning

/-- A line without effect in the section it stands in. -/
inductive Idle (current line : Bytes) : Prop
  | blank : trimmed line = [] → Idle current line
  | comment : (trimmed line).head? = some 59 ∨ (trimmed line).head? = some 35 → Idle current line
  | noEquals : 61 ∉ trimmed line → Idle current line
  | unknownKey (e : Entry) : classify line = .entry e → keyOf e.1 = .unknown → Idle current line
  | outside : current ≠ utf8 "solakon" → Idle current line

/-- The value that an assignment leaves in a setting. -/
def Reads {β : Type} (key : Key) (get : Settings → β) (read : Bytes → Option β) : Prop :=
  (∀ cfg cfg' e, keyOf e.1 = key → assignEntry cfg e = .ok cfg' → read e.2 = some (get cfg')) ∧
    ∀ cfg cfg' e, keyOf e.1 ≠ key → assignEntry cfg e = .ok cfg' → get cfg' = get cfg

/-- Every line end becomes carriage return and line feed. -/
def crlf (content : Bytes) : Bytes := content.flatMap (fun b => if b = 10 then [13, 10] else [b])

end SolakonMonitor.IniSemantics
