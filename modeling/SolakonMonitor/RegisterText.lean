import SolakonMonitor.ReplyFrames

/-!
Texts in registers.
A text is packed two bytes to a register and filled up with NULs and blanks. Reading it
back drops all of these at the end, and so returns the longest beginning of the bytes
that does not end in one of them.
-/
namespace SolakonMonitor.RegisterText

open BigEndian ModbusClient ReplyFrames

def isFiller (b : UInt8) : Bool := b = 0 || b = 32

/-- The text does not end in a NUL or a blank. -/
def Clean (s : Bytes) : Prop := ∀ b ∈ s.getLast?, isFiller b = false

/-- Two bytes to a register, the first one high. -/
def packRegisters : Bytes → List UInt16
  | hi :: lo :: rest => word hi lo :: packRegisters rest
  | [hi] => [word hi 0]
  | [] => []

/-- `text` begins `bytes`, is clean, and nothing longer is both. -/
structure LongestClean (bytes text : Bytes) : Prop where
  initial : text <+: bytes
  clean : Clean text
  longest : ∀ p, p <+: bytes → Clean p → p.length ≤ text.length

/-- A reply with these registers arrives. -/
structure Carries (regs : List UInt16) (w : Inbound) : Prop where
  sent : ∃ n, w.sent = .ok n
  complete : 9 + 2 * regs.length ≤ w.arrived.length
  function : w.arrived[7]? = some 0x03
  data : (w.arrived.drop 9).take (2 * regs.length) = wordsBytes regs

theorem clean_concat (s : Bytes) (b : UInt8) : Clean (s ++ [b]) ↔ isFiller b = false := by
  rw [Clean, List.getLast?_concat]
  simp only [Option.mem_def, Option.some.injEq, forall_eq']

theorem longestClean_rdropWhile (bytes : Bytes) :
    LongestClean bytes (bytes.rdropWhile isFiller) := by
  induction bytes using List.reverseRecOn with
  | nil =>
    refine ⟨List.prefix_refl _, fun b hb => (nomatch hb), ?_⟩
    intro p hp _
    rw [List.prefix_nil.mp hp]
    exact Nat.zero_le _
  | append_singleton rest b ih =>
    cases hb : isFiller b with
    | true =>
      rw [List.rdropWhile_concat_pos _ _ _ hb]
      refine ⟨ih.initial.trans (List.prefix_append _ _), ih.clean, ?_⟩
      intro p hp hclean
      -- the whole list is not clean, so a clean beginning stops before the filler
      rcases List.prefix_concat_iff.mp hp with rfl | hp
      · rw [clean_concat, hb] at hclean
        cases hclean
      · exact ih.longest p hp hclean
    | false =>
      rw [List.rdropWhile_concat_neg _ _ _ (by rw [hb]; exact Bool.false_ne_true)]
      exact ⟨List.prefix_refl _, (clean_concat rest b).mpr hb, fun p hp _ => hp.length_le⟩

theorem rdropWhile_clean {s : Bytes} (hclean : Clean s) : s.rdropWhile isFiller = s := by
  have hlongest := longestClean_rdropWhile s
  exact hlongest.initial.eq_of_length_le (hlongest.longest s (List.prefix_refl s) hclean)

theorem rdropWhile_filled {s filling : Bytes} (hclean : Clean s)
    (hfilling : ∀ b ∈ filling, isFiller b = true) : (s ++ filling).rdropWhile isFiller = s := by
  induction filling using List.reverseRecOn with
  | nil => rw [List.append_nil, rdropWhile_clean hclean]
  | append_singleton rest b ih =>
    rw [← List.append_assoc, List.rdropWhile_concat_pos _ _ _ (hfilling b (by simp))]
    exact ih (fun c hc => hfilling c (List.mem_append_left _ hc))

theorem wordsBytes_packRegisters (bytes : Bytes) (heven : 2 ∣ bytes.length) :
    wordsBytes (packRegisters bytes) = bytes := by
  induction bytes using packRegisters.induct with
  | case1 hi lo rest ih =>
    have hrest : 2 ∣ rest.length := by
      simp only [List.length_cons] at heven
      omega
    rw [packRegisters, wordsBytes, List.flatMap_cons, wordBytes, hiByte_word, loByte_word]
    exact congrArg (hi :: lo :: ·) (ih hrest)
  | case2 hi =>
    simp only [List.length_cons, List.length_nil] at heven
    omega
  | case3 => rfl

theorem length_packRegisters {bytes : Bytes} {n : ℕ} (hlength : bytes.length = 2 * n) :
    (packRegisters bytes).length = n := by
  have hbytes := congrArg List.length (wordsBytes_packRegisters bytes ⟨n, hlength⟩)
  rw [wordsBytes_length, hlength] at hbytes
  omega

theorem registers_of_carries {regs : List UInt16} {w : Inbound} (h : Carries regs w) :
    registers (w.arrived.drop 9) regs.length = regs := by
  rw [← registers_take, h.data]
  have hback := registers_wordsBytes regs []
  rwa [List.append_nil] at hback

theorem readString_carries (addr : UInt16) {n : UInt16} {regs : List UInt16} (result : Bytes)
    (client : Client) {w : Inbound} (hn : 1 ≤ n.toNat) (hmax : n.toNat ≤ 125)
    (hlength : regs.length = n.toNat) (h : Carries regs w) :
    ∃ link', readString Inbound.socket addr n result ⟨client, w⟩ =
      some ((none, (wordsBytes regs).rdropWhile isFiller), link') := by
  have hne : n ≠ 0 := by
    rintro rfl
    exact absurd hn (by decide)
  obtain ⟨link', hcase⟩ := readHoldingRegisters_arrived addr n (List.replicate n.toNat 0) client w
    hne (by omega) (Nat.le_of_eq List.length_replicate.symm)
  rcases hcase with ⟨_, hrun⟩ | ⟨hrejects, _⟩
  · have hregisters := registers_of_carries h
    rw [hlength] at hregisters
    rw [hregisters, List.drop_eq_nil_of_le (Nat.le_of_eq List.length_replicate), List.append_nil]
      at hrun
    refine ⟨link', ?_⟩
    simp only [readString, hrun, Option.map_some]
    rw [if_neg (by omega)]
    rfl
  · exact absurd ⟨h.sent, hlength ▸ h.complete, h.function⟩ hrejects

/-- Reading a text from registers gives the longest clean beginning of their bytes, and
so gives back what was packed into them. -/
theorem readString_text (addr n : UInt16) (result : Bytes) (client : Client) (hn : 1 ≤ n.toNat)
    (hmax : n.toNat ≤ 125) :
    (∀ (regs : List UInt16) (w : Inbound), regs.length = n.toNat → Carries regs w →
      ∃ text link', readString Inbound.socket addr n result ⟨client, w⟩ =
          some ((none, text), link') ∧
        LongestClean (wordsBytes regs) text) ∧
    ∀ (s filling : Bytes) (w : Inbound), Clean s → (∀ b ∈ filling, isFiller b = true) →
      s.length + filling.length = 2 * n.toNat → Carries (packRegisters (s ++ filling)) w →
      ∃ link', readString Inbound.socket addr n result ⟨client, w⟩ = some ((none, s), link') := by
  constructor
  · intro regs w hlength h
    obtain ⟨link', hrun⟩ := readString_carries addr result client hn hmax hlength h
    exact ⟨_, link', hrun, longestClean_rdropWhile _⟩
  · intro s filling w hclean hfilling htotal h
    have hbytes : (s ++ filling).length = 2 * n.toNat := by
      rw [List.length_append]
      exact htotal
    obtain ⟨link', hrun⟩ :=
      readString_carries addr result client hn hmax (length_packRegisters hbytes) h
    rw [wordsBytes_packRegisters _ ⟨_, hbytes⟩, rdropWhile_filled hclean hfilling] at hrun
    exact ⟨link', hrun⟩

/-- Two registers of a reply, the text two bytes long. -/
def shortReply : Inbound := replying [0, 1, 0, 0, 0, 7, 1, 3, 4, 83, 49, 0, 32]

theorem readString_text_short :
    ∃ link', readString Inbound.socket 39018 2 [] ⟨{}, shortReply⟩ =
      some ((none, [83, 49]), link') :=
  (readString_text 39018 2 [] {} (by decide) (by decide)).2 [83, 49] [0, 32] shortReply
    ((clean_concat [83] 49).mpr rfl) (by simp [isFiller]) (by decide)
    ⟨⟨12, rfl⟩, by decide, by decide, by decide⟩

end SolakonMonitor.RegisterText
