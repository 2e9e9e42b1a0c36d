import SolakonMonitor.ArgumentMeaning
import Mathlib.Data.List.Nodup

/-!
Command lines made of option groups, and the orders of the groups.
Each group is read as the option meant, whatever stands around it, with one exception:
`--server` without a port takes the address that follows it as its port. Groups of
different kinds set different fields, so without that adjacency the order of the groups
does not matter.
-/
namespace SolakonMonitor.OptionOrder

open BigEndian DecimalText MainProgram ArgumentMeaning

/-- An argument token; it does not start with a dash. -/
structure Argument where
  text : Bytes
  plain : text.head? ≠ some 45

/-- An option with its argument, or the positional address. -/
inductive OptionGroup where
  | help (short : Bool)
  | config (file : Argument)
  | scan
  | port (short : Bool) (number : Argument)
  | once
  | json
  | server (number : Option Argument)
  | interval (rate : Argument)
  | art
  | host (ip : Argument)

namespace OptionGroup

def kind : OptionGroup → ArgKind
  | help _ => .help
  | config _ => .config
  | scan => .scan
  | port _ _ => .port
  | once => .once
  | json => .json
  | server _ => .server
  | interval _ => .interval
  | art => .art
  | host _ => .host

/-- The first token of a group. -/
def token : OptionGroup → Bytes
  | help short => if short then utf8 "-h" else utf8 "--help"
  | config _ => utf8 "--config"
  | scan => utf8 "--scan"
  | port short _ => if short then utf8 "-p" else utf8 "--port"
  | once => utf8 "--once"
  | json => utf8 "--json"
  | server _ => utf8 "--server"
  | interval _ => utf8 "--interval"
  | art => utf8 "--art"
  | host ip => ip.text

def argument : OptionGroup → Option Argument
  | config file => some file
  | port _ number => some number
  | server number => number
  | interval rate => some rate
  | _ => none

def tokens (g : OptionGroup) : List Bytes :=
  g.token :: (g.argument.map Argument.text).toList

/-- The option that the group is meant to be. -/
def meant (g : OptionGroup) : GivenOption :=
  ⟨g.kind, g.token, g.argument.map Argument.text⟩

end OptionGroup

open OptionGroup

def commandLine (gs : List OptionGroup) : List Bytes := gs.flatMap tokens

/-- What the groups mean, one by one. -/
def intended (gs : List OptionGroup) : Config := (gs.map meant).foldl applyOption {}

/-- A `--server` without its port stands right before the address. -/
def Swallowed (gs : List OptionGroup) : Prop :=
  ∃ before ip after, gs = before ++ .server none :: .host ip :: after

/-- The address is read as the host, by no other option, and stored as such. -/
def HostRecorded (gs : List OptionGroup) : Prop :=
  ∀ ip, .host ip ∈ gs → ⟨.host, ip.text, none⟩ ∈ options (commandLine gs) ∧
    (parseArgs {} (commandLine gs)).host = ip.text

theorem argKind_of_plain {arg : Bytes} (h : arg.head? ≠ some 45) : argKind arg = .host := by
  have hne : ∀ name : Bytes, name.head? = some 45 → arg ≠ name :=
    fun name hname heq => h (heq ▸ hname)
  unfold argKind
  rw [if_neg (not_or.mpr ⟨hne _ rfl, hne _ rfl⟩), if_neg (hne _ rfl), if_neg (hne _ rfl),
    if_neg (not_or.mpr ⟨hne _ rfl, hne _ rfl⟩), if_neg (hne _ rfl), if_neg (hne _ rfl),
    if_neg (hne _ rfl), if_neg (hne _ rfl), if_neg (hne _ rfl), if_pos h]

theorem argKind_token (g : OptionGroup) : argKind g.token = g.kind := by
  cases g with
  | help short => cases short <;> rfl
  | port short number => cases short <;> rfl
  | host ip => exact argKind_of_plain ip.plain
  | _ => rfl

theorem token_dash {g : OptionGroup} (h : ∀ ip, g ≠ .host ip) : g.token.head? = some 45 := by
  cases g with
  | help short => cases short <;> rfl
  | port short number => cases short <;> rfl
  | host ip => exact absurd rfl (h ip)
  | _ => rfl

theorem options_cons (arg : Bytes) (rest : List Bytes)
    (h : ∀ next ∈ rest.head?, consumes (argKind arg) next = false) :
    options (arg :: rest) = ⟨argKind arg, arg, none⟩ :: options rest := by
  cases rest with
  | nil => rfl
  | cons next rest =>
    have hkept : ¬ consumes (argKind arg) next = true := by
      rw [h next rfl]
      exact Bool.false_ne_true
    rw [options, if_neg hkept]

/-- A group is read as meant, unless it is a `--server` that takes what follows. -/
theorem options_group (g : OptionGroup) (rest : List Bytes)
    (h : g = .server none → ∀ next ∈ rest.head?, next.head? = some 45) :
    options (g.tokens ++ rest) = g.meant :: options rest := by
  have hkind := argKind_token g
  rw [tokens, meant]
  cases harg : g.argument with
  | none =>
    rw [← hkind]
    refine options_cons g.token rest (fun next hnext => ?_)
    rw [hkind]
    cases g with
    | server number =>
      simp only [argument] at harg
      subst harg
      simp [OptionGroup.kind, consumes, h rfl next hnext]
    | config file | port short number | interval rate => cases harg
    | _ => rfl
  | some value =>
    have hconsumes : consumes (argKind g.token) value.text = true := by
      rw [hkind]
      cases g with
      | server number => simp [OptionGroup.kind, consumes, value.plain]
      | config file | port short number | interval rate => rfl
      | _ => cases harg
    rw [← hkind]
    simp only [Option.map_some, Option.toList_some, List.cons_append, List.nil_append, options,
      if_pos hconsumes]

theorem commandLine_head {gs : List OptionGroup} {next : Bytes}
    (h : next ∈ (commandLine gs).head?) : ∃ g rest, gs = g :: rest ∧ next = g.token := by
  cases gs with
  | nil => cases h
  | cons g rest => exact ⟨g, rest, rfl, (Option.some.inj h).symm⟩

theorem options_before {gs : List OptionGroup} (h : .server none ∉ gs) (rest : List Bytes) :
    options (commandLine gs ++ rest) = gs.map meant ++ options rest := by
  induction gs with
  | nil => rfl
  | cons g gs ih =>
    rw [commandLine, List.flatMap_cons, List.append_assoc, options_group, ← commandLine,
      ih (fun hmem => h (List.mem_cons_of_mem g hmem))]
    · rfl
    · intro hserver
      exact absurd (hserver ▸ List.mem_cons_self) h

theorem options_commandLine {gs : List OptionGroup} (h : ¬ Swallowed gs) :
    options (commandLine gs) = gs.map meant := by
  induction gs with
  | nil => rfl
  | cons g rest ih =>
    have hrest : ¬ Swallowed rest := by
      intro hswallowed
      obtain ⟨before, ip, after, rfl⟩ := hswallowed
      exact h ⟨g :: before, ip, after, rfl⟩
    rw [commandLine, List.flatMap_cons, List.map_cons, options_group, ← commandLine, ih hrest]
    intro hserver next hnext
    obtain ⟨g', rest', rfl, rfl⟩ := commandLine_head hnext
    apply token_dash
    intro ip hip
    exact h ⟨[], ip, rest', by rw [hserver, hip, List.nil_append]⟩

theorem parseArgs_commandLine {gs : List OptionGroup} (h : ¬ Swallowed gs) :
    parseArgs {} (commandLine gs) = intended gs := by
  rw [parseArgs_eq, options_commandLine h, intended]

/-- Options of different kinds set different fields. -/
theorem applyOption_comm {o o' : GivenOption} (h : o.kind ≠ o'.kind) (cfg : Config) :
    applyOption (applyOption cfg o) o' = applyOption (applyOption cfg o') o := by
  obtain ⟨kind, text, value⟩ := o
  obtain ⟨kind', text', value'⟩ := o'
  cases kind <;> cases kind' <;> first
    | exact absurd rfl h
    | (cases value <;> cases value' <;> rfl)

theorem intended_perm {gs gs' : List OptionGroup} (hkinds : (gs.map kind).Nodup)
    (hperm : gs'.Perm gs) : intended gs' = intended gs := by
  rw [intended, intended, List.foldl_map, List.foldl_map]
  refine (hperm.symm.foldl_eq' (fun g hg g' hg' cfg => ?_) _).symm
  by_cases hsame : g.kind = g'.kind
  · rw [List.inj_on_of_nodup_map hkinds hg hg' hsame]
  · exact applyOption_comm hsame cfg

theorem foldl_host {opts : List GivenOption} (h : ∀ o ∈ opts, o.kind ≠ .host) (cfg : Config) :
    (opts.foldl applyOption cfg).host = cfg.host := by
  induction opts generalizing cfg with
  | nil => rfl
  | cons o rest ih =>
    rw [List.foldl_cons, ih (fun o' ho' => h o' (List.mem_cons_of_mem o ho'))]
    have hkind := h o List.mem_cons_self
    obtain ⟨kind, text, value⟩ := o
    cases kind <;> cases value <;> first | rfl | exact absurd rfl hkind

theorem hostRecorded_of_not_swallowed {gs : List OptionGroup} (hkinds : (gs.map kind).Nodup)
    (h : ¬ Swallowed gs) : HostRecorded gs := by
  intro ip hip
  rw [parseArgs_commandLine h, options_commandLine h]
  refine ⟨List.mem_map_of_mem hip, ?_⟩
  obtain ⟨before, after, rfl⟩ := List.append_of_mem hip
  have hafter : ∀ o ∈ after.map meant, o.kind ≠ .host := by
    intro o ho hkind
    obtain ⟨g, hg, rfl⟩ := List.mem_map.mp ho
    rw [List.map_append, List.map_cons, List.nodup_append, List.nodup_cons] at hkinds
    exact hkinds.2.1.1 (List.mem_map.mpr ⟨g, hg, hkind⟩)
  rw [intended, List.map_append, List.map_cons, List.foldl_append, List.foldl_cons,
    foldl_host hafter]
  rfl

/-- Around a swallowed address there is no other host and no other server. -/
structure OnlyPair (before after : List OptionGroup) : Prop where
  server : .server none ∉ before ∧ .server none ∉ after
  host : ∀ g, g ∈ before ∨ g ∈ after → g.kind ≠ .host

theorem onlyPair_of_nodup {before after : List OptionGroup} {ip : Argument}
    (hkinds : ((before ++ .server none :: .host ip :: after).map kind).Nodup) :
    OnlyPair before after := by
  rw [List.map_append, List.map_cons, List.map_cons, List.nodup_append, List.nodup_cons,
    List.nodup_cons] at hkinds
  obtain ⟨_, ⟨hserver, hhost, _⟩, hdisjoint⟩ := hkinds
  refine ⟨⟨?_, ?_⟩, ?_⟩
  · intro hmem
    exact hdisjoint _ (List.mem_map_of_mem hmem) _ List.mem_cons_self rfl
  · intro hmem
    exact hserver (List.mem_cons_of_mem _ (List.mem_map_of_mem (f := kind) hmem))
  · intro g hg hkind
    rcases hg with hg | hg
    · exact hdisjoint _ (List.mem_map_of_mem hg) _
        (List.mem_cons_of_mem _ List.mem_cons_self) hkind
    · exact hhost (List.mem_map.mpr ⟨g, hg, hkind⟩)

/-- The address becomes the port of `--server`. -/
theorem options_swallowed {before after : List OptionGroup} {ip : Argument}
    (hpair : OnlyPair before after) :
    options (commandLine (before ++ .server none :: .host ip :: after)) =
      before.map meant ++ ⟨.server, utf8 "--server", some ip.text⟩ :: after.map meant := by
  have hconsumes : consumes (argKind (utf8 "--server")) ip.text = true := by
    rw [show argKind (utf8 "--server") = .server from rfl]
    simp [consumes, ip.plain]
  have hafter := options_before hpair.server.2 []
  rw [List.append_nil, options, List.append_nil] at hafter
  rw [commandLine, List.flatMap_append, ← commandLine, options_before hpair.server.1,
    List.flatMap_cons, List.flatMap_cons, ← commandLine, ← hafter]
  change _ ++ options (utf8 "--server" :: ip.text :: commandLine after) = _
  rw [options, if_pos hconsumes]
  rfl

theorem not_hostRecorded_of_swallowed {gs : List OptionGroup} (hkinds : (gs.map kind).Nodup)
    (h : Swallowed gs) : ¬ HostRecorded gs := by
  obtain ⟨before, ip, after, rfl⟩ := h
  have hpair := onlyPair_of_nodup hkinds
  intro hrecorded
  have hread := (hrecorded ip (by simp)).1
  rw [options_swallowed hpair, List.mem_append, List.mem_cons] at hread
  rcases hread with hbefore | hserver | hafter
  · obtain ⟨g, hg, hmeant⟩ := List.mem_map.mp hbefore
    exact hpair.host g (Or.inl hg) (congrArg GivenOption.kind hmeant)
  · cases congrArg GivenOption.kind hserver
  · obtain ⟨g, hg, hmeant⟩ := List.mem_map.mp hafter
    exact hpair.host g (Or.inr hg) (congrArg GivenOption.kind hmeant)

/-- A list with a bare `--server` and an address has an order that swallows the address. -/
theorem exists_swallowed {gs : List OptionGroup} {ip : Argument} (hserver : .server none ∈ gs)
    (hhost : .host ip ∈ gs) : ∃ gs', gs'.Perm gs ∧ Swallowed gs' := by
  obtain ⟨before, after, rfl⟩ := List.append_of_mem hserver
  have hother : .host ip ∈ before ++ after := by
    rcases List.mem_append.mp hhost with hmem | hmem
    · exact List.mem_append_left after hmem
    · rcases List.mem_cons.mp hmem with heq | hmem
      · cases heq
      · exact List.mem_append_right before hmem
  obtain ⟨before', after', hsplit⟩ := List.append_of_mem hother
  refine ⟨.server none :: .host ip :: (before' ++ after'), ?_, [], ip, before' ++ after', rfl⟩
  refine List.Perm.trans (List.Perm.cons _ ?_) List.perm_middle.symm
  rw [hsplit]
  exact List.perm_middle.symm

/-- For option groups of different kinds, in one order: the configuration is the one meant
and the address is recorded as the host exactly when no bare `--server` stands right
before the address. In every order: all give the same configuration and record the
address exactly when the list does not have both. -/
theorem option_order_iff (gs : List OptionGroup) (hkinds : (gs.map kind).Nodup) :
    ((parseArgs {} (commandLine gs) = intended gs ∧ HostRecorded gs) ↔ ¬ Swallowed gs) ∧
      ((∀ gs', gs'.Perm gs →
          parseArgs {} (commandLine gs') = parseArgs {} (commandLine gs) ∧ HostRecorded gs') ↔
        ¬ (.server none ∈ gs ∧ ∃ ip, .host ip ∈ gs)) := by
  refine ⟨⟨?_, ?_⟩, ?_, ?_⟩
  · intro hmeant hswallowed
    exact not_hostRecorded_of_swallowed hkinds hswallowed hmeant.2
  · intro hfree
    exact ⟨parseArgs_commandLine hfree, hostRecorded_of_not_swallowed hkinds hfree⟩
  · intro horders hboth
    obtain ⟨hserver, ip, hhost⟩ := hboth
    obtain ⟨gs', hperm, hswallowed⟩ := exists_swallowed hserver hhost
    have hkinds' : (gs'.map kind).Nodup := (hperm.map kind).nodup_iff.mpr hkinds
    exact not_hostRecorded_of_swallowed hkinds' hswallowed (horders gs' hperm).2
  · intro hnot gs' hperm
    have hfree : ∀ gs'' : List OptionGroup, gs''.Perm gs → ¬ Swallowed gs'' := by
      intro gs'' hperm'' hswallowed
      obtain ⟨before, ip, after, rfl⟩ := hswallowed
      exact hnot ⟨hperm''.mem_iff.mp (by simp), ip, hperm''.mem_iff.mp (by simp)⟩
    rw [parseArgs_commandLine (hfree gs' hperm), parseArgs_commandLine (hfree gs (.refl gs))]
    exact ⟨intended_perm hkinds hperm, hostRecorded_of_not_swallowed
      ((hperm.map kind).nodup_iff.mpr hkinds) (hfree gs' hperm)⟩

def homeIp : Argument := ⟨utf8 "192.168.178.121", by decide⟩

def scanGroups : List OptionGroup := [.scan, .host homeIp]

theorem option_order_iff_scan :
    ((parseArgs {} (commandLine scanGroups) = intended scanGroups ∧ HostRecorded scanGroups) ↔
        ¬ Swallowed scanGroups) ∧
      ((∀ gs', gs'.Perm scanGroups →
          parseArgs {} (commandLine gs') = parseArgs {} (commandLine scanGroups) ∧
            HostRecorded gs') ↔
        ¬ (.server none ∈ scanGroups ∧ ∃ ip, .host ip ∈ scanGroups)) :=
  option_order_iff scanGroups (by decide)

/-- `--server 192.168.178.121` drops the address and listens on port 192. -/
theorem option_order_swallowed :
    [OptionGroup.server none, .host homeIp].Perm [.host homeIp, .server none] ∧
      parseArgs {} (commandLine [.server none, .host homeIp]) =
        { server := true, serverPort := 192 } ∧
      parseArgs {} (commandLine [.host homeIp, .server none]) =
        { server := true, host := homeIp.text } ∧
      parseArgs {} (commandLine [.server none, .host homeIp]) ≠
        parseArgs {} (commandLine [.host homeIp, .server none]) := by
  refine ⟨List.Perm.swap _ _ [], rfl, rfl, ?_⟩
  intro hsame
  have hport := congrArg Config.serverPort hsame
  revert hport
  decide +kernel

end SolakonMonitor.OptionOrder
