import LiveUpdate.Proofs.ConfigSources
import LiveUpdate.Session.Start

/-! The quantities of a configuration. Each is the number that the text which supplies it denotes,
and lies within bounds that let the hub start; any other text in its place is refused and told
back. -/
namespace LiveUpdate

open Text (Numeral)
open Text.Utf8 (encode)

/-- What is configured by a number. -/
inductive Quantity
  | port | queueCapacity | keepAliveSeconds
  deriving DecidableEq, Repr

namespace Quantity

def setting : Quantity → Setting
  | port => .port
  | queueCapacity => .queueCapacity
  | keepAliveSeconds => .keepAliveSeconds

def low : Quantity → Nat
  | port => 0
  | queueCapacity | keepAliveSeconds => 1

def high : Quantity → Nat
  | port => 65535
  | queueCapacity => 4294967295
  | keepAliveSeconds => 3600

end Quantity

def Config.amount (c : Config) : Quantity → Nat
  | .port => c.port
  | .queueCapacity => c.queueCapacity
  | .keepAliveSeconds => c.keepAliveSeconds

/-! ### Texts in their places -/

/-- Where the text of an option can stand: behind its long name on a command line, or in its
variable. -/
inductive Slot
  | line (before after : List (List UInt8)) (environment : Variables)
  | entry (arguments : List (List UInt8)) (environment : Variables)

namespace Slot

/-- Reads a command line and an environment with the text of an option in its place. -/
def read (slot : Slot) (s : Setting) (text : String) : Except UsageError Config :=
  match slot with
  | line before after environment =>
    Config.read (before ++ (s.long ++ Token.equals :: encode text.toList) :: after) environment
  | entry arguments environment =>
    Config.read arguments ((s.variableName, encode text.toList) :: environment)

variable {slot : Slot} {s : Setting} {text good : String} {config : Config}

end Slot

/-! ### Quantities in their places -/

namespace Quantity

theorem setting_ne (q : Quantity) : q.setting ≠ .allowedOrigins := by cases q <;> decide

theorem means_get_iff {q : Quantity} {value : List UInt8} {config : Config} :
    q.setting.Means value (config.get q.setting) ↔
      Denotes q.low q.high value (config.amount q) := by
  cases q <;> rfl

theorem amount_eq {q : Quantity} {config config' : Config}
    (h : config.get q.setting = config'.get q.setting) : config.amount q = config'.amount q := by
  cases q <;> exact h

theorem standard_within (q : Quantity) :
    q.low ≤ Config.standard.amount q ∧ Config.standard.amount q ≤ q.high := by
  cases q <;> decide

end Quantity

/-- The text that supplies an option: the first on the command line, or that of its variable. -/
def supplier (s : Setting) (mentions : List Mention) (environment : Variables) :
    Option (List UInt8) :=
  (valuesOf s mentions).head?.or (environment.lookup s.variableName)

namespace Decides

variable {mentions : List Mention} {environment : Variables} {q : Quantity} {config : Config}

theorem denotes (h : Decides mentions environment q.setting (config.get q.setting))
    {value : List UInt8} (hvalue : supplier q.setting mentions environment = some value) :
    Denotes q.low q.high value (config.amount q) := by
  refine Quantity.means_get_iff.mp ?_
  cases hvalues : valuesOf q.setting mentions with
  | nil =>
    rw [supplier, hvalues] at hvalue
    exact h.means hvalues hvalue
  | cons first rest =>
    rw [supplier, hvalues] at hvalue
    obtain rfl := Option.some.inj hvalue
    exact h.means_of_mem q.setting_ne (hvalues ▸ List.mem_cons_self)

theorem standard_of_supplier
    (h : Decides mentions environment q.setting (config.get q.setting))
    (hnone : supplier q.setting mentions environment = none) :
    config.amount q = Config.standard.amount q := by
  rw [supplier, Option.or_eq_none_iff, List.head?_eq_none_iff] at hnone
  exact Quantity.amount_eq (h.unique (.standard hnone.1 hnone.2 rfl))

theorem within (h : Decides mentions environment q.setting (config.get q.setting)) :
    q.low ≤ config.amount q ∧ config.amount q ≤ q.high := by
  cases hsupplier : supplier q.setting mentions environment with
  | none => exact h.standard_of_supplier hsupplier ▸ q.standard_within
  | some value =>
    obtain ⟨text, -, -, hbounds⟩ := h.denotes hsupplier
    exact hbounds

end Decides

theorem Config.amount_within {arguments : List (List UInt8)} {environment : Variables}
    {config : Config} (h : Config.read arguments environment = .ok config) (q : Quantity) :
    q.low ≤ config.amount q ∧ config.amount q ≤ q.high := by
  obtain ⟨mentions, hspells⟩ := Config.exists_spells_of_read h
  exact (Config.decides_of_read hspells h q.setting).within

/-- A hub whose mailboxes can hold something is started. -/
theorem Session.ofConfig_eq_ok {config : Config} (h : 0 < config.queueCapacity) :
    Session.ofConfig? config = .ok ((Session.start config.queueCapacity h).onHub fun hub =>
      { hub with journal := Session.settings config :: hub.journal }) := by
  rw [Session.ofConfig?, Session.start?, dif_pos h]
  rfl

end LiveUpdate
