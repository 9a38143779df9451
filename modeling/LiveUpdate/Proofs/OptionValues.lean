import Mathlib.Data.List.Basic
import LiveUpdate.Config.Arguments
import LiveUpdate.Proofs.TextGrammar
import LiveUpdate.Proofs.Utf8Coding

/-! What the values of the options mean. Each option has a type of its own and a relation between
the bytes of a value and what they stand for; assigning an option succeeds exactly for the values
that stand for something, and settles that and nothing else. -/
namespace LiveUpdate

open Text (Numeral)
open Text.Utf8 (encode)

namespace Setting

/-! ### What an option settles -/

/-- What is settled by an option. -/
def Value : Setting → Type
  | allowedOrigins => List String
  | interface => String
  | port | queueCapacity | keepAliveSeconds => Nat
  | threshold => Threshold
  | environment => Environment
  | studentTransport => Transport
  | trustIdentity => Bool

/-- What a later value makes of an earlier one: origins add up. -/
def join : (s : Setting) → s.Value → s.Value → s.Value
  | allowedOrigins, (first : List String), (second : List String) => (first ++ second : List String)
  | _, _, second => second

theorem mem_all (s : Setting) : s ∈ all := by cases s <;> decide

theorem all_nodup : all.Nodup := by decide

end Setting

def Config.get (c : Config) : (s : Setting) → s.Value
  | .allowedOrigins => c.allowedOrigins
  | .interface => c.interface
  | .port => c.port
  | .threshold => c.threshold
  | .environment => c.environment
  | .queueCapacity => c.queueCapacity
  | .keepAliveSeconds => c.keepAliveSeconds
  | .studentTransport => c.studentTransport
  | .trustIdentity => c.trustIdentity

theorem Config.ext_get {c d : Config} (h : ∀ s, c.get s = d.get s) : c = d := by
  obtain ⟨_, _, _, _, _, _, _, _, _⟩ := c
  obtain ⟨_, _, _, _, _, _, _, _, _⟩ := d
  rw [Config.mk.injEq]
  exact ⟨h .allowedOrigins, h .interface, h .port, h .threshold, h .environment, h .queueCapacity,
    h .keepAliveSeconds, h .studentTransport, h .trustIdentity⟩

/-! ### What a value stands for -/

/-- A value is a numeral for a number within bounds. -/
def Denotes (low high : Nat) (value : List UInt8) (n : Nat) : Prop :=
  ∃ text : String, value = encode text.toList ∧ Numeral text.toList n ∧ low ≤ n ∧ n ≤ high

/-- One of the names of something stands as a value for it. -/
def Names {α : Type} (names : α → List String) (value : List UInt8) (a : α) : Prop :=
  ∃ name ∈ names a, value = encode name.toList

/-- The names of the most detailed level. -/
def Threshold.names : Threshold → List String
  | none => ["OFF"]
  | some .error => ["ERROR"]
  | some .warn => ["WARN"]
  | some .info => ["INFO"]
  | some .debug => ["DEBUG"]
  | some .trace => ["TRACE"]

def Environment.names : Environment → List String
  | development => ["DEVELOPMENT", "development"]
  | production => ["PRODUCTION", "production"]
  | staging => ["STAGING", "staging"]

def Transport.names : Transport → List String
  | webSocket => ["WEBSOCKET", "websocket"]
  | sse => ["SSE", "sse"]

/-- The bytes of a value stand for what the option can settle. -/
def Setting.Means : (s : Setting) → List UInt8 → s.Value → Prop
  | allowedOrigins, value, (origins : List String) =>
    ∃ chars, value = encode chars ∧ origins = (chars.splitOn ',').map String.ofList
  | interface, value, (name : String) => value = encode name.toList
  | port, value, n => Denotes 0 65535 value n
  | threshold, value, t => Names Threshold.names value t
  | environment, value, e => Names Environment.names value e
  | queueCapacity, value, n => Denotes 1 4294967295 value n
  | keepAliveSeconds, value, n => Denotes 1 3600 value n
  | studentTransport, value, t => Names Transport.names value t
  | trustIdentity, value, (b : Bool) => value = encode (if b then "true" else "false").toList

/-- The bytes of a value stand for something. -/
def Setting.Accepts (s : Setting) (value : List UInt8) : Prop := ∃ a, s.Means value a

namespace Choices

def get? (c : Choices) : (s : Setting) → Option s.Value
  | .allowedOrigins => c.allowedOrigins
  | .interface => c.interface
  | .port => c.port
  | .threshold => c.threshold
  | .environment => c.environment
  | .queueCapacity => c.queueCapacity
  | .keepAliveSeconds => c.keepAliveSeconds
  | .studentTransport => c.studentTransport
  | .trustIdentity => c.trustIdentity

def set (c : Choices) : (s : Setting) → s.Value → Choices
  | .allowedOrigins, a => { c with allowedOrigins := some a }
  | .interface, a => { c with interface := some a }
  | .port, a => { c with port := some a }
  | .threshold, a => { c with threshold := some a }
  | .environment, a => { c with environment := some a }
  | .queueCapacity, a => { c with queueCapacity := some a }
  | .keepAliveSeconds, a => { c with keepAliveSeconds := some a }
  | .studentTransport, a => { c with studentTransport := some a }
  | .trustIdentity, a => { c with trustIdentity := some a }

theorem has_eq (c : Choices) (s : Setting) : c.has s = (c.get? s).isSome := by cases s <;> rfl

@[simp] theorem get?_none (s : Setting) : none.get? s = .none := by cases s <;> rfl

@[simp] theorem get?_set_self (c : Choices) (s : Setting) (a : s.Value) :
    (c.set s a).get? s = some a := by
  cases s <;> rfl

theorem get?_set_of_ne (c : Choices) {s t : Setting} (h : t ≠ s) (a : s.Value) :
    (c.set s a).get? t = c.get? t := by
  cases s <;> cases t <;> first | rfl | exact absurd rfl h

theorem get_complete (c : Choices) (s : Setting) :
    c.complete.get s = (c.get? s).getD (Config.standard.get s) := by
  cases s <;> rfl

/-! ### Texts, lists, numbers and names -/

theorem text_eq_ok_iff {value : List UInt8} {name : String} :
    text value = .ok name ↔ value = encode name.toList := by
  rw [text]
  cases h : Text.Utf8.decode value with
  | error why =>
    refine iff_of_false nofun ?_
    rintro rfl
    rw [Text.Utf8.decode_encode] at h
    cases h
  | ok chars =>
    rw [Text.Utf8.decode_eq_ok_iff] at h
    subst h
    rw [Except.ok.injEq, Text.Utf8.encode_injective.eq_iff, ← String.toList_inj,
      String.toList_ofList]

theorem mapM_text_eq_ok_iff {values : List (List UInt8)} {names : List String} :
    values.mapM text = .ok names ↔ values = names.map fun name => encode name.toList := by
  induction values generalizing names with
  | nil => cases names <;> simp [pure, Except.pure]
  | cons value values ih =>
    rw [List.mapM_cons]
    constructor
    · intro h
      cases hvalue : text value with
      | error why => simp [hvalue, bind, Except.bind] at h
      | ok name =>
        cases hvalues : values.mapM text with
        | error why => simp [hvalue, hvalues, bind, Except.bind] at h
        | ok rest =>
          simp only [hvalue, hvalues, bind, Except.bind, pure, Except.pure, Except.ok.injEq] at h
          rw [← h, List.map_cons, text_eq_ok_iff.mp hvalue, ih.mp hvalues]
    · intro h
      cases names with
      | nil => cases h
      | cons name names =>
        obtain ⟨hvalue, hvalues⟩ := List.cons.inj h
        rw [text_eq_ok_iff.mpr hvalue, ih.mpr hvalues]
        rfl

theorem splitCommas_eq_splitOn (value : List UInt8) : splitCommas value = value.splitOn 0x2C := by
  induction value with
  | nil => rfl
  | cons b rest ih =>
    rw [splitCommas, List.splitOn_cons_eq_if_modifyHead, ← ih]
    by_cases hb : b = 0x2C
    · rw [if_pos hb, if_pos (beq_iff_eq.mpr hb)]
    · rw [if_neg hb, if_neg (by simpa using hb)]
      cases hparts : splitCommas rest with
      | nil => exact absurd (ih ▸ hparts) (List.splitOn_ne_nil _ _)
      | cons first others => rfl

theorem not_mem_of_mem_splitOn {α : Type} [BEq α] [LawfulBEq α] {x : α} {xs part : List α}
    (h : part ∈ xs.splitOn x) : x ∉ part := by
  induction xs generalizing part with
  | nil =>
    rw [List.splitOn_nil, List.mem_singleton] at h
    simp [h]
  | cons y xs ih =>
    rw [List.splitOn_cons_eq_if_modifyHead] at h
    split at h
    · rcases List.mem_cons.mp h with rfl | h
      · exact List.not_mem_nil
      · exact ih h
    · rename_i hy
      obtain ⟨first, others, hparts⟩ := List.exists_cons_of_ne_nil (List.splitOn_ne_nil x xs)
      rw [hparts, List.modifyHead_cons] at h
      rcases List.mem_cons.mp h with rfl | h
      · rw [List.mem_cons, not_or]
        exact ⟨fun hxy => hy (beq_iff_eq.mpr hxy.symm), ih (hparts ▸ List.mem_cons_self)⟩
      · exact ih (hparts ▸ List.mem_cons_of_mem _ h)

theorem encode_intercalate_comma (parts : List (List Char)) :
    encode ([','].intercalate parts) = [0x2C].intercalate (parts.map encode) := by
  induction parts with
  | nil => rfl
  | cons part parts ih =>
    cases parts with
    | nil => simp
    | cons next parts =>
      have hcomma : encode [','] = [0x2C] := by decide
      simp only [List.map_cons, List.intercalate_cons_cons] at ih ⊢
      rw [Text.Utf8.encode_append, Text.Utf8.encode_append, ih, hcomma]

theorem comma_mem_encode_iff {part : List Char} : 0x2C ∈ encode part ↔ ',' ∈ part := by
  rw [encode, List.mem_flatMap]
  simp only [Text.Utf8.mem_encodeChar_iff (b := 0x2C) (by decide)]
  exact exists_eq_right

/-- Commas are found among the bytes where they stand in the text. -/
theorem splitCommas_encode (chars : List Char) :
    splitCommas (encode chars) = (chars.splitOn ',').map encode := by
  have hchars : [','].intercalate (chars.splitOn ',') = chars := List.intercalate_splitOn _
  rw [splitCommas_eq_splitOn]
  conv_lhs => rw [← hchars, encode_intercalate_comma]
  refine List.splitOn_intercalate _ ?_ (by simp)
  intro bytes hbytes hcomma
  obtain ⟨part, hpart, rfl⟩ := List.mem_map.mp hbytes
  exact not_mem_of_mem_splitOn hpart (comma_mem_encode_iff.mp hcomma)

/-- A value that consists of texts between commas is itself a text. -/
theorem mapM_text_splitCommas_eq_ok_iff {value : List UInt8} {names : List String} :
    (splitCommas value).mapM text = .ok names ↔
      ∃ chars, value = encode chars ∧ names = (chars.splitOn ',').map String.ofList := by
  rw [mapM_text_eq_ok_iff]
  constructor
  · intro h
    have hvalue : value = encode ([','].intercalate (names.map String.toList)) := by
      rw [encode_intercalate_comma, List.map_map, ← @List.intercalate_splitOn _ value _ _ 0x2C,
        ← splitCommas_eq_splitOn, h]
      rfl
    refine ⟨_, hvalue, ?_⟩
    rw [hvalue, splitCommas_encode] at h
    have hparts : List.splitOn ',' ([','].intercalate (names.map String.toList)) =
        names.map String.toList :=
      Text.Utf8.encode_injective.list_map (h.trans (List.map_map (g := encode)).symm)
    rw [hparts, List.map_map]
    simp
  · rintro ⟨chars, rfl, rfl⟩
    rw [splitCommas_encode, List.map_map]
    exact List.map_congr_left fun part _ => by simp

theorem number_encode (s : Setting) (low high : Nat) (name : String) :
    number s low high (encode name.toList) =
      match Text.readInteger? name.toList with
      | some (.ofNat n) => if low ≤ n ∧ n ≤ high then .ok n else .error (.badNumber s name)
      | _ => .error (.badNumber s name) := by
  rw [number, text_eq_ok_iff.mpr rfl]
  rfl

theorem number_eq_ok_iff {s : Setting} {low high n : Nat} {value : List UInt8} :
    number s low high value = .ok n ↔ Denotes low high value n := by
  constructor
  · intro h
    cases htext : text value with
    | error why => simp [number, htext, bind, Except.bind] at h
    | ok name =>
      obtain rfl := text_eq_ok_iff.mp htext
      rw [number_encode] at h
      split at h
      · rename_i k hread
        split at h
        · rename_i hk
          obtain rfl := Except.ok.inj h
          exact ⟨_, rfl, Text.readInteger?_eq_some_iff.mp hread, hk⟩
        · cases h
      · cases h
  · rintro ⟨name, rfl, hnumeral, hbounds⟩
    rw [number_encode, Text.readInteger?_eq_some_iff.mpr hnumeral]
    exact if_pos hbounds

theorem choice_eq_ok_iff {α : Type} {s : Setting} {named : List (String × α)}
    {names : α → List String} (hkeys : (named.map Prod.fst).Nodup)
    (hnames : ∀ name a, (name, a) ∈ named ↔ name ∈ names a) {value : List UInt8} {a : α} :
    choice s named value = .ok a ↔ Names names value a := by
  have hlookup (name : String) : named.lookup name = some a ↔ name ∈ names a :=
    (Table.mem_entries_iff (t := ⟨named, hkeys⟩)).symm.trans (hnames name a)
  rw [choice, Names]
  cases htext : text value with
  | error why =>
    refine iff_of_false (by simp [bind, Except.bind]) ?_
    rintro ⟨name, -, hvalue⟩
    rw [text_eq_ok_iff.mpr hvalue] at htext
    cases htext
  | ok name =>
    obtain rfl := text_eq_ok_iff.mp htext
    simp only [bind, Except.bind]
    constructor
    · intro h
      split at h
      · rename_i b hb
        rw [Except.ok.injEq] at h
        subst h
        exact ⟨name, (hlookup name).mp hb, rfl⟩
      · cases h
    · rintro ⟨other, hother, hvalue⟩
      rw [String.toList_injective (Text.Utf8.encode_injective hvalue), (hlookup other).mpr hother]

theorem thresholdNames_eq : thresholdNames =
    [("OFF", Option.none), ("ERROR", some .error), ("WARN", some .warn), ("INFO", some .info),
      ("DEBUG", some .debug), ("TRACE", some .trace)] := rfl

theorem environmentNames_eq : environmentNames =
    [("DEVELOPMENT", .development), ("development", .development), ("PRODUCTION", .production),
      ("production", .production), ("STAGING", .staging), ("staging", .staging)] := by
  decide +kernel

theorem transportNames_eq : transportNames =
    [("WEBSOCKET", .webSocket), ("websocket", .webSocket), ("SSE", .sse), ("sse", .sse)] := by
  decide +kernel

theorem choice_threshold_eq_ok_iff {s : Setting} {value : List UInt8} {t : Threshold} :
    choice s thresholdNames value = .ok t ↔ Names Threshold.names value t := by
  refine choice_eq_ok_iff (by decide) fun name t => ?_
  rw [thresholdNames_eq]
  rcases t with _ | _ | _ | _ | _ | _ <;> simp [Threshold.names]

theorem choice_environment_eq_ok_iff {s : Setting} {value : List UInt8} {e : Environment} :
    choice s environmentNames value = .ok e ↔ Names Environment.names value e := by
  rw [environmentNames_eq]
  refine choice_eq_ok_iff (by decide) fun name e => ?_
  cases e <;> simp [Environment.names]

theorem choice_transport_eq_ok_iff {s : Setting} {value : List UInt8} {t : Transport} :
    choice s transportNames value = .ok t ↔ Names Transport.names value t := by
  rw [transportNames_eq]
  refine choice_eq_ok_iff (by decide) fun name t => ?_
  cases t <;> simp [Transport.names]

theorem truth_eq_ok_iff {s : Setting} {value : List UInt8} {b : Bool} :
    truth s value = .ok b ↔ value = encode (if b then "true" else "false").toList := by
  have hne : encode "true".toList ≠ encode "false".toList := by decide
  rw [truth, apply_ite String.toList, apply_ite encode]
  generalize encode "true".toList = yes at *
  generalize encode "false".toList = no at *
  split
  · rename_i h
    cases b <;> simp [h, hne]
  · rename_i h
    split
    · rename_i h'
      cases b <;> simp [h', hne.symm]
    · rename_i h'
      cases b <;> simp [h, h']

/-- Reads a value of an option. -/
def read : (s : Setting) → List UInt8 → Except UsageError s.Value
  | .allowedOrigins, value => (splitCommas value).mapM text
  | .interface, value => text value
  | .port, value => number .port 0 65535 value
  | .threshold, value => choice .threshold thresholdNames value
  | .environment, value => choice .environment environmentNames value
  | .queueCapacity, value => number .queueCapacity 1 4294967295 value
  | .keepAliveSeconds, value => number .keepAliveSeconds 1 3600 value
  | .studentTransport, value => choice .studentTransport transportNames value
  | .trustIdentity, value => truth .trustIdentity value

/-- A value is read as what it stands for, and no other value is read. -/
theorem read_eq_ok_iff {s : Setting} {value : List UInt8} {a : s.Value} :
    read s value = .ok a ↔ s.Means value a := by
  cases s with
  | allowedOrigins => exact mapM_text_splitCommas_eq_ok_iff
  | interface => exact text_eq_ok_iff
  | port => exact number_eq_ok_iff
  | threshold => exact choice_threshold_eq_ok_iff
  | environment => exact choice_environment_eq_ok_iff
  | queueCapacity => exact number_eq_ok_iff
  | keepAliveSeconds => exact number_eq_ok_iff
  | studentTransport => exact choice_transport_eq_ok_iff
  | trustIdentity => exact truth_eq_ok_iff

/-- What a further value of an option settles. -/
def add (c : Choices) (s : Setting) (a : s.Value) : Choices :=
  c.set s ((c.get? s).elim a fun before => s.join before a)

theorem add_of_ne (c : Choices) {s : Setting} (h : s ≠ .allowedOrigins) : c.add s = c.set s := by
  funext a
  rw [add]
  cases c.get? s with
  | none => rfl
  | some before =>
    cases s with
    | allowedOrigins => exact absurd rfl h
    | _ => rfl

/-- Assigning a value reads it and adds it to what is settled. -/
theorem assign_eq (c : Choices) (s : Setting) (value : List UInt8) :
    c.assign s value = (read s value).map (c.add s) := by
  by_cases hs : s = .allowedOrigins
  · subst s
    have hadd : c.add .allowedOrigins = fun origins : List String =>
        { c with allowedOrigins := some (c.allowedOrigins.getD [] ++ origins) } := by
      funext origins
      obtain ⟨known, _, _, _, _, _, _, _, _⟩ := c
      cases known <;> rfl
    rw [hadd]
    exact (map_eq_pure_bind _ _).symm
  · rw [add_of_ne c hs]
    cases s with
    | allowedOrigins => exact absurd rfl hs
    | _ => exact (map_eq_pure_bind _ _).symm

theorem assign_eq_ok_iff {c c' : Choices} {s : Setting} {value : List UInt8} :
    c.assign s value = .ok c' ↔ ∃ a, s.Means value a ∧ c' = c.add s a := by
  simp only [assign_eq, ← read_eq_ok_iff]
  cases read s value <;> simp [Except.map, eq_comm]

theorem assign_ok {c : Choices} {s : Setting} {value : List UInt8} {a : s.Value}
    (h : s.Means value a) : c.assign s value = .ok (c.add s a) :=
  assign_eq_ok_iff.mpr ⟨a, h, rfl⟩

end Choices

/-- A value stands for one thing at most. -/
theorem Setting.Means.unique {s : Setting} {value : List UInt8} {a b : s.Value}
    (ha : s.Means value a) (hb : s.Means value b) : a = b :=
  Except.ok.inj ((Choices.read_eq_ok_iff.mpr ha).symm.trans (Choices.read_eq_ok_iff.mpr hb))

instance (s : Setting) (value : List UInt8) : Decidable (s.Accepts value) :=
  match h : Choices.read s value with
  | .ok a => isTrue ⟨a, Choices.read_eq_ok_iff.mp h⟩
  | .error _ => isFalse fun ⟨a, ha⟩ => by
    rw [Choices.read_eq_ok_iff.mpr ha] at h
    cases h

end LiveUpdate
