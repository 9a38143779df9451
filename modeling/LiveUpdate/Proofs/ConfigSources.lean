import Mathlib.Data.List.Perm.Basic
import LiveUpdate.Proofs.CommandLines
import LiveUpdate.Proofs.OptionValues

/-! Where a configuration comes from. Each option is decided on its own: by its values on the
command line, without any by its variable in the environment, and without that by its standard
value. -/
namespace LiveUpdate

open Text.Utf8 (encode)

/-- The values that an option is given on a command line, in order. -/
def valuesOf (s : Setting) (mentions : List Mention) : List (List UInt8) :=
  (mentions.filter fun o => o.setting = s).map Mention.value

@[simp] theorem valuesOf_append (s : Setting) (before after : List Mention) :
    valuesOf s (before ++ after) = valuesOf s before ++ valuesOf s after := by
  simp [valuesOf]

theorem valuesOf_singleton_self (o : Mention) : valuesOf o.setting [o] = [o.value] := by
  simp [valuesOf]

theorem valuesOf_singleton_of_ne {o : Mention} {s : Setting} (h : s ≠ o.setting) :
    valuesOf s [o] = [] := by
  simp [valuesOf, Ne.symm h]

theorem mem_valuesOf {o : Mention} {mentions : List Mention} (h : o ∈ mentions) :
    o.value ∈ valuesOf o.setting mentions :=
  List.mem_map.mpr ⟨o, List.mem_filter.mpr ⟨h, decide_eq_true rfl⟩, rfl⟩

namespace Setting

/-! ### The values of an option taken together -/

/-- What values of an option settle together. The parts of origins add up; any other option has one
value. -/
def Settles : (s : Setting) → List (List UInt8) → s.Value → Prop
  | allowedOrigins, values, (origins : List String) =>
    ∃ texts : List (List Char), texts ≠ [] ∧ values = texts.map encode ∧
      origins = texts.flatMap fun chars => (chars.splitOn ',').map String.ofList
  | s, values, a => ∃ value, values = [value] ∧ s.Means value a

theorem settles_iff_of_ne {s : Setting} (h : s ≠ allowedOrigins) {values : List (List UInt8)}
    {a : s.Value} : s.Settles values a ↔ ∃ value, values = [value] ∧ s.Means value a := by
  cases s with
  | allowedOrigins => exact absurd rfl h
  | _ => rfl

theorem settles_singleton {s : Setting} {value : List UInt8} {a : s.Value} :
    s.Settles [value] a ↔ s.Means value a := by
  by_cases h : s = allowedOrigins
  · subst s
    constructor
    · rintro ⟨texts, -, hvalues, rfl⟩
      obtain ⟨chars, rfl, rfl⟩ := List.map_eq_singleton_iff.mp hvalues.symm
      exact ⟨chars, rfl, List.flatMap_singleton ..⟩
    · rintro ⟨chars, rfl, rfl⟩
      exact ⟨[chars], by simp, rfl, (List.flatMap_singleton ..).symm⟩
  · rw [settles_iff_of_ne h]
    simp

theorem Settles.ne_nil {s : Setting} {values : List (List UInt8)} {a : s.Value}
    (h : s.Settles values a) : values ≠ [] := by
  by_cases hs : s = allowedOrigins
  · subst s
    obtain ⟨texts, hne, rfl, -⟩ := h
    simpa using hne
  · obtain ⟨value, rfl, -⟩ := (settles_iff_of_ne hs).mp h
    exact List.cons_ne_nil _ _

theorem Settles.accepts {s : Setting} {values : List (List UInt8)} {a : s.Value}
    (h : s.Settles values a) : ∀ value ∈ values, s.Accepts value := by
  by_cases hs : s = allowedOrigins
  · subst s
    obtain ⟨texts, -, rfl, -⟩ := h
    intro value hvalue
    obtain ⟨chars, -, rfl⟩ := List.mem_map.mp hvalue
    exact ⟨_, chars, rfl, rfl⟩
  · obtain ⟨value, rfl, hmeans⟩ := (settles_iff_of_ne hs).mp h
    exact fun other hother => ⟨a, List.mem_singleton.mp hother ▸ hmeans⟩

theorem Settles.length_le {s : Setting} (hs : s ≠ allowedOrigins) {values : List (List UInt8)}
    {a : s.Value} (h : s.Settles values a) : values.length ≤ 1 := by
  obtain ⟨value, rfl, -⟩ := (settles_iff_of_ne hs).mp h
  exact Nat.le_refl 1

theorem Settles.join {values : List (List UInt8)} {value : List UInt8}
    {a b : allowedOrigins.Value} (ha : allowedOrigins.Settles values a)
    (hb : allowedOrigins.Means value b) :
    allowedOrigins.Settles (values ++ [value]) (allowedOrigins.join a b) := by
  obtain ⟨texts, -, rfl, rfl⟩ := ha
  obtain ⟨chars, rfl, rfl⟩ := hb
  refine ⟨texts ++ [chars], by simp, by simp, ?_⟩
  rw [List.flatMap_append, List.flatMap_singleton]
  rfl

theorem Settles.unique {s : Setting} {values : List (List UInt8)} {a b : s.Value}
    (ha : s.Settles values a) (hb : s.Settles values b) : a = b := by
  by_cases hs : s = allowedOrigins
  · subst s
    obtain ⟨texts, -, rfl, rfl⟩ := ha
    obtain ⟨others, -, hothers, rfl⟩ := hb
    rw [Text.Utf8.encode_injective.list_map hothers]
  · obtain ⟨value, rfl, hmeans⟩ := (settles_iff_of_ne hs).mp ha
    obtain ⟨other, hother, hmeans'⟩ := (settles_iff_of_ne hs).mp hb
    obtain rfl := List.singleton_inj.mp hother
    exact hmeans.unique hmeans'

/-- What is settled of an option after some values. -/
inductive Reflects (s : Setting) : List (List UInt8) → Option s.Value → Prop
  | nothing : Reflects s [] none
  | settled {values : List (List UInt8)} {a : s.Value} (h : s.Settles values a) :
    Reflects s values (some a)

theorem Reflects.eq_none_iff {s : Setting} {values : List (List UInt8)} {x : Option s.Value}
    (h : s.Reflects values x) : x = none ↔ values = [] := by
  cases h with
  | nothing => simp
  | settled h => simp [h.ne_nil]

theorem Reflects.length_le {s : Setting} (hs : s ≠ allowedOrigins) {values : List (List UInt8)}
    {x : Option s.Value} (h : s.Reflects values x) : values.length ≤ 1 := by
  cases h with
  | nothing => exact Nat.zero_le 1
  | settled h => exact h.length_le hs

theorem Reflects.settles {s : Setting} {values : List (List UInt8)} {a : s.Value}
    (h : s.Reflects values (some a)) : s.Settles values a := by
  cases h with
  | settled h => exact h

end Setting

/-! ### What a command line settles -/

namespace Choices

/-- The choices are those of a command line. -/
def Reflects (c : Choices) (mentions : List Mention) : Prop :=
  ∀ s : Setting, s.Reflects (valuesOf s mentions) (c.get? s)

theorem reflects_nil : none.Reflects [] := by
  intro s
  rw [get?_none]
  exact .nothing

theorem get?_add_of_ne (c : Choices) {s t : Setting} (h : t ≠ s) (a : s.Value) :
    (c.add s a).get? t = c.get? t :=
  get?_set_of_ne c h _

theorem get?_add_self (c : Choices) (s : Setting) (a : s.Value) :
    (c.add s a).get? s = some ((c.get? s).elim a fun before => s.join before a) :=
  get?_set_self c s _

/-- One more mention, of an option for origins or of one not given before. -/
theorem Reflects.add {c : Choices} {mentions : List Mention} (h : c.Reflects mentions)
    {o : Mention} (honce : o.setting = .allowedOrigins ∨ valuesOf o.setting mentions = [])
    {a : o.setting.Value} (ha : o.setting.Means o.value a) :
    (c.add o.setting a).Reflects (mentions ++ [o]) := by
  intro s
  rw [valuesOf_append]
  by_cases hs : s = o.setting
  · obtain ⟨t, spelling, value⟩ := o
    subst s
    rw [valuesOf_singleton_self, get?_add_self]
    cases hc : c.get? t with
    | none =>
      rw [(h t).eq_none_iff.mp hc]
      exact .settled (Setting.settles_singleton.mpr ha)
    | some before =>
      have hbefore : t.Settles (valuesOf t mentions) before := (hc ▸ h t).settles
      rcases honce with rfl | hnil
      · exact .settled (hbefore.join ha)
      · exact absurd hnil hbefore.ne_nil
  · rw [valuesOf_singleton_of_ne hs, List.append_nil, get?_add_of_ne c hs]
    exact h s

theorem settle_repeated {c : Choices} {s : Setting} (hs : s ≠ .allowedOrigins)
    (h : c.get? s ≠ .none) (value : List UInt8) :
    Scan.settle c s value = .error (.repeated s) :=
  if_pos (by simp [hs, has_eq, Option.isSome_iff_ne_none, h])

theorem settle_open {c : Choices} {s : Setting} (h : s = .allowedOrigins ∨ c.get? s = .none)
    (value : List UInt8) : Scan.settle c s value = c.assign s value :=
  if_neg (by rcases h with rfl | h <;> simp [has_eq, *])

/-- A further mention is either one too many or adds what its value stands for. -/
theorem Reflects.settle {c : Choices} {mentions : List Mention}
    (h : c.Reflects mentions) (o : Mention) :
    o.setting ≠ .allowedOrigins ∧ valuesOf o.setting mentions ≠ [] ∧
        Scan.settle c o.setting o.value = .error (.repeated o.setting) ∨
      (o.setting = .allowedOrigins ∨ valuesOf o.setting mentions = []) ∧
        Scan.settle c o.setting o.value = c.assign o.setting o.value := by
  by_cases honce : o.setting = .allowedOrigins ∨ valuesOf o.setting mentions = []
  · have hopen := honce.imp_right (h o.setting).eq_none_iff.mpr
    exact .inr ⟨honce, settle_open hopen o.value⟩
  · obtain ⟨hs, hvalues⟩ := not_or.mp honce
    have hgiven := mt (h o.setting).eq_none_iff.mp hvalues
    exact .inl ⟨hs, hvalues, settle_repeated hs hgiven o.value⟩

theorem foldlM_settle_snoc (mentions : List Mention) (o : Mention) :
    (mentions ++ [o]).foldlM (fun c o => Scan.settle c o.setting o.value) none =
      mentions.foldlM (fun c o => Scan.settle c o.setting o.value) none >>= fun c =>
        Scan.settle c o.setting o.value := by
  rw [List.foldlM_append]
  refine bind_congr fun c => ?_
  rw [List.foldlM_cons]
  exact bind_pure _

theorem reflects_of_foldlM {mentions : List Mention} {c : Choices}
    (h : mentions.foldlM (fun c o => Scan.settle c o.setting o.value) none = .ok c) :
    c.Reflects mentions := by
  induction mentions using List.reverseRecOn generalizing c with
  | nil =>
    cases h
    exact reflects_nil
  | append_singleton mentions o ih =>
    rw [foldlM_settle_snoc] at h
    obtain ⟨d, hd, hsettle⟩ := Scan.bind_eq_ok h
    rcases (ih hd).settle o with ⟨-, -, herror⟩ | ⟨honce, hassign⟩
    · rw [herror] at hsettle
      cases hsettle
    · obtain ⟨a, ha, rfl⟩ := assign_eq_ok_iff.mp (hassign.symm.trans hsettle)
      exact (ih hd).add honce ha

/-- Mentions with values that are accepted settle something, unless one is one too many. -/
theorem foldlM_settle {mentions : List Mention}
    (h : ∀ o ∈ mentions, o.setting.Accepts o.value) :
    (∃ c, mentions.foldlM (fun c o => Scan.settle c o.setting o.value) none = .ok c) ∨
      ∃ s, s ≠ .allowedOrigins ∧ 2 ≤ (valuesOf s mentions).length ∧
        mentions.foldlM (fun c o => Scan.settle c o.setting o.value) none =
          .error (.repeated s) := by
  induction mentions using List.reverseRecOn with
  | nil => exact .inl ⟨_, rfl⟩
  | append_singleton mentions o ih =>
    rw [foldlM_settle_snoc]
    rcases ih fun o ho => h o (List.mem_append_left _ ho) with
      ⟨c, hc⟩ | ⟨s, hs, htwice, herror⟩
    · rw [hc]
      rcases (reflects_of_foldlM hc).settle o with ⟨hs, hvalues, herror⟩ | ⟨-, hassign⟩
      · refine .inr ⟨o.setting, hs, ?_, herror⟩
        have hpos := List.length_pos_iff.mpr hvalues
        rw [valuesOf_append, valuesOf_singleton_self, List.length_append, List.length_singleton]
        omega
      · obtain ⟨a, ha⟩ := h o (List.mem_append_right _ (List.mem_singleton_self o))
        exact .inl ⟨_, hassign.trans (assign_ok ha)⟩
    · refine .inr ⟨s, hs, ?_, by rw [herror]; rfl⟩
      rw [valuesOf_append, List.length_append]
      omega

end Choices

/-! ### What the environment adds -/

/-- What the environment makes of what is settled of an option. -/
inductive Setting.Consults (environment : Variables) (s : Setting) :
    Option s.Value → Option s.Value → Prop
  | settled (a : s.Value) : Consults environment s (some a) (some a)
  | found {value : List UInt8} {a : s.Value}
    (hvalue : environment.lookup s.variableName = some value) (h : s.Means value a) :
    Consults environment s none (some a)
  | missing (h : environment.lookup s.variableName = none) : Consults environment s none none

namespace Choices

theorem consult_settled {c : Choices} {s : Setting} {a : s.Value} (h : c.get? s = some a)
    (environment : Variables) : c.consult environment s = .ok c :=
  if_pos (by rw [has_eq, h]; rfl)

theorem consult_found {c : Choices} {s : Setting} (h : c.get? s = .none)
    {environment : Variables} {value : List UInt8}
    (hvalue : environment.lookup s.variableName = some value) :
    c.consult environment s = c.assign s value := by
  rw [consult, if_neg (by simp [has_eq, h]), hvalue]

theorem consult_missing {c : Choices} {s : Setting} {environment : Variables}
    (hvalue : environment.lookup s.variableName = .none) :
    c.consult environment s = .ok c := by
  rw [consult, hvalue, ite_self]

/-- Consulting the environment about an option settles that option at most. -/
theorem consults_of_consult {environment : Variables} {c d : Choices} {s : Setting}
    (h : c.consult environment s = .ok d) :
    s.Consults environment (c.get? s) (d.get? s) ∧ ∀ t, t ≠ s → d.get? t = c.get? t := by
  cases hc : c.get? s with
  | some a =>
    rw [consult_settled hc] at h
    cases h
    rw [hc]
    exact ⟨.settled a, fun _ _ => rfl⟩
  | none =>
    cases hvalue : environment.lookup s.variableName with
    | none =>
      rw [consult_missing hvalue] at h
      cases h
      exact ⟨hc ▸ .missing hvalue, fun _ _ => rfl⟩
    | some value =>
      rw [consult_found hc hvalue] at h
      obtain ⟨a, ha, rfl⟩ := assign_eq_ok_iff.mp h
      refine ⟨?_, fun t ht => get?_add_of_ne c ht a⟩
      rw [get?_add_self, hc]
      exact .found hvalue ha

theorem consult_ok {environment : Variables} {c : Choices} {s : Setting}
    (h : c.get? s = .none →
      ∀ value, environment.lookup s.variableName = some value → s.Accepts value) :
    ∃ d, c.consult environment s = .ok d := by
  cases hc : c.get? s with
  | some a => exact ⟨c, consult_settled hc environment⟩
  | none =>
    cases hvalue : environment.lookup s.variableName with
    | none => exact ⟨c, consult_missing hvalue⟩
    | some value =>
      obtain ⟨a, ha⟩ := h hc value hvalue
      exact ⟨c.add s a, (consult_found hc hvalue).trans (assign_ok ha)⟩

theorem consults_of_foldlM {environment : Variables} {settings : List Setting}
    (hnodup : settings.Nodup) {c d : Choices}
    (h : settings.foldlM (consult environment) c = .ok d) (s : Setting) :
    (s ∈ settings → s.Consults environment (c.get? s) (d.get? s)) ∧
      (s ∉ settings → d.get? s = c.get? s) := by
  induction settings generalizing c with
  | nil =>
    cases h
    exact ⟨nofun, fun _ => rfl⟩
  | cons t settings ih =>
    obtain ⟨ht, hnodup⟩ := List.nodup_cons.mp hnodup
    obtain ⟨m, hm, hrest⟩ := Scan.bind_eq_ok h
    obtain ⟨hconsults, hothers⟩ := consults_of_consult hm
    obtain ⟨hin, hout⟩ := ih hnodup hrest
    by_cases hs : s = t
    · subst s
      exact ⟨fun _ => hout ht ▸ hconsults, fun hnot => absurd List.mem_cons_self hnot⟩
    · rw [hothers s hs] at hin hout
      simp only [List.mem_cons, hs, false_or]
      exact ⟨hin, hout⟩

theorem foldlM_consult_ok {environment : Variables} (settings : List Setting) {c : Choices}
    (h : ∀ s, c.get? s = .none →
      ∀ value, environment.lookup s.variableName = some value → s.Accepts value) :
    ∃ d, settings.foldlM (consult environment) c = .ok d := by
  induction settings generalizing c with
  | nil => exact ⟨c, rfl⟩
  | cons t settings ih =>
    obtain ⟨m, hm⟩ := consult_ok (h t)
    obtain ⟨hconsults, hothers⟩ := consults_of_consult hm
    have hopen (s : Setting) (hs : m.get? s = .none) : c.get? s = .none := by
      by_cases hst : s = t
      · subst s
        rw [hs] at hconsults
        cases hc : c.get? t with
        | none => rfl
        | some a =>
          rw [hc] at hconsults
          cases hconsults
      · rw [← hothers s hst, hs]
    obtain ⟨d, hd⟩ := ih fun s hs => h s (hopen s hs)
    exact ⟨d, by rw [List.foldlM_cons, hm]; exact hd⟩

end Choices

/-! ### What decides an option -/

/-- What decides an option: its values on the command line, without any its variable, and without
that its standard value. -/
inductive Decides (mentions : List Mention) (environment : Variables) (s : Setting)
    (a : s.Value) : Prop
  | given (h : s.Settles (valuesOf s mentions) a)
  | variable {value : List UInt8} (hgiven : valuesOf s mentions = [])
    (hvalue : environment.lookup s.variableName = some value) (h : s.Means value a)
  | standard (hgiven : valuesOf s mentions = [])
    (hvalue : environment.lookup s.variableName = none) (h : a = Config.standard.get s)

namespace Decides

variable {mentions others : List Mention} {environment environment' : Variables} {s : Setting}
  {a b : s.Value}

theorem unique (ha : Decides mentions environment s a)
    (hb : Decides mentions environment s b) : a = b := by
  rcases ha with ha | ⟨hgiven, hvalue, ha⟩ | ⟨hgiven, hvalue, rfl⟩ <;>
    rcases hb with hb | ⟨hgiven', hvalue', hb⟩ | ⟨hgiven', hvalue', rfl⟩
  · exact ha.unique hb
  · exact absurd hgiven' ha.ne_nil
  · exact absurd hgiven' ha.ne_nil
  · exact absurd hgiven hb.ne_nil
  · obtain rfl := Option.some.inj (hvalue.symm.trans hvalue')
    exact ha.unique hb
  · simp [hvalue] at hvalue'
  · exact absurd hgiven hb.ne_nil
  · simp [hvalue] at hvalue'
  · rfl

theorem accepts (h : Decides mentions environment s a) :
    ∀ value ∈ valuesOf s mentions, s.Accepts value := by
  rcases h with h | ⟨hgiven, -⟩ | ⟨hgiven, -⟩
  · exact h.accepts
  · rw [hgiven]
    nofun
  · rw [hgiven]
    nofun

theorem length_le (h : Decides mentions environment s a) (hs : s ≠ .allowedOrigins) :
    (valuesOf s mentions).length ≤ 1 := by
  rcases h with h | ⟨hgiven, -⟩ | ⟨hgiven, -⟩
  · exact h.length_le hs
  · simp [hgiven]
  · simp [hgiven]

theorem means (h : Decides mentions environment s a) (hgiven : valuesOf s mentions = [])
    {value : List UInt8} (hvalue : environment.lookup s.variableName = some value) :
    s.Means value a := by
  rcases h with h | ⟨-, hvalue', h⟩ | ⟨-, hvalue', -⟩
  · exact absurd hgiven h.ne_nil
  · exact Option.some.inj (hvalue'.symm.trans hvalue) ▸ h
  · simp [hvalue] at hvalue'

theorem means_of_mem (h : Decides mentions environment s a) (hs : s ≠ .allowedOrigins)
    {value : List UInt8} (hvalue : value ∈ valuesOf s mentions) : s.Means value a := by
  rcases h with h | ⟨hgiven, -⟩ | ⟨hgiven, -⟩
  · obtain ⟨other, hother, hmeans⟩ := (Setting.settles_iff_of_ne hs).mp h
    rw [hother, List.mem_singleton] at hvalue
    exact hvalue ▸ hmeans
  · simp [hgiven] at hvalue
  · simp [hgiven] at hvalue

theorem congr (h : Decides mentions environment s a)
    (hvalues : valuesOf s others = valuesOf s mentions)
    (hvariable : valuesOf s mentions = [] →
      environment'.lookup s.variableName = environment.lookup s.variableName) :
    Decides others environment' s a := by
  rcases h with h | ⟨hgiven, hvalue, h⟩ | ⟨hgiven, hvalue, h⟩
  · exact .given (hvalues ▸ h)
  · exact .variable (hvalues.trans hgiven) ((hvariable hgiven).trans hvalue) h
  · exact .standard (hvalues.trans hgiven) ((hvariable hgiven).trans hvalue) h

theorem of_reflects {x y : Option s.Value} (hx : s.Reflects (valuesOf s mentions) x)
    (hy : s.Consults environment x y) :
    Decides mentions environment s (y.getD (Config.standard.get s)) := by
  cases hy with
  | settled a => exact .given hx.settles
  | found hvalue ha => exact .variable (hx.eq_none_iff.mp rfl) hvalue ha
  | missing hvalue => exact .standard (hx.eq_none_iff.mp rfl) hvalue rfl

end Decides

namespace Config

variable {mentions : List Mention} {arguments : List (List UInt8)} {environment : Variables}

theorem decides_of_read (hspells : Spells mentions arguments) {config : Config}
    (h : read arguments environment = .ok config) (s : Setting) :
    Decides mentions environment s (config.get s) := by
  rw [read, choices_of_spells hspells] at h
  obtain ⟨c, hc, h⟩ := Scan.bind_eq_ok h
  obtain ⟨d, hd, h⟩ := Scan.bind_eq_ok h
  cases h
  rw [Choices.get_complete]
  exact .of_reflects (Choices.reflects_of_foldlM hc s)
    ((Choices.consults_of_foldlM Setting.all_nodup hd s).1 s.mem_all)

theorem read_of_choices {c : Choices} (h : choices arguments = .ok c) (environment : Variables) :
    read arguments environment =
      (Setting.all.foldlM (Choices.consult environment) c).map Choices.complete := by
  rw [read, h]
  exact (map_eq_pure_bind Choices.complete
    (Setting.all.foldlM (Choices.consult environment) c)).symm

/-- Values that are all accepted give a configuration, if no option has one too many. -/
theorem read_ok (hspells : Spells mentions arguments)
    (haccepts : ∀ o ∈ mentions, o.setting.Accepts o.value)
    (honce : ∀ s, s ≠ .allowedOrigins → (valuesOf s mentions).length ≤ 1)
    (hvariables : ∀ s : Setting, valuesOf s mentions = [] →
      ∀ value, environment.lookup s.variableName = some value → s.Accepts value) :
    ∃ config, read arguments environment = .ok config := by
  obtain ⟨c, hc⟩ | ⟨s, hs, htwice, -⟩ := Choices.foldlM_settle haccepts
  · have hreflects := Choices.reflects_of_foldlM hc
    obtain ⟨d, hd⟩ := Choices.foldlM_consult_ok Setting.all
      fun s hs => hvariables s ((hreflects s).eq_none_iff.mp hs)
    refine ⟨d.complete, ?_⟩
    rw [read_of_choices ((choices_of_spells hspells).trans hc), hd]
    rfl
  · have hlength := honce s hs
    omega

theorem read_repeated (hspells : Spells mentions arguments)
    (haccepts : ∀ o ∈ mentions, o.setting.Accepts o.value) {s : Setting}
    (hs : s ≠ .allowedOrigins) (htwice : 2 ≤ (valuesOf s mentions).length) :
    ∃ t, t ≠ .allowedOrigins ∧ 2 ≤ (valuesOf t mentions).length ∧ ∀ environment,
      read arguments environment = .error (.repeated t) := by
  obtain ⟨c, hc⟩ | ⟨t, ht, htwice, herror⟩ := Choices.foldlM_settle haccepts
  · have hlength := (Choices.reflects_of_foldlM hc s).length_le hs
    omega
  · refine ⟨t, ht, htwice, fun environment => ?_⟩
    rw [read, choices_of_spells hspells, herror]
    rfl

theorem read_ok_of_decides (hspells : Spells mentions arguments)
    (h : ∀ s, ∃ a, Decides mentions environment s a) :
    ∃ config, read arguments environment = .ok config := by
  refine read_ok hspells (fun o ho => ?_) (fun s hs => ?_) fun s hnil value hvalue => ?_
  · obtain ⟨a, ha⟩ := h o.setting
    exact ha.accepts o.value (mem_valuesOf ho)
  · obtain ⟨a, ha⟩ := h s
    exact ha.length_le hs
  · obtain ⟨a, ha⟩ := h s
    exact ⟨a, ha.means hnil hvalue⟩

/-- A command line is read together with an environment as the configuration each option of which
is decided by them, and otherwise not at all. -/
theorem read_eq_ok_iff (hspells : Spells mentions arguments) {config : Config} :
    read arguments environment = .ok config ↔
      ∀ s, Decides mentions environment s (config.get s) := by
  refine ⟨decides_of_read hspells, fun h => ?_⟩
  obtain ⟨config', hread⟩ := read_ok_of_decides hspells fun s => ⟨_, h s⟩
  rw [hread, ext_get fun s => (decides_of_read hspells hread s).unique (h s)]

theorem exists_spells_of_read {config : Config} (h : read arguments environment = .ok config) :
    ∃ mentions, Spells mentions arguments := by
  obtain ⟨c, hc, -⟩ := Scan.bind_eq_ok h
  exact exists_spells_of_choices hc

end Config

/-! ### Spelling and order -/

/-- Whether the option can be written so. -/
def Spelling.suits : Spelling → Setting → Bool
  | alone, s => s.isFlag
  | long, s | longEquals, s => !s.isFlag
  | short, s | shortAttached, s | shortEquals, s => s.shortName?.isSome

/-- The option accepts the value, which looks neither like an option nor like one attached. -/
structure Setting.Takes (s : Setting) (value : List UInt8) : Prop where
  accepts : s.Accepts value
  ne_nil : value ≠ []
  no_dash : value.head? ≠ some Token.dash
  no_equals : value.head? ≠ some Token.equals
  /-- An option that stands alone is given nothing else. -/
  alone : s.isFlag = true → value = encode "true".toList

instance (s : Setting) (value : List UInt8) : Decidable (s.Takes value) :=
  decidable_of_iff (s.Accepts value ∧ value ≠ [] ∧ value.head? ≠ some Token.dash ∧
      value.head? ≠ some Token.equals ∧ (s.isFlag = true → value = encode "true".toList))
    ⟨fun ⟨h₁, h₂, h₃, h₄, h₅⟩ => ⟨h₁, h₂, h₃, h₄, h₅⟩,
      fun ⟨h₁, h₂, h₃, h₄, h₅⟩ => ⟨h₁, h₂, h₃, h₄, h₅⟩⟩

namespace Mention

/-- What a mention says, however it is written. -/
def given (o : Mention) : Setting × List UInt8 := (o.setting, o.value)

theorem sound_of_takes {o : Mention} (hspelling : o.spelling.suits o.setting = true)
    (hvalue : o.setting.Takes o.value) : o.Sound := by
  obtain ⟨s, spelling, value⟩ := o
  have hbare : Token.Bare value := by
    rintro c rest rfl
    exact hvalue.no_dash rfl
  cases spelling with
  | alone => exact ⟨hspelling, hvalue.alone hspelling⟩
  | long => exact ⟨(Bool.not_eq_true' _).mp hspelling, hbare⟩
  | longEquals => exact (Bool.not_eq_true' _).mp hspelling
  | short => exact ⟨hspelling, hbare⟩
  | shortAttached => exact ⟨hspelling, hvalue.ne_nil, hvalue.no_equals⟩
  | shortEquals => exact hspelling

end Mention

theorem valuesOf_eq_given (s : Setting) (mentions : List Mention) : valuesOf s mentions =
    ((mentions.map Mention.given).filter fun g => g.1 = s).map Prod.snd := by
  rw [valuesOf, List.filter_map, List.map_map]
  rfl

theorem valuesOf_eq_of_perm {mentions others : List Mention} {s : Setting}
    (h : (others.map Mention.given).Perm (mentions.map Mention.given))
    (honce : (valuesOf s mentions).length ≤ 1) : valuesOf s others = valuesOf s mentions := by
  have hperm : (valuesOf s others).Perm (valuesOf s mentions) := by
    rw [valuesOf_eq_given, valuesOf_eq_given]
    exact (h.filter _).map _
  match hvalues : valuesOf s mentions with
  | [] => exact (hvalues ▸ hperm).eq_nil
  | [value] => exact (hvalues ▸ hperm).eq_singleton
  | _ :: _ :: _ => simp [hvalues] at honce

/-- The sources compose independently. The order and the spelling of what is given do not matter,
but for the order of repeated origins; each option is decided by the first source that has it, and
what stands behind that source is not even looked at. An option given twice is refused. -/
theorem sources_compose {mentions : List Mention}
    (hspelling : ∀ o ∈ mentions, o.spelling.suits o.setting = true)
    (hvalue : ∀ o ∈ mentions, o.setting.Takes o.value) :
    ((∀ s, s ≠ .allowedOrigins → (valuesOf s mentions).length ≤ 1) →
      ∀ environment : Variables,
        (∀ s : Setting, valuesOf s mentions = [] →
          ∀ value, environment.lookup s.variableName = some value → s.Accepts value) →
        ∃ config : Config,
          (∀ s a, Decides mentions environment s a ↔ a = config.get s) ∧
          ∀ (others : List Mention) (environment' : Variables),
            (∀ o ∈ others, o.spelling.suits o.setting = true) →
            (others.map Mention.given).Perm (mentions.map Mention.given) →
            (2 ≤ (valuesOf .allowedOrigins mentions).length →
              valuesOf .allowedOrigins others = valuesOf .allowedOrigins mentions) →
            (∀ s : Setting, valuesOf s mentions = [] →
              environment'.lookup s.variableName = environment.lookup s.variableName) →
            Config.read (others.flatMap Mention.arguments) environment' = .ok config) ∧
    ∀ s, s ≠ .allowedOrigins → 2 ≤ (valuesOf s mentions).length →
      ∃ t, t ≠ .allowedOrigins ∧ 2 ≤ (valuesOf t mentions).length ∧
        ∀ environment, Config.read (mentions.flatMap Mention.arguments) environment =
          .error (.repeated t) := by
  have hsound (o : Mention) (ho : o ∈ mentions) : o.Sound :=
    Mention.sound_of_takes (hspelling o ho) (hvalue o ho)
  have haccepts (o : Mention) (ho : o ∈ mentions) : o.setting.Accepts o.value :=
    (hvalue o ho).accepts
  constructor
  · intro honce environment hvariables
    obtain ⟨config, hread⟩ := Config.read_ok (.flatMap hsound) haccepts honce hvariables
    have hdecides := Config.decides_of_read (.flatMap hsound) hread
    refine ⟨config, fun s a => ⟨fun h => h.unique (hdecides s), fun h => h ▸ hdecides s⟩, ?_⟩
    intro others environment' hspelling' hperm horigins hlookup
    have hvalues (s : Setting) : valuesOf s others = valuesOf s mentions := by
      by_cases hlength : (valuesOf s mentions).length ≤ 1
      · exact valuesOf_eq_of_perm hperm hlength
      · obtain rfl : s = .allowedOrigins := not_not.mp fun hs => hlength (honce s hs)
        exact horigins (Nat.lt_of_not_le hlength)
    have hsound' (o : Mention) (ho : o ∈ others) : o.Sound := by
      obtain ⟨o', ho', hgiven⟩ := List.mem_map.mp (hperm.mem_iff.mp (List.mem_map_of_mem ho))
      obtain ⟨hsetting, hbytes⟩ := Prod.mk.inj hgiven
      exact Mention.sound_of_takes (hspelling' o ho) (hsetting ▸ hbytes ▸ hvalue o' ho')
    exact (Config.read_eq_ok_iff (.flatMap hsound')).mpr fun s =>
      (hdecides s).congr (hvalues s) (hlookup s)
  · exact fun s hs htwice => Config.read_repeated (.flatMap hsound) haccepts hs htwice

/-- Two lists of origins, a port next to its letter, and a port in the environment that is none. -/
theorem sources_compose_port :
    let environment : Variables :=
      [("PORT", [0xFF]), ("RUNTIME_ENV", encode "staging".toList)]
    Config.read (["-p=80", "--trust-identity-headers", "--allowed-origins=a,b",
        "--allowed-origins", "c"].map fun argument => encode argument.toList) environment =
      .ok { Config.standard with
        allowedOrigins := ["a", "b", "c"]
        port := 80
        environment := .staging
        trustIdentity := true } ∧
    Config.read (["-p80", "--port", "81"].map fun argument => encode argument.toList)
      environment = .error (.repeated .port) := by
  intro environment
  let first : List Mention := [⟨.allowedOrigins, .long, encode "a,b".toList⟩,
    ⟨.port, .shortAttached, encode "80".toList⟩, ⟨.allowedOrigins, .long, encode "c".toList⟩,
    ⟨.trustIdentity, .alone, encode "true".toList⟩]
  let others : List Mention := [⟨.port, .shortEquals, encode "80".toList⟩,
    ⟨.trustIdentity, .alone, encode "true".toList⟩,
    ⟨.allowedOrigins, .longEquals, encode "a,b".toList⟩,
    ⟨.allowedOrigins, .long, encode "c".toList⟩]
  let twice : List Mention := [⟨.port, .shortAttached, encode "80".toList⟩,
    ⟨.port, .long, encode "81".toList⟩]
  have honce : ∀ s ∈ Setting.all, s ≠ .allowedOrigins → (valuesOf s first).length ≤ 1 := by
    decide +kernel
  have hvariables : ∀ s ∈ Setting.all, valuesOf s first = [] →
      ∀ value ∈ environment.lookup s.variableName, s.Accepts value := by decide +kernel
  obtain ⟨config, -, hconfig⟩ := (@sources_compose first (by decide)
    (by decide +kernel)).1 (fun s => honce s s.mem_all) environment fun s => hvariables s s.mem_all
  have hfirst := hconfig first environment (by decide) (.refl _) (fun _ => rfl) fun _ _ => rfl
  have hothers := hconfig others environment (by decide) (by decide +kernel) (fun _ => rfl)
    fun _ _ => rfl
  have hread : Config.read (first.flatMap Mention.arguments) environment = .ok
      { Config.standard with
        allowedOrigins := ["a", "b", "c"]
        port := 80
        environment := .staging
        trustIdentity := true } := by decide +kernel
  obtain ⟨t, ht, hlength, hrepeated⟩ := (@sources_compose twice (by decide)
    (by decide +kernel)).2 .port (by decide) (by decide)
  have hport : ∀ t ∈ Setting.all, 2 ≤ (valuesOf t twice).length → t = .port := by decide
  obtain rfl := hport t t.mem_all hlength
  exact ⟨hothers.trans (hfirst.symm.trans hread), hrepeated environment⟩

end LiveUpdate
