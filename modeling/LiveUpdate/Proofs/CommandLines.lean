import Mathlib.Data.List.Basic
import LiveUpdate.Config.Arguments
import LiveUpdate.Proofs.Utf8Coding

/-! Command lines as mentions of options. A mention is an option, a value and a spelling; a
command line that is read at all consists of such mentions, perhaps with two dashes at the end,
and what it settles is what the mentions settle one after the other, however they are spelled. -/
namespace LiveUpdate

open Text.Utf8 (encode)

/-! ### What an argument looks like -/

namespace Token

/-- A value behind an equals sign, if there is one. -/
def attachment : Option (List UInt8) → List UInt8
  | none => []
  | some value => equals :: value

theorem splitEquals_append {name : List UInt8} (h : equals ∉ name) (value : Option (List UInt8)) :
    splitEquals (name ++ attachment value) = (name, value) := by
  induction name with
  | nil => cases value <;> simp [attachment, splitEquals]
  | cons b name ih =>
    obtain ⟨hb, hname⟩ := not_or.mp (List.mem_cons.not.mp h)
    rw [List.cons_append, splitEquals, if_neg (Ne.symm hb), ih hname]

theorem append_splitEquals (bytes : List UInt8) :
    bytes = (splitEquals bytes).1 ++ attachment (splitEquals bytes).2 ∧
      equals ∉ (splitEquals bytes).1 := by
  induction bytes with
  | nil => exact ⟨rfl, List.not_mem_nil⟩
  | cons b rest ih =>
    rw [splitEquals]
    split
    · subst b
      exact ⟨rfl, List.not_mem_nil⟩
    · refine ⟨by rw [List.cons_append, ← ih.1], List.mem_cons.not.mpr (not_or.mpr ⟨?_, ih.2⟩)⟩
      exact Ne.symm ‹_›

/-- An argument that names no option: it does not begin with a dash, or is a dash alone. -/
def Bare (argument : List UInt8) : Prop := ∀ c rest, argument ≠ dash :: c :: rest

/-- What the arguments of each form look like. -/
inductive Shows : List UInt8 → Token → Prop
  | plain {argument : List UInt8} (h : Bare argument) : Shows argument .plain
  | escape : Shows [dash, dash] .escape
  | short {c : UInt8} {rest : List UInt8} (h : c ≠ dash) :
    Shows (dash :: c :: rest) (.short (c :: rest))
  | long {name : List UInt8} {value : Option (List UInt8)} (hname : equals ∉ name)
    (h : name ++ attachment value ≠ []) :
    Shows (dash :: dash :: (name ++ attachment value)) (.long name value)

theorem shows_ofBytes (argument : List UInt8) : Shows argument (ofBytes argument) := by
  rcases argument with _ | ⟨b, _ | ⟨c, rest⟩⟩
  · exact .plain nofun
  · exact .plain nofun
  · rw [ofBytes]
    split_ifs with hb hc hrest
    · exact .plain fun d more h => hb (List.cons.inj h).1
    · rw [not_not.mp hb]
      exact .short hc
    · rw [not_not.mp hb, not_not.mp hc, hrest]
      exact .escape
    · rw [not_not.mp hb, not_not.mp hc]
      obtain ⟨happend, hname⟩ := append_splitEquals rest
      rw [happend] at hrest
      conv => arg 1; rw [happend]
      exact .long hname hrest

theorem ofBytes_of_shows {argument : List UInt8} {token : Token} (h : Shows argument token) :
    ofBytes argument = token := by
  cases h with
  | plain h =>
    rcases argument with _ | ⟨b, _ | ⟨c, rest⟩⟩
    · rfl
    · rfl
    · exact if_pos fun hb => h c rest (by rw [hb])
  | escape => rfl
  | short h => rw [ofBytes, if_neg (not_not.mpr rfl), if_pos h]
  | @long name value hname h =>
    obtain ⟨b, rest, hrest⟩ := List.exists_cons_of_ne_nil h
    rw [ofBytes, if_neg (not_not.mpr rfl), if_neg (not_not.mpr rfl), if_neg h,
      splitEquals_append hname]

end Token

/-! ### Options by their names -/

namespace Setting

/-- The option as it is written with its long name. -/
def long (s : Setting) : List UInt8 := encode ('-' :: '-' :: s.longName.toList)

/-- The option as it is written with its letter. -/
def short (s : Setting) : List UInt8 := encode ('-' :: s.shortName?.toList)

theorem ofLong?_eq_some_iff {name : List UInt8} {s : Setting} :
    Named.ofLong? name = some (.setting s) ↔ name = encode s.longName.toList := by
  constructor
  · intro h
    rw [Named.ofLong?] at h
    split_ifs at h with hhelp hversion
    · cases h
    · cases h
    · obtain ⟨t, ht, ⟨⟩⟩ := Option.map_eq_some_iff.mp h
      simpa using List.find?_some ht
  · rintro rfl
    cases s <;> decide

theorem ofShort?_eq_some_iff {c : Char} {s : Setting} :
    Named.ofShort? c = some (.setting s) ↔ s.shortName? = some c := by
  constructor
  · intro h
    rw [Named.ofShort?] at h
    split_ifs at h with hhelp hversion
    · cases h
    · cases h
    · obtain ⟨t, ht, ⟨⟩⟩ := Option.map_eq_some_iff.mp h
      simpa using List.find?_some ht
  · intro h
    cases s <;> cases h <;> rfl

/-- A letter is one byte. -/
theorem short_eq {s : Setting} {c : Char} (h : s.shortName? = some c) :
    ∃ b, String.utf8EncodeChar c = [b] ∧ b ≠ Token.dash ∧ s.short = [Token.dash, b] := by
  cases s <;> cases h <;> exact ⟨_, rfl, by decide, rfl⟩

theorem isFlag_of_shortName {s : Setting} (h : s.shortName?.isSome = true) : s.isFlag = false := by
  cases s <;> first | rfl | cases h

theorem equals_not_mem_longName (s : Setting) : Token.equals ∉ encode s.longName.toList := by
  cases s <;> decide

theorem longName_ne_nil (s : Setting) : encode s.longName.toList ≠ [] := by
  cases s <;> decide

end Setting

/-! ### Mentions -/

/-- How a mention of an option is written. -/
inductive Spelling
  /-- `--name`, for an option that stands alone. -/
  | alone
  /-- `--name value` -/
  | long
  /-- `--name=value` -/
  | longEquals
  /-- `-x value` -/
  | short
  /-- `-xvalue` -/
  | shortAttached
  /-- `-x=value` -/
  | shortEquals
  deriving DecidableEq, Repr

/-- An option on a command line, with the value that it is given. -/
structure Mention where
  setting : Setting
  spelling : Spelling
  value : List UInt8
  deriving DecidableEq, Repr

namespace Mention

/-- The arguments that spell a mention. -/
def arguments (o : Mention) : List (List UInt8) :=
  match o.spelling with
  | .alone => [o.setting.long]
  | .long => [o.setting.long, o.value]
  | .longEquals => [o.setting.long ++ Token.equals :: o.value]
  | .short => [o.setting.short, o.value]
  | .shortAttached => [o.setting.short ++ o.value]
  | .shortEquals => [o.setting.short ++ Token.equals :: o.value]

/-- Whether the option can be spelled so, and the value be told from what is around it. -/
def Sound (o : Mention) : Prop :=
  match o.spelling with
  | .alone => o.setting.isFlag = true ∧ o.value = encode "true".toList
  | .long => o.setting.isFlag = false ∧ Token.Bare o.value
  | .longEquals => o.setting.isFlag = false
  | .short => o.setting.shortName?.isSome = true ∧ Token.Bare o.value
  | .shortAttached => o.setting.shortName?.isSome = true ∧ o.value ≠ [] ∧
      o.value.head? ≠ some Token.equals
  | .shortEquals => o.setting.shortName?.isSome = true

/-- Whether the value is an argument of its own. -/
def isApart (o : Mention) : Bool := o.spelling = .long || o.spelling = .short

end Mention

/-! ### Reading a mention -/

namespace Scan

/-- No value is awaited, and options are still recognized. -/
structure Ready (scan : Scan) : Prop where
  awaits : ∀ s, scan.open? ≠ some (s, none)
  escaped : scan.escaped = false

theorem resolve_of_none {scan : Scan} (h : scan.open? = none) : scan.resolve = .ok scan := by
  rw [resolve, h]

theorem resolve_of_some {scan : Scan} {s : Setting} {value : List UInt8}
    (h : scan.open? = some (s, some value)) : scan.resolve =
      (settle scan.choices s value).map fun choices => { scan with choices, open? := none } := by
  rw [resolve, h]
  exact (map_eq_pure_bind _ _).symm

theorem resolve_of_awaiting {scan : Scan} {s : Setting} (h : scan.open? = some (s, none)) :
    scan.resolve = .error (.missingValue s) := by
  rw [resolve, h]

theorem resolve_eq_ok {scan r : Scan} (h : scan.resolve = .ok r) :
    r.open? = none ∧ r.escaped = scan.escaped := by
  rcases hopen : scan.open? with _ | ⟨s, _ | value⟩
  · rw [resolve_of_none hopen, Except.ok.injEq] at h
    exact h ▸ ⟨hopen, rfl⟩
  · rw [resolve_of_awaiting hopen] at h
    cases h
  · rw [resolve_of_some hopen] at h
    cases hsettle : settle scan.choices s value with
    | error why =>
      rw [hsettle] at h
      cases h
    | ok choices =>
      rw [hsettle] at h
      cases h
      exact ⟨rfl, rfl⟩

theorem ready_start : start.Ready := ⟨by simp [start], rfl⟩

/-- An option takes effect. -/
def effect (scan : Scan) (s : Setting) (value : List UInt8) : Except UsageError Scan :=
  (settle scan.choices s value).map fun choices => { scan with choices }

/-- An option takes effect with its value, at once or once the next one is met. -/
def take (scan : Scan) (o : Mention) : Except UsageError Scan :=
  if o.isApart then .ok { scan with open? := some (o.setting, some o.value) }
  else scan.effect o.setting o.value

theorem name_flag (scan : Scan) {s : Setting} (hs : s.isFlag = true)
    (attached : Option (List UInt8)) : scan.name (.setting s) attached =
      scan.resolve >>= fun r => r.effect s (encode "true".toList) := by
  rw [name]
  refine bind_congr fun r => ?_
  dsimp only
  rw [if_pos hs, effect]
  exact (map_eq_pure_bind _ _).symm

theorem name_attached (scan : Scan) {s : Setting} (hs : s.isFlag = false) (value : List UInt8) :
    scan.name (.setting s) (some value) = scan.resolve >>= fun r => r.effect s value := by
  rw [name]
  refine bind_congr fun r => ?_
  dsimp only
  rw [if_neg (by simp [hs]), effect]
  exact (map_eq_pure_bind _ _).symm

theorem name_open (scan : Scan) {s : Setting} (hs : s.isFlag = false) :
    scan.name (.setting s) none =
      scan.resolve >>= fun r => .ok { r with open? := some (s, none) } := by
  rw [name]
  refine bind_congr fun r => ?_
  dsimp only
  rw [if_neg (by simp [hs])]
  rfl

theorem read_long {scan : Scan} (h : scan.escaped = false) {s : Setting}
    {value : Option (List UInt8)} (hvalue : value.isSome = true → s.isFlag = false) :
    scan.read (s.long ++ Token.attachment value) = scan.name (.setting s) value := by
  have hshows : Token.Shows (s.long ++ Token.attachment value)
      (.long (encode s.longName.toList) value) :=
    .long s.equals_not_mem_longName fun hnil =>
      s.longName_ne_nil (List.append_eq_nil_iff.mp hnil).1
  rw [read, if_neg (by simp [h]), Token.ofBytes_of_shows hshows]
  dsimp only
  rw [readLong, Setting.ofLong?_eq_some_iff.mpr rfl]
  cases value with
  | none => rfl
  | some value => exact if_neg (by simp [Named.isFlag, hvalue])

theorem read_short {scan : Scan} (h : scan.escaped = false) {s : Setting}
    (hs : s.shortName?.isSome = true) (rest : List UInt8) :
    scan.read (s.short ++ rest) = scan.name (.setting s) (attachedToLetter rest) := by
  obtain ⟨c, hc⟩ := Option.isSome_iff_exists.mp hs
  obtain ⟨b, hbytes, hb, hshort⟩ := Setting.short_eq hc
  have hshows : Token.Shows (s.short ++ rest) (.short (b :: rest)) := by
    rw [hshort]
    exact .short hb
  have hpieces : Text.Utf8.pieces (b :: rest) = .char c :: Text.Utf8.pieces rest := by
    rw [← Text.Utf8.pieces_encodeChar_append, hbytes, List.singleton_append]
  have hsize : c.utf8Size = 1 := by
    rw [← String.length_utf8EncodeChar, hbytes, List.length_singleton]
  rw [read, if_neg (by simp [h]), Token.ofBytes_of_shows hshows]
  dsimp only
  rw [readShort, hpieces]
  dsimp only
  rw [Setting.ofShort?_eq_some_iff.mpr hc, hsize]
  rfl

theorem read_bare {scan : Scan} (h : scan.escaped = false) {s : Setting}
    (hopen : scan.open? = some (s, none)) {value : List UInt8} (hvalue : Token.Bare value) :
    scan.read value = .ok { scan with open? := some (s, some value) } := by
  rw [read, if_neg (by simp [h]), Token.ofBytes_of_shows (.plain hvalue)]
  dsimp only
  rw [readPlain, hopen, h]

/-- A value that stands behind its option is taken. -/
theorem read_apart {scan : Scan} (h : scan.escaped = false) {s : Setting} (hs : s.isFlag = false)
    {value : List UInt8} (hvalue : Token.Bare value) :
    (scan.name (.setting s) none >>= fun scan => scan.read value) =
      scan.resolve >>= fun r => .ok { r with open? := some (s, some value) } := by
  rw [name_open scan hs, bind_assoc]
  cases hr : scan.resolve with
  | error why => rfl
  | ok r =>
    exact @read_bare { r with open? := some (s, none) } ((resolve_eq_ok hr).2.trans h) s rfl value
      hvalue

/-- The arguments of a mention let the option before it take effect, and then the option
itself. -/
theorem foldlM_arguments {scan : Scan} (h : scan.Ready) {o : Mention} (ho : o.Sound) :
    o.arguments.foldlM read scan = scan.resolve >>= fun r => r.take o := by
  obtain ⟨s, spelling, value⟩ := o
  cases spelling with
  | alone =>
    obtain ⟨hflag, rfl⟩ := ho
    have hread := @read_long scan h.escaped s none nofun
    rw [Token.attachment, List.append_nil, name_flag scan hflag] at hread
    simp only [Mention.arguments, List.foldlM_cons, List.foldlM_nil, hread, bind_pure]
    rfl
  | long =>
    obtain ⟨hflag, hvalue⟩ := ho
    have hread := @read_long scan h.escaped s none nofun
    rw [Token.attachment, List.append_nil] at hread
    simp only [Mention.arguments, List.foldlM_cons, List.foldlM_nil, hread, bind_pure]
    exact read_apart h.escaped hflag hvalue
  | longEquals =>
    have hread := @read_long scan h.escaped s (some value) fun _ => ho
    rw [name_attached scan ho] at hread
    simp only [Mention.arguments, List.foldlM_cons, List.foldlM_nil, bind_pure]
    exact hread
  | short =>
    obtain ⟨hs, hvalue⟩ := ho
    have hread := read_short h.escaped hs []
    rw [List.append_nil] at hread
    simp only [Mention.arguments, List.foldlM_cons, List.foldlM_nil, hread, bind_pure]
    exact read_apart h.escaped (Setting.isFlag_of_shortName hs) hvalue
  | shortAttached =>
    obtain ⟨hs, hne, hhead⟩ := ho
    obtain ⟨b, rest, rfl⟩ := List.exists_cons_of_ne_nil hne
    have hread := read_short h.escaped hs (b :: rest)
    rw [attachedToLetter, if_neg (by simpa using hhead),
      name_attached scan (Setting.isFlag_of_shortName hs)] at hread
    simp only [Mention.arguments, List.foldlM_cons, List.foldlM_nil, bind_pure]
    exact hread
  | shortEquals =>
    have hread := read_short h.escaped ho (Token.equals :: value)
    rw [attachedToLetter, if_pos rfl, name_attached scan (Setting.isFlag_of_shortName ho)] at hread
    simp only [Mention.arguments, List.foldlM_cons, List.foldlM_nil, bind_pure]
    exact hread

theorem Ready.effect {scan r : Scan} {s : Setting} {value : List UInt8} (hopen : scan.open? = none)
    (hescaped : scan.escaped = false) (h : scan.effect s value = .ok r) : r.Ready := by
  rw [Scan.effect] at h
  cases hsettle : settle scan.choices s value with
  | error why =>
    rw [hsettle] at h
    cases h
  | ok choices =>
    rw [hsettle] at h
    cases h
    exact ⟨by simp [hopen], hescaped⟩

theorem Ready.take {scan r : Scan} {o : Mention} (hopen : scan.open? = none)
    (hescaped : scan.escaped = false) (h : scan.take o = .ok r) : r.Ready := by
  rw [Scan.take] at h
  split at h
  · cases h
    exact ⟨by simp, hescaped⟩
  · exact .effect hopen hescaped h

/-- Once the next option is met, it makes no difference where the value stood. -/
theorem take_resolve {scan : Scan} (o : Mention) (h : scan.open? = none) :
    (scan.take o >>= resolve) = scan.effect o.setting o.value := by
  obtain ⟨choices, _, escaped⟩ := scan
  obtain rfl : _ = none := h
  rw [take]
  split
  · exact @resolve_of_some ⟨choices, some (o.setting, some o.value), escaped⟩ _ _ rfl
  · rw [effect]
    cases settle choices o.setting o.value <;> rfl

/-- What two dashes at the end, or nothing, add to a command line. -/
def Ends (tail : List (List UInt8)) : Prop := tail = [] ∨ tail = [[Token.dash, Token.dash]]

theorem resolve_choices_escaped (scan : Scan) :
    ({ scan with escaped := true }.resolve).map choices = scan.resolve.map choices := by
  obtain ⟨choices, _ | ⟨s, _ | value⟩, escaped⟩ := scan
  · rfl
  · rfl
  · rw [@resolve_of_some ⟨choices, some (s, some value), escaped⟩ _ _ rfl, resolve_of_some rfl]
    cases settle choices s value <;> rfl

theorem foldlM_ends {scan : Scan} (h : scan.Ready) {tail : List (List UInt8)} (htail : Ends tail) :
    (tail.foldlM read scan >>= fun scan => scan.resolve.map choices) =
      scan.resolve.map choices := by
  rcases htail with rfl | rfl
  · rfl
  · have hread : scan.read [Token.dash, Token.dash] = .ok { scan with escaped := true } := by
      rw [read, if_neg (by simp [h.escaped]), Token.ofBytes_of_shows .escape]
    rw [List.foldlM_cons, hread]
    exact resolve_choices_escaped scan

/-- A command line settles what its mentions settle, one after the other. -/
theorem foldlM_flatMap_arguments {scan : Scan} (h : scan.Ready) {mentions : List Mention}
    (hsound : ∀ o ∈ mentions, o.Sound) {tail : List (List UInt8)} (htail : Ends tail) :
    ((mentions.flatMap Mention.arguments ++ tail).foldlM read scan >>= fun scan =>
        scan.resolve.map choices) =
      scan.resolve >>= fun r =>
        mentions.foldlM (fun choices o => settle choices o.setting o.value) r.choices := by
  induction mentions generalizing scan with
  | nil =>
    rw [List.flatMap_nil, List.nil_append, foldlM_ends h htail]
    cases scan.resolve <;> rfl
  | cons o rest ih =>
    obtain ⟨ho, hrest⟩ := List.forall_mem_cons.mp hsound
    rw [List.flatMap_cons, List.append_assoc, List.foldlM_append, foldlM_arguments h ho]
    cases hr : scan.resolve with
    | error why => rfl
    | ok r =>
      obtain ⟨hopen, hescaped⟩ := resolve_eq_ok hr
      calc (r.take o >>= fun scan => (rest.flatMap Mention.arguments ++ tail).foldlM read scan)
            >>= (fun scan => scan.resolve.map choices)
          = r.take o >>= fun scan => scan.resolve >>= fun r =>
              rest.foldlM (fun choices o => settle choices o.setting o.value) r.choices := by
            rw [bind_assoc]
            cases htake : r.take o with
            | error why => rfl
            | ok next => exact ih (Ready.take hopen (hescaped.trans h.escaped) htake) hrest
        _ = r.effect o.setting o.value >>= fun r =>
              rest.foldlM (fun choices o => settle choices o.setting o.value) r.choices := by
            rw [← take_resolve o hopen, bind_assoc]
        _ = (o :: rest).foldlM (fun choices o => settle choices o.setting o.value) r.choices := by
            rw [List.foldlM_cons, effect]
            cases settle r.choices o.setting o.value <;> rfl

/-! ### What is read at all -/

theorem bind_eq_ok {α β : Type} {x : Except UsageError α} {f : α → Except UsageError β} {b : β}
    (h : x >>= f = .ok b) : ∃ a, x = .ok a ∧ f a = .ok b := by
  cases x with
  | error why => cases h
  | ok a => exact ⟨a, rfl, h⟩

/-- The option of a setting is open, and its value is awaited. -/
structure Awaits (scan : Scan) (s : Setting) : Prop where
  awaits : scan.open? = some (s, none)
  escaped : scan.escaped = false

/-- A name that is read belongs to an option, which takes effect or waits for its value. -/
theorem name_eq_ok {scan next : Scan} (hescaped : scan.escaped = false) {named : Named}
    {attached : Option (List UInt8)} (h : scan.name named attached = .ok next) :
    ∃ s, named = .setting s ∧ ((s.isFlag = true ∨ attached.isSome = true) ∧ next.Ready ∨
      s.isFlag = false ∧ attached = none ∧ next.Awaits s) := by
  cases named with
  | help =>
    obtain ⟨r, -, hr⟩ := bind_eq_ok h
    cases hr
  | version =>
    obtain ⟨r, -, hr⟩ := bind_eq_ok h
    cases hr
  | setting s =>
    refine ⟨s, rfl, ?_⟩
    cases hflag : s.isFlag with
    | true =>
      rw [name_flag scan hflag] at h
      obtain ⟨r, hr, heffect⟩ := bind_eq_ok h
      obtain ⟨hopen, hr⟩ := resolve_eq_ok hr
      exact .inl ⟨.inl rfl, .effect hopen (hr.trans hescaped) heffect⟩
    | false =>
      cases attached with
      | some value =>
        rw [name_attached scan hflag] at h
        obtain ⟨r, hr, heffect⟩ := bind_eq_ok h
        obtain ⟨hopen, hr⟩ := resolve_eq_ok hr
        exact .inl ⟨.inr rfl, .effect hopen (hr.trans hescaped) heffect⟩
      | none =>
        rw [name_open scan hflag] at h
        obtain ⟨r, hr, hnext⟩ := bind_eq_ok h
        obtain ⟨-, hr⟩ := resolve_eq_ok hr
        cases hnext
        exact .inr ⟨rfl, rfl, rfl, hr.trans hescaped⟩

/-- What an argument is that is read while no value is awaited. -/
inductive Reads (argument : List UInt8) (next : Scan) : Prop
  /-- Two dashes. -/
  | escape (hargument : argument = [Token.dash, Token.dash]) (h : next.escaped = true)
  /-- The whole of a mention. -/
  | whole (o : Mention) (ho : o.Sound) (hargument : o.arguments = [argument]) (h : next.Ready)
  /-- The name of an option, the value of which is to follow. -/
  | name (s : Setting) (spelling : Spelling)
    (hvalue : ∀ value, Token.Bare value → (Mention.mk s spelling value).Sound ∧
      (Mention.mk s spelling value).arguments = [argument, value])
    (h : next.Awaits s)

theorem reads_long {scan next : Scan} (hescaped : scan.escaped = false) {name : List UInt8}
    {value : Option (List UInt8)} (h : scan.readLong name value = .ok next) :
    Reads (Token.dash :: Token.dash :: (name ++ Token.attachment value)) next := by
  rw [readLong] at h
  cases hnamed : Named.ofLong? name with
  | none =>
    rw [hnamed] at h
    cases h
  | some named =>
    rw [hnamed] at h
    cases value with
    | none =>
      obtain ⟨s, rfl, ⟨hs, hnext⟩ | ⟨hs, -, hnext⟩⟩ := name_eq_ok hescaped h
      · obtain rfl := Setting.ofLong?_eq_some_iff.mp hnamed
        refine .whole ⟨s, .alone, encode "true".toList⟩ ⟨by simpa using hs, rfl⟩ ?_ hnext
        rw [Token.attachment, List.append_nil]
        rfl
      · obtain rfl := Setting.ofLong?_eq_some_iff.mp hnamed
        refine .name s .long (fun value hvalue => ⟨⟨hs, hvalue⟩, ?_⟩) hnext
        rw [Token.attachment, List.append_nil]
        rfl
    | some value =>
      dsimp only at h
      split at h
      · cases h
      · rename_i hflag
        obtain ⟨s, rfl, ⟨-, hnext⟩ | ⟨-, hvalue, -⟩⟩ := name_eq_ok hescaped h
        · obtain rfl := Setting.ofLong?_eq_some_iff.mp hnamed
          have hs : s.isFlag = false := by simpa [Named.isFlag] using hflag
          exact .whole ⟨s, .longEquals, value⟩ hs rfl hnext
        · cases hvalue

theorem reads_short {scan next : Scan} (hescaped : scan.escaped = false) {letters : List UInt8}
    (h : scan.readShort letters = .ok next) : Reads (Token.dash :: letters) next := by
  rw [readShort] at h
  split at h
  · rename_i c ps hpieces
    obtain ⟨rest, rfl, -⟩ := Text.Utf8.eq_encodeChar_append_of_pieces hpieces
    rw [← String.length_utf8EncodeChar, List.drop_left] at h
    cases hnamed : Named.ofShort? c with
    | none =>
      rw [hnamed] at h
      cases h
    | some named =>
      rw [hnamed] at h
      dsimp only at h
      obtain ⟨s, rfl, hnext⟩ := name_eq_ok hescaped h
      have hletter := Setting.ofShort?_eq_some_iff.mp hnamed
      have hs : s.shortName?.isSome = true := by rw [hletter]; rfl
      have hflag := Setting.isFlag_of_shortName hs
      have hargument : Token.dash :: (String.utf8EncodeChar c ++ rest) = s.short ++ rest := by
        obtain ⟨b, hbytes, -, hshort⟩ := Setting.short_eq hletter
        rw [hshort, hbytes]
        rfl
      rw [hargument]
      cases rest with
      | nil =>
        rw [List.append_nil]
        rcases hnext with ⟨hvalue, -⟩ | ⟨-, -, hnext⟩
        · simp [hflag, attachedToLetter] at hvalue
        · exact .name s .short (fun value hvalue => ⟨⟨hs, hvalue⟩, rfl⟩) hnext
      | cons b value =>
        have hready : next.Ready := by
          rcases hnext with ⟨-, hnext⟩ | ⟨-, hnone, -⟩
          · exact hnext
          · rw [attachedToLetter] at hnone
            split at hnone <;> cases hnone
        by_cases hb : b = Token.equals
        · rw [hb]
          exact .whole ⟨s, .shortEquals, value⟩ hs rfl hready
        · exact .whole ⟨s, .shortAttached, b :: value⟩ ⟨hs, nofun, by simpa using hb⟩ rfl hready
  · cases h

theorem reads_of_ready {scan next : Scan} (hready : scan.Ready) {argument : List UInt8}
    (h : scan.read argument = .ok next) : Reads argument next := by
  rw [read, if_neg (by simp [hready.escaped])] at h
  have hshows := Token.shows_ofBytes argument
  revert hshows
  cases htoken : Token.ofBytes argument with
  | escape =>
    rintro ⟨⟩
    rw [htoken] at h
    cases h
    exact .escape rfl rfl
  | long name value =>
    intro hshows
    rw [htoken] at h
    cases hshows
    exact reads_long hready.escaped h
  | short letters =>
    intro hshows
    rw [htoken] at h
    cases hshows
    exact reads_short hready.escaped h
  | plain =>
    rw [htoken] at h
    dsimp only at h
    rw [readPlain] at h
    split at h
    · exact absurd ‹_› (hready.awaits _)
    · cases h

/-- Behind two dashes nothing is read. -/
theorem read_of_escaped {scan next : Scan} (h : scan.escaped = true) (argument : List UInt8) :
    scan.read argument ≠ .ok next := by
  intro hread
  rw [read, if_pos h, readPlain, h] at hread
  split at hread
  · rename_i heq
    cases heq
  · cases hread

theorem eq_nil_of_escaped {scan next : Scan} (h : scan.escaped = true)
    {arguments : List (List UInt8)} (hread : arguments.foldlM read scan = .ok next) :
    arguments = [] ∧ next = scan := by
  cases arguments with
  | nil =>
    cases hread
    exact ⟨rfl, rfl⟩
  | cons argument rest =>
    obtain ⟨r, hr, -⟩ := bind_eq_ok hread
    exact absurd hr (read_of_escaped h argument)

/-- While a value is awaited no option can be named. -/
theorem name_of_awaits {scan next : Scan} {s : Setting} (h : scan.Awaits s) (named : Named)
    (attached : Option (List UInt8)) : scan.name named attached ≠ .ok next := by
  intro hname
  rw [name, resolve_of_awaiting h.awaits] at hname
  cases hname

/-- A value that is awaited may not look like an option. -/
theorem read_of_awaits {scan next : Scan} {s : Setting} (h : scan.Awaits s)
    {argument : List UInt8} (hread : scan.read argument = .ok next) :
    Token.Bare argument ∧ next = { scan with open? := some (s, some argument) } ∨
      next.escaped = true ∧ next.open? = some (s, none) := by
  rw [read, if_neg (by simp [h.escaped])] at hread
  cases htoken : Token.ofBytes argument with
  | escape =>
    rw [htoken] at hread
    cases hread
    exact .inr ⟨rfl, h.awaits⟩
  | long name value =>
    rw [htoken] at hread
    dsimp only at hread
    rw [readLong] at hread
    split at hread
    · cases hread
    · split at hread
      · split at hread
        · cases hread
        · exact absurd hread (name_of_awaits h _ _)
      · exact absurd hread (name_of_awaits h _ _)
  | short letters =>
    rw [htoken] at hread
    dsimp only at hread
    rw [readShort] at hread
    split at hread
    · split at hread
      · cases hread
      · exact absurd hread (name_of_awaits h _ _)
    · cases hread
  | plain =>
    rw [htoken] at hread
    dsimp only at hread
    rw [readPlain, h.awaits, h.escaped] at hread
    cases hread
    have hshows := Token.shows_ofBytes argument
    rw [htoken] at hshows
    cases hshows
    exact .inl ⟨‹_›, by rw [h.escaped]⟩

/-- A command line that is read consists of mentions, perhaps with two dashes at the end. -/
theorem exists_mentions {scan next r : Scan} (hready : scan.Ready)
    {arguments : List (List UInt8)} (hread : arguments.foldlM read scan = .ok next)
    (hnext : next.resolve = .ok r) : ∃ (mentions : List Mention) (tail : List (List UInt8)),
      (∀ o ∈ mentions, o.Sound) ∧ Ends tail ∧
        arguments = mentions.flatMap Mention.arguments ++ tail := by
  -- An option with its value apart takes two arguments, so the induction is on their number.
  induction hn : arguments.length using Nat.strongRecOn generalizing arguments scan with
  | ind n ih =>
    cases arguments with
    | nil => exact ⟨[], [], nofun, .inl rfl, rfl⟩
    | cons argument rest =>
      obtain ⟨after, hargument, hrest⟩ := bind_eq_ok hread
      rcases reads_of_ready hready hargument with
        ⟨rfl, hescaped⟩ | ⟨o, ho, hargument, hafter⟩ | ⟨s, spelling, hvalue, hafter⟩
      · obtain ⟨rfl, -⟩ := eq_nil_of_escaped hescaped hrest
        exact ⟨[], _, nofun, .inr rfl, rfl⟩
      · obtain ⟨mentions, tail, hsound, htail, rfl⟩ :=
          ih rest.length (by simp [← hn]) hafter hrest rfl
        refine ⟨o :: mentions, tail, List.forall_mem_cons.mpr ⟨ho, hsound⟩, htail, ?_⟩
        rw [List.flatMap_cons, hargument, List.singleton_append, List.cons_append]
      · cases rest with
        | nil =>
          cases hrest
          rw [resolve_of_awaiting hafter.awaits] at hnext
          cases hnext
        | cons value rest =>
          obtain ⟨taken, hread, hrest⟩ := bind_eq_ok hrest
          rcases read_of_awaits hafter hread with ⟨hbare, rfl⟩ | ⟨hescaped, hopen⟩
          · obtain ⟨ho, hargument⟩ := hvalue value hbare
            have htaken : Ready { after with open? := some (s, some value) } :=
              ⟨by simp, hafter.escaped⟩
            obtain ⟨mentions, tail, hsound, htail, rfl⟩ :=
              ih rest.length (by rw [← hn, List.length_cons, List.length_cons]; omega) htaken
                hrest rfl
            refine ⟨⟨s, spelling, value⟩ :: mentions, tail,
              List.forall_mem_cons.mpr ⟨ho, hsound⟩, htail, ?_⟩
            rw [List.flatMap_cons, hargument]
            rfl
          · obtain ⟨rfl, rfl⟩ := eq_nil_of_escaped hescaped hrest
            rw [resolve_of_awaiting hopen] at hnext
            cases hnext

end Scan

/-- A command line is made up of mentions, perhaps with two dashes at the end. -/
structure Spells (mentions : List Mention) (arguments : List (List UInt8)) : Prop where
  sound : ∀ o ∈ mentions, o.Sound
  ends : ∃ tail, Scan.Ends tail ∧ arguments = mentions.flatMap Mention.arguments ++ tail

namespace Mention

end Mention

namespace Spells

variable {mentions : List Mention} {arguments : List (List UInt8)}

theorem flatMap (h : ∀ o ∈ mentions, o.Sound) :
    Spells mentions (mentions.flatMap Mention.arguments) :=
  ⟨h, [], .inl rfl, (List.append_nil _).symm⟩

end Spells

namespace Config

theorem choices_eq (arguments : List (List UInt8)) : choices arguments =
    arguments.foldlM Scan.read Scan.start >>= fun scan => scan.resolve.map Scan.choices := by
  rw [choices]
  exact bind_congr fun scan => (map_eq_pure_bind _ _).symm

/-- What a command line settles does not depend on how its mentions are spelled. -/
theorem choices_of_spells {mentions : List Mention} {arguments : List (List UInt8)}
    (h : Spells mentions arguments) :
    choices arguments =
      mentions.foldlM (fun c o => Scan.settle c o.setting o.value) Choices.none := by
  obtain ⟨tail, htail, rfl⟩ := h.ends
  rw [choices_eq, Scan.foldlM_flatMap_arguments Scan.ready_start h.sound htail]
  rfl

/-- Only command lines of mentions settle anything. -/
theorem exists_spells_of_choices {arguments : List (List UInt8)} {c : Choices}
    (h : choices arguments = .ok c) : ∃ mentions, Spells mentions arguments := by
  rw [choices_eq] at h
  obtain ⟨scan, hread, hscan⟩ := Scan.bind_eq_ok h
  cases hr : scan.resolve with
  | error why =>
    rw [hr] at hscan
    cases hscan
  | ok r =>
    obtain ⟨mentions, tail, hsound, htail, harguments⟩ :=
      Scan.exists_mentions Scan.ready_start hread hr
    exact ⟨mentions, hsound, tail, htail, harguments⟩

end Config
end LiveUpdate
