import LiveUpdate.Pump.Sink

/-! Reading JSON. A text is cut into tokens, one character at a time, and the tokens are put
together from the inside out, one at a time; what is open lies on a stack. The text frame of an
event reads back as the object of its fields, whatever characters they are made of. -/
namespace LiveUpdate.Json

inductive Value
  | null
  | boolean (b : Bool)
  /-- A number as it is written. -/
  | number (written : String)
  | string (s : String)
  | array (items : List Value)
  | object (members : List (String × Value))

inductive Token
  | openObject | closeObject | openArray | closeArray | colon | comma
  /-- A name or a number. -/
  | word (w : List Char)
  | text (s : String)
  deriving DecidableEq, Repr

/-! ### Characters -/

/-- A part of a string: a character, or one half of a character, named by its number in UTF-16. -/
inductive Part
  | char (c : Char)
  | half (n : Nat)
  deriving DecidableEq, Repr

def isHigh (n : Nat) : Bool := 0xd800 ≤ n && n < 0xdc00

def isLow (n : Nat) : Bool := 0xdc00 ≤ n && n < 0xe000

/-- What a number in UTF-16 stands for. -/
def Part.ofUnit (n : Nat) : Part := if isHigh n || isLow n then .half n else .char (Char.ofNat n)

/-- The string of some parts, in which every half has its other half. -/
def joined? : List Part → Option (List Char)
  | [] => some []
  | .char c :: rest => (joined? rest).map (c :: ·)
  | .half high :: .half low :: rest =>
    if isHigh high && isLow low then
      (joined? rest).map (Char.ofNat (0x10000 + (high - 0xd800) * 0x400 + (low - 0xdc00)) :: ·)
    else none
  | .half _ :: _ => none

def shortEscape? : Char → Option Char
  | '"' => some '"'
  | '\\' => some '\\'
  | '/' => some '/'
  | 'b' => some '\x08'
  | 'f' => some '\x0c'
  | 'n' => some '\n'
  | 'r' => some '\r'
  | 't' => some '\t'
  | _ => none

def hexDigit? (c : Char) : Option Nat :=
  if '0' ≤ c ∧ c ≤ '9' then some (c.toNat - '0'.toNat)
  else if 'a' ≤ c ∧ c ≤ 'f' then some (c.toNat - 'a'.toNat + 10)
  else if 'A' ≤ c ∧ c ≤ 'F' then some (c.toNat - 'A'.toNat + 10)
  else none

def mark? : Char → Option Token
  | '\x7b' => some .openObject
  | '\x7d' => some .closeObject
  | '[' => some .openArray
  | ']' => some .closeArray
  | ':' => some .colon
  | ',' => some .comma
  | _ => none

def isSpace (c : Char) : Bool := c = ' ' || c = '\t' || c = '\n' || c = '\r'

/-! ### Tokens -/

/-- Where in a text a reader is, and what it has read of the token there. -/
inductive Place
  | between
  | word (w : List Char)
  | text (parts : List Part)
  /-- After the backslash of an escape. -/
  | escape (parts : List Part)
  /-- In the number of a unit, of which so many digits have come. -/
  | unit (parts : List Part) (digits : Nat) (n : Nat)
  deriving DecidableEq, Repr

namespace Place

/-- A character between two tokens: which token it is and where it leads. -/
def enter (c : Char) : List Token × Place :=
  match mark? c with
  | some mark => ([mark], between)
  | none =>
    if c = '"' then ([], text [])
    else if isSpace c then ([], between)
    else ([], word [c])

/-- A word ends with a mark, a string or a blank. -/
def endsWord (c : Char) : Bool := (mark? c).isSome || c = '"' || isSpace c

/-- One character: the tokens that it completes, and the place after it. A string holds no control
characters. -/
def step (c : Char) : Place → Option (List Token × Place)
  | between => some (enter c)
  | word w =>
    if endsWord c then some (.word w :: (enter c).1, (enter c).2) else some ([], word (w ++ [c]))
  | text parts =>
    if c = '"' then (joined? parts).map fun s => ([.text (String.ofList s)], between)
    else if c = '\\' then some ([], escape parts)
    else if c.toNat < 0x20 then none
    else some ([], text (parts ++ [.char c]))
  | escape parts =>
    if c = 'u' then some ([], unit parts 0 0)
    else (shortEscape? c).map fun c => ([], text (parts ++ [.char c]))
  | unit parts digits n =>
    (hexDigit? c).map fun d =>
      if digits = 3 then ([], text (parts ++ [.ofUnit (16 * n + d)]))
      else ([], unit parts (digits + 1) (16 * n + d))

/-- The token that the end of the text completes. -/
def finish : Place → Option (List Token)
  | between => some []
  | word w => some [.word w]
  | _ => none

end Place

def tokensFrom (place : Place) : List Char → Option (List Token)
  | [] => place.finish
  | c :: rest => do
    let (tokens, place) ← place.step c
    let more ← tokensFrom place rest
    return tokens ++ more

/-! ### Words -/

/-- At least one digit. -/
def isDigits (s : List Char) : Bool := s ≠ [] && s.all Text.isDigit

/-- Digits without a zero in front of others. -/
def isWhole (s : List Char) : Bool := isDigits s && (s = ['0'] || s.head? ≠ some '0')

/-- A sign that may be there, a whole part, and a fraction and an exponent that may be there. -/
def isNumber (s : List Char) : Bool :=
  let unsigned := if s.head? = some '-' then s.drop 1 else s
  let mantissa := unsigned.takeWhile fun c => c ≠ 'e' && c ≠ 'E'
  let exponent := unsigned.drop mantissa.length
  let whole := mantissa.takeWhile (· ≠ '.')
  let fraction := mantissa.drop whole.length
  let power := if exponent[1]? = some '+' ∨ exponent[1]? = some '-' then exponent.drop 2
    else exponent.drop 1
  isWhole whole && (fraction = [] || isDigits (fraction.drop 1)) &&
    (exponent = [] || isDigits power)

def word? (w : List Char) : Option Value :=
  if w = "null".toList then some .null
  else if w = "true".toList then some (.boolean true)
  else if w = "false".toList then some (.boolean false)
  else if isNumber w then some (.number (String.ofList w))
  else none

/-! ### Values -/

/-- What is open: the items before, or the members before and the name of the one that follows. -/
inductive Level
  | array (items : List Value)
  | object (members : List (String × Value)) (name : String)

/-- What has just been read, and so what may follow. -/
inductive Turn
  /-- A value has to follow. -/
  | value
  /-- An array has been opened. -/
  | firstItem
  /-- An object has been opened. -/
  | firstName
  /-- There have been these members, and a comma. -/
  | name (members : List (String × Value))
  | colon (members : List (String × Value)) (name : String)
  /-- A value is complete. -/
  | done (v : Value)

structure Building where
  levels : List Level
  turn : Turn

namespace Building

/-- The first token of a value. -/
def begin (levels : List Level) : Token → Option Building
  | .text s => some ⟨levels, .done (.string s)⟩
  | .word w => (word? w).map fun v => ⟨levels, .done v⟩
  | .openArray => some ⟨levels, .firstItem⟩
  | .openObject => some ⟨levels, .firstName⟩
  | _ => none

/-- One token. -/
def step (token : Token) : Building → Option Building
  | ⟨levels, .value⟩ => begin levels token
  | ⟨levels, .firstItem⟩ =>
    if token = .closeArray then some ⟨levels, .done (.array [])⟩
    else begin (.array [] :: levels) token
  | ⟨levels, .firstName⟩ =>
    match token with
    | .closeObject => some ⟨levels, .done (.object [])⟩
    | .text name => some ⟨levels, .colon [] name⟩
    | _ => none
  | ⟨levels, .name members⟩ =>
    match token with
    | .text name => some ⟨levels, .colon members name⟩
    | _ => none
  | ⟨levels, .colon members name⟩ =>
    if token = .colon then some ⟨.object members name :: levels, .value⟩ else none
  | ⟨.array items :: levels, .done v⟩ =>
    match token with
    | .comma => some ⟨.array (items ++ [v]) :: levels, .value⟩
    | .closeArray => some ⟨levels, .done (.array (items ++ [v]))⟩
    | _ => none
  | ⟨.object members name :: levels, .done v⟩ =>
    match token with
    | .comma => some ⟨levels, .name (members ++ [(name, v)])⟩
    | .closeObject => some ⟨levels, .done (.object (members ++ [(name, v)]))⟩
    | _ => none
  | ⟨[], .done _⟩ => none

/-- The value of all tokens, if nothing is open at their end. -/
def build : Building → List Token → Option Value
  | ⟨[], .done v⟩, [] => some v
  | _, [] => none
  | b, token :: rest => (b.step token).bind fun b => b.build rest

end Building

/-- The value that a text denotes, if it is JSON. -/
def parse (text : String) : Option Value := do
  let tokens ← tokensFrom .between text.toList
  Building.build ⟨[], .value⟩ tokens

example : parse "[-0.5e+3, \x7b\"\\ud83d\\ude00\\/é\" : [ ]\x7d, true]" =
    some (.array [.number "-0.5e+3", .object [("😀/é", .array [])], .boolean true]) := rfl

example : parse "[1,]" = none ∧ parse "\"\\ud83d\"" = none ∧ parse "01" = none := ⟨rfl, rfl, rfl⟩

/-! ### Strings -/

variable {c m : Char} {place place' : Place} {parts : List Part} {rest s : List Char}

theorem tokensFrom_cons {tokens : List Token} (h : place.step c = some (tokens, place')) :
    tokensFrom place (c :: rest) = (tokensFrom place' rest).map (tokens ++ ·) := by
  rw [tokensFrom, h]
  cases hrest : tokensFrom place' rest <;> simp [hrest]

theorem tokensFrom_step (place' : Place) (h : place.step c = some ([], place')) :
    tokensFrom place (c :: rest) = tokensFrom place' rest := by
  simp [tokensFrom_cons h]

/-- Each character is written in one of three ways, by which it can be told. -/
theorem jsonChar_cases (c : Char) :
    (∃ m, shortEscape? m = some c ∧ Frame.jsonChar c = ['\\', m]) ∨
      c.toNat < 0x20 ∧ Frame.jsonChar c = Frame.controlEscape c.toNat ∨
      c ≠ '"' ∧ c ≠ '\\' ∧ 0x20 ≤ c.toNat ∧ Frame.jsonChar c = [c] := by
  by_cases hshort : ∃ m, shortEscape? m = some c ∧ m ≠ '/'
  · obtain ⟨m, hm, hslash⟩ := hshort
    refine .inl ⟨m, hm, ?_⟩
    unfold shortEscape? at hm
    split at hm <;> cases hm <;> simp_all [Frame.jsonChar]
  · have hne {m e : Char} (hm : shortEscape? m = some e) (hslash : m ≠ '/') : c ≠ e :=
      fun he => hshort ⟨m, he ▸ hm, hslash⟩
    have hquote : c ≠ '"' := hne rfl (by decide : '"' ≠ '/')
    have hbackslash : c ≠ '\\' := hne rfl (by decide : '\\' ≠ '/')
    have hrest : Frame.jsonChar c =
        if c.toNat < 0x20 then Frame.controlEscape c.toNat else [c] := by
      simp [Frame.jsonChar, hquote, hbackslash, hne rfl (by decide : 'b' ≠ '/'),
        hne rfl (by decide : 'f' ≠ '/'), hne rfl (by decide : 'n' ≠ '/'),
        hne rfl (by decide : 'r' ≠ '/'), hne rfl (by decide : 't' ≠ '/')]
    rw [hrest]
    by_cases hcontrol : c.toNat < 0x20
    · exact .inr (.inl ⟨hcontrol, if_pos hcontrol⟩)
    · exact .inr (.inr ⟨hquote, hbackslash, by omega, if_neg hcontrol⟩)

theorem tokensFrom_shortEscape (h : shortEscape? m = some c) :
    tokensFrom (.text parts) ('\\' :: m :: rest) =
      tokensFrom (.text (parts ++ [.char c])) rest := by
  have hu : m ≠ 'u' := by
    rintro rfl
    cases h
  rw [tokensFrom_step (.escape parts) rfl]
  exact tokensFrom_step _ (by simp [Place.step, hu, h])

theorem hexDigit?_digitChar : ∀ d < 16, hexDigit? (Nat.digitChar d) = some d := by decide

/-- The number of a control character stands for it by itself. -/
theorem ofUnit_control (h : c.toNat < 0x20) : Part.ofUnit c.toNat = .char c := by
  have hhalf : (isHigh c.toNat || isLow c.toNat) = false := by
    simp [isHigh, isLow]
    omega
  rw [Part.ofUnit, hhalf, if_neg (by decide), Char.ofNat_toNat]

theorem tokensFrom_controlEscape (h : c.toNat < 0x20) :
    tokensFrom (.text parts) (Frame.controlEscape c.toNat ++ rest) =
      tokensFrom (.text (parts ++ [.char c])) rest := by
  have hhigh := hexDigit?_digitChar (c.toNat / 16) (by omega)
  have hlow := hexDigit?_digitChar (c.toNat % 16) (by omega)
  have hsum : 16 * (c.toNat / 16) + c.toNat % 16 = c.toNat := Nat.div_add_mod ..
  rw [Frame.controlEscape, List.cons_append, tokensFrom_step (.escape parts) rfl,
    List.cons_append, tokensFrom_step (.unit parts 0 0) rfl, List.cons_append,
    tokensFrom_step (.unit parts 1 0) rfl, List.cons_append,
    tokensFrom_step (.unit parts 2 0) rfl, List.cons_append,
    tokensFrom_step (.unit parts 3 (c.toNat / 16)) (by simp [Place.step, hhigh]),
    List.cons_append]
  exact tokensFrom_step _ (by simp [Place.step, hlow, hsum, ofUnit_control h])

/-- However a character is written in a string, it is read as itself. -/
theorem tokensFrom_jsonChar (c : Char) (parts : List Part) (rest : List Char) :
    tokensFrom (.text parts) (Frame.jsonChar c ++ rest) =
      tokensFrom (.text (parts ++ [.char c])) rest := by
  rcases jsonChar_cases c with ⟨m, hm, hc⟩ | ⟨hcontrol, hc⟩ | ⟨hquote, hbackslash, hplain, hc⟩
  · rw [hc]
    exact tokensFrom_shortEscape hm
  · rw [hc]
    exact tokensFrom_controlEscape hcontrol
  · rw [hc]
    refine tokensFrom_step _ ?_
    have hcontrol : ¬c.toNat < 0x20 := by omega
    simp only [Place.step, if_neg hquote, if_neg hbackslash, if_neg hcontrol]

theorem joined?_chars (s : List Char) : joined? (s.map .char) = some s := by
  induction s with
  | nil => rfl
  | cons c s ih => simp [joined?, ih]

theorem tokensFrom_text (s : List Char) (parts : List Part) (rest : List Char) :
    tokensFrom (.text parts) (s.flatMap Frame.jsonChar ++ rest) =
      tokensFrom (.text (parts ++ s.map .char)) rest := by
  induction s generalizing parts with
  | nil => simp
  | cons c s ih => simp [tokensFrom_jsonChar, ih]

/-- A string is one token, and what follows it is read by itself. -/
theorem tokensFrom_jsonString (s rest : List Char) :
    tokensFrom .between (Frame.jsonString s ++ rest) =
      (tokensFrom .between rest).map (.text (String.ofList s) :: ·) := by
  rw [Frame.jsonString, List.append_assoc, List.cons_append,
    tokensFrom_step (.text []) rfl, tokensFrom_text, List.nil_append,
    List.singleton_append]
  have hquote : Place.step '"' (.text ([] ++ s.map .char)) =
      some ([.text (String.ofList s)], .between) := by
    simp [Place.step, joined?_chars]
  exact tokensFrom_cons hquote

theorem tokensFrom_mark {mark : Token} (h : mark? c = some mark) (rest : List Char) :
    tokensFrom .between (c :: rest) = (tokensFrom .between rest).map (mark :: ·) := by
  have hmark : Place.between.step c = some ([mark], .between) := by
    simp [Place.step, Place.enter, h]
  exact tokensFrom_cons hmark

/-! ### Frames -/

/-- The tokens of a member. -/
theorem tokensFrom_jsonMember (name value : String) (rest : List Char) :
    tokensFrom .between (Frame.jsonMember name value ++ rest) =
      (tokensFrom .between rest).map ([.text name, .colon, .text value] ++ ·) := by
  rw [Frame.jsonMember, List.append_assoc, tokensFrom_jsonString, List.cons_append,
    tokensFrom_mark rfl, tokensFrom_jsonString]
  cases tokensFrom .between rest <;> simp

/-- The members of the object that a frame denotes. -/
def members (e : Event) : List (String × Value) :=
  ("kind", .string e.kind) :: if e.payload = "" then [] else [("payload", .string e.payload)]

theorem parse_json (e : Event) : parse (Frame.json e) = some (.object (members e)) := by
  rw [parse, Frame.json, String.toList_ofList, Frame.jsonChars, List.cons_append, List.cons_append,
    tokensFrom_mark rfl, List.append_assoc, tokensFrom_jsonMember]
  by_cases hp : e.payload = ""
  · rw [if_pos hp, List.nil_append, tokensFrom_mark rfl]
    simp [members, hp, tokensFrom, Place.finish, Building.build, Building.step, Building.begin]
  · rw [if_neg hp, List.cons_append, tokensFrom_mark rfl, tokensFrom_jsonMember,
      tokensFrom_mark rfl]
    simp [members, hp, tokensFrom, Place.finish, Building.build, Building.step, Building.begin]

/-- The members tell an event from all others. -/
theorem members_inj {e e' : Event} : members e = members e' ↔ e = e' := by
  refine ⟨fun h => ?_, fun h => h ▸ rfl⟩
  obtain ⟨kind, payload, _, _, _⟩ := e
  obtain ⟨kind', payload', _, _, _⟩ := e'
  by_cases hp : payload = "" <;> by_cases hp' : payload' = "" <;> simp_all [members]

/-! ### Printable characters -/

/-- No control character is among these. -/
def Printable (s : List Char) : Prop := ∀ c ∈ s, 0x20 ≤ c.toNat

@[simp] theorem printable_nil : Printable [] := List.forall_mem_nil _

@[simp] theorem printable_cons : Printable (c :: s) ↔ 0x20 ≤ c.toNat ∧ Printable s :=
  List.forall_mem_cons

@[simp] theorem printable_append : Printable (s ++ rest) ↔ Printable s ∧ Printable rest :=
  List.forall_mem_append

theorem printable_shortEscape (h : shortEscape? m = some c) : 0x20 ≤ m.toNat := by
  unfold shortEscape? at h
  split at h <;> first | decide | cases h

theorem printable_digitChar : ∀ d < 16, 0x20 ≤ (Nat.digitChar d).toNat := by decide

theorem printable_jsonChar (c : Char) : Printable (Frame.jsonChar c) := by
  rcases jsonChar_cases c with ⟨m, hm, hc⟩ | ⟨hcontrol, hc⟩ | ⟨-, -, hplain, hc⟩
  · simp [hc, printable_shortEscape hm]
  · have hhigh := printable_digitChar (c.toNat / 16) (by omega)
    have hlow := printable_digitChar (c.toNat % 16) (by omega)
    simp [hc, Frame.controlEscape, hhigh, hlow]
  · simpa [hc] using hplain

theorem printable_jsonString (s : List Char) : Printable (Frame.jsonString s) := by
  have hbody : Printable (s.flatMap Frame.jsonChar) := by
    induction s with
    | nil => exact printable_nil
    | cons c s ih => exact printable_append.mpr ⟨printable_jsonChar c, ih⟩
  simp [Frame.jsonString, hbody]

theorem printable_json (e : Event) : Printable (Frame.json e).toList := by
  have hmember (name value : String) : Printable (Frame.jsonMember name value) := by
    simp [Frame.jsonMember, printable_jsonString]
  rw [Frame.json, String.toList_ofList, Frame.jsonChars]
  by_cases hp : e.payload = "" <;> simp [hp, hmember]

/-- Every event has a text frame. It is JSON, an object with just the kind and, unless it is empty,
the payload; nothing in it is a control character; and no other event has the same frame. -/
theorem json_lossless (e : Event) :
    ∃ text, Encoder.json e = .frame text ∧
      parse text = some (.object (("kind", .string e.kind) ::
        if e.payload = "" then [] else [("payload", .string e.payload)])) ∧
      Printable text.toList ∧ ∀ e', Encoder.json e' = .frame text ↔ e' = e := by
  refine ⟨Frame.json e, rfl, parse_json e, printable_json e, fun e' => ⟨fun h => ?_, ?_⟩⟩
  · have hframe : Frame.json e' = Frame.json e := Encoding.frame.inj h
    have hsame := parse_json e'
    rw [hframe, parse_json e, Option.some.injEq, Value.object.injEq] at hsame
    exact members_inj.mp hsame.symm
  · rintro rfl
    rfl

end LiveUpdate.Json
