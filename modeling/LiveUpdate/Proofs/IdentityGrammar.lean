import LiveUpdate.Proofs.AccessControl
import LiveUpdate.Proofs.TextGrammar
import LiveUpdate.Proofs.UntrustedIdentity
import LiveUpdate.Proofs.Utf8Coding

/-! What counts as an identity. Of each of the two headers the first occurrence is read, as bytes,
and every request falls into one of four cases: it comes from a student, from an administrator, from
nobody in particular, or it is turned away as a bad request. -/
namespace LiveUpdate.Web

open Text (Snug Numeral isBlank trimBlanks)
open Text.Utf8 (encode encode_append)

/-! ### Bytes that are text -/

/-- A character that a header may hold: a visible one, a blank or a tab. -/
def IsTextChar (c : Char) : Prop := ' ' ≤ c ∧ c ≤ '~' ∨ c = '\t'

instance (c : Char) : Decidable (IsTextChar c) := inferInstanceAs (Decidable (_ ∨ _))

/-- A blank or a tab, as they may stand around the text of a header. -/
def isPadding (b : UInt8) : Bool := b = 0x20 || b = 0x09

/-- A byte is the whole of a character. -/
structure Spells (b : UInt8) (c : Char) : Prop where
  encode : String.utf8EncodeChar c = [b]
  decode : Char.ofNat b.toNat = c
  byte : isTextByte b = true
  char : IsTextChar c
  blank : isBlank c = isPadding b

instance (b : UInt8) (c : Char) : Decidable (Spells b c) :=
  decidable_of_iff (String.utf8EncodeChar c = [b] ∧ Char.ofNat b.toNat = c ∧ isTextByte b = true ∧
      IsTextChar c ∧ isBlank c = isPadding b)
    ⟨fun ⟨h₁, h₂, h₃, h₄, h₅⟩ => ⟨h₁, h₂, h₃, h₄, h₅⟩, fun h => ⟨h.1, h.2, h.3, h.4, h.5⟩⟩

theorem spells_all : ∀ n < 256,
    isTextByte (UInt8.ofNat n) = true ∨ IsTextChar (Char.ofNat n) →
      Spells (UInt8.ofNat n) (Char.ofNat n) := by
  decide +kernel

theorem spells_of_byte {b : UInt8} (h : isTextByte b = true) : Spells b (Char.ofNat b.toNat) := by
  have hall := spells_all b.toNat b.toNat_lt
  rw [UInt8.ofNat_toNat] at hall
  exact hall (Or.inl h)

theorem spells_of_char {c : Char} (h : IsTextChar c) : Spells (UInt8.ofNat c.toNat) c := by
  have hsmall : c.toNat < 256 := by
    rcases h with ⟨-, hc⟩ | rfl
    · have hle : c.toNat ≤ '~'.toNat := hc
      exact Nat.lt_of_le_of_lt hle (by decide)
    · decide
  have hall := spells_all c.toNat hsmall
  rw [Char.ofNat_toNat] at hall
  exact hall (Or.inr h)

theorem isTextByte_of_padding {b : UInt8} (h : isPadding b = true) : isTextByte b = true := by
  simp only [isPadding, Bool.or_eq_true, decide_eq_true_eq] at h
  rcases h with rfl | rfl <;> decide

theorem headerText?_cons {b : UInt8} {c : Char} (h : Spells b c) (value : List UInt8) :
    headerText? (b :: value) = (headerText? value).map (c :: ·) := by
  simp only [headerText?, List.all_cons, h.byte, Bool.true_and, List.map_cons, h.decode]
  split <;> rfl

/-- The text of a header is what its bytes spell. -/
theorem headerText?_eq_some_iff {value : List UInt8} {text : List Char} :
    headerText? value = some text ↔ value = encode text ∧ ∀ c ∈ text, IsTextChar c := by
  constructor
  · intro h
    induction value generalizing text with
    | nil =>
      cases h
      exact ⟨rfl, nofun⟩
    | cons b value ih =>
      have hbyte : isTextByte b = true := by
        by_contra hnot
        simp [headerText?, hnot] at h
      have hspells := spells_of_byte hbyte
      rw [headerText?_cons hspells] at h
      obtain ⟨rest, hrest, rfl⟩ := Option.map_eq_some_iff.mp h
      obtain ⟨hvalue, hchars⟩ := ih hrest
      refine ⟨?_, List.forall_mem_cons.mpr ⟨hspells.char, hchars⟩⟩
      rw [encode, List.flatMap_cons, hspells.encode, hvalue]
      rfl
  · rintro ⟨rfl, hchars⟩
    induction text with
    | nil => rfl
    | cons c text ih =>
      obtain ⟨hchar, hrest⟩ := List.forall_mem_cons.mp hchars
      have hspells := spells_of_char hchar
      rw [encode, List.flatMap_cons, hspells.encode, List.singleton_append, ← encode,
        headerText?_cons hspells, ih hrest]
      rfl

theorem headerText?_eq_none_iff {value : List UInt8} :
    headerText? value = none ↔ ∃ b ∈ value, isTextByte b = false := by
  simp [headerText?]

/-- Padding is what blanks spell. -/
theorem padding_iff {bytes : List UInt8} : (∀ b ∈ bytes, isPadding b = true) ↔
    ∃ blanks, bytes = encode blanks ∧ ∀ c ∈ blanks, IsTextChar c ∧ isBlank c = true := by
  constructor
  · intro h
    induction bytes with
    | nil => exact ⟨[], rfl, nofun⟩
    | cons b bytes ih =>
      obtain ⟨hb, hrest⟩ := List.forall_mem_cons.mp h
      obtain ⟨blanks, hbytes, hblanks⟩ := ih hrest
      have hspells := spells_of_byte (isTextByte_of_padding hb)
      refine ⟨_ :: blanks, ?_, List.forall_mem_cons.mpr
        ⟨⟨hspells.char, hspells.blank.trans hb⟩, hblanks⟩⟩
      rw [encode, List.flatMap_cons, hspells.encode, hbytes]
      rfl
  · rintro ⟨blanks, rfl, hblanks⟩ b hb
    obtain ⟨c, hc, hbc⟩ := List.mem_flatMap.mp hb
    obtain ⟨hchar, hblank⟩ := hblanks c hc
    have hspells := spells_of_char hchar
    rw [hspells.encode, List.mem_singleton] at hbc
    rw [hbc, ← hspells.blank, hblank]

/-! ### The two headers -/

namespace Request

variable {r : Request} {name : String} {value : List UInt8} {text : List Char}

/-- The first header of a name, however the client writes the name. -/
def First (r : Request) (name : String) (value : List UInt8) : Prop :=
  ∃ before written after, r.headers = before ++ (written, value) :: after ∧
    sameName written name = true ∧ ∀ header ∈ before, sameName header.1 name = false

/-- A header is not there, or is blank. -/
def Vacant (r : Request) (name : String) : Prop :=
  ∀ value, r.First name value → ∀ b ∈ value, isPadding b = true

/-- A header holds some text, with or without blanks around it. -/
def Holds (r : Request) (name : String) (text : List Char) : Prop :=
  ∃ left right, r.First name (left ++ encode text ++ right) ∧
    (∀ b ∈ left ++ right, isPadding b = true) ∧
    text ≠ [] ∧ (∀ c ∈ text, IsTextChar c) ∧ Snug text

/-- A header is no text. -/
def Garbled (r : Request) (name : String) : Prop :=
  ∃ value, r.First name value ∧ ∃ b ∈ value, isTextByte b = false

theorem header?_eq_some_iff : r.header? name = some value ↔ r.First name value := by
  simp only [header?, Option.map_eq_some_iff, List.find?_eq_some_iff_append, First]
  constructor
  · rintro ⟨⟨written, value⟩, ⟨hname, before, after, hheaders, hbefore⟩, rfl⟩
    exact ⟨before, written, after, hheaders, hname,
      fun header hh => by simpa using hbefore header hh⟩
  · rintro ⟨before, written, after, hheaders, hname, hbefore⟩
    exact ⟨(written, value),
      ⟨hname, before, after, hheaders, fun header hh => by simp [hbefore header hh]⟩, rfl⟩

/-- The text of a header between its blanks. -/
theorem holds_iff : r.Holds name text ↔ text ≠ [] ∧
    ∃ value raw, r.header? name = some value ∧ headerText? value = some raw ∧
      trimBlanks raw = text := by
  constructor
  · rintro ⟨left, right, hfirst, hpadding, hne, hchars, hsnug⟩
    obtain ⟨l, rfl, hl⟩ := padding_iff.mp fun b hb => hpadding b (List.mem_append_left _ hb)
    obtain ⟨r', rfl, hr⟩ := padding_iff.mp fun b hb => hpadding b (List.mem_append_right _ hb)
    refine ⟨hne, _, l ++ text ++ r', header?_eq_some_iff.mpr hfirst,
      headerText?_eq_some_iff.mpr ⟨by simp only [encode_append], fun c hc => ?_⟩,
      Text.trimBlanks_eq_iff.mpr ⟨l, r', rfl, fun c hc => ?_, hsnug⟩⟩
    · rcases List.mem_append.mp hc with hc | hc
      · rcases List.mem_append.mp hc with hc | hc
        · exact (hl c hc).1
        · exact hchars c hc
      · exact (hr c hc).1
    · rcases List.mem_append.mp hc with hc | hc
      · exact (hl c hc).2
      · exact (hr c hc).2
  · rintro ⟨hne, value, raw, hvalue, hraw, htrim⟩
    obtain ⟨rfl, hchars⟩ := headerText?_eq_some_iff.mp hraw
    obtain ⟨l, r', rfl, hblank, hsnug⟩ := Text.trimBlanks_eq_iff.mp htrim
    refine ⟨encode l, encode r', ?_, ?_, hne, fun c hc => hchars c (by simp [hc]), hsnug⟩
    · simpa only [encode_append] using header?_eq_some_iff.mp hvalue
    · rw [← encode_append]
      refine padding_iff.mpr ⟨l ++ r', rfl, fun c hc => ⟨hchars c ?_, hblank c hc⟩⟩
      rcases List.mem_append.mp hc with hc | hc <;> simp [hc]

theorem vacant_iff : r.Vacant name ↔
    ∀ value, r.header? name = some value →
      ∃ raw, headerText? value = some raw ∧ trimBlanks raw = [] := by
  simp only [Vacant, header?_eq_some_iff, Text.trimBlanks_eq_nil_iff]
  refine forall_congr' fun value => imp_congr_right fun _ => ?_
  rw [padding_iff]
  refine exists_congr fun raw => ?_
  rw [headerText?_eq_some_iff, and_assoc, forall₂_and]

end Request

variable {r r' : Request} {name : String} {text : List Char}

theorem presentText?_eq_some_iff : presentText? r name = .ok (some text) ↔ r.Holds name text := by
  rw [Request.holds_iff]
  unfold presentText?
  cases hv : r.header? name with
  | none => simp
  | some value =>
    cases ht : headerText? value with
    | none => simp [ht]
    | some raw =>
      simp only [Option.some.injEq, Except.ok.injEq, exists_and_left, exists_eq_left', ht]
      split <;> grind

theorem presentText?_eq_none_iff : presentText? r name = .ok none ↔ r.Vacant name := by
  rw [Request.vacant_iff]
  unfold presentText?
  cases hv : r.header? name with
  | none => simp
  | some value =>
    cases ht : headerText? value with
    | none => simp [ht]
    | some raw => simp [ht]

theorem presentText?_error_iff :
    (∃ refusal, presentText? r name = .error refusal) ↔ r.Garbled name := by
  simp only [Request.Garbled, ← Request.header?_eq_some_iff, ← headerText?_eq_none_iff]
  unfold presentText?
  cases hv : r.header? name with
  | none => simp
  | some value =>
    cases ht : headerText? value with
    | none => simp [ht]
    | some raw => simp [ht]

theorem studentOfText?_eq_some_iff {n : Int} : studentOfText? text = some n ↔
    Numeral text n ∧ -2 ^ 63 ≤ n ∧ n ≤ 2 ^ 63 - 1 := by
  rw [studentOfText?, Option.filter_eq_some_iff, Text.readInteger?_eq_some_iff]
  simp [isStudentId]

theorem studentOfText?_eq_none_iff : studentOfText? text = none ↔
    ∀ n, Numeral text n → n < -2 ^ 63 ∨ 2 ^ 63 - 1 < n := by
  rw [Option.eq_none_iff_forall_ne_some]
  refine forall_congr' fun n => ?_
  rw [Ne, studentOfText?_eq_some_iff, not_and, not_and_or, Int.not_le, Int.not_le]

/-! ### The two headers together -/

/-- What the texts of the two headers come to, if they come to anything. -/
def resolved? : Option (List Char) → Option (List Char) → Option (Option Identity)
  | none, none => some none
  | some text, none => (studentOfText? text).map fun n => some (.student n)
  | none, some name => some (some (.admin (String.ofList name)))
  | some _, some _ => none

section Resolved

variable {student admin : Option (List Char)}

theorem resolved?_student_iff {n : Int} : resolved? student admin = some (some (.student n)) ↔
    (∃ text, student = some text ∧ studentOfText? text = some n) ∧ admin = none := by
  cases student <;> cases admin <;> simp [resolved?]

theorem resolved?_admin_iff {name : String} : resolved? student admin = some (some (.admin name)) ↔
    student = none ∧ admin = some name.toList := by
  cases student with
  | none =>
    cases admin with
    | none => simp [resolved?]
    | some text =>
      simp only [resolved?, Option.some.injEq, Identity.admin.injEq, true_and]
      exact ⟨fun h => by rw [← h, String.toList_ofList], fun h => by rw [h, String.ofList_toList]⟩
  | some text => cases admin <;> simp [resolved?]

theorem resolved?_nobody_iff :
    resolved? student admin = some none ↔ student = none ∧ admin = none := by
  cases student <;> cases admin <;> simp [resolved?]

theorem resolved?_eq_none_iff : resolved? student admin = none ↔
    (∃ text name, student = some text ∧ admin = some name) ∨
      ∃ text, student = some text ∧ admin = none ∧ studentOfText? text = none := by
  cases student <;> cases admin <;> simp [resolved?]

end Resolved

theorem identify_trusted_ok_iff {who : Option Identity} : identify true r = .ok who ↔
    ∃ student admin, presentText? r studentHeader = .ok student ∧
      presentText? r adminHeader = .ok admin ∧ resolved? student admin = some who := by
  simp only [identify, if_true, identityOfHeaders]
  cases presentText? r studentHeader with
  | error refusal => simp [bind, Except.bind]
  | ok student =>
    cases presentText? r adminHeader with
    | error refusal => simp [bind, Except.bind]
    | ok admin =>
      simp only [bind, Except.bind, Except.ok.injEq, exists_and_left, exists_eq_left', resolved?]
      cases student with
      | none => cases admin <;> simp
      | some text =>
        cases admin with
        | none => cases hid : studentOfText? text <;> simp [hid]
        | some name => simp

/-- Whoever is not resolved is turned away. -/
theorem identify_trusted_error_iff : (∃ refusal, identify true r = .error refusal) ↔
    r.Garbled studentHeader ∨ r.Garbled adminHeader ∨
      ∃ student admin, presentText? r studentHeader = .ok student ∧
        presentText? r adminHeader = .ok admin ∧ resolved? student admin = none := by
  have hnot : (∃ refusal, identify true r = .error refusal) ↔
      ∀ who, identify true r ≠ .ok who := by
    cases identify true r <;> simp
  rw [hnot, ← presentText?_error_iff, ← presentText?_error_iff]
  simp only [Ne, identify_trusted_ok_iff]
  cases presentText? r studentHeader with
  | error refusal => simp
  | ok student =>
    cases presentText? r adminHeader with
    | error refusal => simp
    | ok admin =>
      simp [Option.eq_none_iff_forall_ne_some]

theorem identify_student_iff {n : Int} : identify true r = .ok (some (.student n)) ↔
    (∃ text, r.Holds studentHeader text ∧ Numeral text n) ∧ (-2 ^ 63 ≤ n ∧ n ≤ 2 ^ 63 - 1) ∧
      r.Vacant adminHeader := by
  rw [identify_trusted_ok_iff]
  simp only [resolved?_student_iff, ← presentText?_eq_some_iff, ← presentText?_eq_none_iff,
    studentOfText?_eq_some_iff]
  grind

theorem identify_admin_iff {name : String} : identify true r = .ok (some (.admin name)) ↔
    r.Vacant studentHeader ∧ r.Holds adminHeader name.toList := by
  rw [identify_trusted_ok_iff]
  simp only [resolved?_admin_iff, ← presentText?_eq_some_iff, ← presentText?_eq_none_iff]
  grind

theorem identify_nobody_iff :
    identify true r = .ok none ↔ r.Vacant studentHeader ∧ r.Vacant adminHeader := by
  rw [identify_trusted_ok_iff]
  simp only [resolved?_nobody_iff, ← presentText?_eq_none_iff]
  grind

theorem identify_refused_iff : (∃ refusal, identify true r = .error refusal) ↔
    r.Garbled studentHeader ∨ r.Garbled adminHeader ∨
      (∃ text name, r.Holds studentHeader text ∧ r.Holds adminHeader name) ∨
      ∃ text, r.Holds studentHeader text ∧
        ∀ n, Numeral text n → n < -2 ^ 63 ∨ 2 ^ 63 - 1 < n := by
  rw [identify_trusted_error_iff]
  simp only [resolved?_eq_none_iff, ← presentText?_eq_some_iff, ← studentOfText?_eq_none_iff,
    ← presentText?_error_iff]
  cases hs : presentText? r studentHeader with
  | error refusal => simp
  | ok student =>
    cases ha : presentText? r adminHeader with
    | error refusal => simp
    | ok admin => cases student <;> cases admin <;> simp

/-- Who cannot be resolved is turned away whatever the request is about. -/
theorem respond_refused {config : Config} {refusal : Refusal} (htrust : config.trustIdentity = true)
    (h : identify true r = .error refusal) (s : Session) : (respond config r s).1.status = 400 := by
  obtain ⟨reason, rfl⟩ := identityOfHeaders_error h
  rw [respond_response, finished_status, answer, htrust, h]
  rfl

/-! ### Numerals in headers -/

theorem visible_digits : ∀ n < 128, Text.isDigit (Char.ofNat n) = true →
    IsTextChar (Char.ofNat n) ∧ isBlank (Char.ofNat n) = false := by
  decide +kernel

/-- A numeral is made of visible characters. -/
theorem visible_of_numeral {n : Int} (h : Numeral text n) :
    text ≠ [] ∧ ∀ c ∈ text, IsTextChar c ∧ isBlank c = false := by
  have hdigits {s : List Char} {k : Nat} (hd : Text.Digits s k) (c : Char) (hc : c ∈ s) :
      IsTextChar c ∧ isBlank c = false := by
    have hdigit := hd.all_digits c hc
    have hle : c.toNat ≤ '9'.toNat := by
      simp only [Text.isDigit, Bool.and_eq_true, decide_eq_true_eq] at hdigit
      exact hdigit.2
    have hvisible := visible_digits c.toNat (Nat.lt_of_le_of_lt hle (by decide))
    rw [Char.ofNat_toNat] at hvisible
    exact hvisible hdigit
  cases h with
  | unsigned hd => exact ⟨hd.some_digit, hdigits hd⟩
  | positive hd =>
    exact ⟨by simp, List.forall_mem_cons.mpr ⟨by decide, hdigits hd⟩⟩
  | negative hd =>
    exact ⟨by simp, List.forall_mem_cons.mpr ⟨by decide, hdigits hd⟩⟩

theorem holds_of_numeral {n : Int} (h : Numeral text n) {left right : List UInt8}
    (hpadding : ∀ b ∈ left ++ right, isPadding b = true)
    (hfirst : r.First name (left ++ encode text ++ right)) : r.Holds name text := by
  obtain ⟨hne, hvisible⟩ := visible_of_numeral h
  exact ⟨left, right, hfirst, hpadding, hne, fun c hc => (hvisible c hc).1,
    fun c hc => (hvisible c (List.mem_of_mem_head? hc)).2,
    fun c hc => (hvisible c (List.mem_of_mem_getLast? hc)).2⟩

/-! ### Other headers -/

theorem header?_of_named {name : String} (hname : name = studentHeader ∨ name = adminHeader)
    (r : Request) : r.header? name =
      ((r.headers.filter namesIdentity).find? fun h => Request.sameName h.1 name).map Prod.snd := by
  rw [Request.header?, List.find?_filter]
  congr 2
  funext h
  rcases hname with rfl | rfl <;> simp +contextual [namesIdentity]

theorem identify_congr (h : r'.headers.filter namesIdentity = r.headers.filter namesIdentity)
    (trusted : Bool) : identify trusted r' = identify trusted r := by
  have hstudent : r'.header? studentHeader = r.header? studentHeader := by
    rw [header?_of_named (Or.inl rfl), header?_of_named (Or.inl rfl), h]
  have hadmin : r'.header? adminHeader = r.header? adminHeader := by
    rw [header?_of_named (Or.inr rfl), header?_of_named (Or.inr rfl), h]
  simp only [identify, identityOfHeaders, presentText?, hstudent, hadmin]

/-- Identities are what this grammar says. Where identity headers are trusted, a request comes from
a student if it holds the numeral of a 64-bit id and the other header is vacant; from an
administrator if it holds a name and no id; and from nobody in particular if both headers are
vacant. In every other case, and these are all of them, it is answered as a bad request, whatever it
is about. So the decimal text of an id resolves to this id with blanks around it, and no further
header has a say. -/
theorem identity_grammar (r : Request) :
    (∀ n, identify true r = .ok (some (.student n)) ↔
      (∃ text, r.Holds studentHeader text ∧ Numeral text n) ∧
        (-2 ^ 63 ≤ n ∧ n ≤ 2 ^ 63 - 1) ∧ r.Vacant adminHeader) ∧
    (∀ name, identify true r = .ok (some (.admin name)) ↔
      r.Vacant studentHeader ∧ r.Holds adminHeader name.toList) ∧
    (identify true r = .ok none ↔ r.Vacant studentHeader ∧ r.Vacant adminHeader) ∧
    ((∃ refusal, identify true r = .error refusal) ↔
      r.Garbled studentHeader ∨ r.Garbled adminHeader ∨
        (∃ text name, r.Holds studentHeader text ∧ r.Holds adminHeader name) ∨
        ∃ text, r.Holds studentHeader text ∧
          ∀ n, Numeral text n → n < -2 ^ 63 ∨ 2 ^ 63 - 1 < n) ∧
    (∀ refusal, identify true r = .error refusal →
      (∃ reason, refusal = .of (.badRequest reason)) ∧
      ∀ config s, config.trustIdentity = true → (respond config r s).1.status = 400) ∧
    (∀ n left right, -2 ^ 63 ≤ n ∧ n ≤ 2 ^ 63 - 1 →
      (∀ b ∈ left ++ right, isPadding b = true) →
      r.First studentHeader (left ++ encode (Text.integerText n).toList ++ right) →
      r.Vacant adminHeader → identify true r = .ok (some (.student n))) ∧
    ∀ r' : Request, r'.headers.filter namesIdentity = r.headers.filter namesIdentity →
      identify true r' = identify true r := by
  refine ⟨fun n => identify_student_iff, fun name => identify_admin_iff, identify_nobody_iff,
    identify_refused_iff, fun refusal h => ⟨identityOfHeaders_error h, fun config s htrust =>
      respond_refused htrust h s⟩, fun n left right hrange hpadding hfirst hvacant => ?_,
    fun r' h => identify_congr h true⟩
  have hnumeral := Text.numeral_integerText n
  exact identify_student_iff.mpr
    ⟨⟨_, holds_of_numeral hnumeral hpadding hfirst, hnumeral⟩, hrange, hvacant⟩

/-- Only the first id counts, which is written with a sign, leading zeros and blanks. -/
theorem identity_grammar_student :
    let r : Request :=
      { method := "GET", target := ⟨"", "/student/api/events", none⟩
        body := [], upgradable := false
        headers := [("host", [0xFF]), ("X-Student-Id", [0x20, 0x2B, 0x30, 0x30, 0x37, 0x09]),
          ("x-student-id", [0x38])] }
    r.Holds studentHeader ['+', '0', '0', '7'] ∧ Numeral ['+', '0', '0', '7'] 7 ∧
      r.Vacant adminHeader ∧ identify true r = .ok (some (.student 7)) := by
  intro r
  have hnumeral : Numeral ['+', '0', '0', '7'] 7 :=
    Text.readInteger?_eq_some_iff.mp (by decide)
  have hvacant : r.Vacant adminHeader := presentText?_eq_none_iff.mp (by decide +kernel)
  have hholds : r.Holds studentHeader ['+', '0', '0', '7'] :=
    presentText?_eq_some_iff.mp (by decide +kernel)
  exact ⟨hholds, hnumeral, hvacant,
    ((identity_grammar r).1 7).mpr ⟨⟨_, hholds, hnumeral⟩, by decide, hvacant⟩⟩

end LiveUpdate.Web
