import LiveUpdate.Proofs.JsonParsing
import LiveUpdate.Proofs.Utf8Coding
import LiveUpdate.Proofs.WellFormed

/-! Reading quoted text back. A reader goes through the characters after an opening quote and undoes
the escapes up to the closing one. Every text comes back from its quoted form, whatever follows it,
so that no two texts are quoted alike; and a quoted form fits on a line. -/
namespace LiveUpdate.Text

/-- Where in a quoted text a reader is. -/
inductive Spot
  | text
  /-- After a backslash. -/
  | escape
  /-- After the letter that announces the number of a character. -/
  | brace
  /-- In the number of a character, with the value of its digits so far. -/
  | number (n : Nat)
  deriving DecidableEq, Repr

/-- What a letter after a backslash stands for, if it stands for a character by itself. -/
def shortEscape? : Char → Option Char
  | '0' => some '\x00'
  | 't' => some '\t'
  | 'r' => some '\r'
  | 'n' => some '\n'
  | '\\' => some '\\'
  | '"' => some '"'
  | _ => none

/-- One character more of the text that is read. -/
def follows (c : Char) : Option (List Char × List Char) → Option (List Char × List Char) :=
  Option.map (Prod.map (c :: ·) id)

/-- The text up to the closing quote, with its escapes undone, and what comes after the quote. -/
def readFrom : Spot → List Char → Option (List Char × List Char)
  | _, [] => none
  | .text, c :: rest =>
    if c = '"' then some ([], rest)
    else if c = '\\' then readFrom .escape rest
    else follows c (readFrom .text rest)
  | .escape, c :: rest =>
    if c = 'u' then readFrom .brace rest
    else (shortEscape? c).bind fun c => follows c (readFrom .text rest)
  | .brace, c :: rest => if c = '\x7b' then readFrom (.number 0) rest else none
  | .number n, c :: rest =>
    if c = '\x7d' then
      if n.isValidChar then follows (Char.ofNat n) (readFrom .text rest) else none
    else (Json.hexDigit? c).bind fun d => readFrom (.number (16 * n + d)) rest

/-- Reads the quoted text at the front, and leaves what follows it. -/
def readQuoted? : List Char → Option (List Char × List Char)
  | '"' :: rest => readFrom .text rest
  | _ => none

/-- The text of which this is a quoted form, and nothing more. -/
def unquote? (s : String) : Option String :=
  match readQuoted? s.toList with
  | some (text, []) => some (String.ofList text)
  | _ => none

variable {c m : Char} {s rest : List Char} {n : Nat}

/-! ### Characters -/

/-- Each character is quoted in one of three ways, by which it can be told. -/
theorem escapeChar_cases (c : Char) :
    (∃ m, shortEscape? m = some c ∧ escapeChar c = ['\\', m]) ∨
      escapeChar c = ['\\', 'u', '\x7b'] ++ hexDigits c.toNat ++ ['\x7d'] ∨
      c ≠ '"' ∧ c ≠ '\\' ∧ isLineBreak c = false ∧ escapeChar c = [c] := by
  by_cases hshort : ∃ m, shortEscape? m = some c
  · obtain ⟨m, hm⟩ := hshort
    refine .inl ⟨m, hm, ?_⟩
    unfold shortEscape? at hm
    split at hm <;> cases hm <;> rfl
  · have hne {m e : Char} (hm : shortEscape? m = some e) : c ≠ e := fun he => hshort ⟨m, he ▸ hm⟩
    have hrest : escapeChar c = if isGraphemeExtend c || isUnprintable c then
        ['\\', 'u', '\x7b'] ++ hexDigits c.toNat ++ ['\x7d'] else [c] := by
      simp [escapeChar, hne (rfl : shortEscape? '0' = _), hne (rfl : shortEscape? 't' = _),
        hne (rfl : shortEscape? 'r' = _), hne (rfl : shortEscape? 'n' = _),
        hne (rfl : shortEscape? '\\' = _), hne (rfl : shortEscape? '"' = _)]
    rw [hrest]
    split
    · exact .inr (.inl rfl)
    · refine .inr (.inr ⟨hne (m := '"') rfl, hne (m := '\\') rfl, ?_, rfl⟩)
      simp [isLineBreak, hne (m := 'n') rfl, hne (m := 'r') rfl]

theorem readFrom_shortEscape (h : shortEscape? m = some c) :
    readFrom .text ('\\' :: m :: rest) = follows c (readFrom .text rest) := by
  have hu : m ≠ 'u' := by
    rintro rfl
    cases h
  simp [readFrom, hu, h]

/-- The digits of a number are read from the first to the last. -/
theorem readFrom_hexDigits (n : Nat) (rest : List Char) :
    readFrom (.number 0) (hexDigits n ++ rest) = readFrom (.number n) rest := by
  have hdigit {k d : Nat} (hd : d < 16) (rest : List Char) :
      readFrom (.number k) (Nat.digitChar d :: rest) = readFrom (.number (16 * k + d)) rest := by
    have hbrace : ∀ d < 16, Nat.digitChar d ≠ '\x7d' := by decide
    rw [readFrom, if_neg (hbrace d hd), Json.hexDigit?_digitChar d hd, Option.bind_some]
  induction n using Nat.strongRecOn generalizing rest with
  | ind n ih =>
    by_cases hn : n < 16
    · rw [hexDigits, Nat.toDigits_of_lt_base hn, List.singleton_append, hdigit hn, Nat.mul_zero,
        Nat.zero_add]
    · have hsum : 16 * (n / 16) + n % 16 = n := Nat.div_add_mod ..
      rw [hexDigits, Nat.toDigits_of_base_le (by decide) (by omega), List.append_assoc,
        List.singleton_append, ← hexDigits, ih (n / 16) (by omega), hdigit (by omega), hsum]

/-- However a character is quoted, it is read as itself. -/
theorem readFrom_escapeChar (c : Char) (rest : List Char) :
    readFrom .text (escapeChar c ++ rest) = follows c (readFrom .text rest) := by
  rcases escapeChar_cases c with ⟨m, hm, hc⟩ | hc | ⟨hquote, hbackslash, -, hc⟩
  · rw [hc]
    exact readFrom_shortEscape hm
  · have hvalid : c.toNat.isValidChar := c.valid
    rw [hc]
    simp only [List.append_assoc, List.cons_append, List.nil_append]
    simp [readFrom, readFrom_hexDigits, hvalid, Char.ofNat_toNat]
  · rw [hc]
    simp [readFrom, hquote, hbackslash]

/-! ### Texts -/

/-- Whatever follows a quoted text, the text is read and the rest is left. -/
theorem readQuoted?_quoteChars (s rest : List Char) :
    readQuoted? (quoteChars s ++ rest) = some (s, rest) := by
  have hbody : readFrom .text (s.flatMap escapeChar ++ '"' :: rest) = some (s, rest) := by
    induction s with
    | nil => rfl
    | cons c s ih =>
      rw [List.flatMap_cons, List.append_assoc, readFrom_escapeChar, ih]
      rfl
  rw [quoteChars, List.append_assoc, List.cons_append]
  exact hbody

/-- Unquoting undoes quoting. -/
theorem unquote?_quote (s : String) : unquote? (quote s) = some s := by
  have hread := readQuoted?_quoteChars s.toList []
  rw [List.append_nil] at hread
  simp [unquote?, quote, hread]

/-! ### Lines -/

theorem isLineBreak_digitChar : ∀ d < 16, isLineBreak (Nat.digitChar d) = false := by decide

theorem hexDigits_unbroken (n : Nat) : (hexDigits n).any isLineBreak = false := by
  induction n using Nat.strongRecOn with
  | ind n ih =>
    rw [hexDigits]
    by_cases hn : n < 16
    · simp [Nat.toDigits_of_lt_base hn, isLineBreak_digitChar n hn]
    · have hfirst : (Nat.toDigits 16 (n / 16)).any isLineBreak = false := ih _ (by omega)
      have hlast := isLineBreak_digitChar (n % 16) (by omega)
      rw [Nat.toDigits_of_base_le (by decide) (by omega), List.any_append, hfirst]
      simp [hlast]

theorem escapeChar_unbroken (c : Char) : (escapeChar c).any isLineBreak = false := by
  rcases escapeChar_cases c with ⟨m, hm, hc⟩ | hc | ⟨-, -, hbreak, hc⟩
  · rw [hc]
    unfold shortEscape? at hm
    split at hm <;> first | rfl | cases hm
  · rw [hc, List.any_append, List.any_append, hexDigits_unbroken]
    rfl
  · simp [hc, hbreak]

/-- A quoted text fits on a line, whatever the text. -/
theorem oneLine_quote (s : String) : OneLine (quote s) := by
  rw [← hasLineBreak_eq_false_iff, hasLineBreak, quote, String.toList_ofList, quoteChars,
    List.any_append, List.any_cons]
  have hbody : (s.toList.flatMap escapeChar).any isLineBreak = false := by
    simp [List.any_flatMap, escapeChar_unbroken]
  rw [hbody]
  rfl

end LiveUpdate.Text
