import Mathlib.Data.List.DropRight
import Mathlib.Data.List.Induction
import Mathlib.Data.Nat.Digits.Defs
import LiveUpdate.Text.Blank
import LiveUpdate.Text.Numeral

/-! What trimming leaves of a text, and which texts are numerals. Both are said of the text as a
whole: where its blanks stand, and what the places of its digits are worth. -/
namespace LiveUpdate.Text

/-! ### Trimming -/

/-- A text that neither begins nor ends with a blank. -/
structure Snug (s : List Char) : Prop where
  head : ∀ c ∈ s.head?, isBlank c = false
  last : ∀ c ∈ s.getLast?, isBlank c = false

theorem snug_nil : Snug [] := ⟨nofun, nofun⟩

theorem dropWhile_eq_iff {α : Type} {p : α → Bool} {s rest : List α} : s.dropWhile p = rest ↔
    ∃ left, s = left ++ rest ∧ (∀ x ∈ left, p x = true) ∧ ∀ x ∈ rest.head?, p x = false := by
  constructor
  · rintro rfl
    refine ⟨s.takeWhile p, List.takeWhile_append_dropWhile.symm,
      fun x hx => List.mem_takeWhile_imp hx, fun x hx => ?_⟩
    have hnot := s.head?_dropWhile_not p
    rw [Option.mem_def.mp hx] at hnot
    exact hnot
  · rintro ⟨left, rfl, hleft, hhead⟩
    rw [List.dropWhile_append_of_pos hleft]
    cases rest with
    | nil => rfl
    | cons x rest => rw [List.dropWhile_cons_of_neg]; simp [hhead x rfl]

/-- Trimming leaves the one part of a text that is snug between nothing but blanks. -/
theorem trimBlanks_eq_iff {s m : List Char} : trimBlanks s = m ↔
    ∃ left right, s = left ++ m ++ right ∧ (∀ c ∈ left ++ right, isBlank c = true) ∧ Snug m := by
  rw [trimBlanks, List.reverse_eq_iff, dropWhile_eq_iff]
  constructor
  · rintro ⟨back, hback, hblank, hlast⟩
    obtain ⟨left, hs, hleft, hhead⟩ := dropWhile_eq_iff.mp (Eq.refl (s.dropWhile isBlank))
    rw [List.reverse_eq_iff, List.reverse_append, List.reverse_reverse] at hback
    rw [hback] at hs hhead
    refine ⟨left, back.reverse, by rw [hs, List.append_assoc], fun c hc => ?_, fun c hc => ?_,
      fun c hc => hlast c (by rwa [List.head?_reverse])⟩
    · rcases List.mem_append.mp hc with hc | hc
      · exact hleft c hc
      · exact hblank c (List.mem_reverse.mp hc)
    · refine hhead c ?_
      cases m with
      | nil => cases hc
      | cons x m => exact hc
  · rintro ⟨left, right, rfl, hblank, hsnug⟩
    cases m with
    | nil =>
      have hnone : (left ++ [] ++ right).dropWhile isBlank = [] := by
        rw [List.dropWhile_eq_nil_iff]
        simpa using hblank
      exact ⟨[], by rw [hnone]; rfl, nofun, nofun⟩
    | cons x m =>
      have hcore : (left ++ (x :: m) ++ right).dropWhile isBlank = (x :: m) ++ right :=
        dropWhile_eq_iff.mpr ⟨left, List.append_assoc .., fun c hc => hblank c (by simp [hc]),
          fun c hc => hsnug.head c hc⟩
      refine ⟨right.reverse, by rw [hcore, List.reverse_append], fun c hc => ?_, fun c hc => ?_⟩
      · exact hblank c (by simp [List.mem_reverse.mp hc])
      · exact hsnug.last c (by rwa [List.head?_reverse] at hc)

theorem trimBlanks_eq_nil_iff {s : List Char} :
    trimBlanks s = [] ↔ ∀ c ∈ s, isBlank c = true := by
  rw [trimBlanks_eq_iff]
  constructor
  · rintro ⟨left, right, rfl, hblank, -⟩
    simpa using hblank
  · exact fun h => ⟨s, [], by simp, by simpa using h, snug_nil⟩

/-! ### Numerals -/

/-- Decimal digits, with the number that they denote by their places. -/
structure Digits (s : List Char) (n : Nat) : Prop where
  some_digit : s ≠ []
  all_digits : ∀ c ∈ s, isDigit c = true
  value : n = Nat.ofDigits 10 (s.reverse.map digitValue)

/-- Decimal digits that may be preceded by a sign. -/
inductive Numeral : List Char → Int → Prop
  | unsigned {s : List Char} {n : Nat} (h : Digits s n) : Numeral s n
  | positive {s : List Char} {n : Nat} (h : Digits s n) : Numeral ('+' :: s) n
  | negative {s : List Char} {n : Nat} (h : Digits s n) : Numeral ('-' :: s) (-n)

theorem naturalValue_eq_ofDigits (s : List Char) :
    naturalValue s = Nat.ofDigits 10 (s.reverse.map digitValue) := by
  induction s using List.reverseRecOn with
  | nil => rfl
  | append_singleton s c ih =>
    have hsnoc : naturalValue (s ++ [c]) = naturalValue s * 10 + digitValue c := by
      simp [naturalValue]
    rw [hsnoc, ih, List.reverse_append, List.reverse_singleton, List.singleton_append,
      List.map_cons, Nat.ofDigits_cons]
    omega

theorem readNatural?_eq_some_iff {s : List Char} {n : Nat} :
    readNatural? s = some n ↔ Digits s n := by
  simp only [readNatural?, naturalValue_eq_ofDigits]
  constructor
  · intro h
    split at h
    · rename_i hs
      exact ⟨hs.1, List.all_eq_true.mp hs.2, (Option.some.inj h).symm⟩
    · cases h
  · intro h
    rw [if_pos ⟨h.some_digit, List.all_eq_true.mpr h.all_digits⟩, h.value]

theorem Digits.head_isDigit {c : Char} {s : List Char} {n : Nat} (h : Digits (c :: s) n) :
    isDigit c = true := h.all_digits c List.mem_cons_self

/-- How a text is read depends on whether it begins with a sign. -/
theorem readInteger?_cons (c : Char) (s : List Char) : readInteger? (c :: s) =
    if c = '-' then (readNatural? s).map fun n : Nat => -(n : Int)
    else (readNatural? (if c = '+' then s else c :: s)).map fun n : Nat => (n : Int) := by
  by_cases hminus : c = '-'
  · subst hminus
    cases h : readNatural? s <;> simp [readInteger?, h]
  · have hread : readUnsigned? (c :: s) = readNatural? (if c = '+' then s else c :: s) := by
      by_cases hplus : c = '+' <;> simp [readUnsigned?, hplus]
    cases h : readNatural? (if c = '+' then s else c :: s) <;>
      simp [readInteger?, hminus, hread, h]

/-- A numeral is read as the number that it denotes, and nothing else is read. -/
theorem readInteger?_eq_some_iff {s : List Char} {n : Int} :
    readInteger? s = some n ↔ Numeral s n := by
  constructor
  · intro h
    cases s with
    | nil => cases h
    | cons c s =>
      rw [readInteger?_cons] at h
      split at h
      · subst c
        obtain ⟨k, hk, rfl⟩ := Option.map_eq_some_iff.mp h
        exact .negative (readNatural?_eq_some_iff.mp hk)
      · obtain ⟨k, hk, rfl⟩ := Option.map_eq_some_iff.mp h
        split at hk
        · subst c
          exact .positive (readNatural?_eq_some_iff.mp hk)
        · exact .unsigned (readNatural?_eq_some_iff.mp hk)
  · rintro (hdigits | hdigits | hdigits)
    · have hread := readNatural?_eq_some_iff.mpr hdigits
      cases s with
      | nil => exact absurd rfl hdigits.some_digit
      | cons c s =>
        -- A digit is no sign.
        have hminus : c ≠ '-' := by
          rintro rfl
          exact Bool.noConfusion hdigits.head_isDigit
        have hplus : c ≠ '+' := by
          rintro rfl
          exact Bool.noConfusion hdigits.head_isDigit
        rw [readInteger?_cons, if_neg hminus, if_neg hplus, hread]
        rfl
    · rw [readInteger?_cons, if_neg (by decide), if_pos rfl, readNatural?_eq_some_iff.mpr hdigits]
      rfl
    · rw [readInteger?_cons, if_pos rfl, readNatural?_eq_some_iff.mpr hdigits]
      rfl

theorem digits_toDigits (n : Nat) : Digits (Nat.toDigits 10 n) n where
  some_digit := Nat.toDigits_ne_nil
  all_digits c hc := by
    have hdigit := Nat.isDigit_of_mem_toDigits (by decide) (by decide) hc
    simpa [isDigit, Char.isDigit, Char.le_def, UInt32.le_iff_toNat_le] using hdigit
  value := by
    have hvalue : naturalValue (Nat.toDigits 10 n) = Nat.ofDigitChars 10 (Nat.toDigits 10 n) 0 := by
      simp only [naturalValue, Nat.ofDigitChars_eq_foldl, Nat.mul_comm, digitValue]
    rw [← naturalValue_eq_ofDigits, hvalue, Nat.ofDigitChars_ten_toDigits]

/-- The decimal text of a number is a numeral for it. -/
theorem numeral_integerText (n : Int) : Numeral (integerText n).toList n := by
  cases n with
  | ofNat k =>
    rw [integerText, String.toList_ofList]
    exact .unsigned (digits_toDigits k)
  | negSucc k =>
    rw [integerText, String.toList_ofList]
    exact .negative (digits_toDigits (k + 1))

end LiveUpdate.Text
