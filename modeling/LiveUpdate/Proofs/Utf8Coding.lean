import Mathlib.Logic.Function.Basic
import Mathlib.Tactic.SplitIfs
import LiveUpdate.Text.Utf8

/-! Decoding undoes encoding, and nothing else is decoded. A character that is written as several
bytes is a leading byte and an end; what the leading byte promises and what the end holds give the
character back, and the narrowed ranges leave each character one form. -/
namespace LiveUpdate.Text.Utf8

/-! ### Characters of several bytes -/

/-- The bytes with which a character can go on that is partly read. -/
structure Partial.Ends (p : Partial) (tail : List UInt8) : Prop where
  length : tail.length = p.owed + 1
  first : ∀ b ∈ tail.head?, p.low ≤ b.toNat ∧ b.toNat ≤ p.high
  others : ∀ b ∈ tail.tail, 0x80 ≤ b.toNat ∧ b.toNat ≤ 0xBF

/-- The number of a character that is partly read, with the bytes that end it. -/
def Partial.code (p : Partial) (tail : List UInt8) : Nat :=
  tail.foldl (fun value b => value * 64 + (b.toNat - 0x80)) p.value

/-- One byte later, if more than one was still to come. -/
def Partial.later (p : Partial) (b : UInt8) : Partial :=
  ⟨p.owed - 1, 0x80, 0xBF, p.value * 64 + (b.toNat - 0x80), p.taken + 1⟩

theorem Partial.code_cons (p : Partial) (b : UInt8) (tail : List UInt8) :
    p.code (b :: tail) = (p.later b).code tail := by
  rw [code, List.foldl_cons, code, later]

theorem Partial.next_of_owed {p : Partial} {b : UInt8} (hb : p.low ≤ b.toNat ∧ b.toNat ≤ p.high) :
    p.next b =
      some (if p.owed = 0 then .char (Char.ofNat (p.code [b])) else .begins (p.later b)) := by
  cases howed : p.owed <;> simp [Partial.next, hb, howed, Partial.code, Partial.later]

theorem Partial.ends_cons_iff {p : Partial} {b : UInt8} {tail : List UInt8} :
    p.Ends (b :: tail) ↔ (p.low ≤ b.toNat ∧ b.toNat ≤ p.high) ∧
      if p.owed = 0 then tail = [] else (p.later b).Ends tail := by
  constructor
  · rintro ⟨hlength, hfirst, hothers⟩
    refine ⟨hfirst b rfl, ?_⟩
    split
    · simp_all
    · refine ⟨?_, fun c hc => hothers c (List.mem_of_mem_head? hc),
        fun c hc => hothers c (List.mem_of_mem_tail hc)⟩
      simp only [List.length_cons, Partial.later] at hlength ⊢
      omega
  · rintro ⟨hb, htail⟩
    split at htail
    · subst tail
      exact ⟨by simp [*], by simpa using hb, nofun⟩
    · refine ⟨?_, by simpa using hb, ?_⟩
      · have hlength := htail.length
        simp only [Partial.later] at hlength
        simp only [List.length_cons]
        omega
      · intro x hx
        cases tail with
        | nil => cases hx
        | cons y tail =>
          rcases List.mem_cons.mp hx with rfl | hx
          · exact htail.first _ rfl
          · exact htail.others x hx

theorem piecesFrom_of_ends {p : Partial} {tail : List UInt8} (h : p.Ends tail) (rest : List UInt8) :
    piecesFrom (some p) (tail ++ rest) = .char (Char.ofNat (p.code tail)) :: pieces rest := by
  induction tail generalizing p with
  | nil => exact absurd h.length (by simp)
  | cons b tail ih =>
    obtain ⟨hb, htail⟩ := Partial.ends_cons_iff.mp h
    rw [List.cons_append, piecesFrom, Partial.next_of_owed hb]
    split at htail
    · subst tail
      rw [if_pos ‹_›]
      rfl
    · rw [if_neg ‹_›, Partial.code_cons]
      exact ih htail

theorem ends_of_piecesFrom {p : Partial} {bytes : List UInt8} {c : Char} {ps : List Piece}
    (h : piecesFrom (some p) bytes = .char c :: ps) :
    ∃ tail rest, bytes = tail ++ rest ∧ p.Ends tail ∧ c = Char.ofNat (p.code tail) ∧
      ps = pieces rest := by
  induction bytes generalizing p with
  | nil => simp [piecesFrom] at h
  | cons b bytes ih =>
    by_cases hb : p.low ≤ b.toNat ∧ b.toNat ≤ p.high
    · rw [piecesFrom, Partial.next_of_owed hb] at h
      by_cases howed : p.owed = 0
      · rw [if_pos howed] at h
        obtain ⟨hc, hps⟩ := List.cons.inj h
        exact ⟨[b], bytes, rfl, Partial.ends_cons_iff.mpr ⟨hb, by rw [if_pos howed]⟩,
          (Piece.char.inj hc).symm, hps.symm⟩
      · rw [if_neg howed] at h
        obtain ⟨tail, rest, rfl, htail, hc, hps⟩ := ih h
        exact ⟨b :: tail, rest, rfl, Partial.ends_cons_iff.mpr ⟨hb, by rwa [if_neg howed]⟩,
          by rw [Partial.code_cons, hc], hps⟩
    · simp [piecesFrom, Partial.next, hb] at h

/-! ### What a character is written as -/

theorem toNat_ofNat_of_valid {n : Nat} (h : n.isValidChar) : (Char.ofNat n).val.toNat = n := by
  rw [Char.ofNat, dif_pos h]
  rfl

theorem ofNat_of_toNat {b : UInt8} {n : Nat} (h : b.toNat = n) : UInt8.ofNat n = b := by
  rw [← h, UInt8.ofNat_toNat]

theorem encodeChar_one {n : Nat} (h : n ≤ 0x7F) :
    String.utf8EncodeChar (Char.ofNat n) = [UInt8.ofNat n] := by
  have hval : (Char.ofNat n).val.toNat = n := toNat_ofNat_of_valid (Or.inl (by omega))
  simp only [String.utf8EncodeChar, hval]
  rw [if_pos h]

theorem encodeChar_two {n : Nat} (h : 0x80 ≤ n) (h' : n ≤ 0x7FF) :
    String.utf8EncodeChar (Char.ofNat n) =
      [UInt8.ofNat (n / 64 + 0xC0), UInt8.ofNat (n % 64 + 0x80)] := by
  have hval : (Char.ofNat n).val.toNat = n := toNat_ofNat_of_valid (Or.inl (by omega))
  simp only [String.utf8EncodeChar, hval]
  rw [if_neg (by omega), if_pos h', Nat.mod_eq_of_lt (a := n / 64) (by omega)]

theorem encodeChar_three {n : Nat} (h : 0x800 ≤ n) (h' : n ≤ 0xFFFF) (hvalid : n.isValidChar) :
    String.utf8EncodeChar (Char.ofNat n) =
      [UInt8.ofNat (n / 4096 + 0xE0), UInt8.ofNat (n / 64 % 64 + 0x80),
        UInt8.ofNat (n % 64 + 0x80)] := by
  have hval : (Char.ofNat n).val.toNat = n := toNat_ofNat_of_valid hvalid
  simp only [String.utf8EncodeChar, hval]
  rw [if_neg (by omega), if_neg (by omega), if_pos h', Nat.mod_eq_of_lt (a := n / 4096) (by omega)]

theorem encodeChar_four {n : Nat} (h : 0x10000 ≤ n) (h' : n ≤ 0x10FFFF) :
    String.utf8EncodeChar (Char.ofNat n) =
      [UInt8.ofNat (n / 262144 + 0xF0), UInt8.ofNat (n / 4096 % 64 + 0x80),
        UInt8.ofNat (n / 64 % 64 + 0x80), UInt8.ofNat (n % 64 + 0x80)] := by
  have hval : (Char.ofNat n).val.toNat = n := toNat_ofNat_of_valid (Or.inr ⟨by omega, by omega⟩)
  simp only [String.utf8EncodeChar, hval]
  rw [if_neg (by omega), if_neg (by omega), if_neg (by omega),
    Nat.mod_eq_of_lt (a := n / 262144) (by omega)]

/-! ### Leading bytes and ends -/

theorem Partial.Ends.of_one {p : Partial} {tail : List UInt8} (ht : p.Ends tail) (h : p.owed = 0) :
    ∃ b, tail = [b] ∧ p.low ≤ b.toNat ∧ b.toNat ≤ p.high := by
  cases tail with
  | nil => exact absurd ht.length (by simp)
  | cons b tail =>
    obtain ⟨hb, htail⟩ := Partial.ends_cons_iff.mp ht
    rw [if_pos h] at htail
    exact ⟨b, by rw [htail], hb⟩

theorem Partial.Ends.of_more {p : Partial} {tail : List UInt8} (ht : p.Ends tail) (h : p.owed ≠ 0) :
    ∃ b rest, tail = b :: rest ∧ (p.low ≤ b.toNat ∧ b.toNat ≤ p.high) ∧ (p.later b).Ends rest := by
  cases tail with
  | nil => exact absurd ht.length (by simp)
  | cons b tail =>
    obtain ⟨hb, htail⟩ := Partial.ends_cons_iff.mp ht
    rw [if_neg h] at htail
    exact ⟨b, tail, rfl, hb, htail⟩

theorem lead_eq_char_iff {b : UInt8} {c : Char} :
    lead b = .char c ↔ b.toNat < 0x80 ∧ Char.ofNat b.toNat = c := by
  by_cases h : b.toNat < 0x80
  · simp [lead, h]
  · simp only [lead, h, if_false, false_and, iff_false]
    split_ifs <;> simp

/-- The bytes that may begin a character of several bytes, with what they promise. -/
theorem lead_eq_begins_iff {b : UInt8} {p : Partial} : lead b = .begins p ↔
    (0xC2 ≤ b.toNat ∧ b.toNat < 0xE0 ∧ p = ⟨0, 0x80, 0xBF, b.toNat - 0xC0, 1⟩) ∨
    (0xE0 ≤ b.toNat ∧ b.toNat < 0xF0 ∧ p = ⟨1, if b.toNat = 0xE0 then 0xA0 else 0x80,
      if b.toNat = 0xED then 0x9F else 0xBF, b.toNat - 0xE0, 1⟩) ∨
    (0xF0 ≤ b.toNat ∧ b.toNat < 0xF5 ∧ p = ⟨2, if b.toNat = 0xF0 then 0x90 else 0x80,
      if b.toNat = 0xF4 then 0x8F else 0xBF, b.toNat - 0xF0, 1⟩) := by
  have hlt := b.toNat_lt
  simp only [lead]
  split_ifs <;> simp_all <;> grind

/-- A beginning with its end is what the character is written as. -/
theorem encodeChar_of_lead {b : UInt8} {p : Partial} {tail : List UInt8}
    (h : lead b = .begins p) (ht : p.Ends tail) :
    String.utf8EncodeChar (Char.ofNat (p.code tail)) = b :: tail := by
  rcases lead_eq_begins_iff.mp h with ⟨hlow, hhigh, rfl⟩ | ⟨hlow, hhigh, rfl⟩ | ⟨hlow, hhigh, rfl⟩
  · obtain ⟨x, rfl, hx⟩ := ht.of_one rfl
    simp only [Partial.code, List.foldl_cons, List.foldl_nil] at hx ⊢
    rw [encodeChar_two (by omega) (by omega), ofNat_of_toNat (b := b) (by omega),
      ofNat_of_toNat (b := x) (by omega)]
  · obtain ⟨x, rest, rfl, hx, ht⟩ := ht.of_more (by simp)
    obtain ⟨y, rfl, hy⟩ := ht.of_one rfl
    simp only [Partial.code, Partial.later, List.foldl_cons, List.foldl_nil] at hx hy ⊢
    have hlow' : b.toNat = 0xE0 → 0xA0 ≤ x.toNat := fun h => by simpa [h] using hx.1
    have hhigh' : b.toNat = 0xED → x.toNat ≤ 0x9F := fun h => by simpa [h] using hx.2
    have hx' : 0x80 ≤ x.toNat ∧ x.toNat ≤ 0xBF := by
      constructor
      · exact Nat.le_trans (by split_ifs <;> decide) hx.1
      · exact Nat.le_trans hx.2 (by split_ifs <;> decide)
    clear hx
    have hvalid :
        (((b.toNat - 0xE0) * 64 + (x.toNat - 0x80)) * 64 + (y.toNat - 0x80)).isValidChar := by
      rw [Nat.isValidChar]
      omega
    rw [encodeChar_three (by omega) (by omega) hvalid, ofNat_of_toNat (b := b) (by omega),
      ofNat_of_toNat (b := x) (by omega), ofNat_of_toNat (b := y) (by omega)]
  · obtain ⟨x, rest, rfl, hx, ht⟩ := ht.of_more (by simp)
    obtain ⟨y, rest, rfl, hy, ht⟩ := ht.of_more (by simp [Partial.later])
    obtain ⟨z, rfl, hz⟩ := ht.of_one rfl
    simp only [Partial.code, Partial.later, List.foldl_cons, List.foldl_nil] at hx hy hz ⊢
    have hlow' : b.toNat = 0xF0 → 0x90 ≤ x.toNat := fun h => by simpa [h] using hx.1
    have hhigh' : b.toNat = 0xF4 → x.toNat ≤ 0x8F := fun h => by simpa [h] using hx.2
    have hx' : 0x80 ≤ x.toNat ∧ x.toNat ≤ 0xBF := by
      constructor
      · exact Nat.le_trans (by split_ifs <;> decide) hx.1
      · exact Nat.le_trans hx.2 (by split_ifs <;> decide)
    clear hx
    rw [encodeChar_four (by omega) (by omega), ofNat_of_toNat (b := b) (by omega),
      ofNat_of_toNat (b := x) (by omega), ofNat_of_toNat (b := y) (by omega),
      ofNat_of_toNat (b := z) (by omega)]

theorem toNat_ofNat_of_lt {n : Nat} (h : n < 256) : (UInt8.ofNat n).toNat = n :=
  UInt8.toNat_ofNat_of_lt h

/-- The first byte of a character begins it, and the others end it. -/
def Leads (c : Char) : Prop :=
  ∃ b tail p, String.utf8EncodeChar c = b :: tail ∧ lead b = .begins p ∧ p.Ends tail ∧
    Char.ofNat (p.code tail) = c

theorem leads_two {n : Nat} (h₁ : 0x7F < n) (h₂ : n ≤ 0x7FF) : Leads (Char.ofNat n) := by
  refine ⟨_, _, _, encodeChar_two h₁ h₂, lead_eq_begins_iff.mpr (.inl ⟨?_, ?_, rfl⟩), ?_, ?_⟩
  · rw [toNat_ofNat_of_lt (by omega)]
    omega
  · rw [toNat_ofNat_of_lt (by omega)]
    omega
  · refine Partial.ends_cons_iff.mpr ⟨?_, rfl⟩
    dsimp only
    rw [toNat_ofNat_of_lt (by omega)]
    omega
  · simp only [Partial.code, List.foldl_cons, List.foldl_nil]
    rw [toNat_ofNat_of_lt (by omega), toNat_ofNat_of_lt (by omega)]
    exact congrArg Char.ofNat (by omega)

theorem leads_three {n : Nat} (h₂ : 0x7FF < n) (h₃ : n ≤ 0xFFFF) (hvalid : n.isValidChar) :
    Leads (Char.ofNat n) := by
  rw [Nat.isValidChar] at hvalid
  refine ⟨_, _, _, encodeChar_three h₂ h₃ hvalid,
    lead_eq_begins_iff.mpr (.inr (.inl ⟨?_, ?_, rfl⟩)), ?_, ?_⟩
  · rw [toNat_ofNat_of_lt (by omega)]
    omega
  · rw [toNat_ofNat_of_lt (by omega)]
    omega
  · refine Partial.ends_cons_iff.mpr ⟨?_, Partial.ends_cons_iff.mpr ⟨?_, rfl⟩⟩
    · rw [toNat_ofNat_of_lt (by omega), toNat_ofNat_of_lt (by omega)]
      grind
    · simp only [Partial.later]
      rw [toNat_ofNat_of_lt (by omega)]
      omega
  · simp only [Partial.code, List.foldl_cons, List.foldl_nil]
    rw [toNat_ofNat_of_lt (by omega), toNat_ofNat_of_lt (by omega), toNat_ofNat_of_lt (by omega)]
    exact congrArg Char.ofNat (by omega)

theorem leads_four {n : Nat} (h₃ : 0xFFFF < n) (hmax : n ≤ 0x10FFFF) : Leads (Char.ofNat n) := by
  refine ⟨_, _, _, encodeChar_four h₃ hmax, lead_eq_begins_iff.mpr (.inr (.inr ⟨?_, ?_, rfl⟩)),
    ?_, ?_⟩
  · rw [toNat_ofNat_of_lt (by omega)]
    omega
  · rw [toNat_ofNat_of_lt (by omega)]
    omega
  · refine Partial.ends_cons_iff.mpr ⟨?_, Partial.ends_cons_iff.mpr ⟨?_,
      Partial.ends_cons_iff.mpr ⟨?_, rfl⟩⟩⟩
    · rw [toNat_ofNat_of_lt (by omega), toNat_ofNat_of_lt (by omega)]
      grind
    · simp only [Partial.later]
      rw [toNat_ofNat_of_lt (by omega)]
      omega
    · simp only [Partial.later]
      rw [toNat_ofNat_of_lt (by omega)]
      omega
  · simp only [Partial.code, List.foldl_cons, List.foldl_nil]
    rw [toNat_ofNat_of_lt (by omega), toNat_ofNat_of_lt (by omega), toNat_ofNat_of_lt (by omega),
      toNat_ofNat_of_lt (by omega)]
    exact congrArg Char.ofNat (by omega)

/-- A character is one byte that stands for it, or is led by its first byte. -/
theorem lead_of_encodeChar (c : Char) :
    (∃ b, String.utf8EncodeChar c = [b] ∧ lead b = .char c) ∨ Leads c := by
  have hvalid : c.toNat.isValidChar := c.valid
  obtain ⟨n, hn⟩ : ∃ n, c.toNat = n := ⟨_, rfl⟩
  have hc : c = Char.ofNat n := by rw [← hn, Char.ofNat_toNat]
  rw [hn] at hvalid
  subst hc
  have hmax : n ≤ 0x10FFFF := by
    rw [Nat.isValidChar] at hvalid
    omega
  by_cases h₁ : n ≤ 0x7F
  · refine .inl ⟨UInt8.ofNat n, encodeChar_one h₁, ?_⟩
    rw [lead_eq_char_iff, toNat_ofNat_of_lt (by omega)]
    exact ⟨by omega, rfl⟩
  · by_cases h₂ : n ≤ 0x7FF
    · exact .inr (leads_two (Nat.lt_of_not_le h₁) h₂)
    · by_cases h₃ : n ≤ 0xFFFF
      · exact .inr (leads_three (Nat.lt_of_not_le h₂) h₃ hvalid)
      · exact .inr (leads_four (Nat.lt_of_not_le h₃) hmax)

/-! ### Pieces and texts -/

theorem encode_append (first rest : List Char) :
    encode (first ++ rest) = encode first ++ encode rest :=
  List.flatMap_append

theorem pieces_encodeChar_append (c : Char) (rest : List UInt8) :
    pieces (String.utf8EncodeChar c ++ rest) = .char c :: pieces rest := by
  rcases lead_of_encodeChar c with ⟨b, hbytes, hlead⟩ | ⟨b, tail, p, hbytes, hlead, htail, hc⟩
  · rw [hbytes, List.singleton_append, pieces, piecesFrom, hlead]
    rfl
  · rw [hbytes, List.cons_append, pieces, piecesFrom, hlead]
    exact (piecesFrom_of_ends htail rest).trans (by rw [hc])

/-- A character stands first among the pieces only if the bytes begin with it. -/
theorem eq_encodeChar_append_of_pieces {bytes : List UInt8} {c : Char} {ps : List Piece}
    (h : pieces bytes = .char c :: ps) :
    ∃ rest, bytes = String.utf8EncodeChar c ++ rest ∧ pieces rest = ps := by
  cases bytes with
  | nil => cases h
  | cons b bytes =>
    rw [pieces, piecesFrom] at h
    cases hlead : lead b with
    | char d =>
      simp only [hlead, List.cons.injEq, Piece.char.injEq] at h
      obtain ⟨rfl, hps⟩ := h
      refine ⟨bytes, ?_, hps⟩
      obtain ⟨hsmall, rfl⟩ := lead_eq_char_iff.mp hlead
      rw [encodeChar_one (by omega), UInt8.ofNat_toNat, List.singleton_append]
    | begins p =>
      simp only [hlead] at h
      obtain ⟨tail, rest, rfl, htail, rfl, rfl⟩ := ends_of_piecesFrom h
      exact ⟨rest, by rw [encodeChar_of_lead hlead htail, List.cons_append], rfl⟩
    | invalid => simp [hlead] at h

theorem assemble_eq_ok_iff {index : Nat} {ps : List Piece} {text : List Char} :
    assemble index ps = .ok text ↔ ps = text.map .char := by
  induction ps generalizing index text with
  | nil => simp [assemble, eq_comm]
  | cons piece ps ih =>
    cases piece with
    | char c =>
      rw [assemble]
      cases text with
      | nil => cases hrest : assemble (index + c.utf8Size) ps <;> simp [Except.map]
      | cons d text =>
        rw [List.map_cons, List.cons.injEq, Piece.char.injEq, ← @ih (index + c.utf8Size)]
        cases hrest : assemble (index + c.utf8Size) ps <;> simp [Except.map]
    | broken size => cases text <;> simp [assemble]
    | cut size => cases text <;> simp [assemble]

theorem piecesFrom_some_ne_nil (p : Partial) (bytes : List UInt8) :
    piecesFrom (some p) bytes ≠ [] := by
  induction bytes generalizing p with
  | nil => simp [piecesFrom]
  | cons b bytes ih =>
    rw [piecesFrom]
    split
    · simp
    · exact ih _
    · simp
    · simp

theorem pieces_eq_nil_iff {bytes : List UInt8} : pieces bytes = [] ↔ bytes = [] := by
  cases bytes with
  | nil => simp [pieces, piecesFrom]
  | cons b bytes =>
    cases hlead : lead b <;> simp [pieces, piecesFrom, hlead, piecesFrom_some_ne_nil]

/-- What is decoded is what encodes to it: each text has one form in bytes, and only such forms are
texts. -/
theorem decode_eq_ok_iff {bytes : List UInt8} {text : List Char} :
    decode bytes = .ok text ↔ bytes = encode text := by
  rw [decode, assemble_eq_ok_iff]
  induction text generalizing bytes with
  | nil => exact pieces_eq_nil_iff
  | cons c text ih =>
    rw [List.map_cons, encode, List.flatMap_cons, ← encode]
    constructor
    · intro h
      obtain ⟨rest, rfl, hrest⟩ := eq_encodeChar_append_of_pieces h
      rw [ih.mp hrest]
    · rintro rfl
      rw [pieces_encodeChar_append, ih.mpr rfl]

theorem decode_encode (text : List Char) : decode (encode text) = .ok text :=
  decode_eq_ok_iff.mpr rfl

theorem encode_injective : Function.Injective encode := fun first second h =>
  Except.ok.inj ((decode_encode first).symm.trans (h ▸ decode_encode second))

/-- Each byte of a character that is written as several has its highest bit set. -/
theorem Partial.Ends.high {b : UInt8} {p : Partial} {tail : List UInt8} (hlead : lead b = .begins p)
    (h : p.Ends tail) : ∀ x ∈ b :: tail, 0x80 ≤ x.toNat := by
  have hlow : 0xC2 ≤ b.toNat ∧ 0x80 ≤ p.low := by
    rcases lead_eq_begins_iff.mp hlead with ⟨h, -, rfl⟩ | ⟨h, -, rfl⟩ | ⟨h, -, rfl⟩ <;> grind
  intro x hx
  rcases List.mem_cons.mp hx with rfl | hx
  · omega
  · cases tail with
    | nil => cases hx
    | cons y tail =>
      rcases List.mem_cons.mp hx with rfl | hx
      · exact Nat.le_trans hlow.2 (h.first _ rfl).1
      · exact (h.others x hx).1

/-- A byte below 0x80 stands for itself alone, and is no part of another character. -/
theorem mem_encodeChar_iff {b : UInt8} (hb : b.toNat < 0x80) {c : Char} :
    b ∈ String.utf8EncodeChar c ↔ c = Char.ofNat b.toNat := by
  rcases lead_of_encodeChar c with ⟨x, hbytes, hlead⟩ | ⟨x, tail, p, hbytes, hlead, htail, -⟩
  · obtain ⟨hx, rfl⟩ := lead_eq_char_iff.mp hlead
    rw [hbytes, List.mem_singleton]
    constructor
    · rintro rfl
      rfl
    · intro h
      have hval := congrArg (fun d : Char => d.val.toNat) h
      rw [toNat_ofNat_of_valid (Or.inl (by omega)), toNat_ofNat_of_valid (Or.inl (by omega))]
        at hval
      exact (UInt8.toNat_inj.mp hval).symm
  · constructor
    · intro h
      have := htail.high hlead b (hbytes ▸ h)
      omega
    · rintro rfl
      rw [encodeChar_one (by omega), UInt8.ofNat_toNat, List.cons.injEq] at hbytes
      have := htail.high hlead x List.mem_cons_self
      rw [← hbytes.1] at this
      omega

end LiveUpdate.Text.Utf8
