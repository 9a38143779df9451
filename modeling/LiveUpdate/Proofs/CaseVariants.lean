import Mathlib.Data.List.Forall2
import LiveUpdate.Config.Basic
import LiveUpdate.Proofs.Utf8Coding

/-! Names in any mixture of cases. A name is read from a text just if its letters stand there, each
in one of its forms, and nothing else does. The forms of a letter are all that the lower-casing of
Unicode takes to it: the two of ASCII, and for one letter a sign of its own. -/
namespace LiveUpdate

namespace Text

/-- U+212A, of which the lower-case form is the letter k. -/
def kelvinSign : Char := '\u212a'

/-- The two forms that a lower-case letter has in ASCII. -/
def IsAsciiForm (letter c : Char) : Prop := c = letter ∨ c = letter.toUpper

/-- All forms of a lower-case letter of ASCII. -/
def IsForm (letter c : Char) : Prop := IsAsciiForm letter c ∨ letter = 'k' ∧ c = kelvinSign

/-- A text in lower case. A capital sigma may take its final form, which depends on what stands
around it. -/
def LowersTo (s t : List Char) : Prop :=
  ∃ parts : List (List Char), t = parts.flatten ∧
    List.Forall₂ (fun c part => part = lowerChar c ∨ c = 'Σ' ∧ part = ['ς']) s parts

variable {c letter : Char} {s t name : List Char}

theorem isLower_iff : letter.isLower = true ↔ 0x61 ≤ letter.toNat ∧ letter.toNat ≤ 0x7a := by
  change (decide (letter.val ≥ 'a'.val) && decide (letter.val ≤ 'z'.val)) = true ↔ _
  simp [UInt32.le_iff_toNat_le]

/-! ### The table -/

/-- Two runs of the table lead to ASCII: that of its capitals, and that of one sign. -/
theorem caseRuns_ascii : ∀ run ∈ caseRuns,
    run.first = 0x41 ∧ run.last = 0x5a ∧ run.shift = 32 ∨
      run.first = 0x212a ∧ run.last = 0x212a ∧ run.shift = -8383 ∨
      0x80 ≤ run.first + run.shift := by
  set_option maxRecDepth 4000 in decide

theorem lowerChar_capital : ∀ n < 0x5b, 0x41 ≤ n →
    lowerChar (Char.ofNat n) = [Char.ofNat (n + 32)] := by
  decide

theorem lowerChar_small : ∀ n < 0x7b, 0x61 ≤ n → lowerChar (Char.ofNat n) = [Char.ofNat n] ∧
    (Char.ofNat n).toUpper = Char.ofNat (n - 32) := by
  decide

/-- The number of a character that is not the character of number zero. -/
theorem eq_toNat_of_ofNat {n : Nat} (h : Char.ofNat n = c) (hc : c.toNat ≠ 0) : n = c.toNat := by
  by_cases hn : n.isValidChar
  · rw [← h]
    exact (Utf8.toNat_ofNat_of_valid hn).symm
  · rw [Char.ofNat, dif_neg hn] at h
    exact absurd (congrArg Char.toNat h.symm) hc

/-- What the table takes to a letter is its capital, or the sign. -/
theorem isForm_of_shifted {run : CaseRun} (hmem : run ∈ caseRuns) (hcovers : run.covers c.toNat)
    (hl : letter.isLower = true) (h : Char.ofNat (c.toNat + run.shift).toNat = letter) :
    IsForm letter c := by
  obtain ⟨hlow, hhigh⟩ := isLower_iff.mp hl
  have hcode := eq_toNat_of_ofNat h (by omega)
  simp only [CaseRun.covers, Bool.and_eq_true, decide_eq_true_eq] at hcovers
  rcases caseRuns_ascii run hmem with ⟨hfirst, hlast, hshift⟩ | ⟨hfirst, hlast, hshift⟩ | hbeyond
  · refine .inl (.inr ?_)
    have hsmall := (lowerChar_small letter.toNat (by omega) hlow).2
    rw [Char.ofNat_toNat] at hsmall
    rw [hsmall, ← Char.ofNat_toNat c]
    congr 1
    omega
  · have hc : c.toNat = 0x212a := by omega
    have hk : letter.toNat = 0x6b := by omega
    exact .inr ⟨by rw [← Char.ofNat_toNat letter, hk], by rw [← Char.ofNat_toNat c, hc]; rfl⟩
  · omega

/-- A character that is lower-cased to a letter of ASCII is one of its forms. -/
theorem lowerChar_eq_iff (hl : letter.isLower = true) :
    lowerChar c = [letter] ↔ IsForm letter c := by
  obtain ⟨hlow, hhigh⟩ := isLower_iff.mp hl
  constructor
  · intro h
    unfold lowerChar at h
    split at h
    · cases h
    · split at h
      · rename_i run hfind
        have hcovers : run.covers c.toNat = true := by simpa using List.find?_some hfind
        exact isForm_of_shifted (List.mem_of_find?_eq_some hfind) hcovers hl
          (List.singleton_inj.mp h)
      · exact .inl (.inl (List.singleton_inj.mp h))
  · obtain ⟨hsmall, hupper⟩ := lowerChar_small letter.toNat (by omega) hlow
    rw [Char.ofNat_toNat] at hsmall hupper
    rintro ((rfl | rfl) | ⟨rfl, rfl⟩)
    · exact hsmall
    · have hcapital := lowerChar_capital (letter.toNat - 32) (by omega) (by omega)
      rw [hupper, hcapital, Nat.sub_add_cancel (by omega), Char.ofNat_toNat]
    · decide

/-! ### Texts -/

theorem lowersTo_lowercase (s : List Char) : LowersTo s (lowercase s) := by
  refine ⟨s.map lowerChar, List.flatMap_def, ?_⟩
  induction s with
  | nil => exact .nil
  | cons c s ih => exact .cons (.inl rfl) ih

theorem lowersTo_cons_iff : LowersTo (c :: s) t ↔ ∃ part rest, t = part ++ rest ∧
    (part = lowerChar c ∨ c = 'Σ' ∧ part = ['ς']) ∧ LowersTo s rest := by
  constructor
  · rintro ⟨_, rfl, _ | ⟨hpart, hrest⟩⟩
    exact ⟨_, _, rfl, hpart, _, rfl, hrest⟩
  · rintro ⟨part, _, rfl, hpart, parts, rfl, hparts⟩
    exact ⟨part :: parts, rfl, .cons hpart hparts⟩

/-- No character vanishes, and the one character that becomes two brings a mark with it. -/
theorem lowerChar_cases (c : Char) :
    lowerChar c = ['i', '\u0307'] ∨ ∃ d, lowerChar c = [d] := by
  unfold lowerChar
  split
  · exact .inl rfl
  · split
    · exact .inr ⟨_, rfl⟩
    · exact .inr ⟨c, rfl⟩

/-- A text of which a name is a lower-case form has a form of each letter of the name in its place,
and nothing else. -/
theorem forall₂_of_lowersTo (hname : ∀ letter ∈ name, letter.isLower = true)
    (h : LowersTo s name) : List.Forall₂ IsForm name s := by
  induction s generalizing name with
  | nil =>
    obtain ⟨parts, rfl, hparts⟩ := h
    cases hparts
    exact .nil
  | cons c s ih =>
    obtain ⟨part, rest, rfl, hpart, hrest⟩ := lowersTo_cons_iff.mp h
    have htail := ih (fun letter hmem => hname letter (List.mem_append_right _ hmem)) hrest
    have hhead : ∃ letter, part = [letter] ∧ IsForm letter c := by
      have hletters : ∀ letter ∈ part, letter.isLower = true :=
        fun letter hmem => hname letter (List.mem_append_left _ hmem)
      rcases hpart with rfl | ⟨rfl, rfl⟩
      · rcases lowerChar_cases c with htwo | ⟨letter, hone⟩
        · exact absurd (hletters '\u0307' (by simp [htwo])) (by decide)
        · exact ⟨letter, hone, (lowerChar_eq_iff (hletters letter (by simp [hone]))).mp hone⟩
      · exact absurd (hletters 'ς' (by simp)) (by decide)
    obtain ⟨letter, rfl, hform⟩ := hhead
    exact .cons hform htail

theorem lowercase_of_forall₂ (hname : ∀ letter ∈ name, letter.isLower = true)
    (h : List.Forall₂ IsForm name s) : lowercase s = name := by
  induction h with
  | nil => rfl
  | @cons letter c name s hform _ ih =>
    have hhead := (lowerChar_eq_iff (hname letter List.mem_cons_self)).mpr hform
    have htail := ih fun letter hmem => hname letter (List.mem_cons_of_mem _ hmem)
    rw [lowercase, List.flatMap_cons, hhead, ← lowercase, htail]
    rfl

theorem IsAsciiForm.lt (hl : letter.isLower = true) (h : IsAsciiForm letter c) :
    c.toNat < 0x80 := by
  obtain ⟨hlow, hhigh⟩ := isLower_iff.mp hl
  obtain ⟨-, hupper⟩ := lowerChar_small letter.toNat (by omega) hlow
  rw [Char.ofNat_toNat] at hupper
  rcases h with rfl | rfl
  · omega
  · have hvalid : (letter.toNat - 32).isValidChar := .inl (by omega)
    have hcode : (Char.ofNat (letter.toNat - 32)).toNat = _ := Utf8.toNat_ofNat_of_valid hvalid
    rw [hupper, hcode]
    omega

/-- What stands beyond ASCII in such a text stands for the letter k. -/
theorem mem_of_forall₂ (hname : ∀ letter ∈ name, letter.isLower = true)
    (h : List.Forall₂ IsForm name s) :
    ∀ c ∈ s, c.toNat < 0x80 ∨ c = kelvinSign ∧ 'k' ∈ name := by
  induction h with
  | nil => exact List.forall_mem_nil _
  | @cons letter c name s hform _ ih =>
    refine List.forall_mem_cons.mpr ⟨?_, fun d hd => ?_⟩
    · rcases hform with hascii | ⟨rfl, hsign⟩
      · exact .inl (hascii.lt (hname letter List.mem_cons_self))
      · exact .inr ⟨hsign, List.mem_cons_self⟩
    · have htail := ih (fun l hl => hname l (List.mem_cons_of_mem _ hl)) d hd
      exact htail.imp_right (And.imp_right (List.mem_cons_of_mem _))

/-- Without a capital sigma there is one lower-case form. -/
theorem eq_lowercase (hs : 'Σ' ∉ s) (h : LowersTo s t) : t = lowercase s := by
  induction s generalizing t with
  | nil =>
    obtain ⟨parts, rfl, hparts⟩ := h
    cases hparts
    rfl
  | cons c s ih =>
    obtain ⟨part, rest, rfl, hpart | ⟨rfl, -⟩, hrest⟩ := lowersTo_cons_iff.mp h
    · rw [hpart, ih (fun hmem => hs (List.mem_cons_of_mem _ hmem)) hrest]
      rfl
    · exact absurd List.mem_cons_self hs

/-- Whichever form a capital sigma takes, the texts that are lower-cased to a name of ASCII letters
are the same: those that have a form of each letter in its place. -/
theorem eq_name_iff (hname : ∀ letter ∈ name, letter.isLower = true) (h : LowersTo s t) :
    name = t ↔ List.Forall₂ IsForm name s := by
  constructor
  · rintro rfl
    exact forall₂_of_lowersTo hname h
  · intro hforms
    have hsigma : 'Σ' ∉ s := fun hmem => by
      rcases mem_of_forall₂ hname hforms 'Σ' hmem with hbig | ⟨hsign, -⟩
      · exact absurd hbig (by decide)
      · exact absurd hsign (by decide)
    rw [eq_lowercase hsigma h, lowercase_of_forall₂ hname hforms]

/-- Only the letter k has a form beyond ASCII. -/
theorem forall₂_isAsciiForm_iff (hk : 'k' ∉ name) :
    List.Forall₂ IsAsciiForm name s ↔ List.Forall₂ IsForm name s := by
  refine ⟨fun h => h.imp fun _ _ => Or.inl, fun h => ?_⟩
  induction h with
  | nil => exact .nil
  | @cons letter c name s hform _ ih =>
    rw [List.mem_cons, not_or] at hk
    exact .cons (hform.resolve_right fun hsign => hk.1 hsign.1.symm) (ih hk.2)

/-! ### Names -/

/-- The names of all values of a type, each in lower-case letters and for one value only. -/
structure Naming {α : Type} (display : α → String) (all : List α) : Prop where
  injective : Function.Injective display
  complete : ∀ a, a ∈ all
  isLower : ∀ a, ∀ letter ∈ (display a).toList, letter.isLower = true

variable {α : Type} {display : α → String} {all : List α}

/-- Looking for the value that a text names finds it, whichever form a capital sigma takes. -/
theorem Naming.find?_eq_some_iff (hnames : Naming display all) (h : LowersTo s t) {a : α} :
    (all.find? fun a => lowercase s = (display a).toList) = some a ↔ (display a).toList = t := by
  rw [eq_name_iff (hnames.isLower a) h,
    ← eq_name_iff (hnames.isLower a) (lowersTo_lowercase s)]
  constructor
  · intro hfind
    simpa [eq_comm] using List.find?_some hfind
  · intro hname
    rw [← hname]
    cases hfind : all.find? fun b => (display a).toList = (display b).toList with
    | none => simpa using List.find?_eq_none.mp hfind a (hnames.complete a)
    | some b =>
      have hsame : (display a).toList = (display b).toList := by simpa using List.find?_some hfind
      rw [hnames.injective (String.toList_injective hsame)]

/-- A text that names a value has a form of each letter of the name in its place. -/
theorem Naming.forall₂_of_find? (hnames : Naming display all) {a : α}
    (h : (all.find? fun a => lowercase s = (display a).toList) = some a) :
    List.Forall₂ IsForm (display a).toList s := by
  have hlowercase := lowersTo_lowercase s
  exact (eq_name_iff (hnames.isLower a) hlowercase).mp ((hnames.find?_eq_some_iff hlowercase).mp h)

/-- A value is found just for the texts that have a form of each letter of a name in its place. -/
theorem Naming.exists_find?_iff (hnames : Naming display all) :
    (∃ a, (all.find? fun a => lowercase s = (display a).toList) = some a) ↔
      ∃ name ∈ all.map display, List.Forall₂ IsForm name.toList s := by
  have hlowercase := lowersTo_lowercase s
  constructor
  · rintro ⟨a, ha⟩
    exact ⟨_, List.mem_map_of_mem (hnames.complete a), hnames.forall₂_of_find? ha⟩
  · rintro ⟨name, hmem, hforms⟩
    obtain ⟨a, -, rfl⟩ := List.mem_map.mp hmem
    rw [← eq_name_iff (hnames.isLower a) hlowercase] at hforms
    exact ⟨a, (hnames.find?_eq_some_iff hlowercase).mpr hforms⟩

end Text

theorem Environment.naming : Text.Naming display all where
  injective a b h := by cases a <;> cases b <;> simp_all [display]
  complete e := by cases e <;> decide
  isLower e := by cases e <;> simp [display]

theorem Transport.naming : Text.Naming display all where
  injective a b h := by cases a <;> cases b <;> simp_all [display]
  complete t := by cases t <;> decide
  isLower t := by cases t <;> simp [display]

/-- A text is read as an environment just if it has an ASCII form of each letter of a name in its
place, and as a transport just if it does so, the Kelvin sign being a third form of the letter k;
so that nothing else beyond ASCII stands in it. What is read is that of which the name is the
lower-case form of the text, in which it makes no difference how a capital sigma is lower-cased. -/
theorem names_in_any_case (s : String) :
    ((∃ e, Environment.ofText? s = some e) ↔
      ∃ name ∈ ["development", "production", "staging"],
        List.Forall₂ Text.IsAsciiForm name.toList s.toList) ∧
    ((∃ t, Transport.ofText? s = some t) ↔
      ∃ name ∈ ["websocket", "sse"], List.Forall₂ Text.IsForm name.toList s.toList) ∧
    (∀ e, Environment.ofText? s = some e → ∀ c ∈ s.toList, c.toNat < 0x80) ∧
    (∀ t, Transport.ofText? s = some t → ∀ c ∈ s.toList, c.toNat < 0x80 ∨ c = Text.kelvinSign) ∧
    Text.LowersTo s.toList (Text.lowercase s.toList) ∧
    ∀ lower, Text.LowersTo s.toList lower →
      (∀ e, Environment.ofText? s = some e ↔ e.display.toList = lower) ∧
        ∀ t, Transport.ofText? s = some t ↔ t.display.toList = lower := by
  have hk (e : Environment) : 'k' ∉ e.display.toList := by cases e <;> decide
  refine ⟨?_, Transport.naming.exists_find?_iff, fun e he c hc => ?_, fun t ht c hc => ?_,
    Text.lowersTo_lowercase _, fun lower hlower =>
      ⟨fun e => Environment.naming.find?_eq_some_iff hlower,
        fun t => Transport.naming.find?_eq_some_iff hlower⟩⟩
  · refine Environment.naming.exists_find?_iff.trans
      (exists_congr fun name => and_congr_right fun hname => ?_)
    obtain ⟨e, -, rfl⟩ := List.mem_map.mp hname
    exact (Text.forall₂_isAsciiForm_iff (hk e)).symm
  · have hforms := Environment.naming.forall₂_of_find? he
    refine (Text.mem_of_forall₂ (Environment.naming.isLower e) hforms c hc).resolve_right ?_
    exact fun hsign => hk e hsign.2
  · have hforms := Transport.naming.forall₂_of_find? ht
    exact (Text.mem_of_forall₂ (Transport.naming.isLower t) hforms c hc).imp_right And.left

/-- The Kelvin sign is read as a letter of a name. The long s is none, though its upper-case form is
one. -/
theorem names_in_any_case_kelvin :
    Transport.ofText? "WebSoc\u212aET" = some .webSocket ∧
      ∀ e, Environment.ofText? "\u017ftaging" ≠ some e := by
  refine ⟨?_, fun e he => ?_⟩
  · obtain ⟨-, -, -, -, hlower, hread⟩ := names_in_any_case "WebSoc\u212aET"
    exact ((hread _ hlower).2 .webSocket).mpr (by decide)
  · obtain ⟨-, -, hascii, -⟩ := names_in_any_case "\u017ftaging"
    exact absurd (hascii e he '\u017f' (by decide)) (by decide)

end LiveUpdate
