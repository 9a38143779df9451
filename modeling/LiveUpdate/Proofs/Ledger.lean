import Mathlib.Logic.Function.Basic
import LiveUpdate.Session.Basic

/-! Who looks after which connection. A ledger keeps the books that the places of a session, the
table of the hub and the mailboxes have in common. -/
namespace LiveUpdate

/-- Where a connection is looked after. -/
inductive Place
  | stream (i : Nat)
  | greeting (i : Nat)
  | task (i : Nat)
  deriving DecidableEq, Repr

/-- What a place looks after. -/
structure Charge where
  connection : ConnectionId
  /-- Whether the registration is still to be taken back by this place. -/
  claims : Bool
  /-- Whether the receiving end of the mailbox is here. -/
  receives : Bool
  deriving DecidableEq, Repr

/-- The books agree: no connection has two places, it has a future in the table exactly as long as
its place claims it, and its mailbox is open where its place receives. -/
structure Balanced (charge : Place → Option Charge) (expected listens : ConnectionId → Bool)
    (next : Nat) : Prop where
  apart : ∀ p q x y, charge p = some x → charge q = some y → x.connection = y.connection → p = q
  claimed : ∀ p x, charge p = some x → expected x.connection = x.claims
  placed : ∀ c, expected c = true → ∃ p x, charge p = some x ∧ x.connection = c
  received : ∀ p x, charge p = some x → x.receives = true → listens x.connection = true
  known : ∀ p x, charge p = some x → x.connection.number < next

namespace Balanced

variable {charge : Place → Option Charge}
  {expected expected' listens listens' : ConnectionId → Bool} {next next' : Nat} {place : Place}
  {x y : Charge}

theorem empty (listens : ConnectionId → Bool) (next : Nat) :
    Balanced (fun _ => none) (fun _ => false) listens next where
  apart p q x y h := by cases h
  claimed p x h := by cases h
  placed c h := by cases h
  received p x h := by cases h
  known p x h := by cases h

/-- The books may change beside the places. -/
theorem of_eq (h : Balanced charge expected listens next)
    (hexpected : ∀ c, expected' c = expected c)
    (hlistens : ∀ c, listens c = true → listens' c = true) (hnext : next ≤ next') :
    Balanced charge expected' listens' next' where
  apart := h.apart
  claimed p x hx := (hexpected _).trans (h.claimed p x hx)
  placed c hc := h.placed c ((hexpected c).symm.trans hc)
  received p x hx hr := hlistens _ (h.received p x hx hr)
  known p x hx := Nat.lt_of_lt_of_le (h.known p x hx) hnext

/-- Nobody else looks after the connection of a place. -/
theorem ne_of_other (h : Balanced charge expected listens next) (hx : charge place = some x)
    {q : Place} (hq : q ≠ place) (hy : charge q = some y) : y.connection ≠ x.connection :=
  fun hc => hq (h.apart q place y x hy hx hc)

/-- A place goes, and the registration with it. -/
theorem close (h : Balanced charge expected listens next) (hx : charge place = some x)
    (hclosed : expected' x.connection = false)
    (hexpected : ∀ c, c ≠ x.connection → expected' c = expected c)
    (hlistens : ∀ c, c ≠ x.connection → listens c = true → listens' c = true) :
    Balanced (Function.update charge place none) expected' listens' next where
  apart p q z w hz hw hzw := by
    have hp : p ≠ place := by rintro rfl; simp at hz
    have hq : q ≠ place := by rintro rfl; simp at hw
    rw [Function.update_of_ne hp] at hz
    rw [Function.update_of_ne hq] at hw
    exact h.apart p q z w hz hw hzw
  claimed p z hz := by
    have hp : p ≠ place := by rintro rfl; simp at hz
    rw [Function.update_of_ne hp] at hz
    rw [hexpected _ (h.ne_of_other hx hp hz)]
    exact h.claimed p z hz
  placed c he := by
    have hcx : c ≠ x.connection := by
      rintro rfl
      rw [hclosed] at he
      cases he
    rw [hexpected c hcx] at he
    obtain ⟨p, z, hz, hzc⟩ := h.placed c he
    have hp : p ≠ place := by
      rintro rfl
      rw [hx] at hz
      cases hz
      exact hcx hzc.symm
    exact ⟨p, z, by rwa [Function.update_of_ne hp], hzc⟩
  received p z hz hr := by
    have hp : p ≠ place := by rintro rfl; simp at hz
    rw [Function.update_of_ne hp] at hz
    exact hlistens _ (h.ne_of_other hx hp hz) (h.received p z hz hr)
  known p z hz := by
    have hp : p ≠ place := by rintro rfl; simp at hz
    rw [Function.update_of_ne hp] at hz
    exact h.known p z hz

/-- A place begins to look after a connection that has none. -/
theorem occupy (h : Balanced charge expected listens next) (hplace : charge place = none)
    (hfree : ∀ p z, charge p = some z → z.connection ≠ y.connection)
    (hknown : y.connection.number < next) (hclaims : expected' y.connection = y.claims)
    (hreceives : y.receives = true → listens' y.connection = true)
    (hexpected : ∀ c, c ≠ y.connection → expected' c = expected c)
    (hlistens : ∀ c, c ≠ y.connection → listens c = true → listens' c = true) :
    Balanced (Function.update charge place (some y)) expected' listens' next := by
  have hcases (p : Place) (z : Charge)
      (hz : Function.update charge place (some y) p = some z) :
      p = place ∧ z = y ∨ p ≠ place ∧ charge p = some z := by
    by_cases hp : p = place
    · rw [hp, Function.update_self] at hz
      exact Or.inl ⟨hp, (Option.some.inj hz).symm⟩
    · rw [Function.update_of_ne hp] at hz
      exact Or.inr ⟨hp, hz⟩
  refine ⟨fun p q z w hz hw hzw => ?_, fun p z hz => ?_, fun c he => ?_, fun p z hz hr => ?_,
    fun p z hz => ?_⟩
  · rcases hcases p z hz with ⟨hp, hzy⟩ | ⟨-, hold⟩ <;>
      rcases hcases q w hw with ⟨hq, hwy⟩ | ⟨-, hold'⟩
    · exact hp.trans hq.symm
    · exact absurd (hzw.symm.trans (by rw [hzy])) (hfree q w hold')
    · exact absurd (hzw.trans (by rw [hwy])) (hfree p z hold)
    · exact h.apart p q z w hold hold' hzw
  · rcases hcases p z hz with ⟨-, rfl⟩ | ⟨-, hz⟩
    · exact hclaims
    · rw [hexpected _ (hfree p z hz)]
      exact h.claimed p z hz
  · by_cases hc : c = y.connection
    · exact ⟨place, y, Function.update_self .., hc.symm⟩
    · rw [hexpected c hc] at he
      obtain ⟨p, z, hz, hzc⟩ := h.placed c he
      have hp : p ≠ place := by
        rintro rfl
        rw [hplace] at hz
        cases hz
      exact ⟨p, z, by rwa [Function.update_of_ne hp], hzc⟩
  · rcases hcases p z hz with ⟨-, rfl⟩ | ⟨-, hz⟩
    · exact hreceives hr
    · exact hlistens _ (hfree p z hz) (h.received p z hz hr)
  · rcases hcases p z hz with ⟨-, rfl⟩ | ⟨-, hz⟩
    · exact hknown
    · exact h.known p z hz

/-- The books without a place, whose connection nobody else looks after. -/
theorem vacate (h : Balanced charge expected listens next) (hx : charge place = some x) :
    Balanced (Function.update charge place none)
        (Function.update expected x.connection false) listens next ∧
      ∀ p z, Function.update charge place none p = some z → z.connection ≠ x.connection := by
  refine ⟨h.close hx (Function.update_self ..) (fun c hc => Function.update_of_ne hc ..)
    (fun _ _ hl => hl), fun p z hz => ?_⟩
  have hp : p ≠ place := by rintro rfl; simp at hz
  rw [Function.update_of_ne hp] at hz
  exact h.ne_of_other hx hp hz

/-- A place goes on looking after its connection in another way. -/
theorem amend (h : Balanced charge expected listens next) (hx : charge place = some x)
    (hc : y.connection = x.connection) (hclaims : expected' x.connection = y.claims)
    (hreceives : y.receives = true → listens' x.connection = true)
    (hexpected : ∀ c, c ≠ x.connection → expected' c = expected c)
    (hlistens : ∀ c, c ≠ x.connection → listens c = true → listens' c = true) :
    Balanced (Function.update charge place (some y)) expected' listens' next := by
  obtain ⟨hwithout, hfree⟩ := h.vacate hx
  rw [← hc] at hfree hclaims hreceives hlistens hwithout
  have hknown : y.connection.number < next := hc ▸ h.known place x hx
  have hall := hwithout.occupy (Function.update_self ..) hfree hknown hclaims hreceives
    (fun c hcy => by rw [Function.update_of_ne hcy, hexpected c (hc ▸ hcy)]) hlistens
  rwa [Function.update_idem] at hall

/-- A new place looks after a new connection. -/
theorem enter (h : Balanced charge expected listens next) (hplace : charge place = none)
    (hy : y.connection = ⟨next⟩) (hclaims : expected' ⟨next⟩ = y.claims)
    (hreceives : y.receives = true → listens' ⟨next⟩ = true)
    (hexpected : ∀ c, c ≠ ⟨next⟩ → expected' c = expected c)
    (hlistens : ∀ c, c ≠ ⟨next⟩ → listens c = true → listens' c = true) :
    Balanced (Function.update charge place (some y)) expected' listens' (next + 1) := by
  have hfree (p : Place) (z : Charge) (hz : charge p = some z) : z.connection ≠ y.connection := by
    intro hc
    have hlt := h.known p z hz
    rw [hc, hy] at hlt
    exact Nat.lt_irrefl _ hlt
  rw [← hy] at hclaims hreceives hexpected hlistens
  have hnext := h.of_eq (fun _ => rfl) (fun _ hl => hl) (Nat.le_succ next)
  exact hnext.occupy hplace hfree (hy ▸ Nat.lt_succ_self next) hclaims hreceives hexpected hlistens

/-- A connection is handed over from one place to another. -/
theorem hand (h : Balanced charge expected listens next) (hx : charge place = some x)
    {other : Place} (hother : charge other = none) :
    Balanced (Function.update (Function.update charge place none) other (some x)) expected listens
      next := by
  obtain ⟨hwithout, hfree⟩ := h.vacate hx
  have hne : other ≠ place := by
    rintro rfl
    rw [hx] at hother
    cases hother
  exact hwithout.occupy (by rwa [Function.update_of_ne hne]) hfree (h.known place x hx)
    (h.claimed place x hx) (h.received place x hx)
    (fun c hc => (Function.update_of_ne hc ..).symm) (fun _ _ hl => hl)

end Balanced
end LiveUpdate
