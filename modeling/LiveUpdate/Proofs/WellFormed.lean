import LiveUpdate.Fault
import LiveUpdate.Proofs.PlanAudiences

/-! Which strings make an event. Both fields have to fit on a line, and one of them has to say
something; nothing else is asked of them, and nothing about them is changed. -/
namespace LiveUpdate

/-- A text without a line feed or a carriage return. -/
def OneLine (s : String) : Prop := ∀ c ∈ s.toList, c ≠ '\n' ∧ c ≠ '\r'

/-- A kind and a payload that can be sent. -/
structure WellFormed (kind payload : String) : Prop where
  kind_oneLine : OneLine kind
  payload_oneLine : OneLine payload
  speaks : ¬(kind = "" ∧ payload = "")

theorem hasLineBreak_eq_false_iff {s : String} : hasLineBreak s = false ↔ OneLine s := by
  simp [hasLineBreak, isLineBreak, OneLine]

instance (s : String) : Decidable (OneLine s) :=
  decidable_of_iff (hasLineBreak s = false) hasLineBreak_eq_false_iff

theorem hasLineBreak_eq_true_iff {s : String} : hasLineBreak s = true ↔ ¬OneLine s := by
  rw [← hasLineBreak_eq_false_iff, Bool.not_eq_false]

theorem OneLine.append {s t : String} : OneLine (s ++ t) ↔ OneLine s ∧ OneLine t := by
  simp only [OneLine, String.toList_append, List.forall_mem_append]

theorem oneLine_empty : OneLine "" := fun _ hc => absurd hc List.not_mem_nil

/-- A digit breaks no line. -/
theorem oneLine_integerText (n : Int) : OneLine (Text.integerText n) := by
  have hdigits (k : Nat) : ∀ c ∈ Nat.toDigits 10 k, c ≠ '\n' ∧ c ≠ '\r' := by
    intro c hc
    have hdigit := Nat.isDigit_of_mem_toDigits (by decide) (by decide) hc
    constructor <;> rintro rfl <;> cases hdigit
  cases n with
  | ofNat k => simpa [OneLine, Text.integerText] using hdigits k
  | negSucc k =>
    simp only [OneLine, Text.integerText, String.toList_ofList, List.mem_cons]
    rintro c (rfl | hc)
    · decide
    · exact hdigits (k + 1) c hc

namespace Event

variable {kind payload : String} {e : Event} {why : Rejection}

theorem wellFormed (e : Event) : WellFormed e.kind e.payload where
  kind_oneLine := hasLineBreak_eq_false_iff.mp e.kind_unbroken
  payload_oneLine := hasLineBreak_eq_false_iff.mp e.payload_unbroken
  speaks := e.not_empty

/-- The checks in their order, and what the first of them says that fails. -/
inductive Fails (kind payload : String) : Rejection → Prop
  | empty : kind = "" → payload = "" → Fails kind payload .empty
  | brokenKind : ¬OneLine kind → Fails kind payload (.brokenKind kind)
  | brokenPayload : OneLine kind → ¬OneLine payload → Fails kind payload (.brokenPayload kind)

/-- An event is built of the two strings as they are. -/
theorem build_eq_ok_iff : build kind payload = .ok e ↔ e.kind = kind ∧ e.payload = payload := by
  constructor
  · intro h
    unfold build at h
    split at h
    · cases h
    · split at h
      · cases h
      · split at h <;> cases h
        exact ⟨rfl, rfl⟩
  · rintro ⟨rfl, rfl⟩
    unfold build
    rw [dif_neg e.not_empty, dif_neg (by simp [e.kind_unbroken]),
      dif_neg (by simp [e.payload_unbroken])]

theorem build_eq_error_iff : build kind payload = .error why ↔ Fails kind payload why := by
  unfold build
  by_cases hempty : kind = "" ∧ payload = ""
  · rw [dif_pos hempty, Except.error.injEq]
    constructor
    · rintro rfl
      exact .empty hempty.1 hempty.2
    · rintro (_ | hkind | ⟨-, hpayload⟩)
      · rfl
      · exact absurd (hempty.1 ▸ oneLine_empty) hkind
      · exact absurd (hempty.2 ▸ oneLine_empty) hpayload
  · rw [dif_neg hempty]
    by_cases hkind : OneLine kind
    · rw [dif_neg (by rwa [hasLineBreak_eq_true_iff, not_not])]
      by_cases hpayload : OneLine payload
      · rw [dif_neg (by rwa [hasLineBreak_eq_true_iff, not_not])]
        constructor
        · intro h
          cases h
        · rintro (⟨hk, hp⟩ | hk | ⟨-, hp⟩)
          · exact absurd ⟨hk, hp⟩ hempty
          · exact absurd hkind hk
          · exact absurd hpayload hp
      · rw [dif_pos (hasLineBreak_eq_true_iff.mpr hpayload), Except.error.injEq]
        constructor
        · rintro rfl
          exact .brokenPayload hkind hpayload
        · rintro (⟨hk, hp⟩ | hk | -)
          · exact absurd ⟨hk, hp⟩ hempty
          · exact absurd hkind hk
          · rfl
    · rw [dif_pos (hasLineBreak_eq_true_iff.mpr hkind), Except.error.injEq]
      constructor
      · rintro rfl
        exact .brokenKind hkind
      · rintro (⟨rfl, -⟩ | - | ⟨hk, -⟩)
        · exact absurd oneLine_empty hkind
        · rfl
        · exact absurd hk hkind

/-- Two strings make an event exactly when they are well-formed. -/
theorem exists_build_iff : (∃ e, build kind payload = .ok e) ↔ WellFormed kind payload := by
  constructor
  · rintro ⟨e, he⟩
    obtain ⟨rfl, rfl⟩ := build_eq_ok_iff.mp he
    exact e.wellFormed
  · intro h
    exact ⟨⟨kind, payload, hasLineBreak_eq_false_iff.mpr h.kind_oneLine,
      hasLineBreak_eq_false_iff.mpr h.payload_oneLine, h.speaks⟩, build_eq_ok_iff.mpr ⟨rfl, rfl⟩⟩

theorem exists_rejection_iff :
    (∃ why, build kind payload = .error why) ↔ ¬WellFormed kind payload := by
  rw [← exists_build_iff]
  cases build kind payload <;> simp

theorem signal_iff : (∃ e, signal kind = .ok e) ↔ OneLine kind ∧ kind ≠ "" := by
  rw [signal, exists_build_iff]
  exact ⟨fun h => ⟨h.kind_oneLine, fun he => h.speaks ⟨he, rfl⟩⟩,
    fun h => ⟨h.1, oneLine_empty, fun he => h.2 he.1⟩⟩

theorem notify_iff {message : String} : (∃ e, notify message = .ok e) ↔ OneLine message := by
  rw [notify, exists_build_iff]
  exact ⟨fun h => h.payload_oneLine, fun h => ⟨by decide, h, fun he => absurd he.1 (by decide)⟩⟩

/-- What keeps a count from being told is a course that does not fit on a line. -/
theorem courseCount_iff {course : String} {count : Int} :
    (∃ e, courseCount course count = .ok e) ↔ OneLine course := by
  rw [courseCount, exists_build_iff]
  constructor
  · intro h
    exact (OneLine.append.mp (OneLine.append.mp h.payload_oneLine).1).1
  · intro h
    have hcomma : OneLine "," := by decide
    exact ⟨by decide,
      OneLine.append.mpr ⟨OneLine.append.mpr ⟨h, hcomma⟩, oneLine_integerText count⟩,
      fun he => absurd he.1 (by decide)⟩

end Event

/-! ### Drafts -/

/-- A kind and a payload of which an event is to be made. -/
abbrev Draft := String × String

/-- An event that was made of one of these drafts, as it was given. -/
def Event.MadeOf (drafts : List Draft) (e : Event) : Prop := (e.kind, e.payload) ∈ drafts

theorem Event.madeOf_of_build {kind payload : String} {e : Event} {drafts : List Draft}
    (h : build kind payload = .ok e) (hmem : (kind, payload) ∈ drafts) : e.MadeOf drafts := by
  obtain ⟨rfl, rfl⟩ := build_eq_ok_iff.mp h
  exact hmem

namespace DomainEvent

/-- The drafts of a domain event. -/
def drafts : DomainEvent → List Draft
  | categoriesChanged => [(Resource.categories.eventKind, "")]
  | periodsChanged => [(Resource.periods.eventKind, "")]
  | coursesChanged => [(Resource.courses.eventKind, "")]
  | gradesChanged => [(Resource.grades.eventKind, "")]
  | selectionsChanged _ counts => (Resource.selections.eventKind, "") :: counts.map fun count =>
      ("course_count_update", count.course ++ "," ++ Text.integerText count.students)
  | adminNotification message => [("notify", message)]

variable {d : DomainEvent} {m : Message} {counts : List CourseCount}

theorem mem_eraseDups_loop {α : Type} {r : α → α → Bool} {x : α} {xs kept : List α}
    (h : x ∈ List.eraseDupsBy.loop r xs kept) : x ∈ xs ∨ x ∈ kept := by
  induction xs generalizing kept with
  | nil => exact Or.inr (List.mem_reverse.mp h)
  | cons y rest ih =>
    unfold List.eraseDupsBy.loop at h
    split at h
    · exact (ih h).imp_left (List.mem_cons_of_mem _)
    · rcases ih h with hrest | hkept
      · exact Or.inl (List.mem_cons_of_mem _ hrest)
      · rcases List.mem_cons.mp hkept with rfl | hkept
        · exact Or.inl List.mem_cons_self
        · exact Or.inr hkept

theorem mem_of_distinct {count : CourseCount} (h : count ∈ distinctCounts counts) :
    count ∈ counts := by
  rcases mem_eraseDups_loop h with hmem | hnone
  · exact List.mem_of_mem_filter hmem
  · cases hnone

/-- A plan of one event makes it of its draft. -/
theorem madeOf_of_single {scope : Scope} {kind payload : String} {drafts : List Draft}
    (h : m ∈ (Plan.single scope (Event.build kind payload)).messages)
    (hmem : (kind, payload) ∈ drafts) : m.event.MadeOf drafts :=
  Event.madeOf_of_build (event_of_single h) hmem

theorem madeOf_of_countPlan (h : m ∈ (countPlan counts).messages) :
    m.event.MadeOf (counts.map fun count =>
      ("course_count_update", count.course ++ "," ++ Text.integerText count.students)) := by
  unfold countPlan at h
  generalize hdistinct : distinctCounts counts = distinct at h
  have hsub : ∀ count ∈ distinct, count ∈ counts := fun count hcount =>
    mem_of_distinct (hdistinct ▸ hcount)
  clear hdistinct
  induction distinct with
  | nil => cases h
  | cons count rest ih =>
    have hcount := List.mem_map_of_mem (hsub count List.mem_cons_self) (f := fun count =>
      ("course_count_update", count.course ++ "," ++ Text.integerText count.students))
    have hrest := fun h => ih h fun count hc => hsub count (List.mem_cons_of_mem _ hc)
    rw [List.foldr_cons, Plan.append] at h
    split at h
    · exact madeOf_of_single h hcount
    · rcases List.mem_append.mp h with h | h
      · exact madeOf_of_single h hcount
      · exact hrest h

/-- Every message of a domain event carries one of its drafts. -/
theorem madeOf_plan (h : m ∈ d.plan.messages) : m.event.MadeOf d.drafts := by
  have hsignal (resource : Resource) :
      (Event.invalidate resource).MadeOf [(resource.eventKind, "")] := List.mem_singleton_self _
  cases d with
  | categoriesChanged =>
    rw [List.mem_singleton.mp h]
    exact hsignal .categories
  | periodsChanged =>
    rw [List.mem_singleton.mp h]
    exact hsignal .periods
  | coursesChanged =>
    rw [List.mem_singleton.mp h]
    exact hsignal .courses
  | gradesChanged =>
    rw [List.mem_singleton.mp h]
    exact hsignal .grades
  | selectionsChanged ids counts =>
    rw [selectionsChanged_messages] at h
    rcases List.mem_append.mp h with h | h
    · unfold selectionPlan at h
      split at h
      · cases h
      · rw [List.mem_singleton.mp h]
        exact List.mem_cons_self
    · exact List.mem_cons_of_mem _ (madeOf_of_countPlan h)
  | adminNotification message => exact madeOf_of_single h (List.mem_singleton_self _)

end DomainEvent
end LiveUpdate
