import LiveUpdate.AudiencePolicy
import LiveUpdate.Proofs.Offers

/-! What the messages of a domain event are to a student. Of a change of selections those students
hear whom it names; everything else is for everybody. -/
namespace LiveUpdate

namespace DomainEvent

variable {ids ids' : List StudentId} {counts : List CourseCount} {id : StudentId}

/-- The plan of a change of selections is never refused before the counts. -/
theorem selectionPlan_refusal (ids : List StudentId) : (selectionPlan ids).refusal = none := by
  unfold selectionPlan
  split <;> rfl

/-- A student hears of selections only when named. -/
theorem eventsFor_selectionPlan (ids : List StudentId) (id : StudentId) :
    Hub.eventsFor (.student id) (selectionPlan ids).messages =
      if id ∈ ids then [.invalidate .selections] else [] := by
  have hmem : id ∈ distinctStudents ids ↔ id ∈ ids := List.mem_eraseDups
  unfold selectionPlan
  split
  · rename_i hnone
    rw [hnone] at hmem
    rw [if_neg fun hid => List.not_mem_nil (hmem.mpr hid)]
    rfl
  · by_cases hid : id ∈ ids
    · simp [Hub.eventsFor, Plan.single, Scope.covers, hid, hmem]
    · simp [Hub.eventsFor, Plan.single, Scope.covers, hid, hmem]

theorem eventsFor_append (k : Audience) (first rest : List Message) :
    Hub.eventsFor k (first ++ rest) = Hub.eventsFor k first ++ Hub.eventsFor k rest := by
  simp [Hub.eventsFor]

theorem selectionsChanged_messages (ids : List StudentId) (counts : List CourseCount) :
    (selectionsChanged ids counts).plan.messages =
      (selectionPlan ids).messages ++ (countPlan counts).messages := by
  rw [plan, Plan.append, selectionPlan_refusal]

/-- What a student is told of a change of selections depends on no other student. -/
theorem eventsFor_selectionsChanged (h : id ∈ ids ↔ id ∈ ids') (counts : List CourseCount) :
    Hub.eventsFor (.student id) (selectionsChanged ids counts).plan.messages =
      Hub.eventsFor (.student id) (selectionsChanged ids' counts).plan.messages := by
  rw [selectionsChanged_messages, selectionsChanged_messages, eventsFor_append, eventsFor_append,
    eventsFor_selectionPlan, eventsFor_selectionPlan]
  by_cases hid : id ∈ ids
  · rw [if_pos hid, if_pos (h.mp hid)]
  · rw [if_neg hid, if_neg fun hid' => hid (h.mpr hid')]

theorem kind_of_build {kind payload : String} {e : Event} (h : Event.build kind payload = .ok e) :
    e.kind = kind := by
  unfold Event.build at h
  split at h
  · cases h
  · split at h
    · cases h
    · split at h <;> cases h
      rfl

/-- The message of a plan with one event carries that event. -/
theorem event_of_single {scope : Scope} {outcome : Except Rejection Event} {m : Message}
    (h : m ∈ (Plan.single scope outcome).messages) : outcome = .ok m.event := by
  cases outcome with
  | error why => cases h
  | ok e => rw [List.mem_singleton.mp h]

theorem kind_of_countPlan {m : Message} (h : m ∈ (countPlan counts).messages) :
    m.event.kind = "course_count_update" := by
  unfold countPlan at h
  generalize distinctCounts counts = distinct at h
  induction distinct with
  | nil => cases h
  | cons count rest ih =>
    rw [List.foldr_cons, Plan.append] at h
    split at h
    · exact kind_of_build (event_of_single h)
    · rcases List.mem_append.mp h with hfirst | hrest
      · exact kind_of_build (event_of_single hfirst)
      · exact ih hrest

theorem invalidate_not_mem {k : Audience} {messages : List Message} {kind : String}
    (hall : ∀ m ∈ messages, m.event.kind = kind) (hkind : kind ≠ "invalidate_selections") :
    Event.invalidate .selections ∉ Hub.eventsFor k messages := by
  intro hmem
  obtain ⟨m, hm, he⟩ := List.mem_map.mp hmem
  have hsame := hall m (List.mem_filter.mp hm).1
  rw [he] at hsame
  exact hkind hsame.symm

/-- Only a change of their own selections tells students to load their selections again. -/
theorem named_of_invalidate {d : DomainEvent}
    (h : Event.invalidate .selections ∈ Hub.eventsFor (.student id) d.plan.messages) :
    ∃ ids counts, d = .selectionsChanged ids counts ∧ id ∈ ids := by
  have hresource (r : Resource) (hr : r.eventKind ≠ "invalidate_selections")
      (hd : d.plan = .single .broadcast (.ok (.invalidate r))) : False := by
    rw [hd] at h
    refine invalidate_not_mem (fun m hm => ?_) hr h
    rw [← Except.ok.inj (event_of_single hm)]
    rfl
  cases d with
  | selectionsChanged ids counts =>
    refine ⟨ids, counts, rfl, ?_⟩
    rw [selectionsChanged_messages, eventsFor_append, eventsFor_selectionPlan] at h
    rcases List.mem_append.mp h with hnamed | hcounts
    · by_contra hid
      rw [if_neg hid] at hnamed
      cases hnamed
    · exact absurd hcounts (invalidate_not_mem (fun m hm => kind_of_countPlan hm) (by decide))
  | adminNotification message =>
    have hnotify (m : Message) (hm : m ∈ (adminNotification message).plan.messages) :
        m.event.kind = "notify" := kind_of_build (event_of_single hm)
    exact absurd h (invalidate_not_mem hnotify (by decide))
  | categoriesChanged => exact (hresource .categories (by decide) rfl).elim
  | periodsChanged => exact (hresource .periods (by decide) rfl).elim
  | coursesChanged => exact (hresource .courses (by decide) rfl).elim
  | gradesChanged => exact (hresource .grades (by decide) rfl).elim

end DomainEvent

end LiveUpdate
