import Mathlib.Data.List.Nodup
import Mathlib.Data.List.Perm.Subperm
import Mathlib.Data.Set.Card
import LiveUpdate.Registry

/-! The table of connections and its index by audience never disagree, whatever is entered and
taken out. The figures that are read off the index count what they are said to count. -/
namespace LiveUpdate

/-- A list without repetitions counts the set of its members. -/
theorem ncard_eq_length {α : Type} {xs : List α} {p : α → Prop} (hd : xs.Nodup)
    (hp : ∀ x, x ∈ xs ↔ p x) : {x | p x}.ncard = xs.length := by
  classical
  have hs : {x | p x} = (xs.toFinset : Set α) := by
    ext x
    simp [hp]
  rw [hs, Set.ncard_coe_finset, List.toFinset_card_of_nodup hd]

namespace Registry

variable {r : Registry}

/-- What the index has to do with the table. -/
structure Indexed (r : Registry) : Prop where
  occupied : ∀ a cs, r.members.get? a = some cs → cs ≠ []
  mem_bucket : ∀ c a, c ∈ r.bucket a ↔ r.audiences.get? c = some a
  distinct : ∀ a, (r.bucket a).Nodup

@[simp] theorem audiences_empty (c : ConnectionId) : empty.audiences.get? c = none := rfl

theorem indexed_empty : empty.Indexed where
  occupied a cs h := by simp [empty] at h
  mem_bucket c a := by simp [bucket, empty]
  distinct a := by simp [bucket, empty]

/-! ### Taking out -/

@[simp] theorem audiences_unregister (r : Registry) (c c' : ConnectionId) :
    (r.unregister c).2.audiences.get? c' = if c' = c then none else r.audiences.get? c' := by
  cases h : r.audiences.get? c with
  | none =>
    simp only [unregister, h]
    split
    · subst c'; exact h
    · rfl
  | some a => simp [unregister, h]

theorem unregister_none {c : ConnectionId} (h : r.audiences.get? c = none) :
    r.unregister c = (none, r) := by simp [unregister, h]

theorem unregister_some {c : ConnectionId} {a : Audience} (h : r.audiences.get? c = some a) :
    r.unregister c = (some a, ⟨r.audiences.erase c, leave r.members c a⟩) := by
  simp [unregister, h]

/-- After a connection has left, its bucket lacks it and all others are as they were. -/
theorem bucket_leave (members : Table Audience (List ConnectionId)) (c : ConnectionId)
    (a a' : Audience) : ((leave members c a).get? a').getD [] =
      if a' = a then ((members.get? a).getD []).filter (· ≠ c)
      else (members.get? a').getD [] := by
  cases h : members.get? a with
  | none =>
    simp only [leave, h]
    split
    · subst a'; simp [h]
    · rfl
  | some cs =>
    simp only [leave, h]
    by_cases he : cs.filter (· ≠ c) = []
    · rw [if_pos he, Table.get?_erase]
      split
      · exact he.symm
      · rfl
    · rw [if_neg he, Table.get?_insert]
      split <;> rfl

/-- No bucket is left empty. -/
theorem leave_occupied {members : Table Audience (List ConnectionId)} {c : ConnectionId}
    {a a' : Audience} {cs : List ConnectionId} (h : ∀ a cs, members.get? a = some cs → cs ≠ [])
    (hcs : (leave members c a).get? a' = some cs) : cs ≠ [] := by
  cases hm : members.get? a with
  | none =>
    simp only [leave, hm] at hcs
    exact h a' cs hcs
  | some bucket =>
    simp only [leave, hm] at hcs
    split at hcs <;> rename_i hrest
    · rw [Table.get?_erase] at hcs
      split at hcs
      · cases hcs
      · exact h a' cs hcs
    · rw [Table.get?_insert] at hcs
      split at hcs
      · exact Option.some.inj hcs ▸ hrest
      · exact h a' cs hcs

theorem bucket_unregister (h : r.Indexed) (c : ConnectionId) (a : Audience) :
    (r.unregister c).2.bucket a = (r.bucket a).filter (· ≠ c) := by
  have keep (hc : c ∉ r.bucket a) : (r.bucket a).filter (· ≠ c) = r.bucket a :=
    List.filter_eq_self.mpr fun x hx => by simpa using fun hxc : x = c => hc (hxc ▸ hx)
  cases hc : r.audiences.get? c with
  | none =>
    rw [unregister_none hc, keep]
    simp [h.mem_bucket, hc]
  | some b =>
    rw [unregister_some hc, bucket, bucket_leave]
    split
    · subst a; rfl
    · rename_i hne
      refine (keep ?_).symm
      rw [h.mem_bucket, hc]
      exact fun hba => hne (Option.some.inj hba).symm

theorem Indexed.unregister (h : r.Indexed) (c : ConnectionId) : (r.unregister c).2.Indexed where
  occupied a cs hcs := by
    cases hc : r.audiences.get? c with
    | none =>
      rw [unregister_none hc] at hcs
      exact h.occupied a cs hcs
    | some b =>
      rw [unregister_some hc] at hcs
      exact leave_occupied h.occupied hcs
  mem_bucket c' a := by
    rw [bucket_unregister h, List.mem_filter, h.mem_bucket, audiences_unregister]
    by_cases hc : c' = c <;> simp [hc]
  distinct a := by
    rw [bucket_unregister h]
    exact (h.distinct a).filter _

/-! ### Entering -/

@[simp] theorem audiences_register (r : Registry) (c c' : ConnectionId) (a : Audience) :
    (r.register c a).audiences.get? c' = if c' = c then some a else r.audiences.get? c' := by
  simp only [register, Table.get?_insert, audiences_unregister]
  split <;> rfl

theorem bucket_register (r : Registry) (c : ConnectionId) (a a' : Audience) :
    (r.register c a).bucket a' =
      if a' = a then (r.unregister c).2.bucket a ++ [c] else (r.unregister c).2.bucket a' := by
  simp only [register, bucket, Table.get?_insert]
  split <;> rfl

theorem Indexed.register (h : r.Indexed) (c : ConnectionId) (a : Audience) :
    (r.register c a).Indexed where
  occupied a' cs hcs := by
    simp only [Registry.register, Table.get?_insert] at hcs
    split at hcs
    · cases hcs
      simp
    · exact (h.unregister c).occupied a' cs hcs
  mem_bucket c' a' := by
    have hu := (h.unregister c).mem_bucket c' a'
    rw [audiences_unregister] at hu
    rw [bucket_register, audiences_register]
    by_cases hc : c' = c <;> by_cases ha : a' = a <;> simp_all [eq_comm]
  distinct a' := by
    rw [bucket_register]
    split
    · have hu := h.unregister c
      have hnot : c ∉ (r.unregister c).2.bucket a := by
        rw [hu.mem_bucket, audiences_unregister]
        simp
      exact List.nodup_append.mpr ⟨hu.distinct a, List.nodup_singleton c, by grind⟩
    · exact (h.unregister c).distinct a'

/-! ### Recipients -/

/-- A message is offered to the connections whose audience it covers. -/
theorem Indexed.mem_recipients (h : r.Indexed) (scope : Scope) (c : ConnectionId) :
    c ∈ r.recipients scope ↔ ∃ a, r.audiences.get? c = some a ∧ scope.covers a = true := by
  cases scope with
  | broadcast => simp [recipients, Scope.covers, Table.mem_keys_iff, Option.isSome_iff_exists]
  | only audiences =>
    simp only [recipients, Scope.covers, List.mem_flatMap, List.mem_eraseDups, h.mem_bucket,
      List.contains_iff_mem]
    exact exists_congr fun a => and_comm

theorem nodup_eraseDups {α : Type} [DecidableEq α] (xs : List α) : xs.eraseDups.Nodup := by
  generalize hn : xs.length = n
  induction n using Nat.strongRecOn generalizing xs with
  | _ n ih =>
    cases xs with
    | nil => simp
    | cons x rest =>
      rw [List.eraseDups_cons, List.nodup_cons, List.mem_eraseDups]
      refine ⟨by simp, ih _ ?_ _ rfl⟩
      have hl := List.length_filter_le (fun b => !b == x) rest
      simp only [List.length_cons] at hn
      omega

/-- Nobody is offered a message twice, however often an audience is named. -/
theorem Indexed.nodup_recipients (h : r.Indexed) (scope : Scope) : (r.recipients scope).Nodup := by
  cases scope with
  | broadcast => exact r.audiences.nodup_keys
  | only audiences =>
    refine List.nodup_flatMap.mpr ⟨fun a _ => h.distinct a, (nodup_eraseDups audiences).imp ?_⟩
    intro a a' hne c hc hc'
    rw [h.mem_bucket] at hc hc'
    exact hne (Option.some.inj (hc.symm.trans hc'))

/-! ### Figures -/

theorem connectionCount_eq_ncard (r : Registry) :
    r.connectionCount = {c | (r.audiences.get? c).isSome = true}.ncard := by
  rw [ncard_eq_length r.audiences.nodup_keys r.audiences.mem_keys_iff]
  simp [connectionCount, Table.size, Table.keys]

theorem Indexed.unfilteredCount_eq_ncard (h : r.Indexed) :
    r.unfilteredCount = {c | r.audiences.get? c = some .unfiltered}.ncard :=
  (ncard_eq_length (h.distinct _) fun c => h.mem_bucket c _).symm

/-- An audience has a bucket if and only if somebody is registered under it. -/
theorem Indexed.mem_members_keys (h : r.Indexed) (a : Audience) :
    a ∈ r.members.keys ↔ ∃ c, r.audiences.get? c = some a := by
  rw [Table.mem_keys_iff]
  constructor
  · intro ha
    obtain ⟨cs, hcs⟩ := Option.isSome_iff_exists.mp ha
    obtain ⟨c, rest, hc⟩ := List.exists_cons_of_ne_nil (h.occupied a cs hcs)
    exact ⟨c, (h.mem_bucket c a).mp (by simp [bucket, hcs, hc])⟩
  · rintro ⟨c, hc⟩
    rw [← h.mem_bucket, bucket] at hc
    cases hm : r.members.get? a with
    | none => simp [hm] at hc
    | some cs => rfl

theorem Indexed.studentCount_eq_ncard (h : r.Indexed) :
    r.studentCount = {id | ∃ c, r.audiences.get? c = some (.student id)}.ncard := by
  have hinj : Function.Injective Audience.student := fun _ _ => Audience.student.inj
  rw [← Set.ncard_image_of_injective _ hinj, studentCount, List.countP_eq_length_filter]
  have hset : Audience.student '' {id | ∃ c, r.audiences.get? c = some (.student id)} =
      {a | (∃ c, r.audiences.get? c = some a) ∧ a.isStudent = true} := by
    ext a
    cases a <;> simp [Audience.isStudent]
  rw [hset, ncard_eq_length (r.members.nodup_keys.filter Audience.isStudent)]
  intro a
  rw [List.mem_filter, h.mem_members_keys]

/-- The buckets hold every registered connection once. -/
theorem Indexed.keys_perm (h : r.Indexed) :
    (r.members.keys.flatMap r.bucket).Perm r.audiences.keys := by
  rw [List.perm_ext_iff_of_nodup _ r.audiences.nodup_keys]
  · intro c
    rw [List.mem_flatMap, Table.mem_keys_iff, Option.isSome_iff_exists]
    simp only [h.mem_bucket, h.mem_members_keys]
    constructor
    · rintro ⟨a, -, ha⟩
      exact ⟨a, ha⟩
    · rintro ⟨a, ha⟩
      exact ⟨a, ⟨c, ha⟩, ha⟩
  · refine List.nodup_flatMap.mpr ⟨fun a _ => h.distinct a, r.members.nodup_keys.imp ?_⟩
    intro a a' hne c hc hc'
    rw [h.mem_bucket] at hc hc'
    exact hne (Option.some.inj (hc.symm.trans hc'))

/-- How many connections the buckets of the students hold. -/
def studentConnections (r : Registry) : Nat :=
  ((r.members.keys.filter Audience.isStudent).map fun a => (r.bucket a).length).sum

theorem sum_bucket_of_unfiltered (r : Registry) :
    ((r.members.keys.filter (!·.isStudent)).map fun a => (r.bucket a).length).sum =
      r.unfilteredCount := by
  have hfilter : r.members.keys.filter (!·.isStudent) =
      r.members.keys.filter (· == Audience.unfiltered) :=
    List.filter_congr fun a _ => by cases a <;> rfl
  rw [hfilter, List.filter_beq, List.map_replicate, List.sum_replicate, unfilteredCount]
  by_cases hm : Audience.unfiltered ∈ r.members.keys
  · rw [List.count_eq_one_of_mem r.members.nodup_keys hm]
    simp
  · have hb : r.bucket .unfiltered = [] := by
      rw [Table.mem_keys_iff, Option.not_isSome_iff_eq_none] at hm
      simp [bucket, hm]
    simp [hb]

theorem Indexed.connectionCount_eq_sum (h : r.Indexed) :
    r.connectionCount = r.unfilteredCount + r.studentConnections := by
  have hsplit := (List.filter_append_perm Audience.isStudent r.members.keys).map
    fun a => (r.bucket a).length
  have hlength := h.keys_perm.length_eq
  rw [List.length_flatMap, ← hsplit.sum_eq, List.map_append, List.sum_append,
    sum_bucket_of_unfiltered] at hlength
  rw [connectionCount, Table.size, studentConnections, Nat.add_comm, hlength, Table.keys,
    List.length_map]

end Registry
end LiveUpdate
