/-! Finite maps as lists of pairs with distinct keys, in the order in which the keys arrived. -/
namespace LiveUpdate

structure Table (κ : Type) (α : Type) where
  entries : List (κ × α)
  distinct : (entries.map Prod.fst).Nodup

namespace Table

variable {κ α : Type} [DecidableEq κ]

def empty : Table κ α := ⟨[], List.nodup_nil⟩

def keys (t : Table κ α) : List κ := t.entries.map Prod.fst

def values (t : Table κ α) : List α := t.entries.map Prod.snd

def size (t : Table κ α) : Nat := t.entries.length

def get? (t : Table κ α) (k : κ) : Option α := t.entries.lookup k

/-- Writes the value of a key in its place, or at the end if the key is new. -/
def insertEntry (k : κ) (v : α) : List (κ × α) → List (κ × α)
  | [] => [(k, v)]
  | (k', w) :: rest => if k' = k then (k, v) :: rest else (k', w) :: insertEntry k v rest

theorem mem_keys_insertEntry (k : κ) (v : α) (x : κ) (es : List (κ × α)) :
    x ∈ (insertEntry k v es).map Prod.fst ↔ x = k ∨ x ∈ es.map Prod.fst := by
  induction es with
  | nil => simp [insertEntry]
  | cons e rest ih =>
    obtain ⟨k', w⟩ := e
    simp only [insertEntry]
    split
    · rename_i h
      subst h
      simp
    · simp only [List.map_cons, List.mem_cons, ih]
      grind

theorem distinct_insertEntry (k : κ) (v : α) (es : List (κ × α))
    (h : (es.map Prod.fst).Nodup) : ((insertEntry k v es).map Prod.fst).Nodup := by
  induction es with
  | nil => simp [insertEntry]
  | cons e rest ih =>
    obtain ⟨k', w⟩ := e
    simp only [List.map_cons, List.nodup_cons] at h
    simp only [insertEntry]
    split
    · rename_i hk
      subst hk
      simpa using h
    · rename_i hk
      simp only [List.map_cons, List.nodup_cons, mem_keys_insertEntry]
      exact ⟨by grind, ih h.2⟩

theorem lookup_insertEntry (k : κ) (v : α) (x : κ) (es : List (κ × α)) :
    (insertEntry k v es).lookup x = if x = k then some v else es.lookup x := by
  induction es with
  | nil => grind [insertEntry]
  | cons e rest ih =>
    obtain ⟨k', w⟩ := e
    grind [insertEntry]

def insert (t : Table κ α) (k : κ) (v : α) : Table κ α :=
  ⟨insertEntry k v t.entries, distinct_insertEntry k v t.entries t.distinct⟩

def erase (t : Table κ α) (k : κ) : Table κ α :=
  ⟨t.entries.filter (·.1 ≠ k), t.distinct.sublist (List.filter_sublist.map _)⟩

/-- Applies a function to every value. -/
def mapValues {β : Type} (t : Table κ α) (f : κ → α → β) : Table κ β :=
  ⟨t.entries.map fun e => (e.1, f e.1 e.2), by
    simpa [List.map_map, Function.comp_def] using t.distinct⟩

/-- Applies a function to the value of one key, if there is one. -/
def modify (t : Table κ α) (k : κ) (f : α → α) : Table κ α :=
  t.mapValues fun k' v => if k' = k then f v else v

@[simp] theorem get?_empty (k : κ) : (empty : Table κ α).get? k = none := rfl

@[simp] theorem get?_insert (t : Table κ α) (k : κ) (v : α) (x : κ) :
    (t.insert k v).get? x = if x = k then some v else t.get? x :=
  lookup_insertEntry k v x t.entries

@[simp] theorem get?_erase (t : Table κ α) (k x : κ) :
    (t.erase k).get? x = if x = k then none else t.get? x := by
  simp only [get?, erase]
  induction t.entries with
  | nil => simp
  | cons e rest ih => grind

@[simp] theorem get?_mapValues {β : Type} (t : Table κ α) (f : κ → α → β) (x : κ) :
    (t.mapValues f).get? x = (t.get? x).map (f x) := by
  simp only [get?, mapValues]
  induction t.entries with
  | nil => simp
  | cons e rest ih => grind

@[simp] theorem get?_modify (t : Table κ α) (k : κ) (f : α → α) (x : κ) :
    (t.modify k f).get? x = if x = k then (t.get? x).map f else t.get? x := by
  simp only [modify, get?_mapValues]
  split
  · simp
  · cases t.get? x <;> rfl

omit [DecidableEq κ] in
theorem eq_of_entries {t t' : Table κ α} (h : t.entries = t'.entries) : t = t' := by
  cases t
  cases t'
  cases h
  rfl

/-- What is filed first under another key is passed over. -/
theorem lookup_cons_of_ne {k k' : κ} (hk : k' ≠ k) (w : α) (es : List (κ × α)) :
    ((k', w) :: es).lookup k = es.lookup k := by
  have hk' : (k == k') = false := by simp [Ne.symm hk]
  rw [List.lookup_cons, hk']

theorem insertEntry_self {k : κ} {v : α} {es : List (κ × α)} (h : es.lookup k = some v) :
    insertEntry k v es = es := by
  induction es with
  | nil => cases h
  | cons e rest ih =>
    obtain ⟨k', w⟩ := e
    by_cases hk : k' = k
    · subst hk
      rw [List.lookup_cons_self, Option.some.injEq] at h
      simp [insertEntry, h]
    · rw [lookup_cons_of_ne hk] at h
      simp [insertEntry, hk, ih h]

theorem insertEntry_insertEntry (k : κ) (v w : α) (es : List (κ × α)) :
    insertEntry k w (insertEntry k v es) = insertEntry k w es := by
  induction es with
  | nil => simp [insertEntry]
  | cons e rest ih =>
    obtain ⟨k', u⟩ := e
    by_cases hk : k' = k <;> simp [insertEntry, hk, ih]

theorem mapEntry_of_not_mem {k : κ} (f : α → α) {es : List (κ × α)} (h : k ∉ es.map Prod.fst) :
    es.map (fun e => (e.1, if e.1 = k then f e.2 else e.2)) = es := by
  conv => rhs; rw [← List.map_id es]
  refine List.map_congr_left fun e he => ?_
  have hne : e.1 ≠ k := fun hc => h (List.mem_map.mpr ⟨e, he, hc⟩)
  simp [hne]

theorem mapEntry_eq {k : κ} {v : α} (f : α → α) {es : List (κ × α)}
    (hd : (es.map Prod.fst).Nodup) (h : es.lookup k = some v) :
    es.map (fun e => (e.1, if e.1 = k then f e.2 else e.2)) = insertEntry k (f v) es := by
  induction es with
  | nil => cases h
  | cons e rest ih =>
    obtain ⟨k', w⟩ := e
    rw [List.map_cons, List.nodup_cons] at hd
    by_cases hk : k' = k
    · subst hk
      rw [List.lookup_cons_self, Option.some.injEq] at h
      simp [insertEntry, h, mapEntry_of_not_mem f hd.1]
    · rw [lookup_cons_of_ne hk] at h
      simp [insertEntry, hk, ih hd.2 h]

/-- Writing what is there already changes nothing. -/
theorem insert_self {t : Table κ α} {k : κ} {v : α} (h : t.get? k = some v) : t.insert k v = t :=
  eq_of_entries (insertEntry_self h)

@[simp] theorem insert_insert (t : Table κ α) (k : κ) (v w : α) :
    (t.insert k v).insert k w = t.insert k w :=
  eq_of_entries (insertEntry_insertEntry k v w t.entries)

theorem modify_eq_insert {t : Table κ α} {k : κ} {v : α} (f : α → α) (h : t.get? k = some v) :
    t.modify k f = t.insert k (f v) :=
  eq_of_entries (mapEntry_eq f t.distinct h)

theorem mem_keys_iff (t : Table κ α) (k : κ) : k ∈ t.keys ↔ (t.get? k).isSome := by
  simp only [keys, get?]
  induction t.entries with
  | nil => simp
  | cons e rest ih => grind

/-- Where nothing is there is nothing to change. -/
theorem modify_of_none {t : Table κ α} {k : κ} (f : α → α) (h : t.get? k = none) :
    t.modify k f = t := by
  refine eq_of_entries (mapEntry_of_not_mem f fun hk => ?_)
  have hsome := (t.mem_keys_iff k).mp hk
  rw [h] at hsome
  cases hsome

omit [DecidableEq κ] in
theorem nodup_keys (t : Table κ α) : t.keys.Nodup := t.distinct

theorem mem_entries_iff {t : Table κ α} {k : κ} {v : α} :
    (k, v) ∈ t.entries ↔ t.get? k = some v := by
  constructor
  · intro he
    obtain ⟨first, rest, hentries⟩ := List.append_of_mem he
    refine List.lookup_eq_some_iff.mpr ⟨first, rest, hentries, fun e hfirst => ?_⟩
    have hdistinct := t.distinct
    rw [hentries, List.map_append, List.nodup_append] at hdistinct
    have hne := hdistinct.2.2 e.1 (List.mem_map_of_mem hfirst) k (by simp)
    simpa using fun he => hne he.symm
  · intro hv
    obtain ⟨first, rest, hentries, -⟩ := List.lookup_eq_some_iff.mp hv
    simp [hentries]

theorem mem_values_iff {t : Table κ α} {v : α} : v ∈ t.values ↔ ∃ k, t.get? k = some v := by
  simp [values, mem_entries_iff]

theorem mem_values {t : Table κ α} {k : κ} {v : α} (h : t.get? k = some v) : v ∈ t.values :=
  mem_values_iff.mpr ⟨k, h⟩

/-- A table answers the same in whatever order it is walked. -/
theorem get?_of_perm {t t' : Table κ α} (h : t.entries.Perm t'.entries) (k : κ) :
    t'.get? k = t.get? k :=
  Option.ext fun v => by rw [← mem_entries_iff, ← mem_entries_iff, h.mem_iff]

end Table
end LiveUpdate
