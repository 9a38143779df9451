import Mathlib.Data.List.Basic
import Mathlib.Data.List.Induction
import LiveUpdate.Publisher

/-! Where the handlers of a publisher come from. Its lineage leads from a fresh publisher through
copies and extensions to the publisher itself; publishing calls the handlers that were added along
this line, whatever happens to other publishers, even those that share a list with it. -/
namespace LiveUpdate.Publisher

variable {Handler : Type}

/-! ### Histories -/

/-- Whether an operation makes a publisher, given how many there are. -/
def Operation.makes (count : Nat) : Operation Handler → Bool
  | fresh => true
  | copy on | extend on _ => on < count
  | publish .. => false

/-- The operations of a history that made the publishers, in the order of their numbers. -/
def made (history : List (Operation Handler)) : List (Operation Handler) :=
  history.foldl (fun made op => if op.makes made.length then made ++ [op] else made) []

theorem made_append_singleton (history : List (Operation Handler)) (op : Operation Handler) :
    made (history ++ [op]) =
      if op.makes (made history).length then made history ++ [op] else made history := by
  rw [made, List.foldl_append]
  rfl

/-- The line of a publisher: the publishers that it comes from and last itself, each with the
operation that made it. -/
inductive Lineage (made : List (Operation Handler)) : Nat → List (Nat × Operation Handler) → Prop
  | fresh {i : Nat} (h : made[i]? = some .fresh) : Lineage made i [(i, .fresh)]
  | copy {i on : Nat} {line : List (Nat × Operation Handler)} (h : made[i]? = some (.copy on))
    (hon : Lineage made on line) : Lineage made i (line ++ [(i, .copy on)])
  | extend {i on : Nat} {handler : Handler} {line : List (Nat × Operation Handler)}
    (h : made[i]? = some (.extend on handler)) (hon : Lineage made on line) :
    Lineage made i (line ++ [(i, .extend on handler)])

/-- The handler that an operation adds. -/
def Operation.added? : Operation Handler → Option Handler
  | extend _ handler => some handler
  | _ => none

/-- The handlers added along a line, oldest first. -/
def added (line : List (Nat × Operation Handler)) : List Handler :=
  line.filterMap fun step => step.2.added?

theorem added_append_singleton (line : List (Nat × Operation Handler)) (i : Nat)
    (op : Operation Handler) : added (line ++ [(i, op)]) = added line ++ op.added?.toList := by
  cases h : op.added? <;> simp [added, h]

theorem getElem?_append_singleton {α : Type} {xs : List α} {i : Nat} {x : α} (h : xs[i]? = some x)
    (y : α) : (xs ++ [y])[i]? = some x :=
  (List.getElem?_append_left (List.getElem?_eq_some_iff.mp h).1).trans h

namespace Lineage

variable {made made' : List (Operation Handler)} {i : Nat} {line : List (Nat × Operation Handler)}

theorem made_self (h : Lineage made i line) : ∃ op, made[i]? = some op := by
  cases h <;> exact ⟨_, ‹_›⟩

theorem unique (h : Lineage made i line) {line' : List (Nat × Operation Handler)}
    (h' : Lineage made i line') : line' = line := by
  induction h generalizing line' with
  | fresh hmade =>
    cases h' with
    | fresh hmade' => rfl
    | copy hmade' hon' => simp [hmade] at hmade'
    | extend hmade' hon' => simp [hmade] at hmade'
  | copy hmade hon ih =>
    cases h' with
    | fresh hmade' => simp [hmade] at hmade'
    | copy hmade' hon' =>
      obtain rfl := Operation.copy.inj (Option.some.inj (hmade.symm.trans hmade'))
      rw [ih hon']
    | extend hmade' hon' => simp [hmade] at hmade'
  | extend hmade hon ih =>
    cases h' with
    | fresh hmade' => simp [hmade] at hmade'
    | copy hmade' hon' => simp [hmade] at hmade'
    | extend hmade' hon' =>
      obtain ⟨rfl, rfl⟩ := Operation.extend.inj (Option.some.inj (hmade.symm.trans hmade'))
      rw [ih hon']

theorem made_of_mem (h : Lineage made i line) : ∀ step ∈ line, made[step.1]? = some step.2 := by
  induction h with
  | fresh hmade => exact List.forall_mem_singleton.mpr hmade
  | copy hmade hon ih => exact List.forall_mem_append.mpr ⟨ih, List.forall_mem_singleton.mpr hmade⟩
  | extend hmade hon ih =>
    exact List.forall_mem_append.mpr ⟨ih, List.forall_mem_singleton.mpr hmade⟩

/-- A line depends on nothing but the operations along it. -/
theorem congr (h : Lineage made i line)
    (hmade : ∀ step ∈ line, made'[step.1]? = some step.2) : Lineage made' i line := by
  induction h with
  | fresh h => exact .fresh (hmade _ (List.mem_singleton_self _))
  | copy h hon ih =>
    obtain ⟨hline, hstep⟩ := List.forall_mem_append.mp hmade
    exact .copy (hstep _ (List.mem_singleton_self _)) (ih hline)
  | extend h hon ih =>
    obtain ⟨hline, hstep⟩ := List.forall_mem_append.mp hmade
    exact .extend (hstep _ (List.mem_singleton_self _)) (ih hline)

theorem append_singleton (h : Lineage made i line) (op : Operation Handler) :
    Lineage (made ++ [op]) i line :=
  h.congr fun step hstep => getElem?_append_singleton (h.made_of_mem step hstep) op

end Lineage

/-- Every publisher that was made has a line. -/
theorem exists_lineage (history : List (Operation Handler)) {i : Nat}
    (hi : i < (made history).length) : ∃ line, Lineage (made history) i line := by
  induction history using List.reverseRecOn generalizing i with
  | nil => cases hi
  | append_singleton history op ih =>
    rw [made_append_singleton] at hi ⊢
    split at hi
    · rename_i hmakes
      rw [if_pos hmakes]
      by_cases hold : i < (made history).length
      · obtain ⟨line, hline⟩ := ih hold
        exact ⟨line, hline.append_singleton op⟩
      · have hself : (made history ++ [op])[i]? = some op := by
          rw [List.length_append, List.length_singleton] at hi
          rw [show i = (made history).length by omega, List.getElem?_concat_length]
        cases op with
        | fresh => exact ⟨_, .fresh hself⟩
        | copy on =>
          obtain ⟨line, hline⟩ := ih (of_decide_eq_true hmakes)
          exact ⟨_, .copy hself (hline.append_singleton _)⟩
        | extend on handler =>
          obtain ⟨line, hline⟩ := ih (of_decide_eq_true hmakes)
          exact ⟨_, .extend hself (hline.append_singleton _)⟩
        | publish on e => cases hmakes
    · rename_i hmakes
      rw [if_neg hmakes]
      exact ih hi

namespace Shelf

/-! ### Shelves -/

theorem handlers?_eq_some_iff {shelf : Shelf Handler} {i : Nat} {handlers : List Handler} :
    shelf.handlers? i = some handlers ↔ shelf[i]? = some (.owning handlers) ∨
      ∃ owner, shelf[i]? = some (.sharing owner) ∧ shelf[owner]? = some (.owning handlers) := by
  rw [handlers?]
  cases shelf[i]? with
  | none => simp
  | some p =>
    cases p with
    | owning own => simp
    | sharing owner =>
      simp only [Option.some.injEq, reduceCtorEq, false_or, sharing.injEq, exists_eq_left']
      split <;> simp_all

/-- A publisher keeps its handlers as others are made. -/
theorem handlers?_append {shelf : Shelf Handler} {i : Nat} {handlers : List Handler}
    (h : shelf.handlers? i = some handlers) (p : Publisher Handler) :
    handlers? (shelf ++ [p]) i = some handlers := by
  rw [handlers?_eq_some_iff] at h ⊢
  rcases h with h | ⟨owner, h, howner⟩
  · exact .inl (getElem?_append_singleton h p)
  · exact .inr ⟨owner, getElem?_append_singleton h p, getElem?_append_singleton howner p⟩

/-- A copy has the handlers of what it is a copy of. -/
theorem handlers?_copy {shelf : Shelf Handler} {on : Nat} {p : Publisher Handler}
    {handlers : List Handler} (hp : shelf[on]? = some p) (h : shelf.handlers? on = some handlers) :
    handlers? (shelf ++ [p.copy on]) shelf.length = some handlers := by
  rw [handlers?_eq_some_iff, List.getElem?_concat_length]
  rcases handlers?_eq_some_iff.mp h with hown | ⟨owner, hshare, howner⟩
  · obtain rfl := Option.some.inj (hp.symm.trans hown)
    exact .inr ⟨on, rfl, getElem?_append_singleton hown _⟩
  · obtain rfl := Option.some.inj (hp.symm.trans hshare)
    exact .inr ⟨owner, rfl, getElem?_append_singleton howner _⟩

theorem handlers?_owning (shelf : Shelf Handler) (handlers : List Handler) :
    handlers? (shelf ++ [.owning handlers]) shelf.length = some handlers :=
  handlers?_eq_some_iff.mpr (.inl List.getElem?_concat_length)

/-- The publishers on a shelf are those that were made, each with the handlers of its line. -/
structure Faithful (shelf : Shelf Handler) (made : List (Operation Handler)) : Prop where
  length : shelf.length = made.length
  handlers : ∀ i line, Lineage made i line → shelf.handlers? i = some (added line)

namespace Faithful

variable {shelf : Shelf Handler} {history : List (Operation Handler)}

theorem nil : Faithful ([] : Shelf Handler) [] where
  length := rfl
  handlers i line h := by
    obtain ⟨op, hop⟩ := h.made_self
    cases hop

/-- One more publisher leaves the others as they are. -/
theorem place (h : shelf.Faithful (made history)) {p : Publisher Handler} {op : Operation Handler}
    (hp : ∀ line, Lineage (made history ++ [op]) (made history).length line →
      handlers? (shelf ++ [p]) shelf.length = some (added line)) :
    Faithful (shelf ++ [p]) (made history ++ [op]) where
  length := by simp [h.length]
  handlers i line hline := by
    obtain ⟨op', hop'⟩ := hline.made_self
    obtain ⟨hi, -⟩ := List.getElem?_eq_some_iff.mp hop'
    rw [List.length_append, List.length_singleton] at hi
    by_cases hold : i < (made history).length
    · obtain ⟨line', hline'⟩ := exists_lineage history hold
      obtain rfl := (hline'.append_singleton op).unique hline
      exact handlers?_append (h.handlers i line hline') p
    · obtain rfl : i = (made history).length := by omega
      rw [← h.length]
      exact hp line hline

theorem handlers?_of_le (h : shelf.Faithful (made history)) {i : Nat}
    (hi : ¬i < (made history).length) : shelf[i]? = none ∧ shelf.handlers? i = none := by
  have hnone : shelf[i]? = none := List.getElem?_eq_none (h.length ▸ Nat.le_of_not_lt hi)
  exact ⟨hnone, by rw [handlers?, hnone]⟩

theorem exists_handlers (h : shelf.Faithful (made history)) {i : Nat}
    (hi : i < (made history).length) :
    ∃ p line, shelf[i]? = some p ∧ Lineage (made history) i line ∧
      shelf.handlers? i = some (added line) := by
  obtain ⟨line, hline⟩ := exists_lineage history hi
  exact ⟨_, line, List.getElem?_eq_getElem (h.length ▸ hi), hline, h.handlers i line hline⟩

/-- Each operation adds the publisher that it makes, and changes nothing else. -/
theorem perform (h : shelf.Faithful (made history)) (op : Operation Handler) :
    Faithful (shelf.perform op).2 (made (history ++ [op])) := by
  rw [made_append_singleton]
  have hself : (made history ++ [op])[(made history).length]? = some op :=
    List.getElem?_concat_length
  cases op with
  | fresh =>
    refine h.place fun line hline => ?_
    obtain rfl := (Lineage.fresh hself).unique hline
    exact handlers?_owning shelf []
  | copy on =>
    rw [Shelf.perform]
    by_cases hon : on < (made history).length
    · obtain ⟨p, source, hp, hsource, hhandlers⟩ := h.exists_handlers hon
      rw [hp, if_pos (by simpa [Operation.makes] using hon)]
      refine h.place fun line hline => ?_
      obtain rfl := (Lineage.copy hself (hsource.append_singleton _)).unique hline
      rw [added_append_singleton]
      exact (handlers?_copy hp hhandlers).trans (by simp [Operation.added?])
    · rw [(h.handlers?_of_le hon).1, if_neg (by simpa [Operation.makes] using hon)]
      exact h
  | extend on handler =>
    rw [Shelf.perform]
    by_cases hon : on < (made history).length
    · obtain ⟨-, source, -, hsource, hhandlers⟩ := h.exists_handlers hon
      rw [hhandlers, if_pos (by simpa [Operation.makes] using hon)]
      refine h.place fun line hline => ?_
      obtain rfl := (Lineage.extend hself (hsource.append_singleton _)).unique hline
      rw [added_append_singleton]
      exact handlers?_owning shelf _
    · rw [(h.handlers?_of_le hon).2, if_neg (by simpa [Operation.makes] using hon)]
      exact h
  | publish on e =>
    rw [Shelf.perform]
    split <;> exact h

end Faithful

/-! ### Runs -/

theorem run_append (shelf : Shelf Handler) (before after : List (Operation Handler)) :
    shelf.run (before ++ after) =
      ((shelf.run before).1 ++ ((shelf.run before).2.run after).1,
        ((shelf.run before).2.run after).2) := by
  induction before generalizing shelf with
  | nil => rfl
  | cons op before ih => simp only [List.cons_append, run, ih]

theorem length_run (shelf : Shelf Handler) (history : List (Operation Handler)) :
    (shelf.run history).1.length = history.length := by
  induction history generalizing shelf with
  | nil => rfl
  | cons op history ih => simp only [run, List.length_cons, ih]

/-- The outcome of an operation in the middle of a history. -/
theorem run_getElem? (shelf : Shelf Handler) (before after : List (Operation Handler))
    (op : Operation Handler) :
    (shelf.run (before ++ op :: after)).1[before.length]? =
      some ((shelf.run before).2.perform op).1 := by
  rw [run_append, ← length_run shelf before]
  exact List.getElem?_append_right (Nat.le_refl _) |>.trans (by simp [run])

theorem faithful_run (history : List (Operation Handler)) :
    Faithful (run ([] : Shelf Handler) history).2 (made history) := by
  induction history using List.reverseRecOn with
  | nil => exact .nil
  | append_singleton history op ih =>
    rw [run_append]
    exact ih.perform op

/-- What publishing calls at the end of a history. -/
theorem publish_of_lineage {history : List (Operation Handler)} {i : Nat}
    {line : List (Nat × Operation Handler)} (h : Lineage (made history) i line)
    (after : List (Operation Handler)) (e : DomainEvent) :
    (run ([] : Shelf Handler) (history ++ .publish i e :: after)).1[history.length]? =
      some (.called ((added line).map (·, e))) := by
  rw [run_getElem?, perform, (faithful_run history).handlers i line h]

/-- Publishing calls the handlers that were added along the line of the publisher, oldest first, and
does so in every history in which the publishers on this line were made as they were here. -/
theorem publish_follows_lineage (history after : List (Operation Handler)) (i : Nat)
    (e : DomainEvent) :
    (i < (made history).length → ∃ line,
      (∀ line', Lineage (made history) i line' ↔ line' = line) ∧
      (run ([] : Shelf Handler) (history ++ .publish i e :: after)).1[history.length]? =
        some (.called ((added line).map (·, e))) ∧
      ∀ (history' after' : List (Operation Handler)) (e' : DomainEvent),
        (∀ step ∈ line, (made history')[step.1]? = some step.2) →
        (run ([] : Shelf Handler) (history' ++ .publish i e' :: after')).1[history'.length]? =
          some (.called ((added line).map (·, e')))) ∧
    ((made history).length ≤ i →
      (run ([] : Shelf Handler) (history ++ .publish i e :: after)).1[history.length]? =
        some .missing) := by
  constructor
  · intro hi
    obtain ⟨line, hline⟩ := exists_lineage history hi
    refine ⟨line, fun line' => ⟨hline.unique, fun h => h ▸ hline⟩,
      publish_of_lineage hline after e, fun history' after' e' hmade => ?_⟩
    exact publish_of_lineage (hline.congr hmade) after' e'
  · intro hi
    rw [run_getElem?, perform, ((faithful_run history).handlers?_of_le (Nat.not_lt.mpr hi)).2]

/-- A copy is extended twice, by the second handler a second time; the publisher that it shared its
list with calls one handler still. -/
theorem publish_follows_lineage_copy :
    let e := DomainEvent.coursesChanged
    let history : List (Operation String) :=
      [.fresh, .extend 0 "a", .copy 1, .extend 2 "b", .extend 3 "a"]
    (run [] (history ++ [.publish 4 e])).1[5]? = some (.called [("a", e), ("b", e), ("a", e)]) ∧
    (run [] (history ++ [.publish 1 e])).1[5]? = some (.called [("a", e)]) := by
  intro e history
  have hfirst : Lineage (made history) 1 [(0, .fresh), (1, .extend 0 "a")] :=
    .extend rfl (.fresh rfl)
  have hlast : Lineage (made history) 4
      [(0, .fresh), (1, .extend 0 "a"), (2, .copy 1), (3, .extend 2 "b"), (4, .extend 3 "a")] :=
    .extend rfl (.extend rfl (.copy rfl hfirst))
  obtain ⟨line, hline, hcalled, -⟩ := (publish_follows_lineage history [] 4 e).1 (by decide)
  obtain rfl := (hline _).mp hlast
  obtain ⟨line, hline, hcalled', -⟩ := (publish_follows_lineage history [] 1 e).1 (by decide)
  obtain rfl := (hline _).mp hfirst
  exact ⟨hcalled, hcalled'⟩

end Shelf
end LiveUpdate.Publisher
