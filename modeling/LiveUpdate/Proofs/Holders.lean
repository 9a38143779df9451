import LiveUpdate.Proofs.Actions
import LiveUpdate.Proofs.Courses

/-! Who holds a handle of the hub. Handles are only handed on by those who have one, so that nobody
can submit anything once the last of them is gone; and whatever a session does, the loop does not
end before that, nor while a command is pending. -/
namespace LiveUpdate

namespace Table

variable {κ α : Type} [DecidableEq κ]

theorem size_ne_zero_iff {t : Table κ α} : t.size ≠ 0 ↔ ∃ k, (t.get? k).isSome = true := by
  have hsize : t.size = t.keys.length := (List.length_map Prod.fst).symm
  rw [hsize, ← Nat.pos_iff_ne_zero, List.length_pos_iff_exists_mem]
  exact exists_congr fun k => t.mem_keys_iff k

theorem any_of_any_insert {f : α → Bool} {t : Table κ α} {k : κ} {v : α} (hv : f v = false)
    (h : (t.insert k v).values.any f = true) : t.values.any f = true := by
  obtain ⟨w, hw, hf⟩ := List.any_eq_true.mp h
  obtain ⟨k', hk'⟩ := mem_values_iff.mp hw
  rw [get?_insert] at hk'
  split at hk'
  · cases hk'
    rw [hv] at hf
    cases hf
  · exact List.any_eq_true.mpr ⟨w, mem_values hk', hf⟩

theorem any_modify {f : α → Bool} {g : α → α} (h : ∀ v, f (g v) = f v) (t : Table κ α) (k : κ) :
    (t.modify k g).values.any f = t.values.any f := by
  have hvalue (e : κ × α) : f (if e.1 = k then g e.2 else e.2) = f e.2 := by
    split
    · exact h e.2
    · rfl
  simp only [modify, mapValues, values, List.any_map, Function.comp_def, hvalue]

theorem keys_modify (t : Table κ α) (k : κ) (f : α → α) : (t.modify k f).keys = t.keys := by
  simp only [keys, modify, mapValues, List.map_map, Function.comp_def]

theorem mem_keys_insert {t : Table κ α} {k k' : κ} (v : α) (h : k' ∈ t.keys) :
    k' ∈ (t.insert k v).keys := by
  rw [mem_keys_iff, get?_insert]
  split
  · rfl
  · exact (t.mem_keys_iff k').mp h

end Table

theorem Task.holds_iff (t : Task) : t.holds = true ↔
    (∃ r, t.reader? = some r ∧ r.outcome.isLive = true) ∨
      ∃ p, t.pair? = some p ∧ p.isLive = true := by
  cases t <;> simp [holds, reader?, pair?, Pair.holds, or_comm]

/-! ### Silence -/

namespace Hub

theorem stopped_not_mem_doings (acts : List Act) : .stopped ∉ doings acts := by
  simp [doings]

theorem stopped_not_mem_leaving (entries : List Entry) (commands : List Command) :
    .stopped ∉ leaving entries commands := by
  simp [leaving, handing, doings]

theorem silent_doings {acts : List Act} (h : ∀ act ∈ acts, (Happening.act act).isSilent = true) :
    ∀ x ∈ doings acts, x.isSilent = true := by
  intro x hx
  obtain ⟨act, hact, rfl⟩ := List.mem_map.mp hx
  exact h act hact

/-- Lines of the journal alone submit nothing. -/
theorem silent_leaving {entries : List Entry} {commands : List Command} (h : commands = []) :
    ∀ x ∈ leaving entries commands, x.isSilent = true := by
  subst h
  simp [leaving, handing, doings, Happening.isSilent]

theorem silent_takes (c : ConnectionId) (n : Nat) :
    ∀ act ∈ takes c n, (Happening.act act).isSilent = true := by
  intro act hact
  rw [(List.mem_replicate.mp hact).2]
  rfl

end Hub

theorem Writer.acts_silent (w : Writer) (box : Mailbox) :
    ∀ act ∈ w.acts box, (Hub.Happening.act act).isSilent = true := by
  intro act hact
  unfold acts at hact
  grind [Hub.Happening.isSilent]

/-- Only a reader that still runs has something to say. -/
theorem Reader.commands_of_ended {r : Reader} (h : r.outcome.isLive = false) : r.step.2.1 = [] := by
  obtain ⟨-, -, ⟨hnone, -⟩ | ⟨hrunning, -⟩⟩ := r.step_cases
  · exact hnone
  · rw [hrunning] at h
    cases h

/-- Only a supervisor that is at work has something to say. -/
theorem Pair.commands_of_ended {p : Pair} (h : p.isLive = false) : p.observeWriter.2.1 = [] := by
  simp only [isLive, Bool.or_eq_false_iff] at h
  simp [observeWriter, h.2]

theorem Task.commands_of_ended {t : Task} (h : t.holds = false) : t.abort.2 = [] := by
  cases t with
  | writing w => rfl
  | reading r => rfl
  | paired p =>
    simp only [holds, Pair.holds, Pair.isLive, Bool.or_eq_false_iff] at h
    simp only [abort, Pair.abort]
    cases hs : p.stage <;> simp [hs, Stage.guards] at h ⊢

namespace Session

variable {s s' s'' : Session}

/-! ### Holders -/

/-- Those that can hold a handle. -/
inductive Holder
  /-- The main handle, which the domain event handler, the publisher and the router share. -/
  | main
  | clone (n : Nat)
  | guard (i : Nat)
  /-- A reader that still runs, also one that its supervisor has left behind. -/
  | reader (task : Nat)
  /-- A connection or WebSocket session that has neither returned nor been cancelled. -/
  | supervisor (task : Nat)
  /-- A WebSocket session whose greeting is still to be written. -/
  | greeting (i : Nat)
  /-- A response body that has neither ended nor been dropped. -/
  | stream (i : Nat)
  deriving DecidableEq, Repr

def Holds (s : Session) : Holder → Prop
  | .main => s.main = true
  | .clone n => n < s.clones
  | .guard i => (s.guards.get? i).isSome = true
  | .reader i => ∃ r, (s.tasks.get? i).bind Task.reader? = some r ∧ r.outcome.isLive = true
  | .supervisor i => ∃ p, (s.tasks.get? i).bind Task.pair? = some p ∧ p.isLive = true
  | .greeting i => (s.greetings.get? i).isSome = true
  | .stream i => (s.streams.get? i).isSome = true

theorem any_holds_iff (s : Session) : s.tasks.values.any Task.holds = true ↔
    (∃ i, s.Holds (.reader i)) ∨ ∃ i, s.Holds (.supervisor i) := by
  rw [List.any_eq_true]
  constructor
  · rintro ⟨t, ht, hholds⟩
    obtain ⟨i, hi⟩ := Table.mem_values_iff.mp ht
    rcases t.holds_iff.mp hholds with ⟨r, hr, hlive⟩ | ⟨p, hp, hlive⟩
    · exact Or.inl ⟨i, r, by rw [hi]; exact hr, hlive⟩
    · exact Or.inr ⟨i, p, by rw [hi]; exact hp, hlive⟩
  · rintro (⟨i, r, hr, hlive⟩ | ⟨i, p, hp, hlive⟩)
    · obtain ⟨t, ht, hr⟩ := Option.bind_eq_some_iff.mp hr
      exact ⟨t, Table.mem_values_iff.mpr ⟨i, ht⟩, t.holds_iff.mpr (Or.inl ⟨r, hr, hlive⟩)⟩
    · obtain ⟨t, ht, hp⟩ := Option.bind_eq_some_iff.mp hp
      exact ⟨t, Table.mem_values_iff.mpr ⟨i, ht⟩, t.holds_iff.mpr (Or.inr ⟨p, hp, hlive⟩)⟩

/-- The hub is held exactly as long as there is a holder. -/
theorem held_iff (s : Session) : s.held = true ↔ ∃ holder, s.Holds holder := by
  have htasks := s.any_holds_iff
  simp only [held, Bool.or_eq_true, decide_eq_true_eq, Table.size_ne_zero_iff]
  rw [htasks]
  constructor
  · rintro (((((h | h) | ⟨i, h⟩) | ⟨i, h⟩) | ⟨i, h⟩) | ⟨i, h⟩ | ⟨i, h⟩)
    · exact ⟨.main, h⟩
    · exact ⟨.clone 0, Nat.pos_of_ne_zero h⟩
    · exact ⟨.guard i, h⟩
    · exact ⟨.stream i, h⟩
    · exact ⟨.greeting i, h⟩
    · exact ⟨.reader i, h⟩
    · exact ⟨.supervisor i, h⟩
  · rintro ⟨holder, h⟩
    cases holder with
    | main => exact Or.inl (Or.inl (Or.inl (Or.inl (Or.inl h))))
    | clone n => exact Or.inl (Or.inl (Or.inl (Or.inl (Or.inr (Nat.ne_zero_of_lt h)))))
    | guard i => exact Or.inl (Or.inl (Or.inl (Or.inr ⟨i, h⟩)))
    | stream i => exact Or.inl (Or.inl (Or.inr ⟨i, h⟩))
    | greeting i => exact Or.inl (Or.inr ⟨i, h⟩)
    | reader i => exact Or.inr (Or.inl ⟨i, h⟩)
    | supervisor i => exact Or.inr (Or.inr ⟨i, h⟩)

theorem held_of_task {i : Nat} {t : Task} (hi : s.tasks.get? i = some t) (h : t.holds = true) :
    s.held = true := by
  have hany : s.tasks.values.any Task.holds = true :=
    List.any_eq_true.mpr ⟨t, Table.mem_values hi, h⟩
  simp only [held, hany, Bool.or_true]

/-- Nobody has come to hold a handle where nobody held one. -/
def Recedes (s s' : Session) : Prop := s'.held = true → s.held = true

theorem recedes_of_holds (h : ∀ holder, s'.Holds holder → s.Holds holder) : s.Recedes s' := by
  intro hheld
  obtain ⟨holder, hholder⟩ := s'.held_iff.mp hheld
  exact s.held_iff.mpr ⟨holder, h holder hholder⟩

theorem recedes_putTask {i : Nat} {t : Task} (hi : s.tasks.get? i = some t) {t' : Task}
    (h : t'.holds = true → t.holds = true) (hub : Hub) (links : Table Nat WebSocket.Link) :
    s.Recedes (s.putTask i t' hub links) := by
  by_cases hsame : t'.holds = t.holds
  · intro hheld
    rwa [held_putTask t' hub links hi hsame] at hheld
  · have hwas : t.holds = true := by
      cases ht : t.holds with
      | true => rfl
      | false =>
        rw [ht] at h hsame
        exact absurd (Bool.eq_false_iff.mpr fun h' => by cases h h') hsame
    exact fun _ => held_of_task hi hwas

/-! ### The end of the loop -/

/-- If the loop has ended, nobody can submit a command any more, and it has ended in order. -/
def EndedWell (s : Session) : Prop := s.hub.running = false → s.held = false ∧ s.hub.IsDone

/-- A session goes on, and this is what happens to its hub on the way: where nobody holds a handle
nobody comes to hold one, and nothing happens but what the loop and receivers do. -/
structure Proceeds (s s' : Session) (course : List Hub.Happening) : Prop where
  hub : s'.hub = s.hub.undergo course
  tidy : s.Tidy → s'.Tidy
  recedes : s.Recedes s'
  silent : s.held = false → ∀ x ∈ course, x.isSilent = true ∨ x = .stopped
  ended : s.EndedWell → s'.EndedWell
  proper : s.EndedWell → s.hub.Proper course

theorem Recedes.unheld (h : s.Recedes s') (hs : s.held = false) : s'.held = false := by
  refine Bool.eq_false_iff.mpr fun h' => ?_
  rw [h h'] at hs
  cases hs

theorem Proceeds.refl (s : Session) : s.Proceeds s [] :=
  ⟨rfl, id, id, fun _ => List.forall_mem_nil _, id, fun _ => trivial⟩

theorem Proceeds.trans {course course' : List Hub.Happening} (h : s.Proceeds s' course)
    (h' : s'.Proceeds s'' course') : s.Proceeds s'' (course ++ course') where
  hub := by rw [h'.hub, h.hub, Hub.undergo_append]
  tidy ht := h'.tidy (h.tidy ht)
  recedes hheld := h.recedes (h'.recedes hheld)
  silent hheld x hx := (List.mem_append.mp hx).elim (h.silent hheld x)
    (h'.silent (h.recedes.unheld hheld) x)
  ended he := h'.ended (h.ended he)
  proper he := Hub.proper_append.mpr ⟨h.proper he, h.hub ▸ h'.proper (h.ended he)⟩

/-- What does not end the loop, makes nobody a holder, and submits nothing where there is none. -/
theorem Proceeds.of_quiet {course : List Hub.Happening} (hhub : s'.hub = s.hub.undergo course)
    (htidy : s.Tidy → s'.Tidy) (hrecedes : s.Recedes s') (hstopped : .stopped ∉ course)
    (hsilent : s.held = false → ∀ x ∈ course, x.isSilent = true) : s.Proceeds s' course where
  hub := hhub
  tidy := htidy
  recedes := hrecedes
  silent hheld x hx := Or.inl (hsilent hheld x hx)
  ended he hr := by
    rw [hhub, Hub.undergo_running hstopped] at hr
    obtain ⟨hheld, hdone⟩ := he hr
    exact ⟨hrecedes.unheld hheld, hhub ▸ hdone.undergo course⟩
  proper he := by
    cases hr : s.hub.running with
    | true => exact Hub.proper_of_running hr hstopped
    | false => exact Hub.proper_of_silent (hsilent (he hr).1)

/-- Whoever holds a handle may submit what he likes. -/
theorem Proceeds.of_held {course : List Hub.Happening} (hheld : s.held = true)
    (hhub : s'.hub = s.hub.undergo course) (htidy : s.Tidy → s'.Tidy)
    (hstopped : .stopped ∉ course) : s.Proceeds s' course :=
  .of_quiet hhub htidy (fun _ => hheld) hstopped fun h => by rw [hheld] at h; cases h

/-- What leaves the hub alone and makes nobody a holder. -/
theorem Proceeds.of_apart (hhub : s'.hub = s.hub) (htidy : s.Tidy → s'.Tidy)
    (hrecedes : s.Recedes s') : s.Proceeds s' [] :=
  .of_quiet hhub htidy hrecedes List.not_mem_nil fun _ => List.forall_mem_nil _

/-! ### Moves -/

theorem tidy_putTask {i : Nat} {t : Task} (hi : s.tasks.get? i = some t) (t' : Task) (hub : Hub)
    (links : Table Nat WebSocket.Link) (h : s.Tidy) : (s.putTask i t' hub links).Tidy := by
  intro j hj
  show j ∈ (s.tasks.insert i t').keys
  rw [Table.keys_insert t' hi]
  exact h j hj

/-- A task that goes on, holds nothing that it did not hold, and says nothing unless it held
something. -/
theorem proceeds_putTask {i : Nat} {t t' : Task} (hi : s.tasks.get? i = some t)
    (hholds : t'.holds = true → t.holds = true) {hub : Hub} {course : List Hub.Happening}
    (hhub : hub = s.hub.undergo course) (hstopped : .stopped ∉ course)
    (hsilent : t.holds = false → ∀ x ∈ course, x.isSilent = true)
    (links : Table Nat WebSocket.Link) : s.Proceeds (s.putTask i t' hub links) course := by
  refine .of_quiet hhub (tidy_putTask hi t' hub links) (recedes_putTask hi hholds hub links)
    hstopped fun hheld => hsilent (Bool.eq_false_iff.mpr fun h => ?_)
  rw [held_of_task hi h] at hheld
  cases hheld

theorem proceeds_of_observe {i : Nat} {look : Pair → Pair × List Command × List Entry}
    (hdeparts : ∀ p, ∀ command ∈ (look p).2.1, command.departs = true)
    (hholds : ∀ p, (look p).1.holds = true → p.holds = true)
    (hsilent : ∀ p : Pair, p.isLive = false → (look p).2.1 = []) :
    s.Proceeds (s.observe i look) (match (s.tasks.get? i).bind Task.pair? with
      | some p => Hub.leaving (look p).2.2 (look p).2.1
      | none => []) := by
  cases hi : (s.tasks.get? i).bind Task.pair? with
  | none =>
    rw [observe_of_unpaired hi]
    exact .refl s
  | some p =>
    have htask := get?_of_pair? hi
    have hplain := fun x hx => Command.plain_of_departs (hdeparts p x hx)
    rw [observe_eq htask]
    refine @proceeds_putTask s i _ (.paired (look p).1) htask (hholds p) _ _
      (Hub.undergo_leaving _ hplain).symm
      (Hub.stopped_not_mem_leaving _ _) (fun h => Hub.silent_leaving (hsilent p ?_)) s.links
    simp only [Task.holds, Pair.holds, Bool.or_eq_false_iff] at h
    exact h.1

theorem holds_observeWriter (p : Pair) (h : p.observeWriter.1.holds = true) : p.holds = true := by
  unfold Pair.observeWriter at h
  split at h
  · rename_i hgo
    simp only [Bool.and_eq_true] at hgo
    simp [Pair.holds, Pair.isLive, hgo.1]
  · exact h

theorem holds_observeReader (p : Pair) (h : p.observeReader.1.holds = true) : p.holds = true := by
  unfold Pair.observeReader at h
  split at h
  · rename_i hgo
    simp only [Bool.and_eq_true, decide_eq_true_eq] at hgo
    simp [Pair.holds, Pair.isLive, hgo.1, Stage.guards]
  · exact h

theorem holds_start (p : Pair) (h : p.start.holds = true) : p.holds = true := by
  unfold Pair.start at h
  split at h
  · rename_i hstage
    simp [Pair.holds, Pair.isLive, hstage]
  · exact h

theorem holds_abort (t : Task) (h : t.abort.1.holds = true) : t.holds = true := by
  have hreader (r : Reader) (h : r.cancel.outcome.isLive = true) : r.outcome.isLive = true := by
    unfold Reader.cancel at h
    split at h
    · cases h
    · exact h
  cases t with
  | writing w => exact h
  | reading r => exact hreader r h
  | paired p =>
    simp only [Task.abort, Pair.abort] at h
    simp only [Task.holds, Pair.holds, Pair.isLive, Bool.or_eq_true]
    cases hs : p.stage <;> simp [Task.holds, Pair.holds, Pair.isLive, hs, Stage.guards] at h ⊢
    all_goals exact h

theorem silent_write (s : Session) (i : Nat) : ∀ x ∈ s.effect (.write i), x.isSilent = true := by
  simp only [effect]
  split
  · exact List.forall_mem_nil _
  · split
    · rename_i w box _ _
      intro x hx
      rcases List.mem_append.mp hx with hx | hx
      · exact Hub.silent_doings (w.acts_silent box) x hx
      · rw [List.mem_singleton.mp hx]
        rfl
    · exact List.forall_mem_nil _

theorem recedes_stepWriter (s : Session) (i : Nat) : s.Recedes (s.stepWriter i) := by
  rcases s.writer_cases i with ⟨hsame, -⟩ | ⟨t, w, box, h⟩
  · rw [hsame]
    exact id
  · rw [h.step_eq]
    exact recedes_putTask h.task (fun hholds => by rwa [t.holds_setWriter] at hholds) _ _

theorem proceeds_stepReader (s : Session) (i : Nat) :
    s.Proceeds (s.stepReader i) (s.effect (.read i)) := by
  cases hi : s.tasks.get? i with
  | none =>
    simp only [stepReader, effect, hi, Option.bind_none]
    exact .refl s
  | some t =>
    cases hr : t.reader? with
    | none =>
      simp only [stepReader, effect, hi, Option.bind_some, hr]
      exact .refl s
    | some r =>
      have heffect : s.effect (.read i) = Hub.leaving r.step.2.2 r.step.2.1 := by
        simp only [effect, hi, Option.bind_some, hr]
      have hplain := fun x hx => Command.plain_of_departs (r.step_departs x hx)
      rw [heffect, stepReader_eq hi hr]
      refine proceeds_putTask hi (fun hholds => ?_) (Hub.undergo_leaving _ hplain).symm
        (Hub.stopped_not_mem_leaving _ _) (fun h => Hub.silent_leaving ?_) s.links
      · -- A step of a reader wakes it not up again.
        obtain ⟨-, -, ⟨-, ho⟩ | ⟨hrunning, -⟩⟩ := r.step_cases
        · rwa [Task.holds_setReader hr ho] at hholds
        · exact t.holds_iff.mpr (Or.inl ⟨r, hr, by rw [hrunning]; rfl⟩)
      · refine Reader.commands_of_ended (Bool.eq_false_iff.mpr fun hlive => ?_)
        rw [t.holds_iff.mpr (Or.inl ⟨r, hr, hlive⟩)] at h
        cases h

theorem proceeds_cancelTask (s : Session) (i : Nat) :
    s.Proceeds (s.cancelTask i) (s.effect (.cancel i)) := by
  let s₀ : Session := { s with doomed := s.doomed.filter (· ≠ i) }
  have htidy₀ (h : s.Tidy) : s₀.Tidy := fun j hj => h j (List.mem_of_mem_filter hj)
  have hhub := s.cancelTask_effect i
  cases hi : s.tasks.get? i with
  | none =>
    have hcancel : s.cancelTask i = s₀ := by
      show s₀.replaceTask i Task.abort = s₀
      have hi₀ : s₀.tasks.get? i = none := hi
      simp only [replaceTask, hi₀]
    have heffect : s.effect (.cancel i) = [] := by simp only [effect, hi]
    rw [hcancel, heffect]
    exact .of_apart rfl htidy₀ id
  | some t =>
    have hi₀ : s₀.tasks.get? i = some t := hi
    obtain ⟨hub, -, hcancel⟩ := cancelTask_eq hi
    have heffect : s.effect (.cancel i) =
        (if t.owns && !t.abort.1.owns then [.act (.abandon t.connection)] else []) ++
          Hub.handing t.abort.2 := by simp only [effect, hi]
    refine .of_quiet hhub (fun h => ?_) ?_ ?_ fun hheld => ?_
    · rw [hcancel]
      exact tidy_putTask hi₀ _ hub s.links (htidy₀ h)
    · rw [hcancel]
      have hrecedes : s₀.Recedes (s₀.putTask i t.abort.1 hub s.links) :=
        recedes_putTask hi₀ (holds_abort t) hub s.links
      exact hrecedes
    · rw [heffect]
      intro hmem
      rcases List.mem_append.mp hmem with hmem | hmem
      · split at hmem <;> simp at hmem
      · exact Hub.stopped_not_mem_doings _ hmem
    · have hnone : t.abort.2 = [] := by
        refine Task.commands_of_ended (Bool.eq_false_iff.mpr fun h => ?_)
        rw [held_of_task hi h] at hheld
        cases hheld
      rw [heffect, hnone]
      split <;> simp [Hub.handing, Hub.doings, Hub.Happening.isSilent]

theorem proceeds_giveUp (s : Session) (i : Nat) :
    s.Proceeds (s.giveUpGreeting i) (s.effect (.giveUp i)) := by
  have hhub := s.perform_hub (.giveUp i)
  have htidy := (s.giveUpGreeting_advances i).1.tidy
  cases hi : s.greetings.get? i with
  | none =>
    have hsame : s.giveUpGreeting i = s := by simp only [giveUpGreeting, hi]
    have heffect : s.effect (.giveUp i) = [] := by simp only [effect, hi]
    rw [hsame, heffect]
    exact .refl s
  | some g =>
    have hheld : s.held = true := s.held_iff.mpr ⟨.greeting i, by simp [Holds, hi]⟩
    refine .of_held hheld hhub htidy ?_
    simp only [effect, hi]
    split <;> simp

theorem proceeds_stop (s : Session) : s.Proceeds s.stopIfIdle (s.effect .stop) := by
  simp only [stopIfIdle, effect]
  split
  · rename_i h
    simp only [Bool.and_eq_true, List.isEmpty_iff, Bool.not_eq_true'] at h
    obtain ⟨⟨hr, hp⟩, hheld⟩ := h
    exact ⟨rfl, id, id, fun _ x hx => Or.inr (List.mem_singleton.mp hx),
      fun _ _ => ⟨hheld, s.hub.isDone_stop⟩,
        fun _ => ⟨⟨fun hne => absurd rfl hne, fun _ => ⟨hr, hp⟩⟩, trivial⟩⟩
  · exact .refl s

/-- Every move is proper: the loop ends only when nobody holds a handle and nothing is pending, and
only who holds a handle submits anything. -/
theorem proceeds_perform (s : Session) (m : Move) : s.Proceeds (s.perform m) (s.effect m) := by
  cases m with
  | apply =>
    have hadvances := s.applyNext_advances.1
    exact .of_quiet rfl hadvances.tidy id (by simp [effect])
      fun _ => by simp [effect, Hub.Happening.isSilent]
  | stop => exact s.proceeds_stop
  | start i =>
    refine .of_apart ?_ (s.startTask_advances i).1.tidy ?_
    · simp only [perform, startTask]
      split <;> rfl
    · cases hi : (s.tasks.get? i).bind Task.pair? with
      | none =>
        have hsame : s.startTask i = s := by
          unfold startTask
          split
          · rename_i p hp
            rw [hp] at hi
            cases hi
          · rfl
        rw [perform, hsame]
        exact id
      | some p =>
        have htask := get?_of_pair? hi
        rw [perform, startTask_eq htask]
        exact @recedes_putTask s i _ htask (.paired p.start) (holds_start p) _ _
  | write i =>
    have hsilent := s.silent_write i
    exact .of_quiet (s.stepWriter_hub i) (s.stepWriter_advances i).1.tidy (s.recedes_stepWriter i)
      (fun hmem => Hub.Happening.ne_stopped_of_silent (hsilent _ hmem) rfl) fun _ => hsilent
  | read i => exact s.proceeds_stepReader i
  | observeWriter i =>
    exact proceeds_of_observe Pair.observeWriter_departs holds_observeWriter
      fun _ => Pair.commands_of_ended
  | observeReader i =>
    exact proceeds_of_observe Pair.observeReader_departs holds_observeReader
      fun p _ => p.observeReader_commands
  | cancel i => exact s.proceeds_cancelTask i
  | giveUp i => exact s.proceeds_giveUp i

theorem proceeds_performAll (s : Session) (moves : List Move) :
    s.Proceeds (s.performAll moves) (s.effects moves) := by
  induction moves generalizing s with
  | nil => exact .refl s
  | cons m rest ih => exact (s.proceeds_perform m).trans (ih (s.perform m))

theorem proceeds_settle (s : Session) : s.Proceeds s.settle s.settling := by
  obtain ⟨due, resting, hs⟩ := settle_eq s
  rw [hs]
  have hmoves := s.proceeds_performAll s.settleMoves
  exact ⟨hmoves.hub, hmoves.tidy, hmoves.recedes, hmoves.silent, hmoves.ended, hmoves.proper⟩

/-! ### Actions -/

theorem held_of_main (h : s.main = true) : s.held = true := s.held_iff.mpr ⟨.main, h⟩

theorem held_of_handle (h : (s.main || decide (s.clones ≠ 0)) = true) : s.held = true := by
  rcases (Bool.or_eq_true _ _).mp h with h | h
  · exact held_of_main h
  · exact s.held_iff.mpr ⟨.clone 0, Nat.pos_of_ne_zero (of_decide_eq_true h)⟩

theorem held_of_stream {i : Nat} {x : Stream} (hi : s.streams.get? i = some x) : s.held = true :=
  s.held_iff.mpr ⟨.stream i, by simp [Holds, hi]⟩

theorem held_of_greeting {i : Nat} {g : Greeting} (hi : s.greetings.get? i = some g) :
    s.held = true :=
  s.held_iff.mpr ⟨.greeting i, by simp [Holds, hi]⟩

/-- What the sinks of tasks are does not matter. -/
theorem proceeds_mapSink (s : Session) (i : Nat) (f : Sink → Sink)
    (links : Table Nat WebSocket.Link) :
    s.Proceeds { s with tasks := s.tasks.modify i (·.mapSink f), links } [] := by
  have hholds (t : Task) : (t.mapSink f).holds = t.holds := by cases t <;> rfl
  refine .of_apart rfl (fun h j hj => ?_) fun h => ?_
  · rw [Table.keys_modify]
    exact h j hj
  · simpa only [held, Table.any_modify hholds] using h

theorem proceeds_arrive (s : Session) (i : Nat) (frame : Inbound) :
    s.Proceeds (s.arrive i frame).2 [] := by
  cases hi : s.tasks.get? i with
  | none =>
    simp only [arrive, hi]
    exact .refl s
  | some t =>
    cases hr : t.reader? with
    | none =>
      simp only [arrive, hi, hr]
      exact .refl s
    | some r =>
      have hholds := Task.holds_setReader hr (r.receive_outcome frame)
      simp only [arrive, hi, hr]
      exact proceeds_putTask hi (fun h => hholds ▸ h) rfl List.not_mem_nil
        (fun _ => List.forall_mem_nil _) s.links

theorem proceeds_endInput (s : Session) (i : Nat) : s.Proceeds (s.endInput i) [] := by
  cases hi : s.tasks.get? i with
  | none =>
    simp only [endInput, hi]
    exact .refl s
  | some t =>
    cases hr : t.reader? with
    | none =>
      simp only [endInput, hi, hr]
      exact .refl s
    | some r =>
      have ho : r.endInput.outcome = r.outcome := rfl
      have hholds := Task.holds_setReader hr ho
      simp only [endInput, hi, hr]
      exact proceeds_putTask hi (fun h => hholds ▸ h) rfl List.not_mem_nil
        (fun _ => List.forall_mem_nil _) s.links

theorem proceeds_absorb (s : Session) (i : Nat) (arrival : WebSocket.Arrival) :
    s.Proceeds (s.absorb i arrival) [] := by
  have hall (frames : List Inbound) (s : Session) :
      s.Proceeds (frames.foldl (fun s frame => (s.arrive i frame).2) s) [] := by
    induction frames generalizing s with
    | nil => exact .refl s
    | cons frame rest ih => exact (s.proceeds_arrive i frame).trans (ih _)
  exact (s.proceeds_mapSink i _ _).trans (hall _ _)

theorem proceeds_closeStream (s : Session) (i : Nat) :
    s.Proceeds (s.closeStream i) (s.closeCourse i) := by
  have hhub := s.closeStream_course i
  cases hi : s.streams.get? i with
  | none =>
    simp only [closeStream, closeCourse, hi]
    exact .refl s
  | some x =>
    refine .of_held (held_of_stream hi) hhub ?_ ?_
    · simp only [closeStream, hi]
      exact id
    · simp only [closeCourse, hi]
      exact Hub.stopped_not_mem_doings _

theorem proceeds_readStream (s : Session) (i : Nat) (limit : Option Nat) :
    s.Proceeds (s.readStream i limit).2 (s.readCourse i limit) := by
  have hhub := s.readStream_course i limit
  cases hi : s.streams.get? i with
  | none =>
    simp only [readStream, readCourse, hi]
    exact .refl s
  | some x =>
    refine .of_held (held_of_stream hi) hhub ?_ ?_
    · cases hbox : s.hub.mailbox? x.connection with
      | none =>
        simp only [readStream, hi, hbox]
        exact id
      | some box =>
        intro h
        rw [readStream_eq hi hbox limit]
        split
        · exact (proceeds_closeStream _ i).tidy h
        · exact h
    · simp only [readCourse, hi]
      split
      · exact List.not_mem_nil
      · split <;> simp [Hub.doings]

theorem stopped_not_mem_handleCourse (d : DomainEvent) : .stopped ∉ handleCourse d := by
  simp [handleCourse, Hub.leaving, Hub.handing, Hub.doings]

theorem proceeds_handle (hheld : s.held = true) (d : DomainEvent) :
    s.Proceeds (s.handle d).2 (handleCourse d) :=
  .of_held hheld (s.handle_hub d) (fun h => h) (stopped_not_mem_handleCourse d)

theorem proceeds_publish (hheld : s.held = true) (d : DomainEvent) :
    s.Proceeds (s.publish d).2 (publishCourse d) := by
  refine .of_held hheld (s.publish_hub d) (fun h => h) fun hmem => ?_
  rcases List.mem_cons.mp hmem with he | hmem
  · cases he
  · exact stopped_not_mem_handleCourse d hmem

theorem proceeds_stats (hheld : s.held = true) : s.Proceeds s.stats.2 s.statsCourse := by
  let asked : Session := { s with hub := s.hub.askStats.2 }
  have hasked : s.Proceeds asked [.act .askStats] :=
    .of_held hheld rfl (fun h => h) (by simp)
  have hanswered : asked.settle.Proceeds s.stats.2 [.fetched s.hub.nextTicket] :=
    .of_quiet rfl (fun h => h) id (by simp) fun _ => by simp [Hub.Happening.isSilent]
  exact (hasked.trans asked.proceeds_settle).trans hanswered

theorem proceeds_finish (config : Config) (hheld : s.held = true) (kept : Bool) (e : Web.Errand) :
    s.Proceeds (e.finish config s kept) (e.course s kept) := by
  have hhub := Web.Errand.finish_hub config s kept e
  cases e with
  | nothing => exact .refl s
  | upgrade student => exact .refl s
  | publish d => exact proceeds_publish hheld d
  | figures => exact proceeds_stats hheld
  | stream a =>
    refine .of_held hheld hhub ?_ ?_
    · cases kept with
      | true => exact id
      | false => exact fun h => (proceeds_closeStream (Web.openStream config a s).2 s.next).tidy h
    · cases kept <;> simp [Web.Errand.course, Hub.doings]

theorem proceeds_logAll (s : Session) (entries : List Entry) :
    s.Proceeds (s.logAll entries) [.noted entries] :=
  .of_quiet rfl (fun h => h) id (by simp) fun _ => by simp [Hub.Happening.isSilent]

theorem tidy_addTask (t : Task) (h : s.Tidy) : (s.addTask t).2.Tidy :=
  fun j hj => Table.mem_keys_insert t (h j hj)

theorem proceeds_connect (config : Config) (hheld : s.held = true) (e : Web.Errand)
    (failure : Option String) : s.Proceeds
      (match e, failure with
        | .upgrade student, none => (s.beginGreeting student).2
        | .upgrade student, some why => s.log (.upgradeFailed student why)
        | e, _ => e.finish config s false) (e.connectCourse s failure) := by
  cases e with
  | upgrade student =>
    cases failure with
    | none => exact .of_held hheld rfl (fun h => h) (by simp [Web.Errand.connectCourse])
    | some why => exact s.proceeds_logAll [.upgradeFailed student why]
  | nothing | stream | publish | figures => exact proceeds_finish config hheld false _

theorem proceeds_webStep (config : Config) (s : Session) (x : Web.Step)
    (hallowed : (s.main || !x.usesMain) = true) :
    s.Proceeds (Web.perform config s x) (Web.course config s x) := by
  cases x with
  | http r kept =>
    have hmain : s.main = true := by simpa [Web.Step.usesMain] using hallowed
    rw [Web.perform_http]
    exact (s.proceeds_logAll _).trans
      (@proceeds_finish (s.logAll _) config (held_of_main hmain) _ _)
  | connect r failure =>
    have hmain : s.main = true := by simpa [Web.Step.usesMain] using hallowed
    rw [Web.perform_connect]
    exact (s.proceeds_logAll _).trans
      (@proceeds_connect (s.logAll _) config (held_of_main hmain) _ failure)
  | greet i =>
    have hhub := s.webStep_hub config (.greet i)
    rcases s.greeting_cases i with ⟨c, student, hi⟩ | ⟨hnone, hsame⟩
    · refine .of_held (held_of_greeting hi) hhub ?_ (by simp [Web.course, hi])
      simp only [Web.perform, finishGreeting, hi]
      exact fun h j hj => Table.mem_keys_insert _ (h j hj)
    · rw [Web.course_greet_of_obstructed hnone, Web.perform, hsame]
      exact .refl s
  | hangUp i why =>
    refine .of_apart rfl (fun h => h) (recedes_of_holds fun holder hholder => ?_)
    cases holder with
    | greeting j =>
      simp only [Holds, Web.perform, obstructGreeting, Table.get?_modify] at hholder ⊢
      split at hholder
      · rwa [Option.isSome_map] at hholder
      · exact hholder
    | _ => exact hholder
  | read i limit => exact s.proceeds_readStream i limit
  | drop i => exact s.proceeds_closeStream i
  | bytes i data =>
    simp only [Web.perform, feed, Web.course]
    split
    · split
      · exact s.proceeds_absorb i _
      · exact .refl s
    · exact .refl s
  | lose i =>
    simp only [Web.perform, Session.lose, Web.course]
    split
    · split
      · exact s.proceeds_absorb i _
      · exact .refl s
    · exact .refl s
  | sever i why => exact s.proceeds_mapSink i (Sink.sever why) s.links
  | inbound i frame => exact s.proceeds_arrive i frame
  | endInput i => exact s.proceeds_endInput i
  | publish d =>
    exact proceeds_publish (held_of_main (by simpa [Web.Step.usesMain] using hallowed)) d
  | handle d =>
    exact proceeds_handle (held_of_main (by simpa [Web.Step.usesMain] using hallowed)) d
  | advance ms =>
    have hlater : s.Proceeds { s with clock := s.clock + ms } [] := .of_apart rfl (fun h => h) id
    exact hlater.trans (proceeds_settle { s with clock := s.clock + ms })
  | move m =>
    simp only [Web.perform, Web.course]
    split
    · exact .refl s
    · exact s.proceeds_perform m
  | settle => exact s.proceeds_settle

theorem stopped_not_mem_builtCourse (kind payload : String) (act : Event → Hub.Act) :
    .stopped ∉ builtCourse kind payload act := by
  unfold builtCourse
  split <;> simp

theorem proceeds_submitEvent (hheld : s.held = true) (kind payload : String)
    {act : Event → Hub → Hub} {handed : Event → Hub.Act}
    (h : ∀ e hub, act e hub = hub.perform (handed e)) :
    s.Proceeds (s.submitEvent kind payload act).2 (builtCourse kind payload handed) := by
  refine .of_held hheld (s.submitEvent_hub kind payload h) ?_
    (stopped_not_mem_builtCourse kind payload handed)
  unfold submitEvent
  split <;> exact id

/-- Every possible action is proper. -/
theorem proceeds_act (config : Config) (s : Session) (action : Action)
    (hallowed : s.allows action = true) :
    s.Proceeds (s.act config action) (s.course config action) := by
  have hhub := s.act_hub config action
  cases action with
  | web step => exact s.proceeds_webStep config step hallowed
  | register a => exact .of_held (held_of_handle hallowed) hhub (fun h => h) (by simp [course])
  | unregister c => exact .of_held (held_of_handle hallowed) hhub (fun h => h) (by simp [course])
  | unregisterUnknown =>
    exact .of_held (held_of_handle hallowed) hhub (fun h => h) (by simp [course])
  | send scope kind payload =>
    exact proceeds_submitEvent (held_of_handle hallowed) kind payload fun _ _ => rfl
  | sendTo audiences kind payload =>
    exact proceeds_submitEvent (held_of_handle hallowed) kind payload fun _ _ => rfl
  | sendToStudents students kind payload =>
    exact proceeds_submitEvent (held_of_handle hallowed) kind payload fun _ _ => rfl
  | stats => exact proceeds_stats (held_of_handle hallowed)
  | cloneHandle => exact .of_held (held_of_handle hallowed) rfl (fun h => h) List.not_mem_nil
  | addGuard c => exact .of_held (held_of_handle hallowed) rfl (fun h => h) List.not_mem_nil
  | openStream c keepAlive =>
    exact .of_held (held_of_handle hallowed) rfl (fun h => h) List.not_mem_nil
  | runPair c encode sink =>
    exact .of_held (held_of_handle hallowed) rfl (tidy_addTask _) List.not_mem_nil
  | runReader c => exact .of_held (held_of_handle hallowed) rfl (tidy_addTask _) List.not_mem_nil
  | runWriter c encode sink =>
    refine .of_apart rfl (tidy_addTask _) fun h => ?_
    have hnot : Task.holds (.writing (.new c encode sink .running)) = false := rfl
    simp only [act, runWriter, addTask, fresh, held, Bool.or_eq_true] at h ⊢
    exact h.imp_right (Table.any_of_any_insert hnot)
  | dropClones =>
    refine .of_apart rfl (fun h => h) (recedes_of_holds fun holder hholder => ?_)
    cases holder with
    | clone n => exact absurd hholder (Nat.not_lt_zero n)
    | _ => exact hholder
  | dropMain =>
    refine .of_apart rfl (fun h => h) (recedes_of_holds fun holder hholder => ?_)
    cases holder with
    | main => cases hholder
    | _ => exact hholder
  | receive c limit =>
    have hsilent : ∀ x ∈ s.receiveCourse c limit, x.isSilent = true := by
      unfold receiveCourse
      split
      · exact List.forall_mem_nil _
      · exact Hub.silent_doings (Hub.silent_takes c _)
    refine .of_quiet hhub ?_ ?_
      (fun hmem => Hub.Happening.ne_stopped_of_silent (hsilent _ hmem) rfl) fun _ => hsilent
    · simp only [act, receive]
      split <;> exact id
    · simp only [act, receive]
      split <;> exact id
  | refuseMore c =>
    exact .of_quiet hhub (fun h => h) id (by simp [course])
      fun _ => by simp [course, Hub.Happening.isSilent]
  | abandon c =>
    exact .of_quiet hhub (fun h => h) id (by simp [course])
      fun _ => by simp [course, Hub.Happening.isSilent]
  | dropGuard i =>
    cases hi : s.guards.get? i with
    | none =>
      simp only [act, dropGuard, course, dropGuardCourse, hi]
      exact .refl s
    | some c =>
      have hheld : s.held = true := s.held_iff.mpr ⟨.guard i, by simp [Holds, hi]⟩
      refine .of_held hheld hhub ?_ (by simp [course, dropGuardCourse, hi])
      simp only [act, dropGuard, hi]
      exact id
  | setReady i ready => exact s.proceeds_mapSink i _ s.links
  | collect i =>
    simp only [act, collect, course]
    split
    · exact .refl s
    · exact s.proceeds_mapSink i _ s.links
  | abort i =>
    simp only [act, abort, course]
    split
    · exact .refl s
    · rename_i t hi
      split
      · refine .of_apart rfl (fun h j hj => ?_) id
        rcases List.mem_cons.mp hj with rfl | hj
        · exact (s.tasks.mem_keys_iff _).mpr (by rw [hi]; rfl)
        · exact h j hj
      · exact .refl s
  | cutOff i => exact s.proceeds_perform (.cancel i)

/-- So is every run. -/
theorem proceeds_enactAll (config : Config) (s : Session) (actions : List Action) :
    s.Proceeds (s.enactAll config actions) (s.history config actions) := by
  induction actions generalizing s with
  | nil => exact .refl s
  | cons action rest ih =>
    have hfirst : s.Proceeds (s.enact config action)
        (if s.allows action then s.course config action else []) := by
      unfold enact
      split
      · rename_i hallowed
        exact s.proceeds_act config action hallowed
      · exact .refl s
    exact hfirst.trans (ih (s.enact config action))

end Session
end LiveUpdate
