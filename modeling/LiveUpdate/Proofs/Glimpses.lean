import Mathlib.Data.List.Forall2
import LiveUpdate.Stream
import LiveUpdate.WebSocket.Link

/-! What can be seen of a session from one connection. The events that come up for it, and the order
in which they come between its own reads, writes and input, fix everything that its client gets. -/
namespace LiveUpdate

/-- Something that happens at one connection. -/
inductive Glimpse
  /-- The loop comes to an event that is meant for it. -/
  | offered (e : Event)
  /-- Its writer takes an event. -/
  | took (e : Event)
  /-- The frame of an event goes out. -/
  | shown (e : Event)
  /-- Its session is greeted. -/
  | greeted
  /-- Bytes of its client arrive, or the client is lost, and these frames answer it. -/
  | heard (data : Option (List UInt8)) (replies : List Outgoing)
  /-- Its transport is closed in order, with these frames. -/
  | closed (farewell : List Outgoing)
  /-- Its response body is read at a moment, with or without a limit, and yields these blocks. -/
  | read (now : Nat) (limit : Option Nat) (blocks : List String)
  deriving DecidableEq, Repr

namespace Glimpse

/-- The same thing happens, whatever the hub or the server puts into it. -/
inductive Alike : Glimpse → Glimpse → Prop
  | offered (e e' : Event) : Alike (.offered e) (.offered e')
  | took (e e' : Event) : Alike (.took e) (.took e')
  | shown (e e' : Event) : Alike (.shown e) (.shown e')
  | greeted : Alike .greeted .greeted
  | heard (data : Option (List UInt8)) (replies replies' : List Outgoing) :
    Alike (.heard data replies) (.heard data replies')
  | closed (farewell farewell' : List Outgoing) : Alike (.closed farewell) (.closed farewell')
  | read (now : Nat) (limit : Option Nat) (blocks blocks' : List String) :
    Alike (.read now limit blocks) (.read now limit blocks')

theorem Alike.refl (g : Glimpse) : Alike g g := by
  cases g <;> constructor

def offer? : Glimpse → Option Event
  | offered e => some e
  | _ => none

/-- The event that comes up, is taken or goes out. -/
def event? : Glimpse → Option Event
  | offered e | took e | shown e => some e
  | _ => none

/-- The frames that reach the client. -/
def frames : Glimpse → List Outgoing
  | shown e => [.text (Frame.json e)]
  | greeted => [.text (Frame.json .hello)]
  | heard _ replies => replies
  | closed farewell => farewell
  | _ => []

/-- The blocks that reach the client. -/
def blocks : Glimpse → List String
  | read _ _ texts => texts
  | _ => []

theorem offers_offered (events : List Event) :
    (events.map offered).filterMap offer? = events := by
  induction events with
  | nil => rfl
  | cons e rest ih => simp [offer?, ih]

theorem frames_offered (events : List Event) : (events.map offered).flatMap frames = [] := by
  induction events with
  | nil => rfl
  | cons e rest ih => simp [frames]

/-- Alike glimpses are equally many events that come up. -/
theorem length_offers {seen seen' : List Glimpse} (h : List.Forall₂ Alike seen seen') :
    (seen.filterMap offer?).length = (seen'.filterMap offer?).length := by
  induction h with
  | nil => rfl
  | cons hg _ ih => cases hg <;> simpa [List.filterMap_cons, offer?] using ih

end Glimpse

/-- What a connection has before it: the events that wait, the one in hand, the response body
through which they are read, and of a WebSocket session the receiving half and the last word. -/
structure Desk where
  waiting : List Event
  hand : Option Event
  stream : Option Stream
  link : Option WebSocket.Link
  farewell : Option Outgoing
  deriving DecidableEq, Repr

namespace Desk

variable {capacity : Nat} {d d' : Desk} {seen seen' : List Glimpse}

/-- The desk of a connection that has just registered, with the body that is open for it. -/
def fresh (stream : Option Stream) : Desk := ⟨[], none, stream, none, none⟩

/-- An event waits if there is room for it. -/
def wait (capacity : Nat) (waiting : List Event) (e : Event) : List Event :=
  if waiting.length < capacity then waiting ++ [e] else waiting

/-- What the arrival of bytes, or the loss of a client, is for a link. -/
def arrival (link : WebSocket.Link) : Option (List UInt8) → WebSocket.Arrival
  | some data => link.feed data
  | none => link.lose

/-- The last word after an arrival. -/
def lastWord (farewell : Option Outgoing) (a : WebSocket.Arrival) : Option Outgoing :=
  match a.ending with
  | some ending => ending.farewell
  | none => farewell

/-- The desk after a glimpse, if that can be seen there. -/
def accept (capacity : Nat) (d : Desk) : Glimpse → Option Desk
  | .offered e => some { d with waiting := wait capacity d.waiting e }
  | .took e =>
    match d.waiting, d.hand with
    | first :: rest, none =>
      if first = e then some { d with waiting := rest, hand := some e } else none
    | _, _ => none
  | .shown e =>
    if d.hand = some e ∧ d.link.isSome = true then some { d with hand := none } else none
  | .greeted =>
    if d.link = none then some { d with link := some .fresh, farewell := Sink.polite.farewell }
    else none
  | .heard data replies =>
    match d.link with
    | none => none
    | some link =>
      if (arrival link data).replies = replies then
        some { d with
          link := some (arrival link data).link
          farewell := lastWord d.farewell (arrival link data) }
      else none
  | .closed farewell =>
    if d.farewell.toList = farewell then some { d with farewell := none } else none
  | .read now limit blocks =>
    match d.stream with
    | none => none
    | some x =>
      let (texts, _, x, box) :=
        x.read ⟨d.waiting, true, .listening⟩ now (limit.getD (d.waiting.length + 2))
      if texts = blocks then some { d with waiting := box.waiting, stream := some x } else none

/-- The desk after all that has been seen. -/
def follow (capacity : Nat) (d : Desk) (seen : List Glimpse) : Option Desk :=
  seen.foldlM (accept capacity) d

theorem follow_cons (g : Glimpse) :
    d.follow capacity (g :: seen) = (d.accept capacity g).bind (follow capacity · seen) := by
  simp only [follow, List.foldlM_cons]
  rfl

theorem follow_append : d.follow capacity (seen ++ seen') =
    (d.follow capacity seen).bind (follow capacity · seen') := by
  simp only [follow, List.foldlM_append]
  rfl

theorem follow_singleton (g : Glimpse) : d.follow capacity [g] = d.accept capacity g := by
  rw [follow_cons]
  cases d.accept capacity g <;> rfl

theorem follow_offered (events : List Event) : d.follow capacity (events.map .offered) =
    some { d with waiting := events.foldl (wait capacity) d.waiting } := by
  induction events generalizing d with
  | nil => rfl
  | cons e rest ih =>
    rw [List.map_cons, follow_cons]
    exact ih

/-- What the hub and the server put into a glimpse is fixed by the desk, but for an event that
comes up. -/
theorem eq_of_accept {g g' : Glimpse} (halike : g.Alike g')
    (hoffer : g.offer?.isSome = true → g.offer? = g'.offer?)
    (h : (d.accept capacity g).isSome = true) (h' : (d.accept capacity g').isSome = true) :
    g = g' := by
  cases halike with
  | offered e e' => rw [Option.some.inj (hoffer rfl)]
  | took e e' =>
    simp only [accept] at h h'
    split at h
    · rename_i first rest hw hh
      simp only [hw, hh] at h'
      have he : first = e := by
        by_contra hne
        simp [hne] at h
      have he' : first = e' := by
        by_contra hne
        simp [hne] at h'
      rw [← he, ← he']
    · cases h
  | shown e e' =>
    have he : d.hand = some e := by
      by_contra hne
      simp [accept, hne] at h
    have he' : d.hand = some e' := by
      by_contra hne
      simp [accept, hne] at h'
    rw [he] at he'
    rw [Option.some.inj he']
  | greeted => rfl
  | heard data replies replies' =>
    simp only [accept] at h h'
    split at h
    · cases h
    · rename_i link hl
      simp only [hl] at h'
      have he : (arrival link data).replies = replies := by
        by_contra hne
        simp [hne] at h
      have he' : (arrival link data).replies = replies' := by
        by_contra hne
        simp [hne] at h'
      rw [← he, ← he']
  | closed farewell farewell' =>
    have he : d.farewell.toList = farewell := by
      by_contra hne
      simp [accept, hne] at h
    have he' : d.farewell.toList = farewell' := by
      by_contra hne
      simp [accept, hne] at h'
    rw [← he, ← he']
  | read now limit blocks blocks' =>
    simp only [accept] at h h'
    split at h
    · cases h
    · rename_i x hx
      simp only [hx] at h'
      have he : (x.read ⟨d.waiting, true, .listening⟩ now
          (limit.getD (d.waiting.length + 2))).1 = blocks := by
        by_contra hne
        simp [hne] at h
      have he' : (x.read ⟨d.waiting, true, .listening⟩ now
          (limit.getD (d.waiting.length + 2))).1 = blocks' := by
        by_contra hne
        simp [hne] at h'
      rw [← he, ← he']

/-- What is seen is fixed by its outline and the events that come up. -/
theorem follow_unique (halike : List.Forall₂ Glimpse.Alike seen seen')
    (hoffers : seen.filterMap Glimpse.offer? = seen'.filterMap Glimpse.offer?)
    (h : (d.follow capacity seen).isSome = true) (h' : (d.follow capacity seen').isSome = true) :
    seen = seen' := by
  induction halike generalizing d with
  | nil => rfl
  | @cons g g' seen seen' hg _ ih =>
    rw [follow_cons] at h h'
    have hsame : g = g' := by
      refine eq_of_accept hg (fun ho => ?_) (Option.isSome_of_isSome_bind h)
        (Option.isSome_of_isSome_bind h')
      cases hg with
      | offered e e' =>
        simp only [List.filterMap_cons, Glimpse.offer?, List.cons.injEq] at hoffers
        exact congrArg some hoffers.1
      | _ => cases ho
    subst hsame
    have hrest : seen.filterMap Glimpse.offer? = seen'.filterMap Glimpse.offer? := by
      cases ho : g.offer? <;> simpa [List.filterMap_cons, ho] using hoffers
    cases hd : d.accept capacity g with
    | none =>
      rw [hd] at h
      cases h
    | some d' =>
      rw [hd] at h h'
      rw [ih hrest h h']

/-! ### Where an event comes from -/

theorem mem_of_wait {waiting : List Event} {e e' : Event} (h : e ∈ wait capacity waiting e') :
    e ∈ waiting ∨ e = e' := by
  unfold wait at h
  split at h
  · simpa using h
  · exact Or.inl h

/-- Reading a body only takes events away. -/
theorem mem_of_read {x : Stream} {box : Mailbox} {now limit : Nat} {e : Event}
    (h : e ∈ (x.read box now limit).2.2.2.waiting) : e ∈ box.waiting := by
  induction limit generalizing x box with
  | zero => exact h
  | succ limit ih =>
    have hpoll (hp : e ∈ (x.poll box now).2.2.waiting) : e ∈ box.waiting := by
      unfold Stream.poll Mailbox.take at hp
      cases hw : box.waiting with
      | nil =>
        simp only [hw] at hp
        split at hp
        · rwa [hw] at hp
        · split at hp
          · split at hp <;> rwa [hw] at hp
          · rwa [hw] at hp
      | cons first rest =>
        simp only [hw] at hp
        exact List.mem_cons_of_mem _ hp
    rw [Stream.read] at h
    rcases hp : x.poll box now with ⟨polled, x', box'⟩
    rw [hp] at h hpoll
    cases polled with
    | chunk text => exact hpoll (ih h)
    | ended => exact hpoll h
    | pending => exact hpoll h

/-- Whether an event is on a desk. -/
def Holds (d : Desk) (e : Event) : Prop := e ∈ d.waiting ∨ d.hand = some e

/-- What is on a desk after a glimpse was there before, or comes up. -/
theorem holds_of_accept {g : Glimpse} {e : Event} (h : d.accept capacity g = some d')
    (he : d'.Holds e) : d.Holds e ∨ g.offer? = some e := by
  cases g with
  | offered first =>
    simp only [accept, Option.some.injEq] at h
    subst h
    rcases he with he | he
    · rcases mem_of_wait he with hold | rfl
      · exact Or.inl (Or.inl hold)
      · exact Or.inr rfl
    · exact Or.inl (Or.inr he)
  | took first =>
    simp only [accept] at h
    split at h
    · rename_i rest hw hh
      split at h
      · cases h
        rename_i hfirst
        rcases he with he | he
        · exact Or.inl (Or.inl (hw ▸ List.mem_cons_of_mem _ he))
        · cases he
          exact Or.inl (Or.inl (by rw [hw, hfirst]; exact List.mem_cons_self))
      · cases h
    · cases h
  | shown first =>
    simp only [accept] at h
    split at h
    · cases h
      rcases he with he | he
      · exact Or.inl (Or.inl he)
      · cases he
    · cases h
  | greeted =>
    simp only [accept] at h
    split at h
    · cases h
      exact Or.inl he
    · cases h
  | heard data replies =>
    simp only [accept] at h
    split at h
    · cases h
    · split at h
      · cases h
        exact Or.inl he
      · cases h
  | closed farewell =>
    simp only [accept] at h
    split at h
    · cases h
      exact Or.inl he
    · cases h
  | read now limit blocks =>
    simp only [accept] at h
    split at h
    · cases h
    · split at h
      · cases h
        rcases he with he | he
        · exact Or.inl (Or.inl (mem_of_read he))
        · exact Or.inl (Or.inr he)
      · cases h

/-- What is on a desk was there at first, or has come up. -/
theorem holds_of_follow {e : Event} (h : d.follow capacity seen = some d') (he : d'.Holds e) :
    d.Holds e ∨ e ∈ seen.filterMap Glimpse.offer? := by
  induction seen generalizing d with
  | nil =>
    cases h
    exact Or.inl he
  | cons g rest ih =>
    rw [follow_cons, Option.bind_eq_some_iff] at h
    obtain ⟨next, hnext, hrest⟩ := h
    rcases ih hrest with hold | hoffer
    · rcases holds_of_accept hnext hold with hold | hoffer
      · exact Or.inl hold
      · exact Or.inr (List.mem_filterMap.mpr ⟨g, List.mem_cons_self, hoffer⟩)
    · obtain ⟨g', hg', ho⟩ := List.mem_filterMap.mp hoffer
      exact Or.inr (List.mem_filterMap.mpr ⟨g', List.mem_cons_of_mem _ hg', ho⟩)

/-- No event is seen that was not on the desk and has not come up. -/
theorem offered_of_seen {g : Glimpse} {e : Event} (h : (d.follow capacity seen).isSome = true)
    (hg : g ∈ seen) (he : g.event? = some e) :
    d.Holds e ∨ e ∈ seen.filterMap Glimpse.offer? := by
  induction seen generalizing d with
  | nil => cases hg
  | cons first rest ih =>
    rw [follow_cons] at h
    obtain ⟨next, hnext⟩ := Option.isSome_iff_exists.mp (Option.isSome_of_isSome_bind h)
    rw [hnext] at h
    have hlater (ho : e ∈ rest.filterMap Glimpse.offer?) :
        e ∈ (first :: rest).filterMap Glimpse.offer? := by
      obtain ⟨g', hg', ho'⟩ := List.mem_filterMap.mp ho
      exact List.mem_filterMap.mpr ⟨g', List.mem_cons_of_mem _ hg', ho'⟩
    have hfirst (ho : first.offer? = some e) : e ∈ (first :: rest).filterMap Glimpse.offer? :=
      List.mem_filterMap.mpr ⟨first, List.mem_cons_self, ho⟩
    rcases List.mem_cons.mp hg with rfl | hg
    · cases g with
      | offered e' => exact Or.inr (hfirst he)
      | took e' =>
        cases he
        simp only [accept] at hnext
        split at hnext
        · rename_i hw hh
          split at hnext
          · rename_i hsame
            exact Or.inl (Or.inl (by rw [hw, hsame]; exact List.mem_cons_self))
          · cases hnext
        · cases hnext
      | shown e' =>
        cases he
        simp only [accept] at hnext
        split at hnext
        · rename_i hh
          exact Or.inl (Or.inr hh.1)
        · cases hnext
      | _ => cases he
    · rcases ih h hg with hold | hoffer
      · rcases holds_of_accept hnext hold with hold | hoffer
        · exact Or.inl hold
        · exact Or.inr (hfirst hoffer)
      · exact Or.inr (hlater hoffer)

end Desk
end LiveUpdate
