import LiveUpdate.Proofs.Holders

/-! Shutting down. The control loop stays for as long as somebody holds a handle or a command is
pending. When the last holder is gone it applies what is left in the order of submission and ends,
and only then are the mailboxes closed, from which the receivers still take all that was put into
them. -/
namespace LiveUpdate.Session

variable {s : Session}

/-! ### Receiving -/

theorem drain_events (box : Mailbox) (limit : Nat) :
    (drain box limit).1 = box.waiting.take limit := by
  induction limit generalizing box with
  | zero => simp [drain]
  | succ limit ih =>
    cases hw : box.waiting with
    | nil => simp [drain, Mailbox.take, hw]
    | cons e rest => simp [drain, Mailbox.take, hw, ih]

/-- A receiver learns that nothing more will come when it has taken all that waited. -/
theorem drain_state (box : Mailbox) (limit : Nat) : (drain box limit).2.1 =
    if limit ≤ box.waiting.length then .more else if box.isClosed then .closed else .empty := by
  induction limit generalizing box with
  | zero => simp [drain]
  | succ limit ih =>
    cases hw : box.waiting with
    | nil => simp [drain, Mailbox.take, hw]
    | cons e rest =>
      have hclosed : Mailbox.isClosed { box with waiting := rest } = box.isClosed := rfl
      simp [drain, Mailbox.take, hw, ih, hclosed]

theorem receive_eq {c : ConnectionId} {box : Mailbox} (hbox : s.hub.mailbox? c = some box)
    (limit : Option Nat) : (s.receive c limit).1 =
      some ((drain box (limit.getD (box.waiting.length + 1))).1,
        (drain box (limit.getD (box.waiting.length + 1))).2.1) := by
  simp only [receive, hbox]

/-- Whoever has learnt that nothing more will come has taken all that waited. -/
theorem received_of_closed {c : ConnectionId} {box : Mailbox} (hbox : s.hub.mailbox? c = some box)
    {limit : Option Nat} {events : List Event}
    (h : (s.receive c limit).1 = some (events, .closed)) : events = box.waiting := by
  rw [receive_eq hbox, drain_events, drain_state] at h
  simp only [Option.some.injEq, Prod.mk.injEq] at h
  obtain ⟨rfl, hstate⟩ := h
  split at hstate
  · cases hstate
  · exact List.take_of_length_le (by omega)

/-- A closed mailbox gives out all that waits and then its end. -/
theorem receive_of_closed {c : ConnectionId} {box : Mailbox} (hbox : s.hub.mailbox? c = some box)
    (hclosed : box.isClosed = true) : (s.receive c none).1 = some (box.waiting, .closed) := by
  rw [receive_eq hbox, drain_events, drain_state]
  simp [hclosed]

/-! ### The end -/

/-- What holds of every session, short of a crash: its tasks to be cancelled are there, its hub is
orderly, and its loop has not ended before its time. -/
structure Lasting (s : Session) : Prop where
  tidy : s.Tidy
  orderly : s.hub.Orderly
  ended : s.EndedWell

theorem Proceeds.lasting {s' : Session} {course : List Hub.Happening} (h : s.Proceeds s' course)
    (hs : s.Lasting) : s'.Lasting :=
  ⟨h.tidy hs.tidy, h.hub ▸ hs.orderly.undergo course, h.ended hs.ended⟩

theorem lasting_ofConfig {config : Config} {start : Session}
    (hstart : ofConfig? config = .ok start) : start.Lasting := by
  unfold ofConfig? start? at hstart
  split at hstart
  · rename_i hpos
    cases hstart
    refine ⟨fun i hi => absurd hi List.not_mem_nil, ?_, fun hr => by cases hr⟩
    exact (Hub.orderly_start config.queueCapacity hpos).of_eq rfl rfl (fun _ => rfl) (Nat.le_refl _)
  · cases hstart

/-- The loop stays for as long as there is a holder or a pending command. -/
theorem Lasting.running (h : s.Lasting)
    (hneeded : (∃ holder, s.Holds holder) ∨ s.hub.pending ≠ []) : s.hub.running = true := by
  by_contra hr
  obtain ⟨hheld, hdone⟩ := h.ended (Bool.eq_false_iff.mpr hr)
  rcases hneeded with hholder | hne
  · rw [s.held_iff.mpr hholder] at hheld
    cases hheld
  · exact hne hdone.pending

/-- Once there is neither, its next move is its end. -/
theorem stop_of_unneeded (hnobody : ¬ ∃ holder, s.Holds holder) (hp : s.hub.pending = []) :
    (s.perform .stop).hub.running = false := by
  have hheld : s.held = false := Bool.eq_false_iff.mpr fun h => hnobody (s.held_iff.mp h)
  simp only [perform, stopIfIdle, hp, List.isEmpty_nil, hheld, Bool.not_false, Bool.and_true]
  split
  · rfl
  · exact Bool.eq_false_iff.mpr ‹_›

/-- In a settled session nothing is pending, and the loop is there if and only if there is a
holder. -/
theorem Settled.running_iff (h : s.Settled) (hs : s.Lasting) :
    s.hub.pending = [] ∧ (s.hub.running = true ↔ ∃ holder, s.Holds holder) := by
  have hidle := h.idle .hub
  cases hr : s.hub.running with
  | false =>
    obtain ⟨hheld, hdone⟩ := hs.ended hr
    refine ⟨hdone.pending, ⟨fun hr => (by cases hr), fun hholder => ?_⟩⟩
    rw [s.held_iff.mpr hholder] at hheld
    cases hheld
  | true =>
    simp only [canGo, hr, h.resting, Bool.not_false, Bool.and_true, Bool.true_and,
      Bool.or_eq_false_iff, Bool.not_eq_false', List.isEmpty_iff] at hidle
    exact ⟨hidle.1, ⟨fun _ => s.held_iff.mp hidle.2, fun _ => rfl⟩⟩

/-- When the last holder is gone, the loop applies all that is pending, in its order, and ends. -/
theorem Lasting.settle_of_unheld (h : s.Lasting) (hnobody : ¬ ∃ holder, s.Holds holder) :
    s.settle.hub.running = false ∧ s.hub.appliedIn s.settling = s.hub.pending := by
  have hheld : s.held = false := Bool.eq_false_iff.mpr fun h => hnobody (s.held_iff.mp h)
  have hgoes := s.proceeds_settle
  obtain ⟨hpending, hiff⟩ := h.tidy.settled.running_iff (hgoes.lasting h)
  constructor
  · refine Bool.eq_false_iff.mpr fun hr => ?_
    have hafter := s.settle.held_iff.mpr (hiff.mp hr)
    rw [hgoes.recedes hafter] at hheld
    cases hheld
  · have hall := Hub.undergo_pending (hgoes.proper h.ended)
    rw [← hgoes.hub, hpending, Hub.submittedIn_of_silent (hgoes.silent hheld), List.append_nil,
      List.append_nil] at hall
    exact hall.symm

/-- A run is a course of happenings in which nothing is submitted in vain. -/
theorem lasting_enactAll {config : Config} {start : Session}
    (hstart : ofConfig? config = .ok start) (actions : List Action) :
    (start.enactAll config actions).Lasting ∧
      start.hub.Proper (start.history config actions) := by
  have hgoes := proceeds_enactAll config start actions
  have hlasting := lasting_ofConfig hstart
  exact ⟨hgoes.lasting hlasting, hgoes.proper hlasting.ended⟩

/-! ### Nothing is lost -/

/-- What is to be said of a subscription: all that was put into its mailbox was received or waits
there, its receiver learns that nothing more will come only with the last of it, and does so once
the loop has ended. -/
structure Yields (s : Session) (c : ConnectionId) (enqueued received : List Event) (box : Mailbox) :
    Prop where
  balance : received ++ box.waiting = enqueued
  closed : ∀ limit events, (s.receive c limit).1 = some (events, .closed) →
    received ++ events = enqueued
  ended : s.hub.running = false → (s.receive c none).1 = some (box.waiting, .closed)

/-- The loop stays for as long as there is a holder or a pending command, and a settled session has
it if and only if there is. What is submitted is applied in the order of submission, all of it
before the loop ends; a session without a holder applies what is pending and ends. The mailbox of a
connection that is in the table, or is to enter it, stays open until then, and every subscription
gives out all that was put into its mailbox, in order, before its end. -/
theorem shutdown_loses_nothing {config : Config} {start : Session}
    (hstart : ofConfig? config = .ok start) (actions : List Action) :
    let s := start.enactAll config actions
    let course := start.history config actions
    s.hub = start.hub.undergo course ∧
      ((∃ holder, s.Holds holder) ∨ s.hub.pending ≠ [] → s.hub.running = true) ∧
      ((¬ ∃ holder, s.Holds holder) → s.hub.pending = [] →
        (s.perform .stop).hub.running = false) ∧
      s.settle.Settled ∧
      (s.Settled → (s.hub.running = true ↔ (∃ holder, s.Holds holder) ∨ s.hub.pending ≠ [])) ∧
      start.hub.submittedIn course = start.hub.appliedIn course ++ s.hub.pending ∧
      (∀ first rest, course = first ++ .stopped :: rest →
        start.hub.submittedIn course = start.hub.appliedIn first ∧ .stopped ∉ rest) ∧
      ((¬ ∃ holder, s.Holds holder) →
        s.settle.hub.running = false ∧ s.hub.appliedIn s.settling = s.hub.pending) ∧
      (∀ c box, s.hub.mailbox? c = some box →
        (c ∈ s.hub.awaited ∨ (s.hub.registry.audiences.get? c).isSome = true →
          box.attached = true) ∧
        (s.hub.running = false → box.attached = false)) ∧
      ∀ c box, s.hub.mailbox? c = some box → box.intake ≠ .gone →
        s.Yields c (start.hub.enqueuedIn c course) (start.hub.receivedIn c course) box := by
  intro s course
  obtain ⟨hlasting, hproper⟩ := lasting_enactAll hstart actions
  have hhub : s.hub = start.hub.undergo course := enactAll_hub config start actions
  have hempty : start.hub.pending = [] ∧ start.hub.mailboxes = .empty := by
    unfold ofConfig? start? at hstart
    split at hstart <;> cases hstart
    exact ⟨rfl, rfl⟩
  have hpending := Hub.undergo_pending hproper
  rw [hempty.1, List.nil_append] at hpending
  refine ⟨hhub, hlasting.running, stop_of_unneeded, hlasting.tidy.settled, fun hsettled => ?_,
    hhub ▸ hpending, fun first rest hcourse => ?_, hlasting.settle_of_unheld, fun c box hbox => ?_,
    fun c box hbox hthere => ?_⟩
  · obtain ⟨hnone, hiff⟩ := hsettled.running_iff hlasting
    simp only [hiff, hnone, ne_eq, not_true_eq_false, or_false]
  · have hstopped := hproper.stopped hcourse
    rwa [hempty.1, List.nil_append] at hstopped
  · refine ⟨fun hexpected => ?_, fun hr => ?_⟩
    · have hkeeps := (hlasting.orderly.keeps_iff c).mpr hexpected
      have hbox' : (start.enactAll config actions).hub.mailbox? c = some box := hbox
      rw [Hub.keeps?, hbox'] at hkeeps
      exact Option.some.inj hkeeps
    · exact (hlasting.ended hr).2.detached hlasting.orderly hbox
  · have horderly := (lasting_ofConfig hstart).orderly
    have hbox' : (start.hub.undergo course).mailbox? c = some box := hhub ▸ hbox
    have hnot : ¬ (start.hub.undergo course).Deserted c := by
      rintro ⟨box', hsame, hgone⟩
      rw [hbox'] at hsame
      cases hsame
      exact hthere hgone
    have hbalance := horderly.waitingFor_undergo hnot
    have hnone : start.hub.mailbox? c = none := by simp [Hub.mailbox?, hempty.2]
    rw [Hub.waitingFor_of_mailbox hbox', Hub.waitingFor_of_absent hnone,
      List.nil_append] at hbalance
    refine ⟨hbalance, fun limit events hclosed => ?_, fun hr => ?_⟩
    · rw [received_of_closed hbox hclosed]
      exact hbalance
    · have hdetached := (hlasting.ended hr).2.detached hlasting.orderly hbox
      exact receive_of_closed hbox (by simp [Mailbox.isClosed, hdetached])

/-- A student is registered and a notification is sent, neither of which the loop has taken up when
the main handle goes. -/
theorem shutdown_loses_nothing_student :
    let last : Event := ⟨"notify", "closing", by decide, by decide, by decide⟩
    let actions : List Action :=
      [.register (.student 5), .send .broadcast "notify" "closing", .dropMain]
    ∃ start, ofConfig? Config.standard = .ok start ∧
      let s := start.enactAll Config.standard actions
      s.hub.running = true ∧ s.settle.hub.running = false ∧
        s.hub.appliedIn s.settling = [.register ⟨0⟩ (.student 5), .send ⟨.broadcast, last⟩] ∧
        let after := start.enactAll Config.standard (actions ++ [.web .settle])
        (after.receive ⟨0⟩ none).1 = some ([last], .closed) := by
  intro last actions
  let start : Session := (Session.start 256 (by decide)).onHub fun hub =>
    { hub with journal := settings Config.standard :: hub.journal }
  have hstart : ofConfig? Config.standard = .ok start := rfl
  obtain ⟨-, hrunning, -, -, -, -, -, hlast, -⟩ := shutdown_loses_nothing hstart actions
  obtain ⟨-, -, -, -, -, -, -, -, -, hyields⟩ :=
    shutdown_loses_nothing hstart (actions ++ [.web .settle])
  have hnobody : ¬ ∃ holder, (start.enactAll Config.standard actions).Holds holder := by
    rw [← held_iff]
    decide +kernel
  obtain ⟨hended, happlied⟩ := hlast hnobody
  have hpending : (start.enactAll Config.standard actions).hub.pending =
      [.register ⟨0⟩ (.student 5), .send ⟨.broadcast, last⟩] := by decide +kernel
  have hbox : (start.enactAll Config.standard (actions ++ [.web .settle])).hub.mailbox? ⟨0⟩ =
      some ⟨[last], false, .listening⟩ := by decide +kernel
  refine ⟨start, hstart, hrunning (Or.inr ?_), hended, happlied.trans hpending,
    (hyields ⟨0⟩ _ hbox (by decide)).ended (by decide +kernel)⟩
  rw [hpending]
  exact List.cons_ne_nil _ _

end LiveUpdate.Session
