import LiveUpdate.Proofs.Receipts
import LiveUpdate.Proofs.Seclusion
import LiveUpdate.Proofs.Settling

/-! Greetings. A WebSocket session is registered before it is greeted, and whatever is put into its
mailbox meanwhile waits there. What its client is told is the greeting and then these events, in
order; if it cannot be greeted, it is unregistered and told nothing. -/
namespace LiveUpdate

/-! ### What a desk tells -/

/-- The event whose frame goes out. -/
def Glimpse.show? : Glimpse → Option Event
  | shown e => some e
  | _ => none

namespace Desk

variable {capacity : Nat} {d d' : Desk} {seen rest : List Glimpse}

/-- What has been seen at a desk without a body comes to this: the events that went out were taken
in that order, and the client was told nothing before the greeting. -/
structure Tells (d : Desk) (seen : List Glimpse) : Prop where
  bodiless : d.stream = none
  wordless : ∀ o, d.farewell = some o → o.text? = none
  taken : seen.filterMap Glimpse.take? = seen.filterMap Glimpse.show? ++ d.hand.toList
  ungreeted : d.link = none →
    seen.filterMap Glimpse.show? = [] ∧ (seen.flatMap Glimpse.frames).filterMap Outgoing.text? = []
  greeted : d.link.isSome = true → .greeted ∈ seen ∧
    (seen.flatMap Glimpse.frames).filterMap Outgoing.text? =
      Frame.json .hello :: (seen.filterMap Glimpse.show?).map Frame.json

theorem tells_fresh : (fresh none).Tells [] where
  bodiless := rfl
  wordless _ h := by cases h
  taken := rfl
  ungreeted _ := ⟨rfl, rfl⟩
  greeted h := by cases h

/-- Something is seen that tells the client no word. -/
theorem Tells.silent (h : d.Tells seen) {g : Glimpse} (hstream : d'.stream = d.stream)
    (hfarewell : ∀ o, d'.farewell = some o → o.text? = none) (hshow : g.show? = none)
    (htake : d.hand.toList ++ g.take?.toList = d'.hand.toList)
    (hframes : g.frames.filterMap Outgoing.text? = []) (hlink : d'.link.isSome = d.link.isSome) :
    d'.Tells (seen ++ [g]) := by
  have hshown : (seen ++ [g]).filterMap Glimpse.show? = seen.filterMap Glimpse.show? := by
    simp [hshow]
  have htexts : ((seen ++ [g]).flatMap Glimpse.frames).filterMap Outgoing.text? =
      (seen.flatMap Glimpse.frames).filterMap Outgoing.text? := by
    simp [hframes]
  have htaken : (seen ++ [g]).filterMap Glimpse.take? =
      seen.filterMap Glimpse.take? ++ g.take?.toList := by
    cases hg : g.take? <;> simp [hg]
  refine ⟨hstream.trans h.bodiless, hfarewell, ?_, fun hnone => ?_, fun hsome => ?_⟩
  · rw [hshown, htaken, h.taken, List.append_assoc, htake]
  · rw [hshown, htexts]
    refine h.ungreeted (Option.not_isSome_iff_eq_none.mp ?_)
    rw [← hlink, hnone]
    exact Bool.false_ne_true
  · obtain ⟨hgreeted, hall⟩ := h.greeted (hlink ▸ hsome)
    rw [hshown, htexts]
    exact ⟨List.mem_append_left _ hgreeted, hall⟩

/-- The event in hand goes out. -/
theorem Tells.shown (h : d.Tells seen) {e : Event} (hhand : d.hand = some e)
    (hlink : d.link.isSome = true) : Tells { d with hand := none } (seen ++ [.shown e]) := by
  obtain ⟨hgreeted, hall⟩ := h.greeted hlink
  have htaken := h.taken
  rw [hhand] at htaken
  refine ⟨h.bodiless, h.wordless, ?_, fun hnone => ?_, fun _ =>
    ⟨List.mem_append_left _ hgreeted, ?_⟩⟩
  · simpa [List.filterMap_cons, Glimpse.take?, Glimpse.show?] using htaken
  · have hnone' : d.link = none := hnone
    rw [hnone'] at hlink
    cases hlink
  · simp [hall, Glimpse.frames, Glimpse.show?, Outgoing.text?]

/-- The client is greeted, having been told nothing. -/
theorem Tells.greet (h : d.Tells seen) (hlink : d.link = none) :
    Tells { d with link := some .fresh, farewell := Sink.polite.farewell }
      (seen ++ [.greeted]) := by
  obtain ⟨hshown, htexts⟩ := h.ungreeted hlink
  refine ⟨h.bodiless, fun o ho => ?_, ?_, fun hnone => ?_, fun _ => ⟨by simp, ?_⟩⟩
  · cases ho
    rfl
  · simpa [List.filterMap_cons, Glimpse.take?, Glimpse.show?] using h.taken
  · cases hnone
  · simp [hshown, htexts, Glimpse.frames, Glimpse.show?, Outgoing.text?]

theorem wordless_arrival (link : WebSocket.Link) (data : Option (List UInt8)) :
    (arrival link data).Wordless := by
  cases data with
  | some data => exact WebSocket.Link.wordless_readFrames _ _
  | none => exact WebSocket.Link.wordless_lose link

theorem Tells.accept (h : d.Tells seen) {g : Glimpse} (hg : d.accept capacity g = some d') :
    d'.Tells (seen ++ [g]) := by
  cases g with
  | offered e =>
    cases hg
    exact h.silent rfl h.wordless rfl (List.append_nil _) rfl rfl
  | took e =>
    simp only [Desk.accept] at hg
    split at hg
    · rename_i hhand
      split at hg
      · cases hg
        exact h.silent rfl h.wordless rfl (by rw [hhand]; rfl) rfl rfl
      · cases hg
    · cases hg
  | shown e =>
    simp only [Desk.accept] at hg
    split at hg
    · rename_i hthere
      cases hg
      exact h.shown hthere.1 hthere.2
    · cases hg
  | greeted =>
    simp only [Desk.accept] at hg
    split at hg
    · rename_i hlink
      cases hg
      exact h.greet hlink
    · cases hg
  | heard data replies =>
    simp only [Desk.accept] at hg
    split at hg
    · cases hg
    · rename_i link hlink
      split at hg
      · rename_i hreplies
        cases hg
        have hwordless := wordless_arrival link data
        refine h.silent rfl (fun o ho => ?_) rfl (List.append_nil _) ?_ (by rw [hlink]; rfl)
        · simp only [lastWord] at ho
          split at ho
          · rename_i ending hending
            exact hwordless.farewell ending o hending ho
          · exact h.wordless o ho
        · exact List.filterMap_eq_nil_iff.mpr fun o ho =>
            hwordless.replies o (hreplies ▸ ho)
      · cases hg
  | closed farewell =>
    simp only [Desk.accept] at hg
    split at hg
    · rename_i hfarewell
      cases hg
      refine h.silent rfl (fun o ho => by cases ho) rfl (List.append_nil _) ?_ rfl
      refine List.filterMap_eq_nil_iff.mpr fun o ho => h.wordless o ?_
      rw [Glimpse.frames, ← hfarewell] at ho
      exact Option.mem_toList.mp ho
    · cases hg
  | read now limit blocks =>
    simp only [Desk.accept, h.bodiless] at hg
    cases hg

theorem Tells.follow (h : d.Tells seen) (hrest : d.follow capacity rest = some d') :
    d'.Tells (seen ++ rest) := by
  induction rest generalizing d seen with
  | nil =>
    cases hrest
    rw [List.append_nil]
    exact h
  | cons g rest ih =>
    rw [follow_cons, Option.bind_eq_some_iff] at hrest
    obtain ⟨next, hnext, hrest⟩ := hrest
    have hall := ih (h.accept hnext) hrest
    rwa [List.append_assoc] at hall

/-- No event goes out before the greeting. -/
theorem greeted_before_shown (h : (fresh none).follow capacity seen = some d)
    {first : List Glimpse} {e : Event} (hseen : seen = first ++ .shown e :: rest) :
    .greeted ∈ first := by
  rw [hseen, follow_append, Option.bind_eq_some_iff] at h
  obtain ⟨next, hnext, hlater⟩ := h
  rw [follow_cons, Option.bind_eq_some_iff] at hlater
  obtain ⟨after, hafter, -⟩ := hlater
  simp only [Desk.accept] at hafter
  split at hafter
  · rename_i hthere
    exact ((tells_fresh.follow hnext).greeted hthere.2).1
  · cases hafter

/-- What the client is told is the greeting and then what has been taken, as far as it went out. -/
theorem Tells.texts_prefix (h : d.Tells seen) {events : List Event}
    (htaken : seen.filterMap Glimpse.take? <+: events) :
    (seen.flatMap Glimpse.frames).filterMap Outgoing.text? <+:
      Frame.json .hello :: events.map Frame.json := by
  cases hlink : d.link with
  | none =>
    rw [(h.ungreeted hlink).2]
    exact List.nil_prefix
  | some link =>
    have hshown : seen.filterMap Glimpse.show? <+: events := by
      refine List.IsPrefix.trans ?_ htaken
      rw [h.taken]
      exact List.prefix_append _ _
    rw [(h.greeted (by rw [hlink]; rfl)).2]
    exact (List.prefix_cons_inj _).mpr (hshown.map Frame.json)

end Desk

/-! ### Going out of the table -/

namespace Hub

variable {hub : Hub} {c : ConnectionId}

/-- Only the word that it goes takes a connection out of the table to come. -/
theorem eq_unregister_of_submit {command : Command} (hbefore : hub.prospect c ≠ none)
    (hafter : (hub.submit command).prospect c = none) : command = .unregister c := by
  cases hr : hub.running with
  | false =>
    have hsubmit : hub.submit command = hub.log .discarded := by simp [submit, hr]
    rw [hsubmit] at hafter
    exact absurd hafter hbefore
  | true =>
    rw [prospect_submit hr] at hafter
    cases command with
    | register c' a =>
      simp only [Command.restate] at hafter
      split at hafter
      · cases hafter
      · exact absurd hafter hbefore
    | unregister c' =>
      simp only [Command.restate] at hafter
      split at hafter
      · rename_i hc
        rw [hc]
      · exact absurd hafter hbefore
    | send m => exact absurd hafter hbefore
    | stats ticket => exact absurd hafter hbefore

theorem unregister_of_happen {x : Happening} (hx : x ≠ .stopped) (hbefore : hub.prospect c ≠ none)
    (hafter : (hub.happen x).prospect c = none) : .unregister c ∈ x.submits hub := by
  have hsendTo (audiences : List Audience) (e : Event) :
      (hub.sendTo audiences e).prospect c ≠ none := by
    intro hnone
    unfold Hub.sendTo at hnone
    split at hnone
    · exact hbefore hnone
    · cases eq_unregister_of_submit hbefore hnone
  cases x with
  | act act =>
    cases act with
    | register a =>
      have hopened : hub.opened.prospect c ≠ none := hbefore
      cases eq_unregister_of_submit hopened hafter
    | unregister c' =>
      have hsame := eq_unregister_of_submit hbefore hafter
      exact List.mem_singleton.mpr hsame.symm
    | send m => cases eq_unregister_of_submit hbefore hafter
    | sendTo audiences e => exact absurd hafter (hsendTo audiences e)
    | sendToStudents students e => exact absurd hafter (hsendTo _ e)
    | askStats =>
      have hasked : { hub with nextTicket := hub.nextTicket + 1 }.prospect c ≠ none := hbefore
      cases eq_unregister_of_submit hasked hafter
    | step => exact absurd (prospect_step.symm.trans hafter) hbefore
    | _ => exact absurd hafter hbefore
  | stopped => exact absurd rfl hx
  | _ => exact absurd hafter hbefore

/-- A connection that goes out of the table while the loop is there has been unregistered. -/
theorem unregister_of_undergo {course : List Happening} (hbefore : hub.prospect c ≠ none)
    (hr : (hub.undergo course).running = true) (hafter : (hub.undergo course).prospect c = none) :
    .unregister c ∈ hub.submittedIn course := by
  induction course generalizing hub with
  | nil => exact absurd hafter hbefore
  | cons x rest ih =>
    by_cases hnow : (hub.happen x).prospect c = none
    · refine List.mem_append_left _ (unregister_of_happen ?_ hbefore hnow)
      rintro rfl
      have hdone := hub.isDone_stop.undergo rest
      rw [undergo_cons, Hub.happen, hdone.running] at hr
      cases hr
    · exact List.mem_append_right _ (ih hnow hr hafter)

/-- A receiver that listens is there. -/
theorem not_deserted_of_listens (h : hub.listens c = true) : ¬hub.Deserted c := by
  rintro ⟨box, hbox, hgone⟩
  simp [listens, hbox, hgone] at h

end Hub

/-! ### Who is greeted -/

/-- One greeting is for a connection, and for it alone; of what stands in its way only this may
be. -/
def Regime.greets (g : Nat) (c : ConnectionId) (allowed : Option String → Prop)
    (hallowed : ∀ o why, allowed o → allowed (some why)) : Regime where
  event _ := True
  writer _ _ := True
  stream _ _ _ := True
  greeting _ i w := (w.connection = c ↔ i = g) ∧ (i = g → allowed w.obstacle)
  minted := g + 1
  known := c.number + 1
  succeeds _ _ _ _ := trivial
  lasts _ _ := trivial
  waits _ hw := hw
  opened _ _ := trivial
  begun hknown hminted := by
    have hother := Nat.ne_of_gt hminted
    refine ⟨iff_of_false (fun he => ?_) hother, fun hi => absurd hi hother⟩
    rw [← he] at hknown
    exact absurd hknown (Nat.lt_irrefl _)
  obstructed hw := ⟨hw.1, fun hi => hallowed _ _ (hw.2 hi)⟩
  greeted _ := trivial

namespace Regime.Governs

variable {R : Regime} {s : Session}

/-- A run behind the router keeps rules that are not about events. -/
theorem run (h : R.Governs s) (hevent : ∀ e, R.event e) (config : Config)
    (steps : List Web.Step) : R.Governs (Web.run config s steps) := by
  induction steps generalizing s with
  | nil => exact h
  | cons x rest ih => exact ih (h.web config fun e _ => hevent e)

variable {g : Nat} {c : ConnectionId} {allowed allowed' : Option String → Prop}
  {hallowed : ∀ o why, allowed o → allowed (some why)}

/-- What stands in the way of the greeting now is what may be from now on. -/
theorem allow (h : (greets g c allowed hallowed).Governs s)
    (hallowed' : ∀ o why, allowed' o → allowed' (some why))
    (hnow : ∀ w, s.greetings.get? g = some w → allowed' w.obstacle) :
    (greets g c allowed' hallowed').Governs s where
  hub := h.hub
  minted := h.minted
  known := h.known
  writer _ _ _ _ _ := trivial
  stream _ _ _ := trivial
  greeting i w hw := ⟨(h.greeting i w hw).1, fun hi => hnow w (hi ▸ hw)⟩

end Regime.Governs

theorem Writer.greeted_not_mem (w : Writer) (box : Mailbox) : .greeted ∉ w.glimpses box := by
  unfold glimpses
  split
  · split
    · split
      · split <;> simp
      · simp
    · split
      · simp
      · split
        · split <;> simp
        · simp
  · simp

namespace Session

variable {s : Session} {c : ConnectionId}

/-- Nobody is greeted while a session goes on by itself. -/
theorem greeted_not_mem_transcript (s : Session) (c : ConnectionId) (moves : List Move) :
    .greeted ∉ transcript c s moves := by
  have hmove (s : Session) (m : Move) : .greeted ∉ s.glimpses c m := by
    cases m with
    | apply => simp [glimpses]
    | write i =>
      simp only [glimpses]
      split
      · split
        · split
          · exact Writer.greeted_not_mem _ _
          · simp
        · simp
      · simp
    | _ => exact List.not_mem_nil
  induction moves generalizing s with
  | nil => exact List.not_mem_nil
  | cons m rest ih => exact List.not_mem_append (hmove s m) (ih _)

end Session

namespace Web

variable {config : Config} {s : Session} {c : ConnectionId}

/-- A session is greeted by the step that writes its greeting. -/
theorem greeting_of_greeted {x : Step} (h : .greeted ∈ x.glimpses config s c) :
    ∃ i student, s.greetings.get? i = some ⟨c, student, none⟩ := by
  have herrand (s : Session) (e : Errand) : .greeted ∉ e.glimpses s c := by
    cases e with
    | figures => exact Session.greeted_not_mem_transcript _ _ _
    | _ => exact List.not_mem_nil
  have hhearing (i : Nat) (data : Option (List UInt8)) : .greeted ∉ s.hearing c i data := by
    unfold Session.hearing
    split
    · split <;> simp
    · simp
  cases x with
  | http r kept => exact absurd h (herrand _ _)
  | connect r failure => exact absurd h (herrand _ _)
  | greet i =>
    simp only [Step.glimpses] at h
    split at h
    · rename_i c' student hi
      split at h
      · rename_i hc
        exact ⟨i, student, hc ▸ hi⟩
      · cases h
    · cases h
  | read i limit =>
    simp only [Step.glimpses, Session.reading] at h
    split at h
    · split at h
      · split at h <;> simp at h
      · cases h
    · cases h
  | bytes i data => exact absurd h (hhearing i _)
  | lose i => exact absurd h (hhearing i _)
  | advance ms => exact absurd h (Session.greeted_not_mem_transcript _ _ _)
  | move m =>
    simp only [Step.glimpses] at h
    split at h
    · cases h
    · exact absurd (List.mem_append_left _ h) (s.greeted_not_mem_transcript c [m])
  | settle => exact absurd h (Session.greeted_not_mem_transcript _ _ _)
  | _ => cases h

/-- Nobody is greeted once the greeting is gone or has met an obstacle. -/
theorem ungreeted_of_blocked {g : Nat} {allowed : Option String → Prop} {hallowed}
    (hblocked : ¬allowed none) (h : (Regime.greets g c allowed hallowed).Governs s)
    (steps : List Step) : .greeted ∉ transcript config c s steps := by
  induction steps generalizing s with
  | nil => exact List.not_mem_nil
  | cons x rest ih =>
    refine List.not_mem_append (fun hgreeted => ?_) (ih (h.web config fun _ _ => trivial))
    obtain ⟨i, student, hi⟩ := greeting_of_greeted hgreeted
    obtain ⟨hone, hnone⟩ := h.greeting i _ hi
    exact hblocked (hnone (hone.mp rfl))

/-- The greeting of this number is given up in a run: it is gone, and nobody was greeted. -/
def GivesUp (config : Config) (s : Session) (g : Nat) (c : ConnectionId) (steps : List Step) :
    Prop :=
  (run config s steps).greetings.get? g = none ∧ .greeted ∉ transcript config c s steps

end Web

/-! ### From registration on -/

namespace Session

variable {s : Session} {c : ConnectionId} {k : Audience} {seen : List Glimpse}
  {addressed : List Event} {g : Nat} {student : StudentId} {config : Config}

/-- What has been seen of a connection without a body leads to a desk that tells of it. -/
theorem Recorded.tells (h : s.Recorded c k (.fresh none) seen addressed) :
    ∃ d, d.Tells seen ∧ s.Laid c d (seen.flatMap Glimpse.frames) := by
  obtain ⟨d, hd, hlaid⟩ := h.laid
  exact ⟨d, Desk.tells_fresh.follow hd, hlaid⟩

/-- What a run is seen to take at a connection without a body is what it takes. -/
theorem Recorded.takes_run (h : s.Recorded c k (.fresh none) seen addressed) (hs : s.Sound)
    (config : Config) (steps : List Web.Step) :
    (Web.transcript config c s steps).filterMap Glimpse.take? =
      s.hub.receivedIn c (Web.history config s steps) := by
  induction steps generalizing s seen addressed with
  | nil => rfl
  | cons x rest ih =>
    have hbodies (i : Nat) (y : Stream) (hy : s.streams.get? i = some y) : y.connection ≠ c := by
      intro hc
      obtain ⟨d, htells, hlaid⟩ := h.tells
      have hbody := hlaid.stream i y hy hc
      rw [htells.bodiless] at hbody
      cases hbody
    rw [Web.transcript, Web.history, List.filterMap_append, Hub.receivedIn_append,
      ← s.webStep_hub config x, Web.takes_step config s c hbodies x,
      ih (h.step hs config x) (hs.step config x)]

/-- A student has been registered, and a greeting of this number is all that is still to be done. -/
structure Admits (s : Session) (g : Nat) (c : ConnectionId) (student : StudentId) : Prop where
  sound : s.Sound
  recorded : s.Recorded c (.student student) (.fresh none) [] []
  greets : (Regime.greets g c (fun _ => True) fun _ _ _ => trivial).Governs s
  empty : s.hub.waitingFor c = []
  expected : s.hub.prospect c ≠ none

theorem Sound.admits_beginGreeting (h : s.Sound) (student : StudentId) :
    (s.beginGreeting student).2.Admits s.next ⟨s.hub.nextConnection⟩ student where
  sound := h.beginGreeting student
  recorded := h.recorded_beginGreeting student
  greets := by
    refine ⟨Hub.carries_anything _, Nat.le_refl _, (s.hub.nextConnection_register _).ge,
      fun _ _ _ _ _ => trivial, fun _ _ _ => trivial, fun j w hw => ⟨?_, fun _ => trivial⟩⟩
    simp only [Session.beginGreeting, fresh, Table.get?_insert] at hw
    split at hw
    · rename_i hj
      cases hw
      exact iff_of_true rfl hj
    · rename_i hj
      have hold : s.greetings.get? j = some w := hw
      exact iff_of_false (h.ne_next (charge_greeting hold)) hj
  empty := Hub.waitingFor_of_mailbox (Hub.mailbox?_register h.running (.student student))
  expected := by
    have hregistered :
        (s.beginGreeting student).2.hub = (s.hub.register (.student student)).2 := rfl
    rw [hregistered, Hub.prospect_register h.running, if_pos rfl]
    exact Option.some_ne_none _

/-- What a session has told the client of a connection, of the events that were put into its
mailbox: the greeting and then the first of them. Before the greeting all of them wait; after it
they are told, in hand, or wait, for as long as the writer is at work. -/
structure Greets (s : Session) (g : Nat) (c : ConnectionId) (seen : List Glimpse)
    (enqueued : List Event) : Prop where
  frames : s.framesTo c = seen.flatMap Glimpse.frames
  texts : (s.framesTo c).filterMap Outgoing.text? <+: Frame.json .hello :: enqueued.map Frame.json
  order : ∀ first e rest, seen = first ++ .shown e :: rest → .greeted ∈ first
  waits : ∀ w, s.greetings.get? g = some w → s.framesTo c = [] ∧ s.hub.waitingFor c = enqueued
  goesOn : ∀ i p, s.tasks.get? i = some (.paired p) → p.connection = c →
    p.writer.outcome.isLive = true →
      (s.framesTo c).filterMap Outgoing.text? ++ p.writer.inHand.toList.map Prod.snd ++
        (s.hub.waitingFor c).map Frame.json = Frame.json .hello :: enqueued.map Frame.json

namespace Admits

/-- What waits for a receiver that is still there is all that it has not received. -/
theorem received_append (h : s.Admits g c student) (steps : List Web.Step)
    (hthere : ¬(Web.run config s steps).hub.Deserted c) :
    s.hub.receivedIn c (Web.history config s steps) ++
        (Web.run config s steps).hub.waitingFor c =
      s.hub.enqueuedIn c (Web.history config s steps) := by
  rw [Web.run_hub] at hthere ⊢
  rw [h.sound.orderly.waitingFor_undergo hthere, h.empty, List.nil_append]

/-- What is seen from the registration on is recorded. -/
theorem recorded_run (h : s.Admits g c student) (config : Config) (steps : List Web.Step) :
    ∃ addressed, (Web.run config s steps).Recorded c (.student student) (.fresh none)
      (Web.transcript config c s steps) addressed :=
  ⟨_, h.recorded.run h.sound config steps⟩

theorem greets_run (h : s.Admits g c student) (config : Config) (steps : List Web.Step) :
    (Web.run config s steps).Greets g c (Web.transcript config c s steps)
      (s.hub.enqueuedIn c (Web.history config s steps)) := by
  obtain ⟨addressed, hrecorded⟩ := h.recorded_run config steps
  have hs := h.sound.run config steps
  have hgreets := h.greets.run (fun _ => trivial) config steps
  have hframes := hrecorded.framesTo_eq hs
  have htakes := h.recorded.takes_run h.sound config steps
  obtain ⟨d, htells, hlaid⟩ := hrecorded.tells
  have hbegins : (Web.transcript config c s steps).filterMap Glimpse.take? <+:
      s.hub.enqueuedIn c (Web.history config s steps) := by
    have hreceived := h.sound.orderly.receivedIn_prefix (c := c) (Web.history config s steps)
    rwa [h.empty, List.nil_append, ← htakes] at hreceived
  refine ⟨hframes, hframes ▸ htells.texts_prefix hbegins, fun first e rest hseen => ?_,
    fun w hw => ?_, fun i p hi hc hlive => ?_⟩
  · obtain ⟨d', hd', -⟩ := hrecorded.laid
    exact Desk.greeted_before_shown hd' hseen
  · have hc : w.connection = c := (hgreets.greeting g w hw).1.mpr rfl
    obtain ⟨hhand, hlink⟩ := hlaid.greeting g w hw hc
    have hlistens : (Web.run config s steps).hub.listens c = true :=
      hc ▸ hs.balanced.received _ _ (charge_greeting hw) rfl
    have hall := h.received_append steps (Hub.not_deserted_of_listens hlistens)
    rw [← htakes, htells.taken, (htells.ungreeted hlink).1, hhand] at hall
    refine ⟨hframes.trans (hlaid.untold fun j p hj hpc => ?_), hall⟩
    have hplace := hs.balanced.apart _ _ _ _ (charge_greeting hw) (charge_task hj)
      (hc.trans hpc.symm)
    cases hplace
  · have hseated := hlaid.pair i p hi hc
    have hlistens : (Web.run config s steps).hub.listens c = true :=
      hc ▸ hs.receives_pair hi hlive
    have hall := h.received_append steps (Hub.not_deserted_of_listens hlistens)
    rw [← htakes, htells.taken] at hall
    have hhand : p.writer.inHand.toList.map Prod.snd = d.hand.toList.map Frame.json := by
      rw [hseated.hand hlive]
      cases d.hand <;> rfl
    rw [hframes, (htells.greeted hseated.greeted).2, hhand, ← hall]
    simp

/-- Whoever was not greeted was told nothing, and has no pumps. -/
theorem untold_of_ungreeted (h : s.Admits g c student) {steps : List Web.Step}
    (hseen : .greeted ∉ Web.transcript config c s steps) :
    (Web.run config s steps).framesTo c = [] ∧
      ∀ i t, (Web.run config s steps).tasks.get? i = some t → t.connection ≠ c := by
  obtain ⟨addressed, hrecorded⟩ := h.recorded_run config steps
  have hs := h.sound.run config steps
  obtain ⟨d, htells, hlaid⟩ := hrecorded.tells
  have hpairs (i : Nat) (p : Pair)
      (hi : (Web.run config s steps).tasks.get? i = some (.paired p)) : p.connection ≠ c :=
    fun hc => hseen (htells.greeted (hlaid.pair i p hi hc).greeted).1
  refine ⟨(hrecorded.framesTo_eq hs).trans (hlaid.untold hpairs), fun i t ht => ?_⟩
  obtain ⟨p, rfl, -⟩ := hs.pairs i t ht
  exact hpairs i p ht

/-- When a greeting is given up, the hub is told to unregister the connection. -/
theorem unregister_of_givesUp (h : s.Admits g c student) {steps : List Web.Step}
    (hgives : Web.GivesUp config s g c steps) :
    .unregister c ∈ s.hub.submittedIn (Web.history config s steps) := by
  obtain ⟨hgone, hseen⟩ := hgives
  obtain ⟨addressed, hrecorded⟩ := h.recorded_run config steps
  obtain ⟨d, htells, hlaid⟩ := hrecorded.tells
  have hs := h.sound.run config steps
  have hgreets := h.greets.run (fun _ => trivial) config steps
  have hnone : (Web.run config s steps).hub.prospect c = none := by
    by_contra hexpected
    obtain ⟨place, x, hx, rfl⟩ :=
      hs.balanced.placed c (Option.isSome_iff_ne_none.mpr hexpected)
    cases place with
    | stream i =>
      obtain ⟨y, hy, rfl⟩ := Option.map_eq_some_iff.mp hx
      have hbody := hlaid.stream i y hy rfl
      rw [htells.bodiless] at hbody
      cases hbody
    | greeting i =>
      obtain ⟨w, hw, rfl⟩ := Option.map_eq_some_iff.mp hx
      obtain rfl := (hgreets.greeting i w hw).1.mp rfl
      rw [hgone] at hw
      cases hw
    | task i =>
      obtain ⟨t, ht, rfl⟩ := Option.map_eq_some_iff.mp hx
      obtain ⟨p, rfl, -⟩ := hs.pairs i t ht
      exact (h.untold_of_ungreeted hseen).2 i _ ht rfl
  have hr := hs.running
  rw [Web.run_hub] at hr hnone
  exact Hub.unregister_of_undergo h.expected hr hnone

/-- A greeting that was given up is not written any more. -/
theorem ungreeted_of_givesUp (h : s.Admits g c student) {first : List Web.Step}
    (hgives : Web.GivesUp config s g c first) (rest : List Web.Step) :
    .greeted ∉ Web.transcript config c s (first ++ rest) := by
  have hgreets := h.greets.run (fun _ => trivial) config first
  have hgone : (Regime.greets g c (fun _ => False) fun _ _ h => h).Governs
      (Web.run config s first) :=
    hgreets.allow _ fun w hw => by
      rw [hgives.1] at hw
      cases hw
  rw [Web.transcript_append]
  exact List.not_mem_append hgives.2 (Web.ungreeted_of_blocked id hgone rest)

/-- A greeting that meets an obstacle before it is written is given up before the session
settles. -/
theorem givesUp_of_hangUp (h : s.Admits g c student) {first rest : List Web.Step} {why : String}
    (hseen : .greeted ∉ Web.transcript config c s first) :
    Web.GivesUp config s g c ((first ++ .hangUp g why :: rest) ++ [.settle]) := by
  have hblocked : (Regime.greets g c (·.isSome = true) fun _ _ _ => rfl).Governs
      ((Web.run config s first).obstructGreeting g why) := by
    have hgreets := h.greets.run (fun _ => trivial) config first
    refine (hgreets.obstructGreeting g why).allow _ fun w hw => ?_
    simp only [obstructGreeting, Table.get?_modify, if_true] at hw
    obtain ⟨w', -, rfl⟩ := Option.map_eq_some_iff.mp hw
    rfl
  have hrun : Web.run config s ((first ++ .hangUp g why :: rest) ++ [.settle]) =
      (Web.run config ((Web.run config s first).obstructGreeting g why) rest).settle := by
    rw [Web.run_append, Web.run_append]
    rfl
  have hsettled : (Web.run config s ((first ++ .hangUp g why :: rest) ++ [.settle])).Settled := by
    rw [Web.run_append]
    exact (h.sound.run config _).tidy.settled
  refine ⟨?_, ?_⟩
  · rw [hrun] at hsettled ⊢
    generalize hlater :
      Web.run config ((Web.run config s first).obstructGreeting g why) rest = later
      at hsettled ⊢
    cases hw : later.settle.greetings.get? g with
    | none => rfl
    | some w =>
      have hidle := hsettled.idle (.greeter g)
      have hkept := (hblocked.run (fun _ => trivial) config rest).settle
      rw [hlater] at hkept
      have hobstacle := (hkept.greeting g w hw).2 rfl
      simp only [canGo, hw] at hidle
      rw [hobstacle] at hidle
      cases hidle
  · have hlater : .greeted ∉ Web.transcript config c
        ((Web.run config s first).obstructGreeting g why) (rest ++ [.settle]) :=
      Web.ungreeted_of_blocked Bool.false_ne_true hblocked _
    rw [List.append_assoc, Web.transcript_append]
    exact List.not_mem_append hseen (List.not_mem_append List.not_mem_nil hlater)

end Admits
end Session

namespace Web

variable {config : Config}

/-- An answer that changes the protocol is one to a handshake. -/
theorem upgrade_of_body {r : Request} {s : Session} {student : StudentId}
    (h : (respond config r s).1.body = .upgrade student) :
    (errand config r).2 = .upgrade student := by
  obtain ⟨-, hbody⟩ := respond_errand config r s
  rw [h] at hbody
  split at hbody
  · obtain ⟨content, hnone⟩ := hbody
    cases hnone
  · cases he : (errand config r).2 with
    | upgrade student' =>
      rw [he] at hbody
      cases hbody
      rfl
    | stream a =>
      rw [he] at hbody
      cases hbody
    | nothing | publish | figures =>
      rw [he] at hbody
      obtain ⟨content, hnone⟩ := hbody
      cases hnone

/-- A student whose handshake is accepted is registered and then greeted, whatever else happens in
between and afterwards. The text frames that the client gets are the first of these: the greeting
and the frames of the events that have been put into the mailbox since, in order; none of those goes
out before the greeting, and none is missed while the pumps are at work. If the greeting is given
up, the hub has been told to unregister the connection, and the session is not greeted any more. One
that is not greeted is told nothing and has no pumps; and if the greeting cannot be written, it is
given up before the session settles. -/
theorem greeted_first {start : Session} (hstart : Session.ofConfig? config = .ok start)
    (before after : List Step) {r : Request} {student : StudentId}
    (hupgrade : (respond config r (run config start before)).1.body = .upgrade student) :
    let s₀ := run config start before
    let c := nextClient config start before
    let ask : Step := .connect r none
    let s₁ := entered config start before ask
    let s := leaving config start before ask after
    let seen := visit config start before ask after
    s₀.hub.submittedIn (course config s₀ ask) = [.register c (.student student)] ∧
      s₁.greetings.get? s₀.next = some ⟨c, student, none⟩ ∧
      s.Greets s₀.next c seen (s₁.hub.enqueuedIn c (history config s₁ after)) ∧
      (∀ first rest, after = first ++ rest → GivesUp config s₁ s₀.next c first →
        .unregister c ∈ s₁.hub.submittedIn (history config s₁ first) ∧ .greeted ∉ seen) ∧
      (.greeted ∉ seen →
        s.framesTo c = [] ∧ ∀ i t, s.tasks.get? i = some t → t.connection ≠ c) ∧
      ∀ first why rest, after = first ++ .hangUp s₀.next why :: rest →
        .greeted ∉ visit config start before ask first →
          GivesUp config s₁ s₀.next c (after ++ [.settle]) := by
  intro s₀ c ask s₁ s seen
  have herrand := upgrade_of_body hupgrade
  have hs₀ : s₀.Sound := (Session.sound_ofConfig hstart).run config before
  have hs₁ : s₁ = ((s₀.logAll (errand config r).1).beginGreeting student).2 := by
    have hperform := perform_connect config s₀ r none
    rw [herrand] at hperform
    exact hperform
  have hadmits : s₁.Admits s₀.next c student :=
    hs₁ ▸ (hs₀.logAll (errand config r).1).admits_beginGreeting student
  have hcourse : course config s₀ ask =
      [.noted (errand config r).1, .act (.register (.student student))] := by
    simp only [course, ask, herrand, Errand.connectCourse]
  refine ⟨by rw [hcourse]; rfl, ?_, hadmits.greets_run config after,
    fun first rest hafter hgives => ⟨hadmits.unregister_of_givesUp hgives, ?_⟩,
    hadmits.untold_of_ungreeted, ?_⟩
  · have hinsert : s₁.greetings = s₀.greetings.insert s₀.next ⟨c, student, none⟩ :=
      congrArg Session.greetings hs₁
    rw [hinsert, Table.get?_insert, if_pos rfl]
  · have hungreeted := hadmits.ungreeted_of_givesUp hgives rest
    rwa [← hafter] at hungreeted
  · rintro first why rest hafter hseen
    rw [hafter]
    exact hadmits.givesUp_of_hangUp hseen

/-- Student 7 gets a notification from before the greeting after it; one that cannot be greeted is
unregistered. -/
theorem greeted_first_student :
    let config : Config := { Config.standard with trustIdentity := true }
    let shake : Request := ⟨"GET", ⟨"", "/student/api/events", none⟩, [("x-student-id", [0x37]),
      ("connection", "Upgrade".toUTF8.toList), ("upgrade", "websocket".toUTF8.toList),
      ("sec-websocket-key", []), ("sec-websocket-version", "13".toUTF8.toList)], [], true⟩
    let ask : Step := .connect shake none
    let early : List Step := [.publish (.adminNotification "first"), .settle]
    let greeted : List Step :=
      early ++ [.greet 0, .publish (.adminNotification "second"), .settle]
    let broken : List Step := early ++ [.hangUp 0 "broken pipe", .greet 0]
    ∃ start, Session.ofConfig? config = .ok start ∧
      (respond config shake start).1.body = .upgrade 7 ∧
      (leaving config start [] ask greeted).framesTo ⟨0⟩ =
        [.text "\x7b\"kind\":\"hello\"\x7d",
          .text "\x7b\"kind\":\"notify\",\"payload\":\"first\"\x7d",
          .text "\x7b\"kind\":\"notify\",\"payload\":\"second\"\x7d"] ∧
      ((leaving config start [] ask greeted).framesTo ⟨0⟩).filterMap Outgoing.text? <+:
        Frame.json .hello :: ((entered config start [] ask).hub.enqueuedIn ⟨0⟩
          (history config (entered config start [] ask) greeted)).map Frame.json ∧
      .unregister ⟨0⟩ ∈ (entered config start [] ask).hub.submittedIn
        (history config (entered config start [] ask) (broken ++ [.settle])) ∧
      (leaving config start [] ask (broken ++ [.settle])).framesTo ⟨0⟩ = [] := by
  intro config shake ask early greeted broken
  let start : Session := (Session.start 256 (by decide)).onHub fun hub =>
    { hub with journal := Session.settings config :: hub.journal }
  have hstart : Session.ofConfig? config = .ok start := rfl
  have hupgrade : (respond config shake (run config start [])).1.body = .upgrade 7 := by
    decide +kernel
  have hungreeted : .greeted ∉ visit config start [] ask early := by decide +kernel
  obtain ⟨-, -, hgreets, -⟩ := greeted_first hstart [] greeted hupgrade
  obtain ⟨-, -, -, -, -, hgives⟩ := greeted_first hstart [] broken hupgrade
  obtain ⟨-, -, -, hunregister, huntold, -⟩ :=
    greeted_first hstart [] (broken ++ [.settle]) hupgrade
  obtain ⟨htold, hnever⟩ :=
    hunregister _ [] (List.append_nil _).symm (hgives early "broken pipe" [.greet 0] rfl hungreeted)
  exact ⟨start, hstart, hupgrade, by decide +kernel, hgreets.texts, htold, (huntold hnever).1⟩

end Web
end LiveUpdate
