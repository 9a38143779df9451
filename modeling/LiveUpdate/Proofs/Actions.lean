import LiveUpdate.Proofs.Happenings
import LiveUpdate.Proofs.WebTranscripts

/-! Everything that can be done to a session, short of a crash, and what it does to the hub. Only who
has a handle can submit commands: the router and the publisher share the main handle, and all else
takes that or a clone. -/
namespace LiveUpdate

/-- Whether a step goes through the router or the publisher. -/
def Web.Step.usesMain : Web.Step → Bool
  | http .. | connect .. | publish _ | handle _ => true
  | _ => false

/-- Reading a body takes as many events as there are, up to the limit. -/
theorem Stream.read_box (x : Stream) (box : Mailbox) (now limit : Nat) :
    (x.read box now limit).2.2.2 = { box with waiting := box.waiting.drop limit } := by
  induction limit generalizing x box with
  | zero => rfl
  | succ limit ih =>
    cases hw : box.waiting with
    | cons e rest =>
      have hrest := ih (x.restart now) { box with waiting := rest }
      simpa [read, poll, Mailbox.take, hw] using hrest
    | nil =>
      have hrest := ih (x.restart now) box
      rw [hw, List.drop_nil] at hrest
      unfold read poll
      simp only [Mailbox.take, hw, List.drop_nil]
      by_cases hc : box.isClosed = true
      · simp [hc, ← hw]
      · cases hd : x.due with
        | none => simp [hc, ← hw]
        | some due =>
          by_cases hdue : due ≤ now
          · simpa [hc, hdue] using hrest
          · simp [hc, hdue, ← hw]

namespace Session

/-- Receiving takes as many events as there are, up to the limit. -/
theorem drain_box (box : Mailbox) (limit : Nat) :
    (drain box limit).2.2 = { box with waiting := box.waiting.drop limit } := by
  induction limit generalizing box with
  | zero => rfl
  | succ limit ih =>
    cases hw : box.waiting with
    | nil =>
      have hsame : ({ box with waiting := [] } : Mailbox) = box := by rw [← hw]
      simp only [drain, Mailbox.take, hw, List.drop_nil, hsame]
    | cons e rest => simpa [drain, Mailbox.take, hw] using ih { box with waiting := rest }

/-- What can be done to a session. -/
inductive Action
  /-- A step behind the router, or something that goes on by itself. -/
  | web (step : Web.Step)
  | register (a : Audience)
  | unregister (c : ConnectionId)
  | unregisterUnknown
  | send (scope : Scope) (kind payload : String)
  | sendTo (audiences : List Audience) (kind payload : String)
  | sendToStudents (students : List StudentId) (kind payload : String)
  | stats
  | cloneHandle
  | dropClones
  | dropMain
  | receive (c : ConnectionId) (limit : Option Nat)
  | refuseMore (c : ConnectionId)
  | abandon (c : ConnectionId)
  | addGuard (c : ConnectionId)
  | dropGuard (guard : Nat)
  | runPair (c : ConnectionId) (encode : Encoder) (sink : Sink)
  | runWriter (c : ConnectionId) (encode : Encoder) (sink : Sink)
  | runReader (c : ConnectionId)
  | setReady (task : Nat) (ready : Bool)
  | abort (task : Nat)
  /-- A task that was told to end does so. -/
  | cutOff (task : Nat)
  | openStream (c : ConnectionId) (keepAlive : Option Nat)
  | collect (task : Nat)

/-- Whether an action is possible: a handle must be there for it if it takes one. -/
def allows (s : Session) : Action → Bool
  | .web step => s.main || !step.usesMain
  | .register _ | .unregister _ | .unregisterUnknown | .send .. | .sendTo .. | .sendToStudents ..
  | .stats | .cloneHandle | .addGuard _ | .runPair .. | .runReader _ | .openStream .. =>
    s.main || s.clones ≠ 0
  | .cutOff i => s.doomed.contains i
  | _ => true

/-- An action that is possible. -/
def act (config : Config) (s : Session) : Action → Session
  | .web step => Web.perform config s step
  | .register a => (s.register a).2
  | .unregister c => s.unregister c
  | .unregisterUnknown => s.unregisterUnknown
  | .send scope kind payload => (s.send scope kind payload).2
  | .sendTo audiences kind payload => (s.sendTo audiences kind payload).2
  | .sendToStudents students kind payload => (s.sendToStudents students kind payload).2
  | .stats => s.stats.2
  | .cloneHandle => s.cloneHandle
  | .dropClones => s.dropClones
  | .dropMain => s.dropMain
  | .receive c limit => (s.receive c limit).2
  | .refuseMore c => s.refuseMore c
  | .abandon c => s.abandon c
  | .addGuard c => (s.addGuard c).2
  | .dropGuard i => s.dropGuard i
  | .runPair c encode sink => (s.runPair c encode sink).2
  | .runWriter c encode sink => (s.runWriter c encode sink).2
  | .runReader c => (s.runReader c).2
  | .setReady i ready => s.setReady i ready
  | .abort i => s.abort i
  | .cutOff i => s.perform (.cancel i)
  | .openStream c keepAlive => (s.openStream c keepAlive).2
  | .collect i => (s.collect i).2

/-- An action, if it is possible. -/
def enact (config : Config) (s : Session) (action : Action) : Session :=
  if s.allows action then s.act config action else s

def enactAll (config : Config) (s : Session) (actions : List Action) : Session :=
  actions.foldl (enact config) s

@[simp] theorem enactAll_nil (config : Config) (s : Session) : s.enactAll config [] = s := rfl

@[simp] theorem enactAll_cons (config : Config) (s : Session) (action : Action)
    (rest : List Action) :
    s.enactAll config (action :: rest) = (s.enact config action).enactAll config rest := rfl

variable {config : Config} {s : Session}

/-! ### What actions do to the hub -/

open Hub (Happening doings)

/-- What asking for the figures does to the hub, the settling meanwhile included. -/
def statsCourse (s : Session) : List Happening :=
  .act .askStats :: { s with hub := s.hub.askStats.2 }.settling ++ [.fetched s.hub.nextTicket]

theorem stats_hub (s : Session) : s.stats.2.hub = s.hub.undergo s.statsCourse := by
  let asked : Session := { s with hub := s.hub.askStats.2 }
  have hstats : s.stats.2.hub = (asked.settle.hub.answer s.hub.nextTicket).2 := rfl
  rw [hstats, asked.settle_hub, statsCourse, List.cons_append, Hub.undergo_cons, Hub.undergo_append]
  rfl

def closeCourse (s : Session) (i : Nat) : List Happening :=
  match s.streams.get? i with
  | none => []
  | some stream => doings [.abandon stream.connection, .unregister stream.connection]

theorem closeStream_course (s : Session) (i : Nat) :
    (s.closeStream i).hub = s.hub.undergo (s.closeCourse i) := by
  simp only [closeStream, closeCourse]
  cases s.streams.get? i <;> rfl

/-- What reading a body does to the hub; a body that ends is closed. -/
def readCourse (s : Session) (i : Nat) (limit : Option Nat) : List Happening :=
  match s.streams.get? i with
  | none => []
  | some stream =>
    match s.hub.mailbox? stream.connection with
    | none => []
    | some box =>
      let limit := limit.getD (box.waiting.length + 2)
      doings (Hub.takes stream.connection limit) ++
        if (stream.read box s.clock limit).2.1 then
          .noted [.streamClosed stream.connection] ::
            doings [.abandon stream.connection, .unregister stream.connection]
        else []

theorem readStream_course (s : Session) (i : Nat) (limit : Option Nat) :
    (s.readStream i limit).2.hub = s.hub.undergo (s.readCourse i limit) := by
  cases hi : s.streams.get? i with
  | none => simp [readStream, readCourse, hi]
  | some x =>
    cases hbox : s.hub.mailbox? x.connection with
    | none => simp [readStream, readCourse, hi, hbox]
    | some box =>
      have hread := readStream_eq hi hbox limit
      have hafter : (s.readBody i x box limit).hub = s.hub.run
          (Hub.takes x.connection (limit.getD (box.waiting.length + 2))) := by
        rw [Hub.run_takes hbox, ← x.read_box box s.clock]
        rfl
      rw [hread, readCourse, hi]
      simp only [hbox, Hub.undergo_append, Hub.undergo_doings, ← hafter]
      split
      · have hstream : ((s.readBody i x box limit).log (.streamClosed x.connection)).closeCourse i =
            doings [.abandon x.connection, .unregister x.connection] := by
          have hc := (read_frame x box s.clock (limit.getD (box.waiting.length + 2))).1
          simp [closeCourse, readBody, log, onHub, hc]
        rw [closeStream_course, hstream]
        rfl
      · rfl

/-- What is reported after a domain event that is for certain students. -/
def lastLines (d : DomainEvent) : List Entry :=
  match d.plan.refusal, d with
  | none, .selectionsChanged students counts =>
    [.selectionsPublished (DomainEvent.distinctStudents students).length
      (DomainEvent.distinctCounts counts).length]
  | _, _ => []

def handleCourse (d : DomainEvent) : List Happening :=
  Hub.leaving [.handling d.name] (d.plan.messages.map .send) ++ [.noted (lastLines d)]

theorem handle_hub (s : Session) (d : DomainEvent) :
    (s.handle d).2.hub = s.hub.undergo (handleCourse d) := by
  have hplain : ∀ command ∈ d.plan.messages.map Command.send, command.isPlain = true := by
    intro command hcommand
    obtain ⟨m, -, rfl⟩ := List.mem_map.mp hcommand
    rfl
  have hquiet (hub : Hub) : hub = hub.logAll [] := by simp [Hub.logAll]
  rw [handleCourse, Hub.undergo_append, Hub.undergo_leaving _ hplain]
  simp only [handle, lastLines]
  cases d.plan.refusal with
  | some why => exact hquiet _
  | none =>
    cases d with
    | selectionsChanged students counts => rfl
    | _ => exact hquiet _

def publishCourse (d : DomainEvent) : List Happening := .noted [.publishing d.name 1] :: handleCourse d

theorem publish_hub (s : Session) (d : DomainEvent) :
    (s.publish d).2.hub = s.hub.undergo (publishCourse d) := (s.log _).handle_hub d

end Session

/-- What an errand does to the hub. -/
def Web.Errand.course (s : Session) (kept : Bool) : Web.Errand → List Hub.Happening
  | .nothing | .upgrade _ => []
  | .stream a => .act (.register a) :: if kept then [] else
      Hub.doings [.abandon ⟨s.hub.nextConnection⟩, .unregister ⟨s.hub.nextConnection⟩]
  | .publish d => Session.publishCourse d
  | .figures => s.statsCourse

theorem Web.Errand.finish_hub (config : Config) (s : Session) (kept : Bool) (e : Web.Errand) :
    (e.finish config s kept).hub = s.hub.undergo (e.course s kept) := by
  cases e with
  | nothing => rfl
  | upgrade student => rfl
  | publish d => exact s.publish_hub d
  | figures => exact s.stats_hub
  | stream a =>
    cases kept with
    | true => rfl
    | false =>
      have hopened : (Web.openStream config a s).2.closeCourse s.next = Hub.doings
          [.abandon ⟨s.hub.nextConnection⟩, .unregister ⟨s.hub.nextConnection⟩] := by
        simp [Session.closeCourse, Web.openStream, Session.openStream, Session.fresh,
          Session.register, Hub.register, Hub.freshConnection, Stream.new]
      have hclosed := (Web.openStream config a s).2.closeStream_course s.next
      rw [hopened] at hclosed
      exact hclosed

/-- What the errand of a WebSocket client does to the hub, whose upgrade may fail. -/
def Web.Errand.connectCourse (s : Session) : Web.Errand → Option String → List Hub.Happening
  | .upgrade student, none => [.act (.register (.student student))]
  | .upgrade student, some why => [.noted [.upgradeFailed student why]]
  | e, _ => e.course s false

namespace Web

/-- What a step behind the router does to the hub. -/
def course (config : Config) (s : Session) : Step → List Hub.Happening
  | .http r kept => .noted (errand config r).1 ::
      (errand config r).2.course (s.logAll (errand config r).1) (r.method ≠ "HEAD" && kept)
  | .connect r failure => .noted (errand config r).1 ::
      (errand config r).2.connectCourse (s.logAll (errand config r).1) failure
  | .greet i =>
    match s.greetings.get? i with
    | some ⟨c, student, none⟩ => [.noted [.established student c]]
    | _ => []
  | .read i limit => s.readCourse i limit
  | .drop i => s.closeCourse i
  | .publish d => Session.publishCourse d
  | .handle d => Session.handleCourse d
  | .advance ms => { s with clock := s.clock + ms }.settling
  | .move m => if m.cancels then [] else s.effect m
  | .settle => s.settling
  | .hangUp .. | .bytes .. | .lose _ | .sever .. | .inbound .. | .endInput _ => []

theorem course_greet_of_obstructed {config : Config} {s : Session} {i : Nat}
    (hi : ∀ c student, s.greetings.get? i ≠ some ⟨c, student, none⟩) :
    course config s (.greet i) = [] := by
  simp only [course]

end Web

namespace Session

open Hub (Happening doings)

theorem arrive_frame (s : Session) (i : Nat) (frame : Inbound) :
    ∃ tasks, (s.arrive i frame).2 = { s with tasks } := by
  unfold arrive
  split
  · exact ⟨_, rfl⟩
  · split <;> exact ⟨_, rfl⟩

theorem endInput_frame (s : Session) (i : Nat) : ∃ tasks, s.endInput i = { s with tasks } := by
  unfold endInput
  split
  · exact ⟨_, rfl⟩
  · split <;> exact ⟨_, rfl⟩

theorem absorb_frame (s : Session) (i : Nat) (arrival : WebSocket.Arrival) :
    ∃ tasks links, s.absorb i arrival = { s with tasks, links } := by
  have hall (frames : List Inbound) (s : Session) :
      ∃ tasks, frames.foldl (fun s frame => (s.arrive i frame).2) s = { s with tasks } := by
    induction frames generalizing s with
    | nil => exact ⟨_, rfl⟩
    | cons frame rest ih =>
      obtain ⟨tasks, hfirst⟩ := s.arrive_frame i frame
      obtain ⟨tasks', hrest⟩ := ih (s.arrive i frame).2
      refine ⟨tasks', hrest.trans ?_⟩
      rw [hfirst]
  obtain ⟨tasks, hs⟩ := hall arrival.messages _
  exact ⟨tasks, _, hs⟩

/-- What comes from a client, or comes to its end, changes nothing but the task and the link. -/
theorem feed_frame (s : Session) (i : Nat) (bytes : List UInt8) :
    ∃ tasks links, s.feed i bytes = { s with tasks, links } := by
  unfold feed
  split
  · split
    · exact s.absorb_frame i _
    · exact ⟨_, _, rfl⟩
  · exact ⟨_, _, rfl⟩

theorem lose_frame (s : Session) (i : Nat) : ∃ tasks links, s.lose i = { s with tasks, links } := by
  unfold Session.lose
  split
  · split
    · exact s.absorb_frame i _
    · exact ⟨_, _, rfl⟩
  · exact ⟨_, _, rfl⟩

theorem webStep_hub (config : Config) (s : Session) (x : Web.Step) :
    (Web.perform config s x).hub = s.hub.undergo (Web.course config s x) := by
  cases x with
  | http r kept =>
    rw [Web.perform_http]
    exact Web.Errand.finish_hub config _ _ _
  | connect r failure =>
    rw [Web.perform_connect, Web.course, Hub.undergo_cons]
    cases (Web.errand config r).2 with
    | upgrade student => cases failure <;> rfl
    | _ => exact Web.Errand.finish_hub config _ _ _
  | greet i =>
    rcases s.greeting_cases i with ⟨c, student, hi⟩ | ⟨hnone, hsame⟩
    · simp only [Web.perform, Web.course, finishGreeting, hi]
      rfl
    · rw [Web.course_greet_of_obstructed hnone, Web.perform, hsame]
      rfl
  | read i limit => exact s.readStream_course i limit
  | drop i => exact s.closeStream_course i
  | publish d => exact s.publish_hub d
  | handle d => exact s.handle_hub d
  | advance ms => exact settle_hub { s with clock := s.clock + ms }
  | move m =>
    simp only [Web.perform, Web.course]
    split
    · rfl
    · exact s.perform_hub m
  | settle => exact s.settle_hub
  | hangUp i why => rfl
  | bytes i data =>
    obtain ⟨tasks, links, hs⟩ := s.feed_frame i data
    rw [Web.perform, hs]
    rfl
  | lose i =>
    obtain ⟨tasks, links, hs⟩ := s.lose_frame i
    rw [Web.perform, hs]
    rfl
  | sever i why => rfl
  | inbound i frame =>
    obtain ⟨tasks, hs⟩ := s.arrive_frame i frame
    rw [Web.perform, hs]
    rfl
  | endInput i =>
    obtain ⟨tasks, hs⟩ := s.endInput_frame i
    rw [Web.perform, hs]
    rfl

/-- What is handed over if the event can be built. -/
def builtCourse (kind payload : String) (act : Event → Hub.Act) : List Happening :=
  match Event.build kind payload with
  | .ok e => [.act (act e)]
  | .error _ => []

theorem submitEvent_hub (s : Session) (kind payload : String) {act : Event → Hub → Hub}
    {handed : Event → Hub.Act} (h : ∀ e hub, act e hub = hub.perform (handed e)) :
    (s.submitEvent kind payload act).2.hub = s.hub.undergo (builtCourse kind payload handed) := by
  unfold submitEvent builtCourse
  cases Event.build kind payload with
  | ok e => exact h e s.hub
  | error why => rfl

def receiveCourse (s : Session) (c : ConnectionId) (limit : Option Nat) : List Happening :=
  match s.hub.mailbox? c with
  | none => []
  | some box => doings (Hub.takes c (limit.getD (box.waiting.length + 1)))

theorem receive_hub (s : Session) (c : ConnectionId) (limit : Option Nat) :
    (s.receive c limit).2.hub = s.hub.undergo (s.receiveCourse c limit) := by
  cases hbox : s.hub.mailbox? c with
  | none => simp only [receive, receiveCourse, hbox, Hub.undergo_nil]
  | some box =>
    simp only [receive, receiveCourse, hbox, Hub.undergo_doings, Hub.run_takes hbox,
      ← drain_box box]
    rfl

def dropGuardCourse (s : Session) (i : Nat) : List Happening :=
  match s.guards.get? i with
  | none => []
  | some c => [.act (.unregister c)]

/-- What an action does to the hub. -/
def course (config : Config) (s : Session) : Action → List Happening
  | .web step => Web.course config s step
  | .register a => [.act (.register a)]
  | .unregister c => [.act (.unregister c)]
  | .unregisterUnknown => [.numbered, .act (.unregister ⟨s.hub.nextConnection⟩)]
  | .send scope kind payload => builtCourse kind payload fun e => .send ⟨scope, e⟩
  | .sendTo audiences kind payload => builtCourse kind payload fun e => .sendTo audiences e
  | .sendToStudents students kind payload =>
    builtCourse kind payload fun e => .sendToStudents students e
  | .stats => s.statsCourse
  | .receive c limit => s.receiveCourse c limit
  | .refuseMore c => [.act (.refuseMore c)]
  | .abandon c => [.act (.abandon c)]
  | .dropGuard i => s.dropGuardCourse i
  | .cutOff i => s.effect (.cancel i)
  | .cloneHandle | .dropClones | .dropMain | .addGuard _ | .runPair .. | .runWriter ..
  | .runReader _ | .setReady .. | .abort _ | .openStream .. | .collect _ => []

theorem act_hub (config : Config) (s : Session) (action : Action) :
    (s.act config action).hub = s.hub.undergo (s.course config action) := by
  cases action with
  | web step => exact webStep_hub config s step
  | send scope kind payload => exact s.submitEvent_hub kind payload fun _ _ => rfl
  | sendTo audiences kind payload => exact s.submitEvent_hub kind payload fun _ _ => rfl
  | sendToStudents students kind payload => exact s.submitEvent_hub kind payload fun _ _ => rfl
  | stats => exact s.stats_hub
  | receive c limit => exact s.receive_hub c limit
  | dropGuard i =>
    simp only [act, dropGuard, course, dropGuardCourse]
    cases s.guards.get? i <;> rfl
  | cutOff i => exact s.perform_hub (.cancel i)
  | abort i =>
    simp only [act, abort, course]
    split
    · rfl
    · split <;> rfl
  | collect i =>
    simp only [act, collect, course]
    split <;> rfl
  | _ => rfl

/-- Whether an action leaves those alone who work on the hub. -/
def Action.sparesWorkers : Action → Bool
  | .register _ | .unregister _ | .unregisterUnknown | .send .. | .sendTo .. | .sendToStudents ..
  | .cloneHandle | .dropClones | .dropMain | .receive .. | .refuseMore _ | .abandon _
  | .dropGuard _ | .abort _ => true
  | _ => false

theorem act_frame (config : Config) (s : Session) {action : Action}
    (h : action.sparesWorkers = true) : ∃ hub main clones guards doomed,
      s.act config action = { s with hub, main, clones, guards, doomed } := by
  have hsubmit (kind payload : String) (act : Event → Hub → Hub) :
      ∃ hub, (s.submitEvent kind payload act).2 = { s with hub } := by
    unfold submitEvent
    split <;> exact ⟨_, rfl⟩
  cases action with
  | send scope kind payload =>
    obtain ⟨hub, hs⟩ := hsubmit kind payload fun e hub => hub.send ⟨scope, e⟩
    exact ⟨hub, _, _, _, _, hs⟩
  | sendTo audiences kind payload =>
    obtain ⟨hub, hs⟩ := hsubmit kind payload fun e hub => hub.sendTo audiences e
    exact ⟨hub, _, _, _, _, hs⟩
  | sendToStudents students kind payload =>
    obtain ⟨hub, hs⟩ := hsubmit kind payload fun e hub => hub.sendToStudents students e
    exact ⟨hub, _, _, _, _, hs⟩
  | receive c limit =>
    simp only [act, receive]
    split <;> exact ⟨_, _, _, _, _, rfl⟩
  | dropGuard i =>
    simp only [act, dropGuard]
    split <;> exact ⟨_, _, _, _, _, rfl⟩
  | abort i =>
    simp only [act, abort]
    split
    · exact ⟨_, _, _, _, _, rfl⟩
    · split <;> exact ⟨_, _, _, _, _, rfl⟩
  | register | unregister | unregisterUnknown | cloneHandle | dropClones | dropMain | refuseMore
  | abandon => exact ⟨_, _, _, _, _, rfl⟩
  | _ => cases h

/-- What a run does to the hub. -/
def history (config : Config) : Session → List Action → List Happening
  | _, [] => []
  | s, action :: rest =>
    (if s.allows action then s.course config action else []) ++
      history config (s.enact config action) rest

theorem enact_hub (config : Config) (s : Session) (action : Action) :
    (s.enact config action).hub =
      s.hub.undergo (if s.allows action then s.course config action else []) := by
  unfold enact
  split
  · exact s.act_hub config action
  · rfl

/-- The hub after a run is the hub after what the run does to it. -/
theorem enactAll_hub (config : Config) (s : Session) (actions : List Action) :
    (s.enactAll config actions).hub = s.hub.undergo (s.history config actions) := by
  induction actions generalizing s with
  | nil => rfl
  | cons action rest ih =>
    rw [enactAll_cons, ih, history, Hub.undergo_append, ← s.enact_hub config action]

end Session
end LiveUpdate
