import LiveUpdate.Proofs.Departures
import LiveUpdate.Proofs.Endurance
import LiveUpdate.Proofs.Visits

/-! Who keeps a registration alive: a response body that is there, a session that is still to be
greeted, a pair of pumps whose inbound side has not come to its end and whose writer has not failed.
In a settled session the table holds the connections of these owners and no others. -/
namespace LiveUpdate

/-- The connection that a pair keeps alive: its inbound side has seen no close frame, no error and
no end, and its writer has not failed. -/
def Pair.keeps (p : Pair) : Option ConnectionId :=
  if p.reader.hears && !p.writer.outcome.hasFailed then some p.connection else none

theorem Pair.keeps_eq_some {p : Pair} {c : ConnectionId} : p.keeps = some c ↔
    p.reader.hears = true ∧ p.writer.outcome.hasFailed = false ∧ p.connection = c := by
  simp [keeps, and_assoc]

namespace Session

variable {s s' : Session} {c : ConnectionId}

/-- The connection that is kept alive in a place. -/
def owner (s : Session) : Place → Option ConnectionId
  | .stream i => (s.streams.get? i).map Stream.connection
  | .greeting i => (s.greetings.get? i).bind Greeting.keeps
  | .task i => ((s.tasks.get? i).bind Task.pair?).bind Pair.keeps

/-- Somebody keeps the connection alive. -/
def Owned (s : Session) (c : ConnectionId) : Prop := ∃ place, s.owner place = some c

/-- Whether the table of the hub holds the connection. -/
def Registered (s : Session) (c : ConnectionId) : Prop :=
  (s.hub.registry.audiences.get? c).isSome = true

/-- The writer of the connection has failed. -/
def Failed (s : Session) (c : ConnectionId) : Prop :=
  ∃ i p, s.tasks.get? i = some (.paired p) ∧ p.connection = c ∧ p.writer.outcome.hasFailed = true

/-- The transport to which the events of the connection are written is broken. -/
def Severed (s : Session) (c : ConnectionId) : Prop :=
  ∃ i p, s.tasks.get? i = some (.paired p) ∧ p.connection = c ∧
    p.writer.sink.breaksAfter.isSome = true

/-- An owner is a place that looks after the connection. -/
theorem Sound.place_of_owner (h : s.Sound) {place : Place} (ho : s.owner place = some c) :
    ∃ x, s.charge place = some x ∧ x.connection = c ∧ x.claims = true := by
  cases place with
  | stream i =>
    obtain ⟨stream, hi, rfl⟩ := Option.map_eq_some_iff.mp ho
    exact ⟨_, charge_stream hi, rfl, rfl⟩
  | greeting i =>
    obtain ⟨g, hi, hg⟩ := Option.bind_eq_some_iff.mp ho
    unfold Greeting.keeps at hg
    split at hg <;> cases hg
    exact ⟨_, charge_greeting hi, rfl, rfl⟩
  | task i =>
    obtain ⟨p, hp, hkeeps⟩ := Option.bind_eq_some_iff.mp ho
    have hi := get?_of_pair? hp
    obtain ⟨hhears, hfailed, hc⟩ := Pair.keeps_eq_some.mp hkeeps
    exact ⟨_, charge_task hi, hc, (h.pair_sound hi).claims_of_hears hhears hfailed⟩

/-- Whose writer has failed has no owner. -/
theorem Sound.not_failed_of_owned (h : s.Sound) (ho : s.Owned c) : ¬s.Failed c := by
  rintro ⟨i, p, hi, hpc, hfailed⟩
  obtain ⟨place, ho⟩ := ho
  obtain ⟨x, hx, hxc, -⟩ := h.place_of_owner ho
  have hplace := h.balanced.apart _ _ _ _ hx (charge_task hi) (hxc.trans hpc.symm)
  subst hplace
  rw [owner, hi, Option.bind_some, Task.pair?, Option.bind_some] at ho
  rw [(Pair.keeps_eq_some.mp ho).2.1] at hfailed
  cases hfailed

/-! ### Settled sessions -/

theorem Settled.pending (h : s.Settled) (hs : s.Sound) : s.hub.pending = [] := by
  have hidle := h.idle .hub
  simpa [canGo, hs.running, h.resting, hs.held] using hidle

/-- In a settled session a pair that has still to take back a registration is alive on both
sides. -/
theorem Settled.keeps_of_claims (h : s.Settled) (hs : s.Steady) {i : Nat} {p : Pair}
    (hi : s.tasks.get? i = some (.paired p)) (hc : p.claims = true) :
    p.keeps = some p.connection := by
  have hp := hs.sound.pair_sound hi
  have hagrees := hp.agrees
  simp only [Pair.claims, ne_eq, Bool.and_eq_true, decide_eq_true_eq] at hc
  have hwatching : p.stage = .watching := by
    cases hstage : p.stage with
    | watching => rfl
    | fresh => exact absurd hstage (h.begun hs hi)
    | draining =>
      rw [hstage] at hagrees
      rw [hagrees.2.2.1] at hc
      cases hc.2
    | returned => exact absurd hstage hc.1
    | cancelled =>
      rw [hstage] at hagrees
      exact hagrees.elim
  rw [hwatching] at hagrees
  have hrunning : p.reader.outcome = .running := by
    obtain ⟨-, -, hidle, hcancelled⟩ := hagrees
    cases ho : p.reader.outcome with
    | running => rfl
    | idle => exact absurd ho hidle
    | _ => rw [ho] at hc; cases hc.2
  have hhears : p.reader.hears = true :=
    Reader.hears_of_step_eq hrunning (by rw [Reader.step_of_idle (h.reader_idle hi)])
  have hwriter : p.writer.outcome.isLive = true := by
    simpa [Pair.canGo, hwatching, Stage.guards, hc.2] using h.supervisor_idle hs.sound hi
  simp [Pair.keeps, hhears, Outcome.not_hasFailed_of_isLive hwriter]

/-- In a settled session the table holds the connections that are kept alive, and no others. -/
theorem Settled.registered_iff (h : s.Settled) (hs : s.Steady) (c : ConnectionId) :
    s.Registered c ↔ s.Owned c := by
  have hprospect : (s.hub.prospect c).isSome = true ↔ s.Registered c := by
    rw [Hub.prospect_of_settled (h.pending hs.sound), Registered]
  rw [← hprospect]
  constructor
  · intro hexpected
    obtain ⟨place, x, hx, rfl⟩ := hs.sound.balanced.placed c hexpected
    have hclaims : x.claims = true := by
      rw [← hs.sound.balanced.claimed place x hx]
      exact hexpected
    refine ⟨place, ?_⟩
    cases place with
    | stream i =>
      obtain ⟨stream, hi, rfl⟩ := Option.map_eq_some_iff.mp hx
      simp [owner, hi]
    | greeting i =>
      obtain ⟨g, hi, rfl⟩ := Option.map_eq_some_iff.mp hx
      have hobstacle : g.obstacle = none := by
        simpa [canGo, hi] using h.idle (.greeter i)
      simp [owner, hi, Greeting.keeps, hobstacle]
    | task i =>
      obtain ⟨t, hi, rfl⟩ := Option.map_eq_some_iff.mp hx
      obtain ⟨p, rfl, -⟩ := hs.sound.pairs i t hi
      have hkeeps := h.keeps_of_claims hs hi hclaims
      simp only [owner, hi, Option.bind_some, Task.pair?]
      exact hkeeps
  · rintro ⟨place, ho⟩
    obtain ⟨x, hx, rfl, hclaims⟩ := hs.sound.place_of_owner ho
    exact (hs.sound.balanced.claimed place x hx).trans hclaims

/-! ### What goes on by itself -/

/-- What goes on by itself takes connections from their owners only by the failure of a writer. -/
theorem Endures.owned_iff (h : s.Endures s') (hs' : s'.Sound) :
    s'.Owned c ↔ s.Owned c ∧ ¬s'.Failed c := by
  constructor
  · intro ho
    refine ⟨?_, hs'.not_failed_of_owned ho⟩
    obtain ⟨place, ho⟩ := ho
    refine ⟨place, ?_⟩
    cases place with
    | stream i => rwa [owner, h.streams] at ho
    | greeting i => rwa [owner, h.greetings] at ho
    | task i =>
      obtain ⟨p', hp', hkeeps⟩ := Option.bind_eq_some_iff.mp ho
      obtain ⟨p, hi⟩ := h.old i p' (get?_of_pair? hp')
      obtain ⟨q, hq, hendures⟩ := h.pairs i p hi
      rw [get?_of_pair? hp'] at hq
      cases hq
      obtain ⟨hhears, hfailed, hc⟩ := Pair.keeps_eq_some.mp hkeeps
      rw [owner, hi]
      refine Pair.keeps_eq_some.mpr ⟨hendures.hears ▸ hhears, ?_, hendures.connection ▸ hc⟩
      rw [Bool.eq_false_iff]
      intro hf
      rw [hendures.failed hf] at hfailed
      cases hfailed
  · rintro ⟨⟨place, ho⟩, hsound⟩
    refine ⟨place, ?_⟩
    cases place with
    | stream i => rwa [owner, h.streams]
    | greeting i => rwa [owner, h.greetings]
    | task i =>
      obtain ⟨p, hp, hkeeps⟩ := Option.bind_eq_some_iff.mp ho
      obtain ⟨p', hi', hendures⟩ := h.pairs i p (get?_of_pair? hp)
      obtain ⟨hhears, -, hc⟩ := Pair.keeps_eq_some.mp hkeeps
      have hc' := hendures.connection.trans hc
      rw [owner, hi']
      refine Pair.keeps_eq_some.mpr ⟨hendures.hears.trans hhears, ?_, hc'⟩
      rw [Bool.eq_false_iff]
      exact fun hf => hsound ⟨i, p', hi', hc', hf⟩

/-- A writer that keeps a connection alive fails by itself only on a broken transport. -/
theorem Endures.severed_of_failed (h : s.Endures s') (hs : s.Sound) (ho : s.Owned c)
    (hf : s'.Failed c) : s.Severed c := by
  obtain ⟨i, p', hi', hc', hfailed⟩ := hf
  obtain ⟨p, hi⟩ := h.old i p' hi'
  obtain ⟨q, hq, hendures⟩ := h.pairs i p hi
  rw [hi'] at hq
  cases hq
  have hc : p.connection = c := hendures.connection.symm.trans hc'
  refine ⟨i, p, hi, hc, ?_⟩
  rcases hendures.fails hfailed with hf | hdeaf | hbroken
  · exact absurd ⟨i, p, hi, hc, hf⟩ (hs.not_failed_of_owned ho)
  · obtain ⟨place, ho⟩ := ho
    obtain ⟨x, hx, hxc, -⟩ := hs.place_of_owner ho
    have hplace := hs.balanced.apart _ _ _ _ hx (charge_task hi) (hxc.trans hc.symm)
    subst hplace
    rw [owner, hi] at ho
    rw [(Pair.keeps_eq_some.mp ho).1] at hdeaf
    cases hdeaf
  · exact hbroken

/-- Who has the same bodies, greetings and pairs keeps the same connections alive. -/
theorem Undisturbed.owned_iff (h : s.Undisturbed s') : s'.Owned c ↔ s.Owned c := by
  have howner : s'.owner = s.owner := by
    funext place
    cases place <;> simp only [owner, h.streams, h.greetings, h.tasks]
  rw [Owned, howner, Owned]

/-! ### Requests that leave nothing behind -/

theorem closeStream_frame (s : Session) (i : Nat) :
    (∀ j, (s.closeStream i).streams.get? j = if j = i then none else s.streams.get? j) ∧
      (s.closeStream i).greetings = s.greetings ∧ (s.closeStream i).tasks = s.tasks := by
  unfold closeStream
  cases hi : s.streams.get? i with
  | none =>
    refine ⟨fun j => ?_, rfl, rfl⟩
    by_cases hj : j = i
    · rw [if_pos hj, hj]
      exact hi
    · rw [if_neg hj]
  | some stream => exact ⟨fun j => s.streams.get?_erase i j, rfl, rfl⟩

theorem Settled.logAll (h : s.Settled) (entries : List Entry) : (s.logAll entries).Settled where
  due := h.due
  resting := h.resting
  idle w := by
    rw [← h.idle w]
    cases w <;> rfl

theorem undisturbed_of_eq (hstreams : s'.streams = s.streams)
    (hgreetings : s'.greetings = s.greetings) (htasks : s'.tasks = s.tasks)
    (hmailboxes : ∀ c, s'.hub.mailbox? c = s.hub.mailbox? c) : s.Undisturbed s' where
  streams _ := by rw [hstreams]
  greetings := hgreetings
  tasks := htasks
  mailbox _ p _ := hmailboxes p.connection

theorem Settled.spared (h : s.Settled) (hs : s.Sound) : s.Spared s.hub := by
  intro command hcommand
  rw [h.pending hs] at hcommand
  cases hcommand

/-- A stream that is closed as soon as it has been opened leaves nothing behind. -/
theorem Settled.undisturbed_openStream_closeStream (h : s.Settled) (hs : s.Sound) (config : Config)
    (a : Audience) :
    s.Undisturbed ((Web.openStream config a s).2.closeStream s.next) ∧
      s.Spared ((Web.openStream config a s).2.closeStream s.next).hub := by
  have hnew : (Web.openStream config a s).2.streams.get? s.next = some
      (.new ⟨s.hub.nextConnection⟩ (some (config.keepAliveSeconds * 1000)) s.clock) :=
    (Table.get?_insert ..).trans (if_pos rfl)
  have hhub : ((Web.openStream config a s).2.closeStream s.next).hub =
      ((s.hub.register a).2.updateMailbox ⟨s.hub.nextConnection⟩ Mailbox.abandon).unregister
        ⟨s.hub.nextConnection⟩ := by
    rw [closeStream, hnew]
    rfl
  have hne {i : Nat} {p : Pair} (hi : s.tasks.get? i = some (.paired p)) :
      p.connection ≠ ⟨s.hub.nextConnection⟩ := hs.ne_next (charge_task hi)
  obtain ⟨hstreams, hgreetings, htasks⟩ := closeStream_frame (Web.openStream config a s).2 s.next
  refine ⟨⟨fun i => ?_, hgreetings, htasks, fun i p hi => ?_⟩, fun command hcommand i p hi => ?_⟩
  · have hnone : s.streams.get? s.next = none := by
      simpa [charge] using hs.numbered (.stream s.next) (Nat.le_refl _)
    rw [hstreams]
    split
    · rename_i hi
      rw [hi, hnone]
    · rename_i hi
      exact (Table.get?_insert ..).trans (if_neg hi)
  · rw [hhub, Hub.unregister, Hub.submit_mailbox?]
    simp only [Hub.mailbox?, Hub.updateMailbox, Table.get?_modify, if_neg (hne hi)]
    exact (Hub.submit_mailbox? ..).trans ((Table.get?_insert ..).trans (if_neg (hne hi)))
  · have hpending : ((Web.openStream config a s).2.closeStream s.next).hub.pending =
        [.register ⟨s.hub.nextConnection⟩ a, .unregister ⟨s.hub.nextConnection⟩] := by
      rw [hhub]
      simp [Hub.unregister, Hub.submit, Hub.updateMailbox, Hub.register, Hub.freshConnection,
        hs.running, h.pending hs]
    rw [hpending] at hcommand
    rcases List.mem_cons.mp hcommand with rfl | hcommand
    · rfl
    · rw [List.mem_singleton.mp hcommand]
      exact decide_eq_true (hne hi).symm

theorem Settled.undisturbed_stats (h : s.Settled) (hs : s.Steady) :
    s.Undisturbed s.stats.2 ∧ s.Spared s.stats.2.hub := by
  have hasked : s.Undisturbed s.asked :=
    undisturbed_of_eq rfl rfl rfl (Hub.submit_mailbox? _)
  have hspared : s.Spared s.asked.hub := by
    intro command hcommand
    have hpending : s.asked.hub.pending = [.stats s.hub.nextTicket] := by
      simp [asked, Hub.askStats, Hub.submit, hs.sound.running, h.pending hs.sound]
    rw [hpending, List.mem_singleton] at hcommand
    subst hcommand
    exact fun _ _ _ => rfl
  obtain ⟨hu, hsettled⟩ := h.undisturbed_settle hs hasked hs.sound.asked hspared
  exact ⟨⟨hu.streams, hu.greetings, hu.tasks, hu.mailbox⟩, hsettled⟩

theorem Settled.undisturbed_publish (h : s.Settled) (hs : s.Sound) (d : DomainEvent) :
    s.Undisturbed (s.publish d).2 ∧ (d.plan.messages = [] → s.Spared (s.publish d).2.hub) := by
  have hmailboxes (c : ConnectionId) : (s.publish d).2.hub.mailbox? c = s.hub.mailbox? c := by
    simp only [publish, Session.handle, Hub.submitAll_eq]
    split <;> rfl
  refine ⟨undisturbed_of_eq rfl rfl rfl hmailboxes, fun hnone command hcommand => ?_⟩
  have hpending : (s.publish d).2.hub.pending = s.hub.pending := by
    simp only [publish, Session.handle, hnone]
    split <;> rfl
  rw [hpending, h.pending hs] at hcommand
  cases hcommand

/-- An errand of which nothing is kept leaves a settled session undisturbed, but for what it
publishes. -/
theorem Settled.undisturbed_finish (h : s.Settled) (hs : s.Steady) (config : Config)
    {e : Web.Errand} {kept : Bool} (hkept : kept = true → ∀ a, e ≠ .stream a) :
    s.Undisturbed (e.finish config s kept) ∧
      (e.messages = [] → s.Spared (e.finish config s kept).hub) := by
  cases e with
  | stream a =>
    cases kept with
    | true => exact absurd rfl (hkept rfl a)
    | false =>
      obtain ⟨hu, hspared⟩ := h.undisturbed_openStream_closeStream hs.sound config a
      exact ⟨hu, fun _ => hspared⟩
  | nothing => exact ⟨undisturbed_of_eq rfl rfl rfl fun _ => rfl, fun _ => h.spared hs.sound⟩
  | upgrade student =>
    exact ⟨undisturbed_of_eq rfl rfl rfl fun _ => rfl, fun _ => h.spared hs.sound⟩
  | publish d => exact h.undisturbed_publish hs.sound d
  | figures =>
    obtain ⟨hu, hspared⟩ := h.undisturbed_stats hs
    exact ⟨hu, fun _ => hspared⟩

end Session

namespace Web

/-- A request that opens nothing which stays: it is refused, it is answered without an upgrade, or
the body of its answer is dropped at once. -/
def Step.IsTransient (config : Config) (s : Session) : Step → Prop
  | .http r kept => kept = true → ∀ i, (respond config r s).1.body ≠ .events i
  | .connect r failure => failure = none → ∀ student, (respond config r s).1.body ≠ .upgrade student
  | _ => False

variable {s : Session}

theorem undisturbed_of_transient (h : s.Settled) (hs : s.Steady) (config : Config) {x : Step}
    (hx : x.IsTransient config s) : s.Undisturbed (perform config s x) ∧
      (x.messages config = [] → s.Spared (perform config s x).hub) := by
  have hlogged (e : Errand) (entries : List Entry) {kept : Bool}
      (hkept : kept = true → ∀ a, e ≠ .stream a) :
      s.Undisturbed (e.finish config (s.logAll entries) kept) ∧
        (e.messages = [] → s.Spared (e.finish config (s.logAll entries) kept).hub) := by
    obtain ⟨hu, hspared⟩ :=
      (h.logAll entries).undisturbed_finish (hs.logAll entries) config hkept
    exact ⟨⟨hu.streams, hu.greetings, hu.tasks, hu.mailbox⟩, hspared⟩
  cases x with
  | http r kept =>
    obtain ⟨-, hbody⟩ := respond_errand config r s
    rw [perform_http]
    refine hlogged (errand config r).2 _ fun hkept a he => ?_
    simp only [ne_eq, Bool.and_eq_true, decide_eq_true_eq] at hkept
    rw [if_neg hkept.1, he] at hbody
    exact hx hkept.2 _ hbody
  | connect r failure =>
    obtain ⟨-, hbody⟩ := respond_errand config r s
    rw [perform_connect]
    split
    · rename_i student he
      have hget : r.method ≠ "HEAD" := by
        rw [method_of_upgrade he]
        decide
      rw [if_neg hget, he] at hbody
      exact absurd hbody (hx rfl student)
    · exact ⟨Session.undisturbed_of_eq rfl rfl rfl fun _ => rfl, fun _ => h.spared hs.sound⟩
    · exact hlogged (errand config r).2 _ fun hkept => nomatch hkept
  | _ => exact hx.elim

end Web

/-- Registrations behind the router are neither lost nor left over. Whatever has happened, a session
settles; once it has, the table of the hub holds exactly the connections that somebody keeps alive.
A request that opens nothing which stays leaves these as they were; what follows from it is at most
that a writer fails, namely when the request publishes something and the transport of that writer is
broken. -/
theorem Session.registered_iff_owned {config : Config} {start : Session}
    (hstart : Session.ofConfig? config = .ok start) (steps : List Web.Step) :
    let s := Web.run config start steps
    s.settle.Settled ∧ (s.Settled → ∀ c, s.Registered c ↔ s.Owned c) ∧
      ∀ x : Web.Step, x.IsTransient config s → s.Settled →
        let after := Web.perform config s x
        (∀ c, after.Owned c ↔ s.Owned c) ∧
          (∀ c, after.settle.Registered c ↔ s.Registered c ∧ ¬after.settle.Failed c) ∧
          ∀ c, s.Registered c → after.settle.Failed c →
            x.messages config ≠ [] ∧ s.Severed c := by
  intro s
  have hs : s.Steady := (Session.steady_ofConfig hstart).run config steps
  refine ⟨(hs.sound.settled hs.begun).1, fun h => h.registered_iff hs, fun x hx h => ?_⟩
  intro after
  have hafter : after.Steady := hs.step config x
  have hsettled := (hafter.sound.settled hafter.begun).1
  obtain ⟨hu, hspared⟩ := Web.undisturbed_of_transient h hs config hx
  have howned (c : ConnectionId) : after.Owned c ↔ s.Owned c := hu.owned_iff
  have hendures : after.Endures after.settle := hafter.sound.endures_settle
  refine ⟨howned, fun c => ?_, fun c hregistered hfailed => ⟨fun hnone => ?_, ?_⟩⟩
  · rw [hsettled.registered_iff hafter.settle, h.registered_iff hs, ← howned]
    exact hendures.owned_iff hafter.settle.sound
  · have hrest : s.Undisturbed after.settle :=
      (h.undisturbed_settle hs hu hafter.sound (hspared hnone)).1
    have ho : after.settle.Owned c := hrest.owned_iff.mpr ((h.registered_iff hs c).mp hregistered)
    exact hafter.settle.sound.not_failed_of_owned ho hfailed
  · have ho : after.Owned c := (howned c).mpr ((h.registered_iff hs c).mp hregistered)
    obtain ⟨i, p, hi, hrest⟩ := hendures.severed_of_failed hafter.sound ho hfailed
    exact ⟨i, p, hu.tasks ▸ hi, hrest⟩

/-- Three students are greeted and an administrator watches. One student leaves with a close frame;
what is written to another no longer arrives, and the session ends with the next notification. -/
theorem Session.registered_iff_owned_student :
    let config : Config := { Config.standard with trustIdentity := true }
    let shake : Web.Request := ⟨"GET", ⟨"", "/student/api/events", none⟩, [("x-student-id", [0x37]),
      ("connection", "Upgrade".toUTF8.toList), ("upgrade", "websocket".toUTF8.toList),
      ("sec-websocket-key", []), ("sec-websocket-version", "13".toUTF8.toList)], [], true⟩
    let watch : Web.Request :=
      ⟨"GET", ⟨"", "/admin/events", none⟩, [("x-admin-user", [0x72])], [], false⟩
    let notice : Web.Request := ⟨"POST", ⟨"", "/admin/notify", none⟩,
      [("content-type", Text.Utf8.encode Web.formType.toList), ("x-admin-user", [0x72])],
      Text.Utf8.encode "text=Hi".toList, false⟩
    let steps : List Web.Step := [.connect shake none, .connect shake none, .connect shake none,
      .http watch true, .greet 0, .greet 1, .greet 2, .settle, .bytes 4 [0x88, 0x80, 0, 0, 0, 0],
      .sever 5 "broken pipe"]
    ∃ start, Session.ofConfig? config = .ok start ∧
      let s := (Web.run config start steps).settle
      let after := (Web.perform config s (.http notice false)).settle
      s.Settled ∧ ¬s.Owned ⟨0⟩ ∧ (s.Owned ⟨1⟩ ∧ s.Owned ⟨2⟩ ∧ s.Owned ⟨3⟩) ∧
        ¬s.Registered ⟨0⟩ ∧ (s.Registered ⟨1⟩ ∧ s.Registered ⟨2⟩ ∧ s.Registered ⟨3⟩) ∧
        s.Severed ⟨1⟩ ∧ after.Failed ⟨1⟩ ∧ ¬after.Registered ⟨1⟩ ∧ after.Registered ⟨2⟩ := by
  intro config shake watch notice steps
  let start : Session := (Session.start 256 (by decide)).onHub fun hub =>
    { hub with journal := settings config :: hub.journal }
  have hstart : Session.ofConfig? config = .ok start := rfl
  refine ⟨start, hstart, ?_⟩
  intro s after
  have hlast (s : Session) : Web.run config s [.settle] = s.settle := rfl
  have hrun : Web.run config start (steps ++ [.settle]) = s := by rw [Web.run_append, hlast]
  have hsettled : s.Settled := (registered_iff_owned hstart steps).1
  obtain ⟨-, hiff, htransient⟩ := registered_iff_owned hstart (steps ++ [.settle])
  rw [hrun] at hiff htransient
  obtain ⟨-, hafter, hcause⟩ := htransient (.http notice false) nofun hsettled
  have howners : s.owner (.task 5) = some ⟨1⟩ ∧ s.owner (.task 6) = some ⟨2⟩ ∧
      s.owner (.stream 3) = some ⟨3⟩ ∧
        (s.hub.registry.audiences.get? ⟨0⟩).isSome = false := by decide +kernel
  have hnoticed : (after.hub.registry.audiences.get? ⟨1⟩).isSome = false ∧
      (after.hub.registry.audiences.get? ⟨2⟩).isSome = true := by decide +kernel
  have howned (c : ConnectionId) {place : Place} (h : s.owner place = some c) :
      s.Owned c ∧ s.Registered c := ⟨⟨place, h⟩, (hiff hsettled c).mpr ⟨place, h⟩⟩
  obtain ⟨hplace₁, hplace₂, hplace₃, hleft⟩ := howners
  obtain ⟨howned₁, hregistered₁⟩ := howned ⟨1⟩ hplace₁
  obtain ⟨howned₂, hregistered₂⟩ := howned ⟨2⟩ hplace₂
  obtain ⟨howned₃, hregistered₃⟩ := howned ⟨3⟩ hplace₃
  have hgone : ¬s.Registered ⟨0⟩ := Bool.eq_false_iff.mp hleft
  have hlost : ¬after.Registered ⟨1⟩ := Bool.eq_false_iff.mp hnoticed.1
  have hfailed : after.Failed ⟨1⟩ := by
    by_contra hsound
    exact hlost ((hafter ⟨1⟩).mpr ⟨hregistered₁, hsound⟩)
  have hsevered : s.Severed ⟨1⟩ := (hcause ⟨1⟩ hregistered₁ hfailed).2
  exact ⟨hsettled, fun h => hgone ((hiff hsettled ⟨0⟩).mpr h), ⟨howned₁, howned₂, howned₃⟩, hgone,
    ⟨hregistered₁, hregistered₂, hregistered₃⟩, hsevered, hfailed, hlost, hnoticed.2⟩

end LiveUpdate
