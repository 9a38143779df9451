import LiveUpdate.Proofs.Transcripts

/-! What happens at one connection in the steps of a session behind the router: it is opened by a
request, and from then on every step is seen there as far as it concerns the connection. -/
namespace LiveUpdate

namespace Session

variable {s : Session} {c c' : ConnectionId} {student : StudentId} {k : Audience} {start d : Desk}
  {seen : List Glimpse} {addressed fresh : List Event} {told : List Outgoing}

/-! ### Steps beside a connection -/

theorem beside_cutStream (i : Nat) {hub : Hub} (h : s.hub.Spares hub c k fresh) :
    s.Beside (s.cutStream i hub) c k fresh where
  hub := h
  stream j x hx _ := by
    rw [cutStream, Table.get?_erase] at hx
    split at hx
    · cases hx
    · exact hx
  greeting _ g hg hc := ⟨g, hg, hc⟩
  pair _ p hp hc := ⟨p, hp, hc, Writer.goesOn_refl _, rfl⟩
  kept _ p hp hc := ⟨p, hp, hc⟩

theorem beside_newStream {x : Stream} (hx : x.connection ≠ c) {hub : Hub}
    (h : s.hub.Spares hub c k fresh) : s.Beside (s.newStream x hub) c k fresh where
  hub := h
  stream j y hy hc := by
    rw [newStream, Table.get?_insert] at hy
    split at hy
    · cases hy
      exact absurd hc hx
    · exact hy
  greeting _ g hg hc := ⟨g, hg, hc⟩
  pair _ p hp hc := ⟨p, hp, hc, Writer.goesOn_refl _, rfl⟩
  kept _ p hp hc := ⟨p, hp, hc⟩

theorem beside_newGreeting {g : Greeting} (hg : g.connection ≠ c) {hub : Hub}
    (h : s.hub.Spares hub c k fresh) : s.Beside (s.newGreeting g hub) c k fresh where
  hub := h
  stream _ _ hx _ := hx
  greeting j g' hg' hc := by
    rw [newGreeting, Table.get?_insert] at hg'
    split at hg'
    · cases hg'
      exact absurd hc hg
    · exact ⟨g', hg', hc⟩
  pair _ p hp hc := ⟨p, hp, hc, Writer.goesOn_refl _, rfl⟩
  kept _ p hp hc := ⟨p, hp, hc⟩

theorem beside_logAll (s : Session) (c : ConnectionId) (k : Audience) (entries : List Entry) :
    s.Beside (s.logAll entries) c k [] :=
  beside_of_hub _ ((Hub.spares_refl _ _ _).logAll entries) rfl rfl rfl rfl

theorem beside_closeStream (hr : s.hub.running = true) (c : ConnectionId) (k : Audience)
    (i : Nat) : s.Beside (s.closeStream i) c k [] := by
  unfold Session.closeStream
  cases s.streams.get? i with
  | none => exact beside_refl s c k
  | some x =>
    have hr : (s.hub.updateMailbox x.connection Mailbox.abandon).running = true := hr
    exact beside_cutStream i ((Hub.spares_abandon s.hub k x.connection).trans
      (Hub.spares_unregister hr x.connection))

theorem Sound.beside_openStream (h : s.Sound) (config : Config) (a k : Audience)
    (hc : c ≠ ⟨s.hub.nextConnection⟩) : s.Beside (Web.openStream config a s).2 c k [] :=
  beside_newStream (fun hx => hc hx.symm) (Hub.spares_register h.running a hc)

theorem Sound.beside_beginGreeting (h : s.Sound) (student : StudentId) (k : Audience)
    (hc : c ≠ ⟨s.hub.nextConnection⟩) : s.Beside (s.beginGreeting student).2 c k [] :=
  beside_newGreeting (fun hg => hc hg.symm) (Hub.spares_register h.running (.student student) hc)

theorem beside_obstructGreeting (s : Session) (c : ConnectionId) (k : Audience) (i : Nat)
    (why : String) : s.Beside (s.obstructGreeting i why) c k [] where
  hub := Hub.spares_refl _ _ _
  stream _ _ hx _ := hx
  greeting j g hg hc := by
    rw [obstructGreeting, Table.get?_modify] at hg
    split at hg
    · obtain ⟨g', hg', rfl⟩ := Option.map_eq_some_iff.mp hg
      exact ⟨g', hg', hc⟩
    · exact ⟨g, hg, hc⟩
  pair _ p hp hc := ⟨p, hp, hc, Writer.goesOn_refl _, rfl⟩
  kept _ p hp hc := ⟨p, hp, hc⟩

/-- Something comes in for a reader. -/
theorem beside_receive {i : Nat} {p : Pair} (hi : s.tasks.get? i = some (.paired p)) (r : Reader)
    (c : ConnectionId) (k : Audience) :
    s.Beside (s.putTask i (.paired { p with reader := r }) s.hub s.links) c k [] :=
  beside_putTask hi { p with reader := r } (Hub.spares_refl _ _ _) rfl
    (fun _ => ⟨Writer.goesOn_refl _, rfl⟩) fun _ _ => rfl

theorem Sound.beside_arrive (h : s.Sound) (c : ConnectionId) (k : Audience) (i : Nat)
    (frame : Inbound) : s.Beside (s.arrive i frame).2 c k [] := by
  rcases h.task_cases i with hi | ⟨p, hi, -⟩
  · rw [Session.arrive, hi]
    exact beside_refl s c k
  · rw [arrive_eq hi]
    exact beside_receive hi _ c k

theorem Sound.beside_endInput (h : s.Sound) (c : ConnectionId) (k : Audience) (i : Nat) :
    s.Beside (s.endInput i) c k [] := by
  rcases h.task_cases i with hi | ⟨p, hi, -⟩
  · rw [Session.endInput, hi]
    exact beside_refl s c k
  · rw [endInput_eq hi]
    exact beside_receive hi _ c k

theorem Sound.beside_sever (h : s.Sound) (c : ConnectionId) (k : Audience) (i : Nat)
    (why : String) : s.Beside (s.sever i why) c k [] := by
  rcases h.task_cases i with hi | ⟨p, hi, -⟩
  · rw [sever_of_none hi]
    exact beside_refl s c k
  · rw [sever_eq hi]
    exact beside_putTask hi _ (Hub.spares_refl _ _ _) rfl
      (fun _ => ⟨p.writer.goesOn_sever why, rfl⟩) fun _ _ => rfl

/-- The messages of a domain event are all that concerns a connection. -/
theorem Sound.beside_handle (h : s.Sound) (c : ConnectionId) (k : Audience) (e : DomainEvent) :
    s.Beside (s.handle e).2 c k (Hub.eventsFor k e.plan.messages) := by
  have hlogged : s.hub.Spares (s.hub.logAll [.handling e.name]) c k [] :=
    (Hub.spares_refl _ _ _).logAll _
  have hr : (s.hub.logAll [.handling e.name]).running = true := h.running
  have hsent := hlogged.trans (Hub.spares_submitSends hr e.plan.messages)
  simp only [Session.handle]
  split
  · exact beside_of_hub _ (hsent.logAll _) rfl rfl rfl rfl
  · exact beside_of_hub _ hsent rfl rfl rfl rfl

theorem Sound.beside_publish (h : s.Sound) (c : ConnectionId) (k : Audience) (e : DomainEvent) :
    s.Beside (s.publish e).2 c k (Hub.eventsFor k e.plan.messages) :=
  (beside_logAll s c k [.publishing e.name 1]).trans ((h.logAll _).beside_handle c k e)

/-- The session that waits for the figures of the hub. -/
def asked (s : Session) : Session := { s with hub := s.hub.askStats.2 }

theorem Sound.beside_asked (h : s.Sound) (c : ConnectionId) (k : Audience) :
    s.Beside s.asked c k [] := by
  have hticket : s.hub.Spares { s.hub with nextTicket := s.hub.nextTicket + 1 } c k [] :=
    Hub.spares_of_eq c k rfl rfl rfl rfl rfl rfl
  have hr : { s.hub with nextTicket := s.hub.nextTicket + 1 }.running = true := h.running
  have hsubmitted := hticket.trans (Hub.spares_submit hr (.stats s.hub.nextTicket) nofun)
  exact beside_of_hub _ hsubmitted rfl rfl rfl rfl

theorem beside_answer (s : Session) (c : ConnectionId) (k : Audience) (ticket : Nat) :
    s.Beside { s with hub := (s.hub.answer ticket).2 } c k [] :=
  beside_of_hub _ (Hub.spares_of_eq c k rfl rfl rfl rfl rfl rfl) rfl rfl rfl rfl

/-- The session at a later moment. -/
def later (s : Session) (milliseconds : Nat) : Session :=
  { s with clock := s.clock + milliseconds }

theorem beside_later (s : Session) (c : ConnectionId) (k : Audience) (milliseconds : Nat) :
    s.Beside (s.later milliseconds) c k [] :=
  beside_of_hub _ (Hub.spares_refl _ _ _) rfl rfl rfl rfl

/-! ### Steps at a connection -/

/-- A session that has been greeted. -/
theorem finishGreeting_eq {i : Nat} (hi : s.greetings.get? i = some ⟨c, student, none⟩) :
    (s.finishGreeting i).2 = { s with
      hub := s.hub.log (.established student c)
      greetings := s.greetings.erase i
      tasks := s.tasks.insert s.next (.paired (.new c .json greetedSink))
      links := s.links.insert s.next .fresh
      due := s.due ++ [.task s.next]
      next := s.next + 1 } := by
  rw [Session.finishGreeting, hi]
  rfl

theorem Sound.task_next (h : s.Sound) : s.tasks.get? s.next = none := by
  have hnone := h.numbered (.task s.next) (Nat.le_refl _)
  simpa [charge] using hnone

/-- Another session is greeted. -/
theorem Sound.beside_finishGreeting (h : s.Sound) (k : Audience) {i : Nat}
    (hi : s.greetings.get? i = some ⟨c', student, none⟩) (hne : c' ≠ c) :
    s.Beside (s.finishGreeting i).2 c k [] := by
  rw [finishGreeting_eq hi]
  refine ⟨(Hub.spares_refl _ _ _).logAll [_], fun _ _ hx _ => hx, fun j g' hg' hc => ?_,
    fun j p hp hc => ?_, fun j p hp hc => ⟨p, ?_, hc⟩⟩
  · rw [Table.get?_erase] at hg'
    split at hg'
    · cases hg'
    · exact ⟨g', hg', hc⟩
  · rw [Table.get?_insert] at hp
    split at hp
    · cases hp
      exact absurd hc hne
    · rename_i hj
      exact ⟨p, hp, hc, Writer.goesOn_refl _, by simp [hj]⟩
  · rw [Table.get?_insert, if_neg ?_]
    · exact hp
    · rintro rfl
      rw [h.task_next] at hp
      cases hp

/-- The session of the connection is greeted. -/
theorem Recorded.finishGreeting (h : s.Recorded c k start seen addressed) (hs : s.Sound) {i : Nat}
    (hi : s.greetings.get? i = some ⟨c, student, none⟩) :
    (s.finishGreeting i).2.Recorded c k start (seen ++ [.greeted]) addressed := by
  obtain ⟨d, hd, hlaid⟩ := h.laid
  have hnone (j : Nat) (p : Pair) (hp : s.tasks.get? j = some (.paired p)) : p.connection ≠ c := by
    intro hpc
    have hplace := hs.balanced.apart _ _ _ _ (charge_greeting hi) (charge_task hp) hpc.symm
    cases hplace
  have htold := hlaid.untold hnone
  obtain ⟨hhand, hlink⟩ := hlaid.greeting i _ hi rfl
  rw [finishGreeting_eq hi]
  refine ⟨h.known, ?_, { d with link := some .fresh, farewell := Sink.polite.farewell }, ?_, ?_⟩
  · have hoffers : [Glimpse.greeted].filterMap Glimpse.offer? = [] := rfl
    rw [List.filterMap_append, hoffers, List.append_nil]
    exact h.owes.of_eq rfl rfl
  · show start.follow s.hub.capacity _ = _
    rw [Desk.follow_append, hd]
    exact (Desk.follow_singleton .greeted).trans (if_pos hlink)
  · rw [List.flatMap_append, htold]
    refine ⟨hlaid.mailbox, hlaid.stream, fun j g' hg' hgc => ?_, fun j p hp hpc => ?_,
      fun hall => ?_⟩
    · rw [Table.get?_erase] at hg'
      split at hg'
      · cases hg'
      · rename_i hj
        have hplace := hs.balanced.apart _ _ _ _ (charge_greeting hg') (charge_greeting hi) hgc
        cases hplace
        exact absurd rfl hj
    · rw [Table.get?_insert] at hp
      split at hp
      · rename_i hj
        cases hp
        refine ⟨by simp [hj], rfl, rfl, rfl, fun _ => ?_⟩
        rw [hhand]
        rfl
      · exact absurd hpc (hnone j p hp)
    · have hnew : Pair.connection (.new c .json greetedSink) ≠ c :=
        hall s.next _ (by rw [Table.get?_insert, if_pos rfl])
      exact absurd rfl hnew

/-- A client is heard, or lost. -/
def hear (s : Session) (i : Nat) (data : Option (List UInt8)) : Session :=
  match s.links.get? i with
  | some link => if s.readable i then s.absorb i (Desk.arrival link data) else s
  | none => s

/-- What is seen of it at a connection. -/
def hearing (s : Session) (c : ConnectionId) (i : Nat) (data : Option (List UInt8)) :
    List Glimpse :=
  match s.links.get? i, s.tasks.get? i with
  | some link, some t =>
    if t.connection = c && s.readable i then [.heard data (Desk.arrival link data).replies] else []
  | _, _ => []

theorem answered_frame (a : WebSocket.Arrival) (sink : Sink) :
    (answered a sink).sent = sink.sent ++ a.replies ∧
      (answered a sink).farewell = Desk.lastWord sink.farewell a := by
  unfold answered Desk.lastWord
  cases a.ending <;> exact ⟨rfl, rfl⟩

/-- The client of the connection is heard. -/
theorem Recorded.absorb (h : s.Recorded c k start seen addressed) (hs : s.Sound) {i : Nat}
    {p : Pair} (hi : s.tasks.get? i = some (.paired p)) (hc : p.connection = c)
    {link : WebSocket.Link} (hl : s.links.get? i = some link) (data : Option (List UInt8)) :
    (s.absorb i (Desk.arrival link data)).Recorded c k start
      (seen ++ [.heard data (Desk.arrival link data).replies]) addressed := by
  obtain ⟨d, hd, hlaid⟩ := h.laid
  have hseated := hlaid.pair i p hi hc
  obtain ⟨hsent, hfarewell⟩ := answered_frame (Desk.arrival link data) p.writer.sink
  have hlink : d.link = some link := hseated.link.symm.trans hl
  let d' : Desk := { d with
    link := some (Desk.arrival link data).link
    farewell := Desk.lastWord d.farewell (Desk.arrival link data) }
  have haccept : d.accept s.hub.capacity (.heard data (Desk.arrival link data).replies) =
      some d' := by
    simp only [Desk.accept, hlink, if_true, d']
  have hseated' : Writer.Seated d' (absorbed (Desk.arrival link data) p).writer
      ((s.links.insert i (Desk.arrival link data).link).get? i)
      ((seen ++ [Glimpse.heard data (Desk.arrival link data).replies]).flatMap
        Glimpse.frames) := by
    refine ⟨by rw [Table.get?_insert, if_pos rfl], rfl, ?_, ?_, hseated.hand⟩
    · show (answered (Desk.arrival link data) p.writer.sink).farewell = _
      rw [hfarewell, hseated.farewell]
    · show (answered (Desk.arrival link data) p.writer.sink).sent = _
      rw [hsent, hseated.sent, List.flatMap_append, List.flatMap_singleton]
      rfl
  have hoffers : [Glimpse.heard data (Desk.arrival link data).replies].filterMap
    Glimpse.offer? = [] := rfl
  rw [absorb_eq hi]
  have hstream : d'.stream = d.stream := rfl
  refine ⟨h.known, ?_, d', ?_, hlaid.putTask hs hi hc (absorbed (Desk.arrival link data) p) rfl
    hlaid.mailbox hstream hseated'⟩
  · rw [List.filterMap_append, hoffers, List.append_nil]
    exact h.owes
  · show start.follow s.hub.capacity _ = _
    rw [Desk.follow_append, hd]
    exact (Desk.follow_singleton _).trans haccept

theorem Recorded.hear (h : s.Recorded c k start seen addressed) (hs : s.Sound) (i : Nat)
    (data : Option (List UInt8)) :
    (s.hear i data).Recorded c k start (seen ++ s.hearing c i data) addressed := by
  unfold Session.hear hearing
  cases hl : s.links.get? i with
  | none =>
    rw [List.append_nil]
    exact h
  | some link =>
    simp only []
    rcases hs.task_cases i with hi | ⟨p, hi, -⟩
    · have hdeaf : s.readable i = false := by simp [readable, hi]
      rw [hi, hdeaf, List.append_nil]
      exact h
    · by_cases hr : s.readable i = true
      · by_cases hc : p.connection = c
        · have hcond : (decide ((Task.paired p).connection = c) && s.readable i) = true := by
            rw [hr, Bool.and_true]
            exact decide_eq_true hc
          rw [if_pos hr, hi]
          simp only [hcond, if_true]
          exact h.absorb hs hi hc hl data
        · have hcond : (decide ((Task.paired p).connection = c) && s.readable i) = false := by
            rw [hr, Bool.and_true]
            exact decide_eq_false hc
          rw [if_pos hr, hi, absorb_eq hi]
          simp only [hcond, Bool.false_eq_true, if_false, List.append_nil]
          exact h.beside_quiet (beside_putTask hi _ (Hub.spares_refl _ _ _) rfl
            (fun hown => absurd hown hc) fun j hj => by rw [Table.get?_insert, if_neg hj])
      · have hcond : s.readable i = false := Bool.eq_false_iff.mpr hr
        rw [if_neg hr, hi, hcond]
        simp only [Bool.and_false, Bool.false_eq_true, if_false, List.append_nil]
        exact h

/-- The session in which a body has been read, before it may be closed. -/
def readBody (s : Session) (i : Nat) (x : Stream) (box : Mailbox) (limit : Option Nat) : Session :=
  let (_, _, after, rest) := x.read box s.clock (limit.getD (box.waiting.length + 2))
  { s with
    hub := s.hub.updateMailbox x.connection fun _ => rest
    streams := s.streams.insert i after }

theorem readStream_eq {i : Nat} {x : Stream} (hi : s.streams.get? i = some x) {box : Mailbox}
    (hbox : s.hub.mailbox? x.connection = some box) (limit : Option Nat) :
    s.readStream i limit =
      (some ((x.read box s.clock (limit.getD (box.waiting.length + 2))).1,
          (x.read box s.clock (limit.getD (box.waiting.length + 2))).2.1),
        if (x.read box s.clock (limit.getD (box.waiting.length + 2))).2.1 = true then
          ((s.readBody i x box limit).log (.streamClosed x.connection)).closeStream i
        else s.readBody i x box limit) := by
  obtain ⟨hc, -⟩ := read_frame x box s.clock (limit.getD (box.waiting.length + 2))
  simp only [Session.readStream, hi, hbox, hc]
  rfl

/-- A body that is still open is received from, and its registration is there. -/
theorem Sound.mailbox_stream (h : s.Sound) {i : Nat} {x : Stream}
    (hi : s.streams.get? i = some x) :
    ∃ waiting, s.hub.mailbox? x.connection = some ⟨waiting, true, .listening⟩ := by
  have hclaimed := h.balanced.claimed _ _ (charge_stream hi)
  have hlistens := h.balanced.received _ _ (charge_stream hi) rfl
  have hkeeps : s.hub.keeps? x.connection = some true := by
    by_contra hne
    rw [h.orderly.prospect_of_detached hne] at hclaimed
    cases hclaimed
  simp only [Hub.listens] at hlistens
  simp only [Hub.keeps?] at hkeeps
  cases hbox : s.hub.mailbox? x.connection with
  | none =>
    rw [hbox] at hlistens
    cases hlistens
  | some box =>
    obtain ⟨waiting, attached, intake⟩ := box
    simp only [hbox, Option.any_some, decide_eq_true_eq] at hlistens
    simp only [hbox, Option.map_some, Option.some.injEq] at hkeeps
    exact ⟨waiting, by rw [hlistens, hkeeps]⟩

/-- What is seen at a connection when a body is read. -/
def reading (s : Session) (c : ConnectionId) (i : Nat) (limit : Option Nat) : List Glimpse :=
  match s.streams.get? i with
  | some x =>
    if x.connection = c then
      match (s.readStream i limit).1 with
      | some (texts, _) => [.read s.clock limit texts]
      | none => []
    else []
  | none => []

/-- The body of the connection is read. -/
theorem Recorded.readBody (h : s.Recorded c k start seen addressed) (hs : s.Sound) {i : Nat}
    {x : Stream} (hi : s.streams.get? i = some x) (hc : x.connection = c) {waiting : List Event}
    (hbox : s.hub.mailbox? c = some ⟨waiting, true, .listening⟩) (limit : Option Nat) :
    (s.readBody i x ⟨waiting, true, .listening⟩ limit).Recorded c k start
      (seen ++ [.read s.clock limit (x.read ⟨waiting, true, .listening⟩ s.clock
        (limit.getD (waiting.length + 2))).1]) addressed := by
  obtain ⟨d, hd, hlaid⟩ := h.laid
  have hwaiting : waiting = d.waiting := hlaid.mailbox _ hbox
  have hframe := read_frame x ⟨waiting, true, .listening⟩ s.clock (limit.getD (waiting.length + 2))
  have haccept := hlaid.stream i x hi hc
  rcases hread : x.read ⟨waiting, true, .listening⟩ s.clock (limit.getD (waiting.length + 2)) with
    ⟨texts, ended, after, rest⟩
  rw [hread] at hframe
  obtain ⟨hafter, -, hintake⟩ := hframe
  have hsession : s.readBody i x ⟨waiting, true, .listening⟩ limit = { s with
      hub := s.hub.updateMailbox x.connection fun _ => rest
      streams := s.streams.insert i after } := by
    simp only [Session.readBody, hread]
  have hnext : d.accept s.hub.capacity (.read s.clock limit texts) =
      some { d with waiting := rest.waiting, stream := some after } := by
    rw [hwaiting] at hread
    simp only [Desk.accept, haccept, hread, if_true]
  have hoffers : [Glimpse.read s.clock limit texts].filterMap Glimpse.offer? = [] := rfl
  have hframes : [Glimpse.read s.clock limit texts].flatMap Glimpse.frames = [] := rfl
  rw [hsession]
  refine ⟨h.known, ?_, { d with waiting := rest.waiting, stream := some after }, ?_, ?_⟩
  · rw [List.filterMap_append, hoffers, List.append_nil]
    exact h.owes.of_eq rfl rfl
  · show start.follow s.hub.capacity _ = _
    rw [Desk.follow_append, hd]
    exact (Desk.follow_singleton _).trans hnext
  · rw [List.flatMap_append, hframes, List.append_nil]
    refine ⟨fun box' hbox' => ?_, fun j y hy hyc => ?_, hlaid.greeting, fun j p hp hpc => ?_,
      hlaid.untold⟩
    · have hput : (s.hub.updateMailbox x.connection fun _ => rest).mailbox? c = some rest := by
        simp only [Hub.mailbox?] at hbox
        simp [Hub.mailbox?, Hub.updateMailbox, hc, hbox]
      rw [hput] at hbox'
      cases hbox'
      rw [Writer.Fills, if_pos hintake]
    · rw [Table.get?_insert] at hy
      by_cases hj : j = i
      · rw [if_pos hj] at hy
        exact hy
      · rw [if_neg hj] at hy
        have hplace := hs.balanced.apart _ _ _ _ (charge_stream hi) (charge_stream hy)
          (hc.trans hyc.symm)
        cases hplace
        exact absurd rfl hj
    · have hseated := hlaid.pair j p hp hpc
      exact ⟨hseated.link, hseated.greeted, hseated.farewell, hseated.sent, hseated.hand⟩

/-- Another body is read. -/
theorem beside_readBody {x : Stream} (hc : x.connection ≠ c) (k : Audience) (i : Nat)
    (box : Mailbox) (limit : Option Nat) : s.Beside (s.readBody i x box limit) c k [] where
  hub := Hub.spares_updateMailbox s.hub k hc _
  stream j y hy hyc := by
    obtain ⟨hafter, -⟩ := read_frame x box s.clock (limit.getD (box.waiting.length + 2))
    simp only [Session.readBody, Table.get?_insert] at hy
    split at hy
    · cases hy
      exact absurd (hafter.symm.trans hyc) hc
    · exact hy
  greeting _ g hg hgc := ⟨g, hg, hgc⟩
  pair _ p hp hpc := ⟨p, hp, hpc, Writer.goesOn_refl _, rfl⟩
  kept _ p hp hpc := ⟨p, hp, hpc⟩

theorem Recorded.readStream (h : s.Recorded c k start seen addressed) (hs : s.Sound) (i : Nat)
    (limit : Option Nat) :
    (s.readStream i limit).2.Recorded c k start (seen ++ s.reading c i limit) addressed := by
  unfold reading
  cases hi : s.streams.get? i with
  | none =>
    rw [Session.readStream, hi, List.append_nil]
    exact h
  | some x =>
    obtain ⟨waiting, hbox⟩ := hs.mailbox_stream hi
    have hclosed {s' : Session} {seen' : List Glimpse}
        (h' : s'.Recorded c k start seen' addressed) (hr : s'.hub.running = true) (ended : Bool) :
        (if ended = true then (s'.log (.streamClosed x.connection)).closeStream i
          else s').Recorded c k start seen' addressed := by
      split
      · have hlogged := h'.beside_quiet (beside_logAll s' c k [.streamClosed x.connection])
        have hr' : (s'.logAll [.streamClosed x.connection]).hub.running = true := hr
        exact hlogged.beside_quiet (beside_closeStream hr' c k i)
      · exact h'
    rw [readStream_eq hi hbox]
    by_cases hc : x.connection = c
    · simp only [if_pos hc]
      exact hclosed (h.readBody hs hi hc (hc ▸ hbox) limit) hs.running _
    · simp only [if_neg hc, List.append_nil]
      exact hclosed (h.beside_quiet (beside_readBody hc k i _ limit)) hs.running _

end Session
end LiveUpdate
