import LiveUpdate.Proofs.Custody

/-! Every move and every step of a session behind the router keeps its books. -/
namespace LiveUpdate.Session

variable {s : Session}

theorem Sound.held (h : s.Sound) : s.held = true := by
  simp [Session.held, h.main]

/-- The hub as it is, for a pair that goes on without it. -/
theorem Sound.amends_pair (h : s.Sound) {i : Nat} {p : Pair}
    (hi : s.tasks.get? i = some (.paired p)) (p' : Pair) (hclaims : p'.claims = p.claims)
    (hlive : p'.writer.outcome.isLive = p.writer.outcome.isLive) :
    s.hub.Amends s.hub p.connection p'.claims p'.writer.outcome.isLive :=
  (Hub.Continues.refl h.orderly h.running).amends ((h.claims_pair hi).trans hclaims.symm)
    fun hl => h.receives_pair hi (hlive ▸ hl)

/-! ### Moves -/

/-- A task of a session behind the router is a pair, or is not there. -/
theorem Sound.task_cases (h : s.Sound) (i : Nat) :
    s.tasks.get? i = none ∨ ∃ p : Pair, s.tasks.get? i = some (.paired p) ∧ p.Sound := by
  cases hi : s.tasks.get? i with
  | none => exact Or.inl rfl
  | some task =>
    obtain ⟨p, rfl, hp⟩ := h.pairs i task hi
    exact Or.inr ⟨p, rfl, hp⟩

theorem Sound.startTask (h : s.Sound) (i : Nat) : (s.startTask i).Sound := by
  rcases h.task_cases i with hi | ⟨p, hi, hp⟩
  · rw [Session.startTask, hi]
    exact h
  · obtain ⟨hp', hc, hclaims, -, hlive⟩ := hp.start
    rw [startTask_eq hi]
    exact h.putTask hi hp' hc (h.amends_pair hi _ hclaims hlive) s.links

/-- The hub closes the mailbox of a running writer only when nothing is left to be heard. -/
theorem Sound.deaf_of_closed (h : s.Sound) {i : Nat} {p : Pair}
    (hi : s.tasks.get? i = some (.paired p)) {box : Mailbox}
    (hbox : s.hub.mailbox? p.connection = some box) (hr : p.writer.outcome = .running)
    (hclosed : box.isClosed = true) : p.reader.hears = false := by
  -- The receiving end is still the writer's, so it was the hub that closed the mailbox.
  have hlistens := h.receives_pair hi (by rw [hr]; rfl)
  have hintake : box.intake = .listening := by
    simpa [Hub.listens, hbox] using hlistens
  have hdetached : box.attached = false := by
    simpa [Mailbox.isClosed, hintake] using hclosed
  have hkeeps : s.hub.keeps? p.connection ≠ some true := by
    simp [Hub.keeps?, hbox, hdetached]
  have hclaims := h.claims_pair hi
  rw [h.orderly.prospect_of_detached hkeeps] at hclaims
  rw [Bool.eq_false_iff]
  intro hh
  rw [(h.pair_sound hi).claims_of_hears hh (by rw [hr]; rfl)] at hclaims
  cases hclaims

theorem Sound.stepWriter (h : s.Sound) (i : Nat) : (s.stepWriter i).Sound := by
  rcases h.task_cases i with hi | ⟨p, hi, hp⟩
  · rw [Session.stepWriter, hi]
    exact h
  · cases hbox : s.hub.mailbox? p.connection with
    | none =>
      simp only [Session.stepWriter, hi, Task.connection, hbox]
      exact h
    | some box =>
      obtain ⟨hc, hj, -, hattached, hcases⟩ := p.writer.step_cases box hp.json
      have hkept (box' : Mailbox) (hb' : s.hub.mailbox? p.connection = some box') :
          (p.writer.step box).2.1.attached = box'.attached := by
        rw [hbox] at hb'
        rw [hattached, Option.some.inj hb']
      have hamends := h.amends_pair hi p rfl rfl
      rw [stepWriter_eq hi rfl hbox]
      rcases hcases with ⟨ho, hintake⟩ | ⟨hr, hl, hn, hend⟩
      · have hp' := hp.setWriter hc hj (Or.inl ho)
        refine h.putTask hi hp' hc (Hub.Amends.logAll (hamends.updateMailbox hkept ?_) _) s.links
        intro hlive
        have hlistens := h.receives_pair hi (ho ▸ hlive)
        simp only [Hub.listens, Hub.mailbox?, Hub.updateMailbox] at hlistens hbox ⊢
        simpa [hbox, hintake] using hlistens
      · have hp' := hp.setWriter hc hj
          (Or.inr ⟨hr, hl, hn, hend.imp And.right (h.deaf_of_closed hi hbox hr)⟩)
        refine h.putTask hi hp' hc (Hub.Amends.logAll (hamends.updateMailbox hkept ?_) _) s.links
        intro hlive
        rw [hl] at hlive
        cases hlive

theorem Sound.stepReader (h : s.Sound) (i : Nat) : (s.stepReader i).Sound := by
  rcases h.task_cases i with hi | ⟨p, hi, hp⟩
  · rw [Session.stepReader, hi]
    exact h
  · obtain ⟨hc, hh, hcases⟩ := p.reader.step_cases
    have hdeaf (hd : p.reader.hears = false) : p.reader.step.1.hears = false := hh.trans hd
    rw [stepReader_eq hi rfl]
    rcases hcases with ⟨hcommands, ho⟩ | ⟨hr, hcommands, ho⟩
    · have hp' := hp.setReader hc hdeaf (Or.inl ho)
      have hclaims : ({ p with reader := p.reader.step.1 } : Pair).claims = p.claims := by
        simp [Pair.claims, ho]
      rw [hcommands]
      exact h.putTask hi hp' rfl ((h.amends_pair hi _ hclaims rfl).logAll _) s.links
    · have hp' := hp.setReader hc hdeaf (Or.inr ⟨hr, ho⟩)
      have hclaims : ({ p with reader := p.reader.step.1 } : Pair).claims = false := by
        rcases ho with ho | ⟨why, ho⟩ <;> simp [Pair.claims, ho, Outcome.isLive]
      have hamends := h.amends_pair hi p rfl rfl
      rw [hcommands, hp.shared]
      refine h.putTask hi hp' rfl ?_ s.links
      rw [hclaims]
      exact (hamends.logAll _).unregister

theorem Sound.observeReader (h : s.Sound) (i : Nat) :
    (s.observe i Pair.observeReader).Sound := by
  rcases h.task_cases i with hi | ⟨p, hi, hp⟩
  · rw [Session.observe, hi]
    exact h
  · obtain ⟨hp', hc, hcommands, hclaims, hwriter, -⟩ := hp.observeReader
    rw [observe_eq hi, hcommands]
    refine h.putTask hi hp' hc (Hub.Amends.logAll (h.amends_pair hi _ hclaims ?_) _) s.links
    rw [hwriter]

theorem Sound.observeWriter (h : s.Sound) (i : Nat) :
    (s.observe i Pair.observeWriter).Sound := by
  rcases h.task_cases i with hi | ⟨p, hi, hp⟩
  · rw [Session.observe, hi]
    exact h
  · obtain ⟨hp', hc, hwriter, -, hcases⟩ := hp.observeWriter
    have hamends := h.amends_pair hi p rfl rfl
    rw [observe_eq hi]
    rcases hcases with ⟨hcommands, hsame⟩ | ⟨hcommands, hclaims⟩
    · rw [hcommands]
      refine h.putTask hi hp' hc (Hub.Amends.logAll (h.amends_pair hi _ ?_ ?_) _) s.links
      · rw [hsame]
      · rw [hwriter]
    · rw [hcommands]
      refine h.putTask hi hp' hc ?_ s.links
      rw [hclaims, hwriter]
      exact (hamends.logAll _).unregister

theorem Sound.giveUpGreeting (h : s.Sound) (i : Nat) : (s.giveUpGreeting i).Sound := by
  unfold Session.giveUpGreeting
  split
  · rename_i c student why hi
    have hclaimed := h.balanced.claimed _ _ (charge_greeting hi)
    have hlistens := h.balanced.received _ _ (charge_greeting hi)
    have hamends := (Hub.Continues.refl h.orderly h.running).amends hclaimed hlistens
    exact h.cutGreeting hi ((hamends.logAll [.greetingFailed student c why]).unregister.abandon)
  · exact h

theorem Sound.perform (h : s.Sound) {m : Move} (hm : m.cancels = false) :
    (s.perform m).Sound := by
  cases m with
  | apply => exact h.onHub (Hub.continues_step h.orderly h.running)
  | stop =>
    have hheld := h.held
    simp only [Session.perform, stopIfIdle, hheld, Bool.not_true, Bool.and_false,
      Bool.false_eq_true, if_false]
    exact h
  | start i => exact h.startTask i
  | write i => exact h.stepWriter i
  | read i => exact h.stepReader i
  | observeWriter i => exact h.observeWriter i
  | observeReader i => exact h.observeReader i
  | cancel i => cases hm
  | giveUp i => exact h.giveUpGreeting i

theorem Sound.settle (h : s.Sound) : s.settle.Sound :=
  settle_keeps (fun _ h => h.undoomed) (fun _ _ hm h => h.perform hm) (fun _ _ _ h => h.lined _ _) h

/-! ### Streams and greetings -/

theorem Sound.closeStream (h : s.Sound) (i : Nat) : (s.closeStream i).Sound := by
  unfold Session.closeStream
  cases hi : s.streams.get? i with
  | none => exact h
  | some x =>
    have hclaimed := h.balanced.claimed _ _ (charge_stream hi)
    have hlistens := h.balanced.received _ _ (charge_stream hi)
    have hamends := (Hub.Continues.refl h.orderly h.running).amends hclaimed hlistens
    exact h.cutStream hi hamends.abandon.unregister

theorem Sound.openStream (h : s.Sound) (config : Config) (a : Audience) :
    (Web.openStream config a s).2.Sound := h.newStream a rfl

theorem Sound.beginGreeting (h : s.Sound) (student : StudentId) :
    (s.beginGreeting student).2.Sound := h.newGreeting (.student student) rfl

theorem Sound.obstructGreeting (h : s.Sound) (i : Nat) (why : String) :
    (s.obstructGreeting i why).Sound := by
  refine h.continue_ (s.obstructGreeting i why) (.refl h.orderly h.running) rfl rfl rfl ?_ rfl
  funext place
  cases place with
  | greeting j =>
    by_cases hj : j = i
    · simp [charge, Session.obstructGreeting, hj]
      cases s.greetings.get? i <;> rfl
    · simp [charge, Session.obstructGreeting, hj]
  | stream j => rfl
  | task j => rfl

theorem finishGreeting_of_obstructed {i : Nat}
    (h : ∀ c student, s.greetings.get? i ≠ some ⟨c, student, none⟩) :
    s.finishGreeting i = (none, s) := by
  unfold Session.finishGreeting
  split
  · rename_i hi
    exact absurd hi (h _ _)
  · rfl

/-- A greeting can be written, or nothing is. -/
theorem greeting_cases (s : Session) (i : Nat) :
    (∃ c student, s.greetings.get? i = some ⟨c, student, none⟩) ∨
      (∀ c student, s.greetings.get? i ≠ some ⟨c, student, none⟩) ∧
        s.finishGreeting i = (none, s) := by
  by_cases h : ∃ c student, s.greetings.get? i = some ⟨c, student, none⟩
  · exact Or.inl h
  · have hnone (c : ConnectionId) (student : StudentId) :
        s.greetings.get? i ≠ some ⟨c, student, none⟩ := fun hi => h ⟨c, student, hi⟩
    exact Or.inr ⟨hnone, finishGreeting_of_obstructed hnone⟩

variable {c : ConnectionId} {student : StudentId}

theorem charge_finishGreeting {i : Nat} (hi : s.greetings.get? i = some ⟨c, student, none⟩) :
    (s.finishGreeting i).2.charge =
      Function.update (Function.update s.charge (.greeting i) none) (.task s.next)
        (some ⟨c, true, true⟩) := by
  funext place
  simp only [Session.finishGreeting, hi]
  cases place with
  | greeting j =>
    by_cases hj : j = i <;>
      simp [charge, runPair, addTask, fresh, Session.log, onHub, hj, Function.update]
  | stream j => simp [charge, runPair, addTask, fresh, Session.log, onHub, Function.update]
  | task j =>
    by_cases hj : j = s.next
    · simp [charge, runPair, addTask, fresh, Session.log, onHub, hj, Function.update, Task.charge,
        Pair.charge, Pair.new, Pair.claims, Pair.connection, Writer.new, Reader.new,
        Outcome.isLive]
    · simp [charge, runPair, addTask, fresh, Session.log, onHub, hj, Function.update]

theorem Sound.finishGreeting (h : s.Sound) (i : Nat) : (s.finishGreeting i).2.Sound := by
  rcases s.greeting_cases i with ⟨c, student, hi⟩ | ⟨-, hsame⟩
  · have hcharge := charge_finishGreeting hi
    have hfree := h.numbered (.task s.next) (Nat.le_refl _)
    have hbalanced := h.balanced.hand (charge_greeting hi) hfree
    rw [← hcharge] at hbalanced
    have hnumbered (q : Place) (hq : s.next + 1 ≤ q.number) :
        (s.finishGreeting i).2.charge q = none := by
      have hold := h.number_lt (charge_greeting hi)
      have hne : q ≠ .task s.next := by
        rintro rfl
        exact absurd hq (Nat.not_succ_le_self _)
      have hne' : q ≠ .greeting i := by
        rintro rfl
        exact absurd (Nat.lt_of_succ_lt (Nat.lt_of_lt_of_le (Nat.succ_lt_succ hold) hq))
          (Nat.lt_irrefl _)
      rw [hcharge, Function.update_of_ne hne, Function.update_of_ne hne']
      exact h.numbered q (Nat.le_of_succ_le hq)
    have hpairs (j : Nat) (t : Task) (ht : (s.finishGreeting i).2.tasks.get? j = some t) :
        ∃ p, t = .paired p ∧ p.Sound := by
      simp only [Session.finishGreeting, hi, runPair, addTask, fresh, Session.log,
        Table.get?_insert] at ht
      split at ht
      · exact ⟨_, (Option.some.inj ht).symm, Pair.sound_new c greetedSink⟩
      · exact h.pairs j t ht
    have hframe : (s.finishGreeting i).2.main = s.main ∧
        (s.finishGreeting i).2.doomed = s.doomed ∧ (s.finishGreeting i).2.next = s.next + 1 ∧
        (s.finishGreeting i).2.hub = s.hub.log (.established student c) := by
      rw [Session.finishGreeting, hi]
      exact ⟨rfl, rfl, rfl, rfl⟩
    obtain ⟨hmain, hdoomed, hnext, hhub⟩ := hframe
    refine ⟨hmain.trans h.main, hdoomed.trans h.undoomed, ?_, ?_, ?_, hpairs, ?_⟩
    · rw [hhub]
      exact h.running
    · rw [hhub]
      exact h.orderly.log _
    · rw [hnext]
      exact hnumbered
    · rw [hhub]
      exact hbalanced
  · rw [hsame]
    exact h

/-! ### The inbound side -/

/-- What comes in is for the reader alone; it never makes a deaf one hear. -/
theorem Sound.receive (h : s.Sound) {i : Nat} {p : Pair}
    (hi : s.tasks.get? i = some (.paired p)) {r : Reader}
    (hc : r.connection = p.reader.connection) (ho : r.outcome = p.reader.outcome)
    (hdeaf : p.reader.hears = false → r.hears = false) :
    (s.putTask i (.paired { p with reader := r }) s.hub s.links).Sound := by
  have hp := (h.pair_sound hi).setReader hc hdeaf (Or.inl ho)
  have hclaims : ({ p with reader := r } : Pair).claims = p.claims := by simp [Pair.claims, ho]
  exact h.putTask hi hp rfl (h.amends_pair hi _ hclaims rfl) s.links

theorem arrive_eq {i : Nat} {p : Pair} (hi : s.tasks.get? i = some (.paired p))
    (frame : Inbound) : (s.arrive i frame).2 =
      s.putTask i (.paired { p with reader := p.reader.receive frame }) s.hub s.links := by
  simp only [arrive, hi, Task.reader?]
  rfl

theorem Sound.arrive (h : s.Sound) (i : Nat) (frame : Inbound) : (s.arrive i frame).2.Sound := by
  rcases h.task_cases i with hi | ⟨p, hi, hp⟩
  · rw [Session.arrive, hi]
    exact h
  · rw [arrive_eq hi]
    exact h.receive hi (by simp) (by simp) (Reader.deaf_receive frame)

theorem endInput_eq {i : Nat} {p : Pair} (hi : s.tasks.get? i = some (.paired p)) :
    s.endInput i =
      s.putTask i (.paired { p with reader := p.reader.endInput }) s.hub s.links := by
  simp only [endInput, hi, Task.reader?]
  rfl

theorem Sound.endInput (h : s.Sound) (i : Nat) : (s.endInput i).Sound := by
  rcases h.task_cases i with hi | ⟨p, hi, hp⟩
  · rw [Session.endInput, hi]
    exact h
  · rw [endInput_eq hi]
    exact h.receive hi rfl rfl fun _ => p.reader.hears_endInput

/-- What an arrival does to the sending half. -/
def answered (arrival : WebSocket.Arrival) (sink : Sink) : Sink :=
  let sink := { sink with sent := sink.sent ++ arrival.replies }
  match arrival.ending with
  | some ending => endSink ending sink
  | none => sink

/-- A pair after an arrival. -/
def absorbed (arrival : WebSocket.Arrival) (p : Pair) : Pair :=
  { p with
    writer := { p.writer with sink := answered arrival p.writer.sink }
    reader := arrival.messages.foldl Reader.receive p.reader }

theorem foldl_arrive_eq (messages : List Inbound) {i : Nat} {p : Pair}
    (hi : s.tasks.get? i = some (.paired p)) :
    messages.foldl (fun s frame => (s.arrive i frame).2) s =
      s.putTask i (.paired { p with reader := messages.foldl Reader.receive p.reader }) s.hub
        s.links := by
  induction messages generalizing s p with
  | nil =>
    simp only [List.foldl_nil, Session.putTask, Table.insert_self hi]
  | cons frame rest ih =>
    have hi' : (s.arrive i frame).2.tasks.get? i =
        some (.paired { p with reader := p.reader.receive frame }) := by
      rw [arrive_eq hi, get?_putTask, if_pos rfl]
    rw [List.foldl_cons, ih hi', arrive_eq hi]
    simp only [Session.putTask, Table.insert_insert, List.foldl_cons]

theorem absorb_eq {i : Nat} {p : Pair} (hi : s.tasks.get? i = some (.paired p))
    (arrival : WebSocket.Arrival) : s.absorb i arrival =
      s.putTask i (.paired (absorbed arrival p)) s.hub (s.links.insert i arrival.link) := by
  have hanswer : s.tasks.modify i (·.mapSink (answered arrival)) = s.tasks.insert i
      (.paired { p with writer := { p.writer with sink := answered arrival p.writer.sink } }) :=
    Table.modify_eq_insert _ hi
  have hi' : (s.putTask i
      (.paired { p with writer := { p.writer with sink := answered arrival p.writer.sink } })
      s.hub (s.links.insert i arrival.link)).tasks.get? i = some (.paired
        { p with writer := { p.writer with sink := answered arrival p.writer.sink } }) := by
    rw [get?_putTask, if_pos rfl]
  have hfold := foldl_arrive_eq arrival.messages hi'
  have habsorb : s.absorb i arrival = arrival.messages.foldl
      (fun s frame => (s.arrive i frame).2) { s with
        links := s.links.insert i arrival.link
        tasks := s.tasks.modify i (·.mapSink (answered arrival)) } := rfl
  rw [habsorb, hanswer]
  refine hfold.trans ?_
  simp only [Session.putTask, Table.insert_insert]
  rfl

/-- An arrival keeps the rules of a pair. -/
theorem sound_absorbed {p : Pair} (hp : p.Sound) (arrival : WebSocket.Arrival) :
    (absorbed arrival p).Sound := by
  obtain ⟨hc, hout⟩ := p.reader.receiveAll_frame arrival.messages
  exact (hp.setReader hc (Reader.deaf_receiveAll arrival.messages) (Or.inl hout)).mapSink _

theorem Sound.absorb (h : s.Sound) {i : Nat} (hr : s.readable i = true)
    (arrival : WebSocket.Arrival) : (s.absorb i arrival).Sound := by
  rcases h.task_cases i with hi | ⟨p, hi, hp⟩
  · simp [readable, hi] at hr
  · obtain ⟨-, hout⟩ := p.reader.receiveAll_frame arrival.messages
    have hclaims : (absorbed arrival p).claims = p.claims := by
      rw [Pair.claims, absorbed, hout]
      rfl
    rw [absorb_eq hi]
    exact h.putTask hi (sound_absorbed hp arrival) rfl (h.amends_pair hi _ hclaims rfl) _

theorem Sound.feed (h : s.Sound) (i : Nat) (data : List UInt8) : (s.feed i data).Sound := by
  unfold Session.feed
  split
  · split
    · rename_i hr
      exact h.absorb hr _
    · exact h
  · exact h

theorem Sound.lose (h : s.Sound) (i : Nat) : (s.lose i).Sound := by
  unfold Session.lose
  split
  · split
    · rename_i hr
      exact h.absorb hr _
    · exact h
  · exact h

/-! ### The sending side -/

theorem sever_of_none {i : Nat} (hi : s.tasks.get? i = none) (why : String) :
    s.sever i why = s := by
  rw [sever, Table.modify_of_none _ hi]

theorem sever_eq {i : Nat} {p : Pair} (hi : s.tasks.get? i = some (.paired p)) (why : String) :
    s.sever i why = s.putTask i (.paired
      { p with writer := { p.writer with sink := p.writer.sink.sever why } }) s.hub s.links := by
  rw [sever, Table.modify_eq_insert _ hi]
  rfl

theorem Sound.sever (h : s.Sound) (i : Nat) (why : String) : (s.sever i why).Sound := by
  rcases h.task_cases i with hi | ⟨p, hi, hp⟩
  · rw [sever_of_none hi]
    exact h
  · rw [sever_eq hi]
    exact h.putTask hi (hp.mapSink (Sink.sever why)) rfl (h.amends_pair hi _ rfl rfl) s.links

/-! ### Reading and publishing -/

theorem poll_frame (x : Stream) (box : Mailbox) (now : Nat) :
    (x.poll box now).2.1.connection = x.connection ∧
      (x.poll box now).2.2.attached = box.attached ∧
      (x.poll box now).2.2.intake = box.intake := by
  unfold Stream.poll Mailbox.take
  cases box.waiting with
  | cons e rest => exact ⟨rfl, rfl, rfl⟩
  | nil =>
    simp only []
    split
    · exact ⟨rfl, rfl, rfl⟩
    · split
      · split <;> exact ⟨rfl, rfl, rfl⟩
      · exact ⟨rfl, rfl, rfl⟩

theorem read_frame (x : Stream) (box : Mailbox) (now limit : Nat) :
    (x.read box now limit).2.2.1.connection = x.connection ∧
      (x.read box now limit).2.2.2.attached = box.attached ∧
      (x.read box now limit).2.2.2.intake = box.intake := by
  induction limit generalizing x box with
  | zero => exact ⟨rfl, rfl, rfl⟩
  | succ limit ih =>
    have hpoll := poll_frame x box now
    rcases hp : x.poll box now with ⟨polled, x', box'⟩
    rw [hp] at hpoll
    rw [Stream.read, hp]
    cases polled with
    | chunk text =>
      obtain ⟨hc, ha, hi⟩ := ih x' box'
      exact ⟨hc.trans hpoll.1, ha.trans hpoll.2.1, hi.trans hpoll.2.2⟩
    | ended => exact hpoll
    | pending => exact hpoll

theorem Sound.readStream (h : s.Sound) (i : Nat) (limit : Option Nat) :
    (s.readStream i limit).2.Sound := by
  unfold Session.readStream
  cases hi : s.streams.get? i with
  | none => exact h
  | some x =>
    cases hbox : s.hub.mailbox? x.connection with
    | none =>
      simp only [hbox]
      exact h
    | some box =>
      obtain ⟨hc, ha, hintake⟩ := read_frame x box s.clock (limit.getD (box.waiting.length + 2))
      have hcontinues : s.hub.Continues (s.hub.updateMailbox x.connection fun _ =>
          (x.read box s.clock (limit.getD (box.waiting.length + 2))).2.2.2) := by
        refine Hub.continues_updateMailbox h.orderly h.running fun box' hb => ?_
        rw [hbox] at hb
        cases hb
        exact ⟨ha, hintake⟩
      have hread : { s with
          hub := s.hub.updateMailbox x.connection fun _ =>
            (x.read box s.clock (limit.getD (box.waiting.length + 2))).2.2.2
          streams := s.streams.insert i
            (x.read box s.clock (limit.getD (box.waiting.length + 2))).2.2.1 }.Sound := by
        refine h.continue_ _ hcontinues rfl rfl rfl ?_ rfl
        funext place
        cases place with
        | stream j =>
          by_cases hj : j = i
          · simp [charge, hj, hi, hc]
          · simp [charge, hj]
        | greeting j => rfl
        | task j => rfl
      simp only [hbox, hc]
      split
      · exact (hread.log _).closeStream i
      · exact hread

theorem Sound.handle (h : s.Sound) (d : DomainEvent) : (s.handle d).2.Sound := by
  have hsent := (Hub.continues_logAll h.orderly h.running [.handling d.name]).submitSends
    d.plan.messages
  have hsound := h.onHub (f := fun hub =>
    (hub.log (.handling d.name)).submitAll (d.plan.messages.map .send)) hsent
  simp only [Session.handle]
  split
  · exact hsound.log _
  · exact hsound

theorem Sound.publish (h : s.Sound) (d : DomainEvent) : (s.publish d).2.Sound :=
  (h.log (.publishing d.name 1)).handle d

theorem Sound.asked (h : s.Sound) : { s with hub := s.hub.askStats.2 }.Sound := by
  have hticket : s.hub.Continues { s.hub with nextTicket := s.hub.nextTicket + 1 } :=
    (Hub.Continues.refl h.orderly h.running).of_eq
      (h.orderly.of_eq rfl rfl (fun _ => rfl) (Nat.le_refl _)) rfl rfl rfl rfl rfl
  exact h.onHub (f := fun hub => hub.askStats.2) (hticket.submit rfl nofun)

theorem Sound.stats (h : s.Sound) : s.stats.2.Sound := by
  have hsettled := h.asked.settle
  have hanswered (hub : Hub) (ho : hub.Orderly) (hr : hub.running = true) :
      hub.Continues (hub.answer s.hub.nextTicket).2 :=
    (Hub.Continues.refl ho hr).of_eq (ho.of_eq rfl rfl (fun _ => rfl) (Nat.le_refl _)) rfl rfl rfl
      rfl rfl
  exact hsettled.onHub (f := fun hub => (hub.answer s.hub.nextTicket).2)
    (hanswered _ hsettled.orderly hsettled.running)

theorem Sound.later (h : s.Sound) (milliseconds : Nat) :
    { s with clock := s.clock + milliseconds }.Sound :=
  h.continue_ _ (.refl h.orderly h.running) rfl rfl rfl (by funext place; cases place <;> rfl) rfl

theorem Sound.advance (h : s.Sound) (milliseconds : Nat) : (s.advance milliseconds).Sound :=
  (h.later milliseconds).settle

/-! ### Steps -/

theorem Sound.finish_errand (h : s.Sound) (config : Config) (kept : Bool) (e : Web.Errand) :
    (e.finish config s kept).Sound := by
  cases e with
  | stream a =>
    cases kept with
    | true => exact h.openStream config a
    | false => exact (h.openStream config a).closeStream _
  | nothing => exact h
  | upgrade student => exact h
  | publish d => exact h.publish d
  | figures => exact h.stats

theorem Sound.step (h : s.Sound) (config : Config) (x : Web.Step) :
    (Web.perform config s x).Sound := by
  cases x with
  | http r kept =>
    rw [Web.perform_http]
    exact (h.logAll _).finish_errand config _ _
  | connect r failure =>
    rw [Web.perform_connect]
    split
    · exact (h.logAll _).beginGreeting _
    · exact (h.logAll _).log _
    · exact (h.logAll _).finish_errand config _ _
  | greet i => exact h.finishGreeting i
  | hangUp i why => exact h.obstructGreeting i why
  | read i limit => exact h.readStream i limit
  | drop i => exact h.closeStream i
  | bytes i data => exact h.feed i data
  | lose i => exact h.lose i
  | sever i why => exact h.sever i why
  | inbound i frame => exact h.arrive i frame
  | endInput i => exact h.endInput i
  | publish d => exact h.publish d
  | handle d => exact h.handle d
  | advance ms => exact h.advance ms
  | move m =>
    simp only [Web.perform]
    split
    · exact h
    · rename_i hm
      exact h.perform (Bool.eq_false_iff.mpr hm)
  | settle => exact h.settle

theorem Sound.run (h : s.Sound) (config : Config) (steps : List Web.Step) :
    (Web.run config s steps).Sound := by
  induction steps generalizing s with
  | nil => exact h
  | cons x rest ih => exact ih (h.step config x)

theorem sound_ofConfig {config : Config} {start : Session}
    (h : ofConfig? config = .ok start) : start.Sound := by
  unfold ofConfig? start? at h
  split at h
  · cases h
    rename_i hpos
    have hsound := sound_start config.queueCapacity hpos
    exact hsound.onHub (f := fun hub => { hub with journal := settings config :: hub.journal })
      ((Hub.Continues.refl hsound.orderly hsound.running).of_eq
        (hsound.orderly.of_eq rfl rfl (fun _ => rfl) (Nat.le_refl _)) rfl rfl rfl rfl rfl)
  · cases h

end LiveUpdate.Session
