import LiveUpdate.Proofs.CustodySteps
import LiveUpdate.Proofs.HubRuns
import LiveUpdate.Proofs.Offers
import LiveUpdate.Proofs.Seating

/-! What happens at one connection while a session goes on by itself, and how the connection stands
afterwards. What happens elsewhere leaves it alone, except that messages may be addressed to it. -/
namespace LiveUpdate.Session

open Writer

/-- What a move lets be seen at a connection. -/
def glimpses (s : Session) (c : ConnectionId) : Move → List Glimpse
  | .apply => (s.hub.offering c).map .offered
  | .write i =>
    match s.tasks.get? i with
    | some t =>
      if t.connection = c then
        match t.writer?, s.hub.mailbox? c with
        | some w, some box => w.glimpses box
        | _, _ => []
      else []
    | none => []
  | _ => []

/-- What some moves let be seen at a connection. -/
def transcript (c : ConnectionId) : Session → List Move → List Glimpse
  | _, [] => []
  | s, m :: rest => s.glimpses c m ++ transcript c (s.perform m) rest

/-- A connection is laid out as a desk: its mailbox, and the body, the greeting or the pair that
looks after it; and these frames went out to its client. -/
structure Laid (s : Session) (c : ConnectionId) (d : Desk) (told : List Outgoing) : Prop where
  mailbox : ∀ box, s.hub.mailbox? c = some box → Fills d box
  stream : ∀ i x, s.streams.get? i = some x → x.connection = c → d.stream = some x
  greeting : ∀ i g, s.greetings.get? i = some g → g.connection = c →
    d.hand = none ∧ d.link = none
  pair : ∀ i p, s.tasks.get? i = some (.paired p) → p.connection = c →
    Seated d p.writer (s.links.get? i) told
  untold : (∀ i p, s.tasks.get? i = some (.paired p) → p.connection ≠ c) → told = []

/-- What has been seen of a connection since it registered, and what was addressed to it. -/
structure Recorded (s : Session) (c : ConnectionId) (k : Audience) (start : Desk)
    (seen : List Glimpse) (addressed : List Event) : Prop where
  known : c.number < s.hub.nextConnection
  owes : s.hub.Owes c k (seen.filterMap Glimpse.offer?) addressed
  laid : ∃ d, start.follow s.hub.capacity seen = some d ∧
    s.Laid c d (seen.flatMap Glimpse.frames)

/-- A session goes on beside a connection. -/
structure Beside (s s' : Session) (c : ConnectionId) (k : Audience) (fresh : List Event) :
    Prop where
  hub : s.hub.Spares s'.hub c k fresh
  stream : ∀ i x, s'.streams.get? i = some x → x.connection = c → s.streams.get? i = some x
  greeting : ∀ i g, s'.greetings.get? i = some g → g.connection = c →
    ∃ g', s.greetings.get? i = some g' ∧ g'.connection = c
  pair : ∀ i p', s'.tasks.get? i = some (.paired p') → p'.connection = c →
    ∃ p, s.tasks.get? i = some (.paired p) ∧ p.connection = c ∧ p.writer.GoesOn p'.writer ∧
      s'.links.get? i = s.links.get? i
  kept : ∀ i p, s.tasks.get? i = some (.paired p) → p.connection = c →
    ∃ p', s'.tasks.get? i = some (.paired p') ∧ p'.connection = c

variable {s s' s'' : Session} {c : ConnectionId} {k : Audience} {start d : Desk}
  {seen : List Glimpse} {addressed fresh fresh' : List Event} {told : List Outgoing}

/-! ### Beside a connection -/

/-- Only the hub goes on. -/
theorem beside_of_hub (s' : Session) (h : s.hub.Spares s'.hub c k fresh)
    (hstreams : s'.streams = s.streams) (hgreetings : s'.greetings = s.greetings)
    (htasks : s'.tasks = s.tasks) (hlinks : s'.links = s.links) : s.Beside s' c k fresh where
  hub := h
  stream i x hx _ := hstreams ▸ hx
  greeting i g hg hc := ⟨g, hgreetings ▸ hg, hc⟩
  pair i p hp hc := ⟨p, htasks ▸ hp, hc, goesOn_refl _, by rw [hlinks]⟩
  kept i p hp hc := ⟨p, htasks ▸ hp, hc⟩

theorem beside_refl (s : Session) (c : ConnectionId) (k : Audience) : s.Beside s c k [] :=
  beside_of_hub s (Hub.spares_refl _ _ _) rfl rfl rfl rfl

theorem Beside.trans (h : s.Beside s' c k fresh) (h' : s'.Beside s'' c k fresh') :
    s.Beside s'' c k (fresh ++ fresh') where
  hub := h.hub.trans h'.hub
  stream i x hx hc := h.stream i x (h'.stream i x hx hc) hc
  greeting i g hg hc := by
    obtain ⟨g', hg', hc'⟩ := h'.greeting i g hg hc
    exact h.greeting i g' hg' hc'
  pair i p'' hp hc := by
    obtain ⟨p', hp', hc', hw', hl'⟩ := h'.pair i p'' hp hc
    obtain ⟨p, hp, hc, hw, hl⟩ := h.pair i p' hp' hc'
    exact ⟨p, hp, hc, hw.trans hw', hl'.trans hl⟩
  kept i p hp hc := by
    obtain ⟨p', hp', hc'⟩ := h.kept i p hp hc
    exact h'.kept i p' hp' hc'

/-- A pair goes on, that of another connection in any way. -/
theorem beside_putTask {i : Nat} {p : Pair} {hub : Hub} {links : Table Nat WebSocket.Link}
    (hi : s.tasks.get? i = some (.paired p)) (p' : Pair) (h : s.hub.Spares hub c k fresh)
    (hc : p'.connection = p.connection)
    (hown : p.connection = c → p.writer.GoesOn p'.writer ∧ links.get? i = s.links.get? i)
    (hlinks : ∀ j, j ≠ i → links.get? j = s.links.get? j) :
    s.Beside (s.putTask i (.paired p') hub links) c k fresh where
  hub := h
  stream _ _ hx _ := hx
  greeting _ g hg hgc := ⟨g, hg, hgc⟩
  pair j q hq hqc := by
    rw [get?_putTask] at hq
    by_cases hj : j = i
    · rw [if_pos hj] at hq
      cases hq
      obtain ⟨hw, hl⟩ := hown (hc ▸ hqc)
      exact ⟨p, hj ▸ hi, hc ▸ hqc, hw, hj ▸ hl⟩
    · rw [if_neg hj] at hq
      exact ⟨q, hq, hqc, goesOn_refl _, hlinks j hj⟩
  kept j q hq hqc := by
    rw [get?_putTask]
    by_cases hj : j = i
    · rw [if_pos hj]
      rw [hj, hi] at hq
      cases hq
      exact ⟨p', rfl, hc.trans hqc⟩
    · rw [if_neg hj]
      exact ⟨q, hq, hqc⟩

theorem Laid.beside (h : s.Laid c d told) (hb : s.Beside s' c k fresh) : s'.Laid c d told where
  mailbox box hbox := by
    rcases hb.hub.mailbox box hbox with hold | ⟨hnone, hgone⟩
    · exact h.mailbox box hold
    · rw [Fills, hnone, if_neg hgone]
  stream i x hx hc := h.stream i x (hb.stream i x hx hc) hc
  greeting i g hg hc := by
    obtain ⟨g', hg', hc'⟩ := hb.greeting i g hg hc
    exact h.greeting i g' hg' hc'
  pair i p' hp hc := by
    obtain ⟨p, hp, hc, hw, hl⟩ := hb.pair i p' hp hc
    rw [hl]
    exact (h.pair i p hp hc).goesOn hw
  untold hnone := by
    refine h.untold fun i p hp hc => ?_
    obtain ⟨p', hp', hc'⟩ := hb.kept i p hp hc
    exact hnone i p' hp' hc'

theorem Recorded.beside (h : s.Recorded c k start seen addressed) (hb : s.Beside s' c k fresh) :
    s'.Recorded c k start seen (addressed ++ fresh) where
  known := Nat.lt_of_lt_of_le h.known hb.hub.known
  owes := hb.hub.owes _ _ h.owes
  laid := by
    obtain ⟨d, hd, hlaid⟩ := h.laid
    rw [hb.hub.capacity]
    exact ⟨d, hd, hlaid.beside hb⟩

theorem Recorded.beside_quiet (h : s.Recorded c k start seen addressed)
    (hb : s.Beside s' c k []) : s'.Recorded c k start seen addressed := by
  have hrecorded := h.beside hb
  rwa [List.append_nil] at hrecorded

/-- A connection that is not known yet is not concerned. -/
theorem ne_next (h : c.number < s.hub.nextConnection) : c ≠ ⟨s.hub.nextConnection⟩ := by
  rintro rfl
  exact Nat.lt_irrefl _ h

/-! ### Moves beside a connection -/

theorem Sound.beside_startTask (h : s.Sound) (c : ConnectionId) (k : Audience) (i : Nat) :
    s.Beside (s.startTask i) c k [] := by
  rcases h.task_cases i with hi | ⟨p, hi, hp⟩
  · rw [Session.startTask, hi]
    exact beside_refl s c k
  · have hw : p.writer.GoesOn p.start.writer := by
      cases hs : p.stage <;> simp only [Pair.start, hs] <;> try exact goesOn_refl _
      refine ⟨rfl, rfl, rfl, fun hl => ?_⟩
      have hsame := hp.start.2.2.2.2
      simp only [Pair.start, hs] at hsame
      rwa [hsame] at hl
    rw [startTask_eq hi]
    exact beside_putTask hi p.start (Hub.spares_refl _ _ _) hp.start.2.1 (fun _ => ⟨hw, rfl⟩)
      fun _ _ => rfl

/-- A pair goes on with lines for the journal, and may tell the hub to unregister. -/
theorem Sound.beside_tell (h : s.Sound) {i : Nat} {p : Pair}
    (hi : s.tasks.get? i = some (.paired p)) (p' : Pair) (hc : p'.connection = p.connection)
    (hw : p'.writer = p.writer) (entries : List Entry) {commands : List Command}
    (hcommands : commands = [] ∨ ∃ c', commands = [.unregister c']) :
    s.Beside (s.putTask i (.paired p') ((s.hub.logAll entries).submitAll commands) s.links)
      c k [] := by
  have hlogged : s.hub.Spares (s.hub.logAll entries) c k [] :=
    (Hub.spares_refl _ _ _).logAll entries
  have hr : (s.hub.logAll entries).running = true := h.running
  exact beside_putTask hi p' (hlogged.trans (Hub.spares_submitAll hr hcommands)) hc
    (fun _ => ⟨hw ▸ goesOn_refl _, rfl⟩) fun _ _ => rfl

theorem Sound.beside_stepReader (h : s.Sound) (c : ConnectionId) (k : Audience) (i : Nat) :
    s.Beside (s.stepReader i) c k [] := by
  rcases h.task_cases i with hi | ⟨p, hi, hp⟩
  · rw [Session.stepReader, hi]
    exact beside_refl s c k
  · obtain ⟨-, -, hcases⟩ := p.reader.step_cases
    rw [stepReader_eq hi rfl]
    refine h.beside_tell hi { p with reader := p.reader.step.1 } rfl rfl _ ?_
    rcases hcases with ⟨hcommands, -⟩ | ⟨-, hcommands, -⟩
    · exact Or.inl hcommands
    · exact Or.inr ⟨_, hcommands⟩

theorem Sound.beside_observeReader (h : s.Sound) (c : ConnectionId) (k : Audience) (i : Nat) :
    s.Beside (s.observe i Pair.observeReader) c k [] := by
  rcases h.task_cases i with hi | ⟨p, hi, hp⟩
  · rw [Session.observe, hi]
    exact beside_refl s c k
  · obtain ⟨-, hc, hcommands, -, hw, -⟩ := hp.observeReader
    rw [observe_eq hi]
    exact h.beside_tell hi p.observeReader.1 hc hw _ (Or.inl hcommands)

theorem Sound.beside_observeWriter (h : s.Sound) (c : ConnectionId) (k : Audience) (i : Nat) :
    s.Beside (s.observe i Pair.observeWriter) c k [] := by
  rcases h.task_cases i with hi | ⟨p, hi, hp⟩
  · rw [Session.observe, hi]
    exact beside_refl s c k
  · obtain ⟨-, hc, hw, -, hcases⟩ := hp.observeWriter
    rw [observe_eq hi]
    refine h.beside_tell hi p.observeWriter.1 hc hw _ ?_
    rcases hcases with ⟨hcommands, -⟩ | ⟨hcommands, -⟩
    · exact Or.inl hcommands
    · exact Or.inr ⟨_, hcommands⟩

/-- A writer carries the events of another connection. -/
theorem Sound.beside_stepWriter (h : s.Sound) (k : Audience) {i : Nat}
    (hother : ∀ p, s.tasks.get? i = some (.paired p) → p.connection ≠ c) :
    s.Beside (s.stepWriter i) c k [] := by
  rcases h.task_cases i with hi | ⟨p, hi, hp⟩
  · rw [Session.stepWriter, hi]
    exact beside_refl s c k
  · cases hbox : s.hub.mailbox? p.connection with
    | none =>
      simp only [Session.stepWriter, hi, Task.connection, hbox]
      exact beside_refl s c k
    | some box =>
      obtain ⟨hc, -⟩ := p.writer.step_cases box hp.json
      have hne := hother p hi
      have hspares := (Hub.spares_updateMailbox s.hub k hne fun _ => (p.writer.step box).2.1).logAll
        (p.writer.step box).2.2
      rw [stepWriter_eq hi rfl hbox]
      exact beside_putTask hi { p with writer := (p.writer.step box).1 } hspares hc
        (fun hown => absurd hown hne) fun _ _ => rfl

theorem beside_cutGreeting (i : Nat) {hub : Hub} (h : s.hub.Spares hub c k fresh) :
    s.Beside (s.cutGreeting i hub) c k fresh where
  hub := h
  stream _ _ hx _ := hx
  greeting j g hg hc := by
    rw [cutGreeting, Table.get?_erase] at hg
    split at hg
    · cases hg
    · exact ⟨g, hg, hc⟩
  pair _ p hp hc := ⟨p, hp, hc, goesOn_refl _, rfl⟩
  kept _ p hp hc := ⟨p, hp, hc⟩

theorem Sound.beside_giveUpGreeting (h : s.Sound) (c : ConnectionId) (k : Audience) (i : Nat) :
    s.Beside (s.giveUpGreeting i) c k [] := by
  unfold Session.giveUpGreeting
  split
  · rename_i c' student why _
    have hlogged : s.hub.Spares (s.hub.logAll [.greetingFailed student c' why]) c k [] :=
      (Hub.spares_refl _ _ _).logAll _
    have hr : (s.hub.logAll [.greetingFailed student c' why]).running = true := h.running
    exact beside_cutGreeting i ((hlogged.trans (Hub.spares_unregister hr c')).trans
      (Hub.spares_abandon _ k c'))
  · exact beside_refl s c k

/-! ### Moves at a connection -/

theorem Recorded.applyNext (h : s.Recorded c k start seen addressed) (hs : s.Sound) :
    s.applyNext.Recorded c k start (seen ++ s.glimpses c .apply) addressed := by
  have hnext : s.hub.step.nextConnection = s.hub.nextConnection :=
    (Hub.continues_step hs.orderly hs.running).next
  obtain ⟨d, hd, hlaid⟩ := h.laid
  refine ⟨?_, ?_, ?_⟩
  · show c.number < s.hub.step.nextConnection
    rw [hnext]
    exact h.known
  · rw [List.filterMap_append, glimpses, Glimpse.offers_offered]
    exact h.owes.step
  · refine ⟨{ d with waiting :=
      (s.hub.offering c).foldl (Desk.wait s.hub.capacity) d.waiting }, ?_, ?_⟩
    · show start.follow s.hub.step.capacity _ = _
      rw [Hub.step_capacity, Desk.follow_append, hd, glimpses]
      exact Desk.follow_offered _
    · rw [List.flatMap_append, glimpses, Glimpse.frames_offered, List.append_nil]
      refine ⟨fun box' hbox' => ?_, hlaid.stream, hlaid.greeting, fun i p hp hc => ?_, hlaid.untold⟩
      · obtain ⟨box, hbox, hintake, hwaiting⟩ := Hub.mailbox?_step hs.orderly hbox'
        have hfills := hlaid.mailbox box hbox
        rw [Fills] at hfills ⊢
        rw [hwaiting, hintake, hfills]
        by_cases hl : box.intake = .listening
        · simp only [if_pos hl]
          rfl
        · simp only [if_neg hl]
      · have hseated := hlaid.pair i p hp hc
        exact ⟨hseated.link, hseated.greeted, hseated.farewell, hseated.sent, hseated.hand⟩

/-- The pair of a connection goes on to another desk. -/
theorem Laid.putTask (h : s.Laid c d told) (hs : s.Sound) {i : Nat} {p : Pair}
    (hi : s.tasks.get? i = some (.paired p)) (hc : p.connection = c) (p' : Pair)
    (hc' : p'.connection = p.connection) {hub : Hub} {links : Table Nat WebSocket.Link}
    {d' : Desk} {told' : List Outgoing} (hbox : ∀ box, hub.mailbox? c = some box → Fills d' box)
    (hstream : d'.stream = d.stream) (hseated : Seated d' p'.writer (links.get? i) told') :
    (s.putTask i (.paired p') hub links).Laid c d' told' where
  mailbox := hbox
  stream j x hx hxc := hstream.trans (h.stream j x hx hxc)
  greeting j g hg hgc := by
    have hplace := hs.balanced.apart _ _ _ _ (charge_task hi) (charge_greeting hg)
      (hc.trans hgc.symm)
    cases hplace
  pair j q hq hqc := by
    rw [get?_putTask] at hq
    by_cases hj : j = i
    · rw [if_pos hj] at hq
      cases hq
      rw [hj]
      exact hseated
    · rw [if_neg hj] at hq
      have hplace := hs.balanced.apart _ _ _ _ (charge_task hi) (charge_task hq)
        (hc.trans hqc.symm)
      cases hplace
      exact absurd rfl hj
  untold hnone := by
    refine absurd (hc'.trans hc) (hnone i p' ?_)
    rw [get?_putTask, if_pos rfl]

/-- The writer of the connection takes a step. -/
theorem Recorded.stepWriter (h : s.Recorded c k start seen addressed) (hs : s.Sound) {i : Nat}
    {p : Pair} (hi : s.tasks.get? i = some (.paired p)) (hc : p.connection = c) :
    (s.stepWriter i).Recorded c k start (seen ++ s.glimpses c (.write i)) addressed := by
  have hconnection : (Task.paired p).connection = c := hc
  have hglimpses :
      s.glimpses c (.write i) = (s.hub.mailbox? c).elim [] p.writer.glimpses := by
    simp only [glimpses, hi, hconnection, if_true, Task.writer?]
    cases s.hub.mailbox? c <;> rfl
  cases hbox : s.hub.mailbox? c with
  | none =>
    have hsame : s.stepWriter i = s := by
      simp only [Session.stepWriter, hi, hconnection, hbox, Task.writer?]
    rw [hglimpses, hbox, hsame, Option.elim_none, List.append_nil]
    exact h
  | some box =>
    obtain ⟨d, hd, hlaid⟩ := h.laid
    have hp := hs.pair_sound hi
    have hopen (hr : p.writer.outcome = .running) : box.intake = .listening := by
      have hlistens := hs.receives_pair hi (by rw [hr]; rfl)
      rw [hc] at hlistens
      simpa [Hub.listens, hbox] using hlistens
    obtain ⟨d', hd', hstream, hfills, hseated, hoffers⟩ :=
      (hlaid.pair i p hi hc).shows_step s.hub.capacity hp.json hopen (hlaid.mailbox box hbox)
    obtain ⟨hsame, -⟩ := p.writer.step_cases box hp.json
    rw [hglimpses, hbox, Option.elim_some, stepWriter_eq hi rfl (hconnection ▸ hbox)]
    refine ⟨h.known, ?_, d', ?_, ?_⟩
    · rw [List.filterMap_append, hoffers, List.append_nil]
      exact h.owes.of_eq rfl rfl
    · show start.follow s.hub.capacity _ = _
      rw [Desk.follow_append, hd]
      exact hd'
    · rw [List.flatMap_append]
      refine hlaid.putTask hs hi hc { p with writer := (p.writer.step box).1 } hsame
        (fun box' hbox' => ?_) hstream hseated
      have hput : ((s.hub.updateMailbox p.connection fun _ => (p.writer.step box).2.1).logAll
          (p.writer.step box).2.2).mailbox? c = some (p.writer.step box).2.1 := by
        simp only [Hub.mailbox?] at hbox
        simp [Hub.mailbox?, Hub.logAll, Hub.updateMailbox, hc, hbox]
      rw [show (Task.paired p).connection = p.connection from rfl, hput] at hbox'
      cases hbox'
      exact hfills

/-- Nothing is seen of a move at a connection that it does not concern. -/
theorem glimpses_write_of_ne {i : Nat}
    (hother : ∀ t, s.tasks.get? i = some t → t.connection ≠ c) : s.glimpses c (.write i) = [] := by
  rw [glimpses]
  cases hi : s.tasks.get? i with
  | none => rfl
  | some t => exact if_neg (hother t hi)

/-- Every move is seen. -/
theorem Recorded.perform (h : s.Recorded c k start seen addressed) (hs : s.Sound) {m : Move}
    (hm : m.cancels = false) :
    (s.perform m).Recorded c k start (seen ++ s.glimpses c m) addressed := by
  have hquiet (hnone : s.glimpses c m = []) (hb : s.Beside (s.perform m) c k []) :
      (s.perform m).Recorded c k start (seen ++ s.glimpses c m) addressed := by
    rw [hnone, List.append_nil]
    exact h.beside_quiet hb
  cases m with
  | apply => exact h.applyNext hs
  | stop =>
    refine hquiet rfl ?_
    have hheld := hs.held
    simp only [Session.perform, stopIfIdle, hheld, Bool.not_true, Bool.and_false,
      Bool.false_eq_true, if_false]
    exact beside_refl s c k
  | start i => exact hquiet rfl (hs.beside_startTask c k i)
  | write i =>
    by_cases hown : ∃ p, s.tasks.get? i = some (.paired p) ∧ p.connection = c
    · obtain ⟨p, hi, hc⟩ := hown
      exact h.stepWriter hs hi hc
    · have hother (p : Pair) (hi : s.tasks.get? i = some (.paired p)) : p.connection ≠ c :=
        fun hc => hown ⟨p, hi, hc⟩
      refine hquiet (glimpses_write_of_ne fun t ht => ?_) (hs.beside_stepWriter k hother)
      obtain ⟨p, rfl, -⟩ := hs.pairs i t ht
      exact hother p ht
  | read i => exact hquiet rfl (hs.beside_stepReader c k i)
  | observeWriter i => exact hquiet rfl (hs.beside_observeWriter c k i)
  | observeReader i => exact hquiet rfl (hs.beside_observeReader c k i)
  | cancel i => cases hm
  | giveUp i => exact hquiet rfl (hs.beside_giveUpGreeting c k i)

theorem Recorded.performAll (h : s.Recorded c k start seen addressed) (hs : s.Sound)
    {moves : List Move} (hm : ∀ m ∈ moves, m.cancels = false) :
    (s.performAll moves).Recorded c k start (seen ++ transcript c s moves) addressed := by
  induction moves generalizing s seen with
  | nil => rwa [transcript, List.append_nil]
  | cons m rest ih =>
    have hfirst := hm m List.mem_cons_self
    have hrest (x : Move) (hx : x ∈ rest) : x.cancels = false := hm x (List.mem_cons_of_mem _ hx)
    rw [transcript, ← List.append_assoc]
    exact ih (h.perform hs hfirst) (hs.perform hfirst) hrest

theorem Recorded.lined (h : s.Recorded c k start seen addressed) (due : List Worker)
    (resting : Bool) : (s.lined due resting).Recorded c k start seen addressed :=
  h.beside_quiet (beside_of_hub _ (Hub.spares_refl _ _ _) rfl rfl rfl rfl)

/-- All that happens until a session has settled is seen. -/
theorem Recorded.settle (h : s.Recorded c k start seen addressed) (hs : s.Sound) :
    s.settle.Recorded c k start (seen ++ transcript c s s.settleMoves) addressed := by
  obtain ⟨due, resting, hsettle⟩ := settle_eq s
  rw [hsettle]
  exact (h.performAll hs (settleMoves_of_undoomed hs.undoomed)).lined due resting

end LiveUpdate.Session
