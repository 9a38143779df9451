import LiveUpdate.Proofs.Drafts
import LiveUpdate.Proofs.Successions

/-! Regimes: which events may be at the hub, and who may work for which connection. Writers only carry
on what they have begun, and a body or a greeting that the router begins is for a new connection. A
regime that allows for this governs every run that it allows. -/
namespace LiveUpdate

/-- Rules about events, and about who may work for which connection. Most of them may depend on how
many connections there have been. -/
structure Regime where
  event : Event → Prop
  writer : Nat → Writer → Prop
  /-- Whether the body of this number may belong to this connection. -/
  stream : Nat → Nat → ConnectionId → Prop
  /-- Whether a greeting of this number may wait. -/
  greeting : Nat → Nat → Greeting → Prop
  /-- The numbers below these are used up. -/
  minted : Nat
  known : Nat
  succeeds : ∀ {n n' w w' events}, n ≤ n' → writer n w → (∀ e ∈ events, event e) →
    w.Succeeds w' events → writer n' w'
  lasts : ∀ {n n' i c}, n ≤ n' → stream n i c → stream n' i c
  waits : ∀ {n n' i g}, n ≤ n' → greeting n i g → greeting n' i g
  opened : ∀ {n i}, known ≤ n → minted ≤ i → stream (n + 1) i ⟨n⟩
  begun : ∀ {n i student}, known ≤ n → minted ≤ i → greeting (n + 1) i ⟨⟨n⟩, student, none⟩
  obstructed : ∀ {n i g why}, greeting n i g → greeting n i { g with obstacle := some why }
  greeted : ∀ {n i g}, greeting n i g →
    writer n (.new g.connection .json Session.greetedSink .idle)

variable {R : Regime} {s : Session}

/-- The rules are kept in a session. -/
structure Regime.Governs (R : Regime) (s : Session) : Prop where
  hub : s.hub.Carries R.event
  minted : R.minted ≤ s.next
  known : R.known ≤ s.hub.nextConnection
  writer : ∀ i t w, s.tasks.get? i = some t → t.writer? = some w →
    R.writer s.hub.nextConnection w
  stream : ∀ i x, s.streams.get? i = some x → R.stream s.hub.nextConnection i x.connection
  greeting : ∀ i g, s.greetings.get? i = some g → R.greeting s.hub.nextConnection i g

namespace Regime.Governs

open Session

/-- Only the hub goes on. -/
theorem of_hub (h : R.Governs s) {s' : Session} (hhub : s'.hub.Carries R.event)
    (hnumber : s.hub.nextConnection ≤ s'.hub.nextConnection) (hnext : s.next ≤ s'.next)
    (htasks : s'.tasks = s.tasks) (hstreams : s'.streams = s.streams)
    (hgreetings : s'.greetings = s.greetings) : R.Governs s' where
  hub := hhub
  minted := h.minted.trans hnext
  known := h.known.trans hnumber
  writer i t w hi hw :=
    R.succeeds hnumber (h.writer i t w (htasks ▸ hi) hw) (List.forall_mem_nil _)
      (w.succeeds_refl [])
  stream i x hi := R.lasts hnumber (h.stream i x (hstreams ▸ hi))
  greeting i g hi := R.waits hnumber (h.greeting i g (hgreetings ▸ hi))

/-- A task comes to be another one whose writer is within the rules. -/
theorem putTask (h : R.Governs s) (i : Nat) {t : Task}
    (ht : ∀ w, t.writer? = some w → R.writer s.hub.nextConnection w)
    (links : Table Nat WebSocket.Link) : R.Governs (s.putTask i t s.hub links) where
  hub := h.hub
  minted := h.minted
  known := h.known
  writer j t' w hj hw := by
    rw [get?_putTask] at hj
    split at hj
    · cases hj
      exact ht w hw
    · exact h.writer j t' w hj hw
  stream := h.stream
  greeting := h.greeting

/-- A task carries on. -/
theorem carryOn (h : R.Governs s) {i : Nat} {t t' : Task} (hi : s.tasks.get? i = some t)
    (ht : t.Succeeds t') (links : Table Nat WebSocket.Link) :
    R.Governs (s.putTask i t' s.hub links) := by
  refine h.putTask i (fun w' hw' => ?_) links
  obtain ⟨w, hw, hsucceeds⟩ := ht w' hw'
  exact R.succeeds (Nat.le_refl _) (h.writer i t w hi hw) (List.forall_mem_nil _) hsucceeds

/-! ### Moves -/

theorem perform (h : R.Governs s) (m : Move) : R.Governs (s.perform m) := by
  have hcarries : (s.perform m).hub.Carries R.event := by
    rw [s.perform_hub m]
    refine h.hub.undergo fun x hx e he => ?_
    rw [effect_brings s m x hx] at he
    cases he
  have hnumber : s.hub.nextConnection ≤ (s.perform m).hub.nextConnection := by
    rw [s.perform_hub m]
    exact Hub.nextConnection_undergo _
  have hidle (hsame : s.perform m = s) : R.Governs (s.perform m) := hsame.symm ▸ h
  have hput {i : Nat} {t t' : Task} {hub : Hub} (hi : s.tasks.get? i = some t)
      (ht : t.Succeeds t') (hput : s.perform m = s.putTask i t' hub s.links) :
      R.Governs (s.perform m) := by
    refine (h.carryOn hi ht s.links).of_hub hcarries hnumber ?_ ?_ ?_ ?_ <;> rw [hput] <;> rfl
  cases m with
  | apply => exact h.of_hub hcarries hnumber (Nat.le_refl _) rfl rfl rfl
  | stop =>
    refine h.of_hub hcarries hnumber ?_ ?_ ?_ ?_ <;>
      (simp only [Session.perform, stopIfIdle]; split <;> rfl)
  | start i =>
    cases hi : (s.tasks.get? i).bind Task.pair? with
    | none =>
      refine hidle ?_
      simp only [Session.perform, startTask]
      split
      · rename_i p hp
        rw [hp] at hi
        cases hi
      · rfl
    | some p => exact hput (get?_of_pair? hi) (Task.succeeds_start p) (startTask_eq (get?_of_pair? hi))
  | write i =>
    cases hi : s.tasks.get? i with
    | none => exact hidle (by simp only [Session.perform, stepWriter, hi])
    | some t =>
      cases hw : t.writer? with
      | none => exact hidle (by simp only [Session.perform, stepWriter, hi, hw])
      | some w =>
        cases hbox : s.hub.mailbox? t.connection with
        | none => exact hidle (by simp only [Session.perform, stepWriter, hi, hw, hbox])
        | some box =>
          have hnext : R.Governs (s.putTask i (t.setWriter (w.step box).1) s.hub s.links) := by
            refine h.putTask i (fun w' hw' => ?_) s.links
            rw [Task.writer?_setWriter hw] at hw'
            cases hw'
            exact R.succeeds (Nat.le_refl _) (h.writer i t w hi hw) (h.hub.waiting _ _ hbox)
              (w.succeeds_step box)
          have heq : s.perform (.write i) = _ := stepWriter_eq hi hw hbox
          refine hnext.of_hub hcarries hnumber ?_ ?_ ?_ ?_ <;> rw [heq] <;> rfl
  | read i =>
    cases hi : s.tasks.get? i with
    | none => exact hidle (by simp only [Session.perform, stepReader, hi])
    | some t =>
      cases hr : t.reader? with
      | none => exact hidle (by simp only [Session.perform, stepReader, hi, hr])
      | some r => exact hput hi (t.succeeds_setReader r.step.1) (stepReader_eq hi hr)
  | observeWriter i =>
    cases hi : (s.tasks.get? i).bind Task.pair? with
    | none => exact hidle (observe_of_unpaired hi _)
    | some p =>
      exact hput (get?_of_pair? hi) (Task.succeeds_observeWriter p)
        (observe_eq (get?_of_pair? hi) Pair.observeWriter)
  | observeReader i =>
    cases hi : (s.tasks.get? i).bind Task.pair? with
    | none => exact hidle (observe_of_unpaired hi _)
    | some p =>
      exact hput (get?_of_pair? hi) (Task.succeeds_observeReader p)
        (observe_eq (get?_of_pair? hi) Pair.observeReader)
  | cancel i =>
    let s₀ : Session := { s with doomed := s.doomed.filter (· ≠ i) }
    have hcancel : s.perform (.cancel i) = s₀.replaceTask i Task.abort := rfl
    cases hi : s.tasks.get? i with
    | none =>
      have hsame : s₀.replaceTask i Task.abort = s₀ := by
        have hi₀ : s₀.tasks.get? i = none := hi
        simp only [replaceTask, hi₀]
      refine h.of_hub hcarries hnumber ?_ ?_ ?_ ?_ <;> rw [hcancel, hsame]
    | some t =>
      have hi₀ : s₀.tasks.get? i = some t := hi
      obtain ⟨hub, heq⟩ := replaceTask_eq hi₀ Task.abort
      refine (h.carryOn hi t.succeeds_abort s.links).of_hub hcarries hnumber ?_ ?_ ?_ ?_ <;>
        rw [hcancel, heq] <;> rfl
  | giveUp i =>
    have hfewer : R.Governs { s with greetings := s.greetings.erase i } := by
      refine ⟨h.hub, h.minted, h.known, h.writer, h.stream, fun j g hg => ?_⟩
      rw [Table.get?_erase] at hg
      split at hg
      · cases hg
      · exact h.greeting j g hg
    cases hi : s.greetings.get? i with
    | none => exact hidle (by simp only [Session.perform, giveUpGreeting, hi])
    | some g =>
      obtain ⟨c, student, obstacle⟩ := g
      cases obstacle with
      | none => exact hidle (by simp only [Session.perform, giveUpGreeting, hi])
      | some why =>
        refine hfewer.of_hub hcarries hnumber ?_ ?_ ?_ ?_ <;>
          simp only [Session.perform, giveUpGreeting, hi] <;> rfl

theorem performAll (h : R.Governs s) (moves : List Move) : R.Governs (s.performAll moves) := by
  induction moves generalizing s with
  | nil => exact h
  | cons m rest ih => exact ih (h.perform m)

theorem settle (h : R.Governs s) : R.Governs s.settle := by
  obtain ⟨due, resting, hs⟩ := settle_eq s
  have hall := h.performAll s.settleMoves
  rw [hs]
  exact hall.of_hub hall.hub (Nat.le_refl _) (Nat.le_refl _) rfl rfl rfl

/-! ### Actions -/

/-- Something happens to the hub alone. -/
theorem of_imports (h : R.Governs s) {s' : Session} {course : List Hub.Happening}
    {drafts : List Draft} (hhub : s'.hub = s.hub.undergo course) (hcourse : Imports drafts course)
    (hdrafts : ∀ e, e.MadeOf drafts → R.event e) (hnext : s.next ≤ s'.next)
    (htasks : s'.tasks = s.tasks) (hstreams : s'.streams = s.streams)
    (hgreetings : s'.greetings = s.greetings) : R.Governs s' :=
  h.of_hub (hhub ▸ h.hub.undergo fun x hx e he => hdrafts e (hcourse x hx e he))
    (hhub ▸ Hub.nextConnection_undergo course) hnext htasks hstreams hgreetings

/-- Something happens to the hub alone that brings no event there. -/
theorem of_silence (h : R.Governs s) {s' : Session} {course : List Hub.Happening}
    (hhub : s'.hub = s.hub.undergo course) (hcourse : Imports [] course) (hnext : s.next ≤ s'.next)
    (htasks : s'.tasks = s.tasks) (hstreams : s'.streams = s.streams)
    (hgreetings : s'.greetings = s.greetings) : R.Governs s' :=
  h.of_imports hhub hcourse (fun _ he => absurd he List.not_mem_nil) hnext htasks hstreams hgreetings

theorem logAll (h : R.Governs s) (entries : List Entry) : R.Governs (s.logAll entries) :=
  h.of_hub (h.hub.same rfl rfl) (Nat.le_refl _) (Nat.le_refl _) rfl rfl rfl

theorem stats (h : R.Governs s) : R.Governs s.stats.2 := by
  let asked : Session := { s with hub := s.hub.askStats.2 }
  have hask : Imports [] [.act .askStats] := imports_of_internal (by simp [Hub.Happening.isInternal])
  have hfetch : Imports [] [.fetched s.hub.nextTicket] :=
    imports_of_internal (by simp [Hub.Happening.isInternal])
  have hasked : R.Governs asked :=
    h.of_silence rfl hask (Nat.le_refl _) rfl rfl rfl
  exact hasked.settle.of_silence rfl hfetch (Nat.le_refl _) rfl rfl rfl

theorem publish (h : R.Governs s) {d : DomainEvent} (hd : ∀ e, e.MadeOf d.drafts → R.event e) :
    R.Governs (s.publish d).2 :=
  h.of_imports (s.publish_hub d) (imports_publishCourse d) hd (Nat.le_refl _) rfl rfl rfl

theorem handle (h : R.Governs s) {d : DomainEvent} (hd : ∀ e, e.MadeOf d.drafts → R.event e) :
    R.Governs (s.handle d).2 :=
  h.of_imports (s.handle_hub d) (imports_handleCourse d) hd (Nat.le_refl _) rfl rfl rfl

/-- A body is put in the place of another one of its connection, or in a new place. -/
theorem putStream (h : R.Governs s) {i next : Nat} {x : Stream}
    (hx : R.stream s.hub.nextConnection i x.connection) (hnext : s.next ≤ next) :
    R.Governs { s with streams := s.streams.insert i x, next } where
  hub := h.hub
  minted := h.minted.trans hnext
  known := h.known
  writer := h.writer
  stream j y hy := by
    simp only [Table.get?_insert] at hy
    split at hy
    · rename_i hj
      cases hy
      exact hj ▸ hx
    · exact h.stream j y hy
  greeting := h.greeting

theorem closeStream (h : R.Governs s) (i : Nat) : R.Governs (s.closeStream i) := by
  have hhub := s.closeStream_course i
  have hcourse : Imports [] (s.closeCourse i) := imports_of_internal (s.closeCourse_internal i)
  unfold Session.closeStream at hhub ⊢
  cases hi : s.streams.get? i with
  | none => exact h
  | some x =>
    rw [hi] at hhub
    have hfewer : R.Governs { s with streams := s.streams.erase i } := by
      refine ⟨h.hub, h.minted, h.known, h.writer, fun j y hy => ?_, h.greeting⟩
      rw [Table.get?_erase] at hy
      split at hy
      · cases hy
      · exact h.stream j y hy
    exact hfewer.of_silence hhub hcourse (Nat.le_refl _) rfl rfl rfl

theorem register (h : R.Governs s) (a : Audience) : R.Governs (s.register a).2 := by
  have hcourse : Imports [] [.act (.register a)] := by simp [Imports, Hub.Happening.brings]
  exact h.of_silence rfl hcourse (Nat.le_refl _) rfl rfl rfl

theorem openStream (h : R.Governs s) (config : Config) (a : Audience) :
    R.Governs (Web.openStream config a s).2 := by
  have hnew := R.opened h.known h.minted
  have hnumber : (s.register a).2.hub.nextConnection = s.hub.nextConnection + 1 :=
    s.hub.nextConnection_register a
  exact (h.register a).putStream (hnumber ▸ hnew) (Nat.le_succ _)

theorem readStream (h : R.Governs s) (i : Nat) (limit : Option Nat) :
    R.Governs (s.readStream i limit).2 := by
  cases hi : s.streams.get? i with
  | none =>
    simp only [Session.readStream, hi]
    exact h
  | some x =>
    cases hbox : s.hub.mailbox? x.connection with
    | none =>
      simp only [Session.readStream, hi, hbox]
      exact h
    | some box =>
      obtain ⟨hc, -⟩ := read_frame x box s.clock (limit.getD (box.waiting.length + 2))
      have hx := h.stream i x hi
      rw [← hc] at hx
      have hread : R.Governs (s.readBody i x box limit) := by
        refine (h.putStream hx (Nat.le_refl s.next)).of_hub ?_ (Nat.le_refl _) (Nat.le_refl _)
          rfl rfl rfl
        refine h.hub.updateOwn hbox fun e he => ?_
        rw [x.read_box] at he
        exact List.mem_of_mem_drop he
      rw [readStream_eq hi hbox]
      split
      · exact (hread.logAll [_]).closeStream i
      · exact hread

theorem finish (h : R.Governs s) (config : Config) (kept : Bool) {e : Web.Errand}
    (he : ∀ ev, ev.MadeOf e.drafts → R.event ev) : R.Governs (e.finish config s kept) := by
  cases e with
  | nothing => exact h
  | upgrade student => exact h
  | publish d => exact h.publish he
  | figures => exact h.stats
  | stream a =>
    cases kept with
    | true => exact h.openStream config a
    | false => exact (h.openStream config a).closeStream s.next

/-- A greeting is begun for a new connection. -/
theorem beginGreeting (h : R.Governs s) (student : StudentId) :
    R.Governs (s.beginGreeting student).2 := by
  have hregistered := h.register (.student student)
  have hnumber : (s.register (.student student)).2.hub.nextConnection =
      s.hub.nextConnection + 1 := s.hub.nextConnection_register _
  refine ⟨hregistered.hub, hregistered.minted.trans (Nat.le_succ _), hregistered.known,
    hregistered.writer, hregistered.stream, fun j g hg => ?_⟩
  simp only [Session.beginGreeting, fresh, Table.get?_insert] at hg
  split at hg
  · cases hg
    rename_i hj
    show R.greeting (s.register (.student student)).2.hub.nextConnection j
      ⟨⟨s.hub.nextConnection⟩, student, none⟩
    exact hnumber ▸ R.begun h.known (hj ▸ h.minted)
  · exact hregistered.greeting j g hg

theorem addTask (h : R.Governs s) {t : Task}
    (ht : ∀ w, t.writer? = some w → R.writer s.hub.nextConnection w) :
    R.Governs (s.addTask t).2 := by
  have hput := h.putTask s.next ht s.links
  exact ⟨hput.hub, hput.minted.trans (Nat.le_succ _), hput.known, hput.writer, hput.stream,
    hput.greeting⟩

theorem finishGreeting (h : R.Governs s) (i : Nat) : R.Governs (s.finishGreeting i).2 := by
  unfold Session.finishGreeting
  split
  · rename_i c student hi
    have hfewer : R.Governs ({ s with greetings := s.greetings.erase i }.log
        (.established student c)) := by
      refine ⟨h.hub.same rfl rfl, h.minted, h.known, h.writer, h.stream, fun j g hg => ?_⟩
      have hg' : (s.greetings.erase i).get? j = some g := hg
      rw [Table.get?_erase] at hg'
      split at hg'
      · cases hg'
      · exact h.greeting j g hg'
    have hadded := hfewer.addTask (t := .paired (.new c .json greetedSink)) fun w hw => by
      cases hw
      exact R.greeted (h.greeting i _ hi)
    exact ⟨hadded.hub, hadded.minted, hadded.known, hadded.writer, hadded.stream, hadded.greeting⟩
  · exact h

theorem obstructGreeting (h : R.Governs s) (i : Nat) (why : String) :
    R.Governs (s.obstructGreeting i why) := by
  refine ⟨h.hub, h.minted, h.known, h.writer, h.stream, fun j g hg => ?_⟩
  simp only [Session.obstructGreeting, Table.get?_modify] at hg
  split at hg
  · obtain ⟨g₀, hg₀, rfl⟩ := Option.map_eq_some_iff.mp hg
    exact R.obstructed (h.greeting j g₀ hg₀)
  · exact h.greeting j g hg

/-- What happens to the transport of a task adds no text. -/
theorem mapSink (h : R.Governs s) (i : Nat) {f : Sink → Sink}
    (hf : ∀ sink, ∀ text ∈ (f sink).texts, text ∈ sink.texts) (links : Table Nat WebSocket.Link) :
    R.Governs { s with tasks := s.tasks.modify i (·.mapSink f), links } := by
  refine ⟨h.hub, h.minted, h.known, fun j t w hj hw => ?_, h.stream, h.greeting⟩
  simp only [Table.get?_modify] at hj
  split at hj
  · obtain ⟨t₀, ht₀, rfl⟩ := Option.map_eq_some_iff.mp hj
    obtain ⟨w₀, hw₀, hsucceeds⟩ := t₀.succeeds_mapSink hf w hw
    exact R.succeeds (Nat.le_refl _) (h.writer j t₀ w₀ ht₀ hw₀) (List.forall_mem_nil _) hsucceeds
  · exact h.writer j t w hj hw

theorem arrive (h : R.Governs s) (i : Nat) (frame : Inbound) : R.Governs (s.arrive i frame).2 := by
  unfold Session.arrive
  cases hi : s.tasks.get? i with
  | none => exact h
  | some t =>
    simp only []
    split
    · exact h
    · exact h.carryOn hi (t.succeeds_setReader _) s.links

theorem endInput (h : R.Governs s) (i : Nat) : R.Governs (s.endInput i) := by
  unfold Session.endInput
  cases hi : s.tasks.get? i with
  | none => exact h
  | some t =>
    simp only []
    split
    · exact h
    · exact h.carryOn hi (t.succeeds_setReader _) s.links

theorem absorb (h : R.Governs s) (i : Nat) {arrival : WebSocket.Arrival}
    (ha : arrival.Wordless) : R.Governs (s.absorb i arrival) := by
  have hall (frames : List Inbound) (s : Session) (h : R.Governs s) :
      R.Governs (frames.foldl (fun s frame => (s.arrive i frame).2) s) := by
    induction frames generalizing s with
    | nil => exact h
    | cons frame rest ih => exact ih _ (h.arrive i frame)
  refine hall arrival.messages _ (h.mapSink i (fun sink text htext => ?_) _)
  rw [Sink.mem_texts] at htext ⊢
  cases hending : arrival.ending with
  | none =>
    simp only [hending, List.mem_append] at htext
    rcases htext with (hsent | hreply) | hfarewell
    · exact Or.inl hsent
    · exact absurd (ha.replies _ hreply) (by simp [Outgoing.text?])
    · exact Or.inr hfarewell
  | some ending =>
    simp only [hending, endSink, List.mem_append] at htext
    rcases htext with (hsent | hreply) | hfarewell
    · exact Or.inl hsent
    · exact absurd (ha.replies _ hreply) (by simp [Outgoing.text?])
    · exact absurd (ha.farewell ending _ hending hfarewell) (by simp [Outgoing.text?])

/-- A step behind the router keeps the rules. -/
theorem web (h : R.Governs s) (config : Config) {x : Web.Step}
    (hx : ∀ e, e.MadeOf (x.drafts config) → R.event e) : R.Governs (Web.perform config s x) := by
  cases x with
  | http r kept =>
    rw [Web.perform_http]
    exact (h.logAll _).finish config _ hx
  | connect r failure =>
    have hlogged := h.logAll (Web.errand config r).1
    simp only [Web.Step.drafts] at hx
    rw [Web.perform_connect]
    cases he : (Web.errand config r).2 with
    | upgrade student =>
      cases failure with
      | none => exact hlogged.beginGreeting student
      | some why => exact hlogged.logAll [_]
    | nothing | stream | publish | figures =>
      rw [he] at hx
      exact hlogged.finish config false hx
  | greet i => exact h.finishGreeting i
  | hangUp i why => exact h.obstructGreeting i why
  | read i limit => exact h.readStream i limit
  | drop i => exact h.closeStream i
  | bytes i data =>
    simp only [Web.perform, feed]
    split
    · split
      · exact h.absorb i (WebSocket.Link.wordless_readFrames _ _)
      · exact h
    · exact h
  | lose i =>
    simp only [Web.perform, Session.lose]
    split
    · split
      · exact h.absorb i (WebSocket.Link.wordless_lose _)
      · exact h
    · exact h
  | sever i why =>
    have hsame (sink : Sink) : ∀ text ∈ (sink.sever why).texts, text ∈ sink.texts :=
      fun _ htext => htext
    exact h.mapSink i hsame s.links
  | inbound i frame => exact h.arrive i frame
  | endInput i => exact h.endInput i
  | publish d => exact h.publish hx
  | handle d => exact h.handle hx
  | advance ms =>
    have hlater : R.Governs { s with clock := s.clock + ms } :=
      h.of_hub h.hub (Nat.le_refl _) (Nat.le_refl _) rfl rfl rfl
    exact hlater.settle
  | move m =>
    simp only [Web.perform]
    split
    · exact h
    · exact h.perform m
  | settle => exact h.settle

end Regime.Governs

/-- Nothing is begun in a session that has just been started. -/
theorem Regime.governs_ofConfig {config : Config} (hstart : Session.ofConfig? config = .ok s)
    (hminted : R.minted = 0) (hknown : R.known = 0) : R.Governs s := by
  unfold Session.ofConfig? Session.start? at hstart
  split at hstart
  · cases hstart
    refine ⟨⟨fun m hm => ?_, fun c box hbox => ?_⟩, hminted ▸ Nat.zero_le _,
      hknown ▸ Nat.zero_le _, fun i t w hi => ?_, fun i x hi => ?_, fun i g hi => ?_⟩
    · cases hm
    · cases hbox
    · cases hi
    · cases hi
    · cases hi
  · cases hstart

/-- Whether a regime allows an action: the events that may come of it, and the workers that it
engages, are within the rules. -/
structure Regime.Allows (R : Regime) (config : Config) (action : Session.Action) : Prop where
  event : ∀ e, e.MadeOf (action.drafts config) → R.event e
  pair : ∀ c encode sink, action = .runPair c encode sink →
    ∀ n, R.writer n (.new c encode sink .idle)
  writer : ∀ c encode sink, action = .runWriter c encode sink →
    ∀ n, R.writer n (.new c encode sink .running)
  stream : ∀ c keepAlive, action = .openStream c keepAlive →
    ∀ n i, R.minted ≤ i → R.stream n i c

namespace Regime.Governs

open Session

/-- What an action that is allowed does keeps the rules. -/
theorem act (h : R.Governs s) {config : Config} {action : Action} (ha : R.Allows config action) :
    R.Governs (s.act config action) := by
  have hhub := s.act_hub config action
  have honly (hnext : s.next ≤ (s.act config action).next)
      (htasks : (s.act config action).tasks = s.tasks)
      (hstreams : (s.act config action).streams = s.streams)
      (hgreetings : (s.act config action).greetings = s.greetings) :
      R.Governs (s.act config action) :=
    h.of_imports hhub (imports_course config s action) ha.event hnext htasks hstreams hgreetings
  by_cases hspares : action.sparesWorkers = true
  · obtain ⟨hub, main, clones, guards, doomed, hs⟩ := act_frame config s hspares
    exact honly (by rw [hs]) (by rw [hs]) (by rw [hs]) (by rw [hs])
  cases action with
  | web step => exact h.web config ha.event
  | stats => exact h.stats
  | addGuard c => exact honly (Nat.le_succ _) rfl rfl rfl
  | runPair c encode sink =>
    refine h.addTask fun w hw => ?_
    cases hw
    exact ha.pair c encode sink rfl _
  | runWriter c encode sink =>
    refine h.addTask fun w hw => ?_
    cases hw
    exact ha.writer c encode sink rfl _
  | runReader c =>
    refine h.addTask fun w hw => ?_
    cases hw
  | setReady i ready =>
    exact h.mapSink i (f := fun sink => { sink with ready }) (fun _ _ htext => htext) s.links
  | collect i =>
    simp only [Session.act, collect]
    split
    · exact h
    · refine h.mapSink i (fun sink text htext => ?_) s.links
      rw [Sink.mem_texts] at htext ⊢
      rcases htext with hnone | hfarewell
      · cases hnone
      · exact Or.inr hfarewell
  | openStream c keepAlive =>
    exact h.putStream (ha.stream c keepAlive rfl _ _ h.minted) (Nat.le_succ _)
  | cutOff i => exact h.perform (.cancel i)
  | _ => exact absurd rfl hspares

theorem enact (h : R.Governs s) {config : Config} {action : Action} (ha : R.Allows config action) :
    R.Governs (s.enact config action) := by
  unfold Session.enact
  split
  · exact h.act ha
  · exact h

/-- A run of actions that are allowed keeps the rules. -/
theorem enactAll (h : R.Governs s) {config : Config} {actions : List Action}
    (ha : ∀ action ∈ actions, R.Allows config action) : R.Governs (s.enactAll config actions) := by
  induction actions generalizing s with
  | nil => exact h
  | cons action rest ih =>
    exact ih (h.enact (ha action List.mem_cons_self)) fun x hx => ha x (List.mem_cons_of_mem _ hx)

/-! ### The loss of the hub -/

theorem abandon (h : R.Governs s) (c : ConnectionId) : R.Governs (s.abandon c) := by
  have hcourse : Imports [] [.act (.abandon c)] :=
    imports_of_internal (by simp [Hub.Happening.isInternal])
  exact h.of_silence rfl hcourse (Nat.le_refl _) rfl rfl rfl

theorem destroyTask (h : R.Governs s) (i : Nat) : R.Governs (s.replaceTask i Task.destroy) := by
  cases hi : s.tasks.get? i with
  | none =>
    simp only [Session.replaceTask, hi]
    exact h
  | some t =>
    let released : List Hub.Happening :=
      if t.owns && !t.destroy.1.owns then [.act (.abandon t.connection)] else []
    have hplain := fun x hx => Command.plain_of_departs (t.destroy_departs x hx)
    have hhub : (s.replaceTask i Task.destroy).hub =
        s.hub.undergo (released ++ Hub.handing t.destroy.2) := by
      rw [replaceTask_hub hi, Hub.undergo_append, Hub.undergo_handing hplain]
      simp only [released]
      split <;> rfl
    have hcourse : Imports [] (released ++ Hub.handing t.destroy.2) := by
      refine imports_append.mpr ⟨?_, imports_of_internal (internal_handing t.destroy_departs)⟩
      simp only [released]
      split <;> simp [Imports, Hub.Happening.brings]
    obtain ⟨hub, heq⟩ := replaceTask_eq hi Task.destroy
    refine (h.carryOn hi t.succeeds_destroy s.links).of_silence hhub hcourse ?_ ?_ ?_ ?_ <;>
      rw [heq] <;> rfl

/-- When the hub is lost, nobody takes anything up any more. -/
theorem crash (h : R.Governs s) : R.Governs s.crash := by
  have hgreetings (gs : List Greeting) (s : Session) (h : R.Governs s) :
      R.Governs (gs.foldl (fun s g => s.abandon g.connection) s) := by
    induction gs generalizing s with
    | nil => exact h
    | cons g rest ih => exact ih _ (h.abandon g.connection)
  have htasks (is : List Nat) (s : Session) (h : R.Governs s) :
      R.Governs (is.foldl (fun s i => s.replaceTask i Task.destroy) s) := by
    induction is generalizing s with
    | nil => exact h
    | cons i rest ih => exact ih _ (h.destroyTask i)
  let halted : Session := { s with due := [], resting := false, doomed := [] }.onHub Hub.halt
  have hhalted : R.Governs { halted with greetings := .empty } := by
    refine ⟨h.hub.halt, h.minted, h.known, h.writer, h.stream, fun i g hg => ?_⟩
    cases hg
  exact htasks _ _ (hgreetings _ _ hhalted)

end Regime.Governs
end LiveUpdate
