import LiveUpdate.Proofs.Bodies
import LiveUpdate.Proofs.Receivers
import LiveUpdate.Proofs.Shutdown

/-! Streams of events that the router opens. What is read of the body of such a stream is made of the
events that were put into the mailbox, in their order, and of comments in due time; it reads back as
these events. -/
namespace LiveUpdate.Session

variable {config : Config} {s : Session} {i : Nat} {c : ConnectionId} {action : Action}

/-! ### Bodies that are left alone -/

/-- A body is afterwards as it was before, and not there if it was not there before. -/
def KeepsBody (s s' : Session) (i : Nat) : Prop := s'.streams.get? i = s.streams.get? i

theorem keepsBody_of_streams {s' : Session} (h : s'.streams = s.streams) : s.KeepsBody s' i := by
  rw [KeepsBody, h]

theorem keepsBody_closeStream (s : Session) {j : Nat} (hj : i ≠ j) :
    s.KeepsBody (s.closeStream j) i := by
  rw [KeepsBody, (closeStream_frame s j).1, if_neg hj]

theorem perform_streams (s : Session) (m : Move) : (s.perform m).streams = s.streams := by
  cases hm : m.cancels with
  | false =>
    obtain ⟨hub, tasks, greetings, hs⟩ := s.perform_frame hm
    rw [hs]
  | true =>
    cases m with
    | cancel j =>
      simp only [perform, cancelTask, replaceTask, releaseMailbox]
      split
      · rfl
      · split <;> rfl
    | _ => cases hm

theorem settle_streams (s : Session) : s.settle.streams = s.streams := by
  have hall (moves : List Move) (s : Session) : (s.performAll moves).streams = s.streams := by
    induction moves generalizing s with
    | nil => rfl
    | cons m rest ih => exact (ih (s.perform m)).trans (s.perform_streams m)
  obtain ⟨due, resting, hs⟩ := settle_eq s
  rw [hs]
  exact hall _ _

/-- A stream that is opened has a new number. -/
theorem keepsBody_finish (config : Config) (hi : i < s.next) (kept : Bool) (e : Web.Errand) :
    s.KeepsBody (e.finish config s kept) i := by
  have hne := Nat.ne_of_lt hi
  have hopened (a : Audience) : s.KeepsBody (Web.openStream config a s).2 i := by
    show (s.streams.insert s.next _).get? i = _
    rw [Table.get?_insert, if_neg hne]
  cases e with
  | nothing => exact keepsBody_of_streams rfl
  | upgrade student => exact keepsBody_of_streams rfl
  | publish d => exact keepsBody_of_streams rfl
  | figures => exact keepsBody_of_streams (settle_streams _)
  | stream a =>
    cases kept with
    | true => exact hopened a
    | false => exact (keepsBody_closeStream _ hne).trans (hopened a)

theorem keepsBody_readStream (s : Session) {j : Nat} (hj : i ≠ j) (limit : Option Nat) :
    s.KeepsBody (s.readStream j limit).2 i := by
  cases hx : s.streams.get? j with
  | none =>
    rw [readStream_of_absent limit (Or.inl hx)]
    exact keepsBody_of_streams rfl
  | some x =>
    cases hbox : s.hub.mailbox? x.connection with
    | none =>
      rw [readStream_of_absent limit (Or.inr ⟨x, hx, hbox⟩)]
      exact keepsBody_of_streams rfl
    | some box =>
      have hread : s.KeepsBody (s.readBody j x box limit) i := by
        simp only [KeepsBody, readBody, Table.get?_insert, if_neg hj]
      rw [readStream_eq hx hbox]
      split
      · exact (keepsBody_closeStream ((s.readBody j x box limit).log _) hj).trans hread
      · exact hread

theorem keepsBody_web (config : Config) (hi : i < s.next) {step : Web.Step}
    (hread : ∀ limit, step ≠ .read i limit) (hdrop : step ≠ .drop i) :
    s.KeepsBody (Web.perform config s step) i := by
  have hlogged (entries : List Entry) : i < (s.logAll entries).next := hi
  cases step with
  | http r kept =>
    rw [Web.perform_http]
    exact keepsBody_finish config (hlogged _) _ _
  | connect r failure =>
    rw [Web.perform_connect]
    split
    · exact keepsBody_of_streams rfl
    · exact keepsBody_of_streams rfl
    · exact keepsBody_finish config (hlogged _) false _
  | greet j =>
    refine keepsBody_of_streams ?_
    simp only [Web.perform, finishGreeting]
    split <;> rfl
  | read j limit =>
    have hj : i ≠ j := fun hj => hread limit (by rw [hj])
    exact s.keepsBody_readStream hj limit
  | drop j =>
    have hj : i ≠ j := fun hj => hdrop (by rw [hj])
    exact s.keepsBody_closeStream hj
  | bytes j data =>
    obtain ⟨tasks, links, hs⟩ := s.feed_frame j data
    rw [Web.perform, hs]
    exact keepsBody_of_streams rfl
  | lose j =>
    obtain ⟨tasks, links, hs⟩ := s.lose_frame j
    rw [Web.perform, hs]
    exact keepsBody_of_streams rfl
  | inbound j frame =>
    obtain ⟨tasks, hs⟩ := s.arrive_frame j frame
    rw [Web.perform, hs]
    exact keepsBody_of_streams rfl
  | endInput j =>
    obtain ⟨tasks, hs⟩ := s.endInput_frame j
    rw [Web.perform, hs]
    exact keepsBody_of_streams rfl
  | advance ms => exact keepsBody_of_streams (settle_streams { s with clock := s.clock + ms })
  | move m =>
    refine keepsBody_of_streams ?_
    simp only [Web.perform]
    split
    · rfl
    · exact s.perform_streams m
  | settle => exact keepsBody_of_streams s.settle_streams
  | _ => exact keepsBody_of_streams rfl

/-- Only reading a body or dropping it does anything to it. -/
theorem keepsBody_act (config : Config) (hi : i < s.next)
    (hread : ∀ limit, action ≠ .web (.read i limit)) (hdrop : action ≠ .web (.drop i)) :
    s.KeepsBody (s.act config action) i := by
  by_cases hspares : action.sparesWorkers = true
  · obtain ⟨hub, main, clones, guards, doomed, hs⟩ := act_frame config s hspares
    rw [hs]
    exact keepsBody_of_streams rfl
  cases action with
  | web step =>
    exact keepsBody_web config hi (fun limit he => hread limit (he ▸ rfl)) fun he => hdrop (he ▸ rfl)
  | openStream c keepAlive =>
    show (s.streams.insert s.next _).get? i = _
    rw [Table.get?_insert, if_neg (Nat.ne_of_lt hi)]
  | stats => exact keepsBody_of_streams (settle_streams _)
  | collect j =>
    refine keepsBody_of_streams ?_
    simp only [act, collect]
    split <;> rfl
  | cutOff j => exact keepsBody_of_streams (s.perform_streams (.cancel j))
  | addGuard | runPair | runWriter | runReader | setReady => exact keepsBody_of_streams rfl
  | _ => exact absurd rfl hspares

/-! ### Bodies that are read -/

section

variable {x : Stream} {box : Mailbox}

theorem readings_of_other (hread : ∀ limit, action ≠ .web (.read i limit)) :
    s.readings i action = [] := by
  unfold readings
  split
  · rename_i j limit
    exact if_neg fun hj : j = i => hread limit (by rw [hj])
  · rfl

/-- What is received when a body is read are the first of the events that wait. -/
theorem receivedIn_readCourse (hi : s.streams.get? i = some x)
    (hbox : s.hub.mailbox? x.connection = some box) (limit : Option Nat) :
    s.hub.receivedIn x.connection (s.readCourse i limit) =
      box.waiting.take (limit.getD (box.waiting.length + 2)) := by
  have hfirst := Hub.receivedIn_takes hbox (limit.getD (box.waiting.length + 2))
  simp only [readCourse, hi, hbox, Hub.receivedIn, Hub.glean_append] at hfirst ⊢
  rw [hfirst]
  split <;> exact List.append_nil _

/-- Reading puts nothing into any mailbox. -/
theorem enqueuedIn_readCourse (s : Session) (i : Nat) (limit : Option Nat) (c : ConnectionId) :
    s.hub.enqueuedIn c (s.readCourse i limit) = [] := by
  unfold readCourse
  split
  · rfl
  · split
    · rfl
    · refine Hub.enqueuedIn_of_stepless fun hmem => ?_
      rcases List.mem_append.mp hmem with htaken | hended
      · obtain ⟨act, hact, he⟩ := List.mem_map.mp htaken
        rw [(List.mem_replicate.mp hact).2] at he
        cases he
      · split at hended <;> simp [Hub.doings] at hended

/-- A body that has been read and did not end. -/
theorem readStream_goesOn (hi : s.streams.get? i = some x)
    (hbox : s.hub.mailbox? x.connection = some box) {limit : Option Nat}
    (hgoes : (x.read box s.clock (limit.getD (box.waiting.length + 2))).2.1 = false) :
    (s.readStream i limit).2.streams.get? i =
        some (x.read box s.clock (limit.getD (box.waiting.length + 2))).2.2.1 ∧
      (s.readStream i limit).2.hub.mailbox? x.connection =
        some { box with waiting := box.waiting.drop (limit.getD (box.waiting.length + 2)) } := by
  rw [readStream_eq hi hbox, hgoes]
  constructor
  · show (s.streams.insert i _).get? i = _
    rw [Table.get?_insert, if_pos rfl]
  · rw [← x.read_box box s.clock]
    exact Hub.mailbox?_updateMailbox_own hbox _

theorem closeStream_gone (s : Session) (i : Nat) : (s.closeStream i).streams.get? i = none := by
  rw [(closeStream_frame s i).1, if_pos rfl]

/-- A body that has been read and ended. -/
theorem readStream_ended (horderly : s.hub.Orderly) (hi : s.streams.get? i = some x)
    (hbox : s.hub.mailbox? x.connection = some box) {limit : Option Nat}
    (hended : (x.read box s.clock (limit.getD (box.waiting.length + 2))).2.1 = true) :
    (s.readStream i limit).2.streams.get? i = none ∧
      (s.readStream i limit).2.hub.Deserted x.connection := by
  have hcourse : s.readCourse i limit =
      Hub.doings (Hub.takes x.connection (limit.getD (box.waiting.length + 2))) ++
        .noted [.streamClosed x.connection] ::
          Hub.doings [.abandon x.connection, .unregister x.connection] := by
    simp only [readCourse, hi, hbox, hended, if_true]
  have htaken := Hub.mailbox?_updateMailbox_own hbox fun _ =>
    { box with waiting := box.waiting.drop (limit.getD (box.waiting.length + 2)) }
  rw [← Hub.run_takes hbox, ← Hub.undergo_doings] at htaken
  constructor
  · rw [readStream_eq hi hbox, if_pos hended]
    exact closeStream_gone _ i
  · rw [readStream_course, hcourse, Hub.undergo_append, Hub.undergo_cons]
    exact ((horderly.undergo _).happen _).deserted_letGo htaken

end

/-- A body that alone works for its connection, in the middle of a run: what has been read of it
since some moment, which events that were, what has been put into the mailbox, and whether the client
has kept the body until it ended. -/
structure Renders (s : Session) (i : Nat) (c : ConnectionId) (interval since : Nat) (log : Readings)
    (received enqueued : List Event) (kept : Prop) : Prop where
  governs : (Regime.solely i c).Governs s
  orderly : s.hub.Orderly
  blocks : log.blocks = received.map Frame.sse
  paced : log.Paced interval since
  begins : received <+: enqueued
  body : ∀ x, s.streams.get? i = some x → x.Awaits interval (log.last since) ∧
    ∃ box, s.hub.mailbox? c = some box ∧ box.intake = .listening ∧
      received ++ box.waiting = enqueued
  ended : kept → s.streams.get? i = none → s.hub.Deserted c ∧ received = enqueued

namespace Renders

variable {interval since : Nat} {log : Readings} {received enqueued : List Event} {kept : Prop}

theorem weaken (h : s.Renders i c interval since log received enqueued kept) {kept' : Prop}
    (hkept : kept' → kept) : s.Renders i c interval since log received enqueued kept' :=
  { h with ended := fun hk => h.ended (hkept hk) }

/-- What has been received goes on with what is received, and is still followed by what waits. -/
theorem balance (h : s.Renders i c interval since log received enqueued kept) {box box' : Mailbox}
    (hbox : s.hub.mailbox? c = some box) (hsum : received ++ box.waiting = enqueued)
    {course : List Hub.Happening} (hbox' : (s.hub.undergo course).mailbox? c = some box')
    (hthere : box'.intake = .listening) :
    (received ++ s.hub.receivedIn c course) ++ box'.waiting =
      enqueued ++ s.hub.enqueuedIn c course := by
  have hnot : ¬ (s.hub.undergo course).Deserted c := by
    rintro ⟨box₀, hsame, hgone⟩
    rw [hbox'] at hsame
    cases hsame
    rw [hthere] at hgone
    cases hgone
  have hall := h.orderly.waitingFor_undergo hnot
  rw [Hub.waitingFor_of_mailbox hbox', Hub.waitingFor_of_mailbox hbox] at hall
  rw [List.append_assoc, hall, ← List.append_assoc, hsum]

/-- A step that leaves the body alone. -/
theorem leave (h : s.Renders i c interval since log received enqueued kept)
    (haction : action.takesUp ≠ some c) (hread : ∀ limit, action ≠ .web (.read i limit))
    (hdrop : action ≠ .web (.drop i)) :
    (s.act config action).Renders i c interval since log
      (received ++ s.hub.receivedIn c (s.course config action))
      (enqueued ++ s.hub.enqueuedIn c (s.course config action)) kept := by
  have hhub := s.act_hub config action
  have hkeeps : (s.act config action).streams.get? i = s.streams.get? i :=
    keepsBody_act config h.governs.minted hread hdrop
  have huntouched : Hub.Untouched c (s.course config action) :=
    h.governs.untouched_course haction hread hdrop
  have hnone := @Hub.receivedIn_of_untouched s.hub c _ huntouched
  refine ⟨h.governs.act (allows_solely haction), hhub ▸ h.orderly.undergo _, ?_, h.paced, ?_,
    fun x hx => ?_, fun hk hx => ?_⟩
  · rw [hnone, List.append_nil]
    exact h.blocks
  · rw [hnone, List.append_nil]
    exact h.begins.trans (List.prefix_append _ _)
  · obtain ⟨hawaits, box, hbox, hlistens, hsum⟩ := h.body x (hkeeps.symm.trans hx)
    obtain ⟨box', hbox', hsame⟩ := h.orderly.mailbox?_untouched hbox huntouched
    have hlistens' := hsame.trans hlistens
    exact ⟨hawaits, box', hhub ▸ hbox', hlistens', h.balance hbox hsum hbox' hlistens'⟩
  · obtain ⟨hgone, hall⟩ := h.ended hk (hkeeps.symm.trans hx)
    rw [hnone, h.orderly.enqueuedIn_of_deserted hgone, List.append_nil, List.append_nil]
    exact ⟨hhub ▸ h.orderly.deserted_undergo hgone _, hall⟩

/-- The client drops the body. -/
theorem drop (h : s.Renders i c interval since log received enqueued kept) :
    (s.closeStream i).Renders i c interval since log
      (received ++ s.hub.receivedIn c (s.closeCourse i))
      (enqueued ++ s.hub.enqueuedIn c (s.closeCourse i)) False := by
  have hnone : s.hub.receivedIn c (s.closeCourse i) = [] := by
    unfold closeCourse
    split <;> rfl
  refine ⟨h.governs.closeStream i, s.closeStream_course i ▸ h.orderly.undergo _, ?_, h.paced, ?_,
    fun x hx => ?_, False.elim⟩
  · rw [hnone, List.append_nil]
    exact h.blocks
  · rw [hnone, List.append_nil]
    exact h.begins.trans (List.prefix_append _ _)
  · rw [closeStream_gone] at hx
    cases hx

/-- A step that reads the body. -/
theorem read (h : s.Renders i c interval since log received enqueued kept) (limit : Option Nat) :
    (s.readStream i limit).2.Renders i c interval since
      (log ++ s.readings i (.web (.read i limit)))
      (received ++ s.hub.receivedIn c (s.readCourse i limit))
      (enqueued ++ s.hub.enqueuedIn c (s.readCourse i limit)) kept := by
  cases hi : s.streams.get? i with
  | none =>
    have hstream := readStream_of_absent limit (Or.inl hi)
    have hcourse : s.readCourse i limit = [] := by simp only [readCourse, hi]
    have hreadings : s.readings i (.web (.read i limit)) = [] := by
      rw [readings, if_pos rfl, hstream]
      rfl
    rw [hstream, hcourse, hreadings]
    simpa [Hub.receivedIn, Hub.enqueuedIn] using h
  | some x =>
    obtain ⟨hawaits, box, hbox, hlistens, hsum⟩ := h.body x hi
    obtain rfl : x.connection = c := (h.governs.stream i x hi).mpr rfl
    have hhub := s.readStream_course i limit
    have hreadings := readings_of_body hi hbox limit
    have hreceived := receivedIn_readCourse hi hbox limit
    obtain ⟨hpaced, hnext⟩ := hawaits.read box s.clock (limit.getD (box.waiting.length + 2))
    rw [← hreadings] at hpaced hnext
    refine ⟨h.governs.readStream i limit, hhub ▸ h.orderly.undergo _, ?_,
      Readings.paced_append.mpr ⟨h.paced, hpaced⟩, ?_, fun y hy => ?_, fun _ hy => ?_⟩
    · rw [Readings.blocks_append, h.blocks, hreadings, x.blocks_read, hreceived, List.map_append]
    · rw [hreceived]
      refine List.IsPrefix.trans ?_ (List.prefix_append _ _)
      rw [← hsum]
      exact (List.prefix_append_right_inj received).mpr (List.take_prefix _ _)
    · cases hend : (x.read box s.clock (limit.getD (box.waiting.length + 2))).2.1 with
      | true =>
        rw [(readStream_ended h.orderly hi hbox hend).1] at hy
        cases hy
      | false =>
        obtain ⟨hbody, hbox'⟩ := readStream_goesOn hi hbox hend
        obtain rfl := Option.some.inj (hbody.symm.trans hy)
        rw [Readings.last_append]
        exact ⟨hnext, _, hbox', hlistens, h.balance hbox hsum (hhub ▸ hbox') hlistens⟩
    · cases hend : (x.read box s.clock (limit.getD (box.waiting.length + 2))).2.1 with
      | true =>
        have hfully := ((x.read_ended box s.clock _).mp hend).1
        rw [hreceived, enqueuedIn_readCourse, List.append_nil,
          List.take_of_length_le (Nat.le_of_lt hfully)]
        exact ⟨(readStream_ended h.orderly hi hbox hend).2, hsum⟩
      | false =>
        rw [(readStream_goesOn hi hbox hend).1] at hy
        cases hy

/-- A step, if it is possible. -/
theorem enact (config : Config) (h : s.Renders i c interval since log received enqueued kept)
    (haction : action.takesUp ≠ some c) :
    (s.enact config action).Renders i c interval since (log ++ s.readings i action)
      (received ++ s.hub.receivedIn c (if s.allows action then s.course config action else []))
      (enqueued ++ s.hub.enqueuedIn c (if s.allows action then s.course config action else []))
      (kept ∧ action ≠ .web (.drop i)) := by
  by_cases hread : ∃ limit, action = .web (.read i limit)
  · obtain ⟨limit, rfl⟩ := hread
    have hallowed : s.allows (.web (.read i limit)) = true := Bool.or_true _
    rw [Session.enact, if_pos hallowed, if_pos hallowed]
    exact (h.read limit).weaken And.left
  · have hother := fun limit he => hread ⟨limit, he⟩
    rw [readings_of_other hother, List.append_nil, Session.enact]
    split
    · by_cases hdrop : action = .web (.drop i)
      · subst hdrop
        exact h.drop.weaken fun hk => hk.2 rfl
      · exact (h.leave haction hother hdrop).weaken And.left
    · simpa [Hub.receivedIn, Hub.enqueuedIn] using h.weaken And.left

/-- A run in which nobody else is given the connection. -/
theorem enactAll (config : Config)
    (h : s.Renders i c interval since log received enqueued kept) {actions : List Action}
    (hactions : ∀ action ∈ actions, action.takesUp ≠ some c) :
    (s.enactAll config actions).Renders i c interval since (log ++ s.readingsIn config i actions)
      (received ++ s.hub.receivedIn c (s.history config actions))
      (enqueued ++ s.hub.enqueuedIn c (s.history config actions))
      (kept ∧ .web (.drop i) ∉ actions) := by
  induction actions generalizing s log received enqueued kept with
  | nil => simpa [readingsIn, history, Hub.receivedIn, Hub.enqueuedIn] using h
  | cons action rest ih =>
    have hfirst := h.enact config (hactions action List.mem_cons_self)
    have hrest := ih hfirst fun x hx => hactions x (List.mem_cons_of_mem _ hx)
    have hhub := s.enact_hub config action
    have hkept : kept ∧ .web (.drop i) ∉ action :: rest →
        (kept ∧ action ≠ .web (.drop i)) ∧ .web (.drop i) ∉ rest := by
      rintro ⟨hk, hnot⟩
      obtain ⟨hne, hnever⟩ := List.ne_and_not_mem_of_not_mem_cons hnot
      exact ⟨⟨hk, hne.symm⟩, hnever⟩
    simp only [enactAll_cons, readingsIn, history, Hub.receivedIn, Hub.enqueuedIn, Hub.glean_append,
      ← List.append_assoc, ← hhub] at hrest ⊢
    exact hrest.weaken hkept

end Renders

/-! ### Streams that are opened -/

theorem renders_openStream (config : Config) (a : Audience)
    (h : (Regime.awaiting ⟨s.hub.nextConnection⟩).Governs s) (horderly : s.hub.Orderly)
    (hr : s.hub.running = true) :
    (Web.openStream config a s).2.Renders s.next ⟨s.hub.nextConnection⟩
      (config.keepAliveSeconds * 1000) s.clock [] [] [] True := by
  have hbox := Hub.mailbox?_register hr a
  let body : Stream :=
    .new ⟨s.hub.nextConnection⟩ (some (config.keepAliveSeconds * 1000)) s.clock
  have hthere : (s.streams.insert s.next body).get? s.next = some body := by
    rw [Table.get?_insert, if_pos rfl]
  refine ⟨⟨Hub.carries_anything _, Nat.le_refl _,
    (s.hub.nextConnection_register a).ge, fun j t w hj hw hc => ?_,
    fun j x hx => ?_, fun j g hg hc => ?_⟩, horderly.happen (.act (.register a)), rfl, trivial,
    List.prefix_refl _, fun x hx => ?_, fun _ hx => ?_⟩
  · exact Nat.lt_irrefl _ (h.writer j t w hj hw hc)
  · have hinsert : (s.streams.insert s.next body).get? j = some x := hx
    rw [Table.get?_insert] at hinsert
    split at hinsert
    · rename_i hj
      cases hinsert
      exact iff_of_true rfl hj
    · rename_i hj
      exact iff_of_false (fun hc => Nat.lt_irrefl _ (h.stream j x hinsert hc)) hj
  · exact Nat.lt_irrefl _ (h.greeting j g hg hc)
  · obtain rfl := Option.some.inj (hthere.symm.trans hx)
    exact ⟨Stream.awaits_new _ _ _, .fresh, hbox, rfl, rfl⟩
  · cases hthere.symm.trans hx

end LiveUpdate.Session

namespace LiveUpdate.Web

/-- A response with a stream of events is one to a request for it. -/
theorem stream_of_body {config : Config} {r : Request} {s : Session} {i : Nat}
    (h : (respond config r s).1.body = .events i) :
    r.method ≠ "HEAD" ∧ i = s.next ∧ ∃ a, (errand config r).2 = .stream a := by
  obtain ⟨-, hbody⟩ := respond_errand config r s
  rw [h] at hbody
  split at hbody
  · obtain ⟨content, hnone⟩ := hbody
    cases hnone
  · rename_i hm
    cases he : (errand config r).2 with
    | stream a =>
      rw [he] at hbody
      cases hbody
      exact ⟨hm, rfl, a, rfl⟩
    | upgrade student =>
      rw [he] at hbody
      cases hbody
    | nothing | publish | figures =>
      rw [he] at hbody
      obtain ⟨content, hnone⟩ := hbody
      cases hnone

end LiveUpdate.Web

namespace LiveUpdate.Session

/-- A body that the router opened is read in any way while anything else goes on, as long as nobody
else is given its connection. Comments apart, its chunks are the blocks of the events that are
received, the first of those that are put into the mailbox, and all the chunks together read back as
these events. No comment comes sooner than an interval after what comes before it, or while an event
waits. Unless the client drops it, the body can be read until it ends, which it does only when the
hub has closed the mailbox and all of it has been read. -/
theorem stream_decodes {config : Config} {start : Session} (hstart : ofConfig? config = .ok start)
    (before after : List Action) {r : Web.Request} {i : Nat}
    (hmain : (start.enactAll config before).main = true)
    (hopens : (Web.respond config r (start.enactAll config before)).1.body = .events i)
    (hsole : ∀ action ∈ before ++ after,
      action.takesUp ≠ some ⟨(start.enactAll config before).hub.nextConnection⟩) :
    let s₀ := start.enactAll config before
    let c : ConnectionId := ⟨s₀.hub.nextConnection⟩
    let s₁ := s₀.enact config (.web (.http r true))
    let s := s₁.enactAll config after
    let log := s₁.readingsIn config i after
    let received := s₁.hub.receivedIn c (s₁.history config after)
    let enqueued := s₁.hub.enqueuedIn c (s₁.history config after)
    log.blocks = received.map Frame.sse ∧ received <+: enqueued ∧
      Sse.parse (String.join (log.map Prod.snd)) = received.map (fun e => (e.kind, e.payload)) ∧
      log.Paced (config.keepAliveSeconds * 1000) s₀.clock ∧
      (.web (.drop i) ∉ after → s.streams.get? i = none → received = enqueued) ∧
      ∀ x, s.streams.get? i = some x → ∀ limit, ∃ box comments ended,
        (s.readStream i limit).1 =
            some ((box.waiting.take (limit.getD (box.waiting.length + 2))).map Frame.sse ++
              List.replicate comments Frame.keepAlive, ended) ∧
          s.hub.mailbox? c = some box ∧ received ++ box.waiting = enqueued ∧
          (0 < comments → box.waiting.length < limit.getD (box.waiting.length + 2)) ∧
          (ended = true ↔ box.waiting.length < limit.getD (box.waiting.length + 2) ∧
            box.attached = false) := by
  intro s₀ c s₁ s log received enqueued
  obtain ⟨hhead, rfl, a, ha⟩ := Web.stream_of_body hopens
  obtain ⟨hlasting, -⟩ := lasting_enactAll hstart before
  have hrunning := hlasting.running (Or.inl ⟨.main, hmain⟩)
  have hawaiting : (Regime.awaiting c).Governs s₀ :=
    (Regime.governs_ofConfig hstart rfl rfl).enactAll fun action haction =>
      allows_awaiting (hsole action (List.mem_append_left after haction))
  have hopened := @renders_openStream (s₀.logAll (Web.errand config r).1) config a
    (hawaiting.logAll _) (hlasting.orderly.logAll _) hrunning
  have hs₁ : s₁ = (Web.openStream config a (s₀.logAll (Web.errand config r).1)).2 := by
    have hallowed : s₀.allows (.web (.http r true)) = true := by
      simp only [allows, Bool.or_eq_true]
      exact Or.inl hmain
    have hperform := Web.perform_http config s₀ r true
    rw [ha, decide_eq_true hhead] at hperform
    exact (if_pos hallowed).trans hperform
  have hbegun : s₁.Renders s₀.next c (config.keepAliveSeconds * 1000) s₀.clock [] [] [] True :=
    hs₁ ▸ hopened
  have hrun := hbegun.enactAll config fun action haction =>
    hsole action (List.mem_append_right before haction)
  simp only [List.nil_append] at hrun
  refine ⟨hrun.blocks, hrun.begins, Sse.parse_join hrun.blocks, hrun.paced,
    fun hkept hnone => (hrun.ended ⟨trivial, hkept⟩ hnone).2, fun x hi limit => ?_⟩
  obtain ⟨-, box, hbox, hlistens, hsum⟩ := hrun.body x hi
  have hc : x.connection = c := (hrun.governs.stream _ x hi).mpr rfl
  obtain ⟨comments, htexts, hopen⟩ :=
    x.read_texts box s.clock (limit.getD (box.waiting.length + 2))
  have hclosed : box.isClosed = true ↔ box.attached = false := by
    simp [Mailbox.isClosed, hlistens]
  refine ⟨box, comments, (x.read box s.clock (limit.getD (box.waiting.length + 2))).2.1, ?_, hbox,
    hsum, fun h => (hopen h).1,
    (x.read_ended box s.clock _).trans (and_congr_right fun _ => hclosed)⟩
  rw [readStream_eq hi (hc ▸ hbox), htexts]

/-- A student reads a message that looks like a field, a comment after a silence, and the end of the
stream once the connection is unregistered. -/
theorem stream_decodes_student :
    let config : Config :=
      { Config.standard with studentTransport := .sse, trustIdentity := true }
    let ask : Web.Request :=
      ⟨"GET", ⟨"", "/student/api/events", none⟩, [("x-student-id", [0x37])], [], false⟩
    let after : List Action := [.send .broadcast "notify" " data: soon", .web .settle,
      .web (.read 0 (some 1)), .web (.advance 15000), .web (.read 0 none), .unregister ⟨0⟩,
      .web .settle]
    ∃ start, ofConfig? config = .ok start ∧
      let s₁ := start.enact config (.web (.http ask true))
      s₁.readingsIn config 0 after =
          [(0, "event: notify\ndata:  data: soon\n\n"), (15000, ":\n\n")] ∧
        Sse.parse (String.join ((s₁.readingsIn config 0 after).map Prod.snd)) =
          [("notify", " data: soon")] ∧
        ((s₁.enactAll config after).readStream 0 none).1 = some ([], true) := by
  intro config ask after
  let start : Session := (Session.start 256 (by decide)).onHub fun hub =>
    { hub with journal := settings config :: hub.journal }
  have hstart : ofConfig? config = .ok start := rfl
  have hsole : ∀ action ∈ [] ++ after, action.takesUp ≠ some ⟨0⟩ := by decide
  obtain ⟨-, -, hparse, -⟩ := stream_decodes hstart [] after (r := ask) (i := 0) rfl
    (by decide +kernel) hsole
  refine ⟨start, hstart, by decide +kernel, hparse.trans ?_, by decide +kernel⟩
  decide +kernel

end LiveUpdate.Session
