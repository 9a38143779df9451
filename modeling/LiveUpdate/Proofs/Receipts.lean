import LiveUpdate.Proofs.Receivers
import LiveUpdate.Proofs.Visits

/-! What is seen at a connection against what happens to the hub. A writer is seen to take just
those events that the receiver of its connection is handed, so that what it took is the beginning of
what was put into the mailbox. -/
namespace LiveUpdate

/-- The event that a writer takes. -/
def Glimpse.take? : Glimpse → Option Event
  | took e => some e
  | _ => none

theorem Glimpse.takes_offered (events : List Event) :
    (events.map offered).filterMap take? = [] := by
  induction events with
  | nil => rfl
  | cons e rest ih => simp [take?]

namespace Hub

variable {hub : Hub} {c : ConnectionId}

theorem receivedIn_append (first rest : List Happening) :
    hub.receivedIn c (first ++ rest) =
      hub.receivedIn c first ++ (hub.undergo first).receivedIn c rest := glean_append _ _ _

end Hub

namespace Writer

/-- A writer is seen to take what it takes. -/
theorem takes_step (w : Writer) {hub : Hub} {box : Mailbox}
    (hbox : hub.mailbox? w.connection = some box) (entries : List Entry) :
    (w.glimpses box).filterMap Glimpse.take? =
      hub.receivedIn w.connection (Hub.doings (w.acts box) ++ [.noted entries]) := by
  have hend (hub : Hub) (ended : Bool) : hub.receivedIn w.connection
      (Hub.doings (if ended then [.abandon w.connection] else []) ++ [.noted entries]) = [] := by
    refine Hub.receivedIn_of_takeless ?_
    cases ended <;> simp [Hub.doings]
  rw [acts, Hub.doings, List.map_append, List.append_assoc, Hub.receivedIn_append]
  refine Eq.trans ?_ (congrArg _ (hend _ _)).symm
  rw [List.append_nil, glimpses]
  by_cases hr : w.outcome = .running
  · rw [if_pos hr]
    cases hh : w.inHand with
    | some hand =>
      simp only [reduceCtorEq, false_and, and_false, if_false]
      split
      · cases w.sink.write (.text hand.2) <;> rfl
      · rfl
    | none =>
      cases hw : box.waiting with
      | cons e rest =>
        have htake : hub.receipt w.connection (.take w.connection) = [e] := by
          simp [Hub.receipt, hbox, Mailbox.take, hw]
        simp [hr, Hub.receivedIn, Hub.Happening.empties, htake, Glimpse.take?]
      | nil =>
        simp only [ne_eq, not_true_eq_false, and_false, if_false]
        split
        · cases w.sink.close <;> rfl
        · rfl
  · rw [if_neg hr, if_neg fun h => hr h.1]
    rfl

end Writer

namespace Session

variable {s : Session} {c : ConnectionId}

/-- Only a task of the connection takes what waits there. -/
theorem takeless_effect {m : Move}
    (hwrite : ∀ i t, m = .write i → s.tasks.get? i = some t → t.connection ≠ c) :
    .act (.take c) ∉ s.effect m := by
  cases m with
  | apply => simp [effect]
  | stop =>
    simp only [effect]
    split <;> simp
  | start i => exact List.not_mem_nil
  | write i =>
    simp only [effect]
    split
    · exact List.not_mem_nil
    · rename_i t hi
      split
      · rename_i w box hw _
        refine List.not_mem_append (fun hmem => ?_) (by simp)
        obtain ⟨act, hact, he⟩ := List.mem_map.mp hmem
        have hreceiver := w.receiver?_acts box act hact
        cases he
        exact hwrite i t rfl hi
          ((Task.connection_of_writer? hw).trans (Option.some.inj hreceiver).symm)
      · exact List.not_mem_nil
  | read i | observeWriter i | observeReader i =>
    simp only [effect]
    split
    · exact (Hub.untouched_leaving c _ _).takeless
    · exact List.not_mem_nil
  | cancel i =>
    simp only [effect]
    split
    · refine List.not_mem_append ?_ (Hub.untouched_handing c _).takeless
      split <;> simp
    · exact List.not_mem_nil
  | giveUp i =>
    simp only [effect]
    split <;> simp

/-- The turn of a writer is seen to take what it takes. -/
theorem takes_write {i : Nat} {t : Task} (hi : s.tasks.get? i = some t) :
    (s.glimpses t.connection (.write i)).filterMap Glimpse.take? =
      s.hub.receivedIn t.connection (s.effect (.write i)) := by
  cases hw : t.writer? with
  | none => simp [glimpses, effect, hi, hw, Hub.receivedIn]
  | some w =>
    have hc := Task.connection_of_writer? hw
    cases hbox : s.hub.mailbox? w.connection with
    | none => simp [glimpses, effect, hi, hw, hc, hbox, Hub.receivedIn]
    | some box =>
      have hsame : s.glimpses t.connection (.write i) = w.glimpses box := by
        simp only [glimpses, hi, hw, hc, hbox, if_true]
      have heffect : s.effect (.write i) =
          Hub.doings (w.acts box) ++ [.noted (w.step box).2.2] := by
        simp only [effect, hi, hw, hc, hbox]
      rw [hsame, heffect, hc]
      exact w.takes_step hbox _

/-- A move is seen to take what it takes. -/
theorem takes_move (s : Session) (c : ConnectionId) (m : Move) :
    (s.glimpses c m).filterMap Glimpse.take? = s.hub.receivedIn c (s.effect m) := by
  by_cases hown : ∃ i t, m = .write i ∧ s.tasks.get? i = some t ∧ t.connection = c
  · obtain ⟨i, t, rfl, hi, rfl⟩ := hown
    exact takes_write hi
  · have hwrite (i : Nat) (t : Task) (hm : m = .write i) (hi : s.tasks.get? i = some t) :
        t.connection ≠ c := fun hc => hown ⟨i, t, hm, hi, hc⟩
    rw [Hub.receivedIn_of_takeless (takeless_effect hwrite)]
    cases m with
    | apply => exact Glimpse.takes_offered _
    | write i =>
      rw [glimpses_write_of_ne fun t hi => hwrite i t rfl hi]
      rfl
    | _ => rfl

theorem takes_moves (s : Session) (c : ConnectionId) (moves : List Move) :
    (transcript c s moves).filterMap Glimpse.take? = s.hub.receivedIn c (s.effects moves) := by
  induction moves generalizing s with
  | nil => rfl
  | cons m rest ih =>
    rw [transcript, effects, List.filterMap_append, Hub.receivedIn_append, ← s.perform_hub m,
      takes_move, ih]

theorem takes_asked (s : Session) (c : ConnectionId) :
    (transcript c s.asked s.asked.settleMoves).filterMap Glimpse.take? =
      s.hub.receivedIn c s.statsCourse := by
  have hasked : s.hub.receivedIn c s.statsCourse =
      s.asked.hub.receivedIn c (s.asked.settling ++ [.fetched s.hub.nextTicket]) := rfl
  have hfetched : (s.asked.hub.undergo s.asked.settling).receivedIn c
      [.fetched s.hub.nextTicket] = [] := rfl
  rw [hasked, Hub.receivedIn_append, hfetched, List.append_nil]
  exact takes_moves _ _ _

/-- Only a body of the connection takes what waits there. -/
theorem takeless_readCourse {i : Nat} {x : Stream} (hi : s.streams.get? i = some x)
    (hc : x.connection ≠ c) (limit : Option Nat) : .act (.take c) ∉ s.readCourse i limit := by
  simp only [readCourse, hi]
  split
  · exact List.not_mem_nil
  · refine List.not_mem_append (fun hmem => ?_) ?_
    · obtain ⟨act, hact, he⟩ := List.mem_map.mp hmem
      rw [(List.mem_replicate.mp hact).2] at he
      exact hc (Hub.Act.take.inj (Hub.Happening.act.inj he))
    · split <;> simp [Hub.doings]

/-- What comes in from a client takes nothing out of a mailbox. -/
theorem takes_hearing (s : Session) (c : ConnectionId) (i : Nat) (data : Option (List UInt8)) :
    (s.hearing c i data).filterMap Glimpse.take? = [] := by
  unfold hearing
  split
  · split <;> rfl
  · rfl

end Session

namespace Web

variable {config : Config} {s : Session} {c : ConnectionId}

/-- What an errand is seen to take is what it takes. -/
theorem takes_errand (s : Session) (c : ConnectionId) (kept : Bool) (e : Errand) :
    (e.glimpses s c).filterMap Glimpse.take? = s.hub.receivedIn c (e.course s kept) := by
  cases e with
  | nothing => rfl
  | upgrade student => rfl
  | stream a =>
    refine (Hub.receivedIn_of_takeless ?_).symm
    cases kept <;> simp [Errand.course, Hub.doings]
  | publish d => exact (Hub.receivedIn_of_untouched (Session.untouched_publishCourse c d)).symm
  | figures => exact s.takes_asked c

/-- What a step is seen to take at a connection that no body works for is what it takes. -/
theorem takes_step (config : Config) (s : Session) (c : ConnectionId)
    (hbodies : ∀ i x, s.streams.get? i = some x → x.connection ≠ c) (x : Step) :
    (x.glimpses config s c).filterMap Glimpse.take? = s.hub.receivedIn c (course config s x) := by
  have hnoted (entries : List Entry) (course : List Hub.Happening) :
      s.hub.receivedIn c (.noted entries :: course) = (s.logAll entries).hub.receivedIn c course :=
    rfl
  cases x with
  | http r kept =>
    rw [course, hnoted]
    exact takes_errand _ c _ _
  | connect r failure =>
    rw [course, hnoted]
    simp only [Step.glimpses]
    cases (errand config r).2 with
    | upgrade student => cases failure <;> rfl
    | _ => exact takes_errand _ c false _
  | greet i =>
    rcases s.greeting_cases i with ⟨c', student, hi⟩ | ⟨hnone, -⟩
    · rw [Step.glimpses_greet hi]
      simp only [course, hi]
      split <;> rfl
    · rw [Step.glimpses_greet_of_obstructed hnone, course_greet_of_obstructed hnone]
      rfl
  | read i limit =>
    simp only [Step.glimpses, course]
    cases hi : s.streams.get? i with
    | none => simp [Session.reading, Session.readCourse, hi, Hub.receivedIn]
    | some x =>
      have hc := hbodies i x hi
      rw [Hub.receivedIn_of_takeless (Session.takeless_readCourse hi hc limit)]
      simp only [Session.reading, hi, if_neg hc, List.filterMap_nil]
  | drop i =>
    refine (Hub.receivedIn_of_takeless ?_).symm
    simp only [course, Session.closeCourse]
    split <;> simp [Hub.doings]
  | publish d => exact (Hub.receivedIn_of_untouched (Session.untouched_publishCourse c d)).symm
  | handle d => exact (Hub.receivedIn_of_untouched (Session.untouched_handleCourse c d)).symm
  | advance ms => exact Session.takes_moves (s.later ms) c _
  | move m =>
    simp only [Step.glimpses, course]
    split
    · rfl
    · exact s.takes_move c m
  | settle => exact s.takes_moves c _
  | bytes i data => exact s.takes_hearing c i _
  | lose i => exact s.takes_hearing c i _
  | _ => rfl

/-! ### Runs -/

/-- What a run does to the hub. -/
def history (config : Config) : Session → List Step → List Hub.Happening
  | _, [] => []
  | s, x :: rest => course config s x ++ history config (perform config s x) rest

/-- The hub after a run is the hub after what the run does to it. -/
theorem run_hub (config : Config) (s : Session) (steps : List Step) :
    (run config s steps).hub = s.hub.undergo (history config s steps) := by
  induction steps generalizing s with
  | nil => rfl
  | cons x rest ih =>
    rw [history, Hub.undergo_append, ← s.webStep_hub config x]
    exact ih (perform config s x)

theorem transcript_append (config : Config) (c : ConnectionId) (s : Session)
    (first rest : List Step) : transcript config c s (first ++ rest) =
      transcript config c s first ++ transcript config c (run config s first) rest := by
  induction first generalizing s with
  | nil => rfl
  | cons x first ih =>
    rw [List.cons_append, transcript, transcript, ih, List.append_assoc]
    rfl

end Web
end LiveUpdate
