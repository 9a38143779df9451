import LiveUpdate.Proofs.WebTranscripts

/-! A connection from the request that opens it: what is seen of it in a run, and what is addressed
to it meanwhile. -/
namespace LiveUpdate

namespace Web

/-- The messages that an errand hands to the hub. -/
def Errand.messages : Errand → List Message
  | .publish d => d.plan.messages
  | _ => []

/-- What is seen at a connection while an errand is done. -/
def Errand.glimpses (s : Session) (c : ConnectionId) : Errand → List Glimpse
  | .figures => Session.transcript c s.asked s.asked.settleMoves
  | _ => []

namespace Step

/-- The messages that a step hands to the hub. -/
def messages (config : Config) : Step → List Message
  | .http r _ | .connect r _ => (errand config r).2.messages
  | .publish d | .handle d => d.plan.messages
  | _ => []

/-- What a step lets be seen at a connection. -/
def glimpses (config : Config) (s : Session) (c : ConnectionId) : Step → List Glimpse
  | .http r _ | .connect r _ =>
    (errand config r).2.glimpses (s.logAll (errand config r).1) c
  | .greet i =>
    match s.greetings.get? i with
    | some ⟨c', _, none⟩ => if c' = c then [.greeted] else []
    | _ => []
  | .read i limit => s.reading c i limit
  | .bytes i data => s.hearing c i (some data)
  | .lose i => s.hearing c i none
  | .advance ms => Session.transcript c (s.later ms) (s.later ms).settleMoves
  | .move m => if m.cancels then [] else s.glimpses c m
  | .settle => Session.transcript c s s.settleMoves
  | _ => []

variable {config : Config} {s : Session} {c : ConnectionId} {i : Nat}

theorem glimpses_greet {c' : ConnectionId} {student : StudentId}
    (hi : s.greetings.get? i = some ⟨c', student, none⟩) :
    (greet i).glimpses config s c = if c' = c then [.greeted] else [] := by
  simp only [glimpses, hi]

theorem glimpses_greet_of_obstructed
    (hi : ∀ c' student, s.greetings.get? i ≠ some ⟨c', student, none⟩) :
    (greet i).glimpses config s c = [] := by
  simp only [glimpses]

end Step

/-- What a run lets be seen at a connection. -/
def transcript (config : Config) (c : ConnectionId) : Session → List Step → List Glimpse
  | _, [] => []
  | s, x :: rest => x.glimpses config s c ++ transcript config c (perform config s x) rest

end Web

namespace Session

variable {s : Session} {c : ConnectionId} {k : Audience} {start : Desk} {seen : List Glimpse}
  {addressed : List Event} {config : Config}

/-! ### Steps -/

theorem Recorded.logAll (h : s.Recorded c k start seen addressed) (entries : List Entry) :
    (s.logAll entries).Recorded c k start seen addressed :=
  h.beside_quiet (beside_logAll s c k entries)

theorem Recorded.finish_errand (h : s.Recorded c k start seen addressed) (hs : s.Sound)
    (config : Config) (kept : Bool) (e : Web.Errand) :
    (e.finish config s kept).Recorded c k start (seen ++ e.glimpses s c)
      (addressed ++ Hub.eventsFor k e.messages) := by
  have hquiet {s' : Session} (h' : s'.Recorded c k start seen addressed) :
      s'.Recorded c k start (seen ++ []) (addressed ++ Hub.eventsFor k []) := by
    rw [List.append_nil, show Hub.eventsFor k [] = [] from rfl, List.append_nil]
    exact h'
  cases e with
  | nothing => exact hquiet h
  | upgrade student => exact hquiet h
  | stream a =>
    have hopened := h.beside_quiet (hs.beside_openStream config a k (ne_next h.known))
    cases kept with
    | true => exact hquiet hopened
    | false =>
      have hr := (hs.openStream config a).running
      exact hquiet (hopened.beside_quiet (beside_closeStream hr c k s.next))
  | publish d =>
    have hpublished := h.beside (hs.beside_publish c k d)
    rw [show Web.Errand.glimpses s c (.publish d) = [] from rfl, List.append_nil]
    exact hpublished
  | figures =>
    have hasked := h.beside_quiet (hs.beside_asked c k)
    have hsettled := hasked.settle hs.asked
    rw [show Hub.eventsFor k Web.Errand.figures.messages = [] from rfl, List.append_nil]
    exact hsettled.beside_quiet (beside_answer _ c k s.hub.nextTicket)

theorem Recorded.connect (h : s.Recorded c k start seen addressed) (hs : s.Sound)
    (config : Config) (r : Web.Request) (failure : Option String) :
    (Web.perform config s (.connect r failure)).Recorded c k start
      (seen ++ (Web.Step.connect r failure).glimpses config s c)
      (addressed ++ Hub.eventsFor k ((Web.Step.connect r failure).messages config)) := by
  have hnothing : addressed ++ Hub.eventsFor k [] = addressed := List.append_nil _
  have hlogged := h.logAll (Web.errand config r).1
  have hs' := hs.logAll (Web.errand config r).1
  rw [Web.perform_connect]
  simp only [Web.Step.glimpses, Web.Step.messages]
  split
  · rename_i student he
    rw [he]
    have hbegun := hlogged.beside_quiet
      (hs'.beside_beginGreeting student k (ne_next hlogged.known))
    rw [show Web.Errand.messages (.upgrade student) = [] from rfl, hnothing]
    exact (List.append_nil seen).symm ▸ hbegun
  · rename_i student why he
    rw [he]
    have hfailed := hlogged.logAll [.upgradeFailed student why]
    rw [show Web.Errand.messages (.upgrade student) = [] from rfl, hnothing]
    exact (List.append_nil seen).symm ▸ hfailed
  · exact hlogged.finish_errand hs' config false _

theorem Recorded.greet (h : s.Recorded c k start seen addressed) (hs : s.Sound)
    (config : Config) (i : Nat) :
    (Web.perform config s (.greet i)).Recorded c k start
      (seen ++ (Web.Step.greet i).glimpses config s c)
      (addressed ++ Hub.eventsFor k ((Web.Step.greet i).messages config)) := by
  have hnothing : addressed ++ Hub.eventsFor k [] = addressed := List.append_nil _
  simp only [Web.Step.messages, hnothing]
  rcases s.greeting_cases i with ⟨c', student, hi⟩ | ⟨hnone, hsame⟩
  · rw [Web.Step.glimpses_greet hi]
    by_cases hc : c' = c
    · subst hc
      rw [if_pos rfl]
      exact h.finishGreeting hs hi
    · rw [if_neg hc, List.append_nil]
      exact h.beside_quiet (hs.beside_finishGreeting k hi hc)
  · rw [Web.Step.glimpses_greet_of_obstructed hnone, List.append_nil, Web.perform, hsame]
    exact h

/-- Every step is seen, and its messages are addressed. -/
theorem Recorded.step (h : s.Recorded c k start seen addressed) (hs : s.Sound) (config : Config)
    (x : Web.Step) : (Web.perform config s x).Recorded c k start
      (seen ++ x.glimpses config s c) (addressed ++ Hub.eventsFor k (x.messages config)) := by
  have hnothing : addressed ++ Hub.eventsFor k [] = addressed := List.append_nil _
  have hquiet {s' : Session} (hb : s.Beside s' c k []) :
      s'.Recorded c k start (seen ++ []) (addressed ++ Hub.eventsFor k []) := by
    rw [List.append_nil, hnothing]
    exact h.beside_quiet hb
  cases x with
  | http r kept =>
    rw [Web.perform_http]
    exact (h.logAll _).finish_errand (hs.logAll _) config _ _
  | connect r failure =>
    exact h.connect hs config r failure
  | greet i =>
    exact h.greet hs config i
  | hangUp i why => exact hquiet (beside_obstructGreeting s c k i why)
  | read i limit =>
    simp only [Web.Step.messages, hnothing]
    exact h.readStream hs i limit
  | drop i => exact hquiet (beside_closeStream hs.running c k i)
  | bytes i data =>
    simp only [Web.Step.messages, hnothing]
    exact h.hear hs i (some data)
  | lose i =>
    simp only [Web.Step.messages, hnothing]
    exact h.hear hs i none
  | sever i why => exact hquiet (hs.beside_sever c k i why)
  | inbound i frame => exact hquiet (hs.beside_arrive c k i frame)
  | endInput i => exact hquiet (hs.beside_endInput c k i)
  | publish d =>
    have hpublished := h.beside (hs.beside_publish c k d)
    exact (List.append_nil seen).symm ▸ hpublished
  | handle d =>
    have hhandled := h.beside (hs.beside_handle c k d)
    exact (List.append_nil seen).symm ▸ hhandled
  | advance ms =>
    simp only [Web.Step.messages, hnothing]
    exact (h.beside_quiet (beside_later s c k ms)).settle (hs.later ms)
  | move m =>
    simp only [Web.Step.messages, hnothing, Web.Step.glimpses, Web.perform]
    by_cases hm : m.cancels = true
    · rw [if_pos hm, if_pos hm, List.append_nil]
      exact h
    · rw [if_neg hm, if_neg hm]
      exact h.perform hs (Bool.eq_false_iff.mpr hm)
  | settle =>
    simp only [Web.Step.messages, hnothing]
    exact h.settle hs

/-- A whole run is seen. -/
theorem Recorded.run (h : s.Recorded c k start seen addressed) (hs : s.Sound) (config : Config)
    (steps : List Web.Step) : (Web.run config s steps).Recorded c k start
      (seen ++ Web.transcript config c s steps)
      (addressed ++ Hub.eventsFor k (steps.flatMap (Web.Step.messages config))) := by
  induction steps generalizing s seen addressed with
  | nil =>
    rw [Web.transcript, List.append_nil]
    exact (List.append_nil addressed).symm ▸ h
  | cons x rest ih =>
    have hrest := ih (h.step hs config x) (hs.step config x)
    have hmessages : Hub.eventsFor k ((x :: rest).flatMap (Web.Step.messages config)) =
        Hub.eventsFor k (x.messages config) ++
          Hub.eventsFor k (rest.flatMap (Web.Step.messages config)) := by
      simp [Hub.eventsFor]
    rw [Web.transcript, hmessages, ← List.append_assoc, ← List.append_assoc]
    exact hrest

/-! ### Requests that open a connection -/

/-- The connection that is to come has no place. -/
theorem Sound.ne_next (h : s.Sound) {place : Place} {x : Charge} (hx : s.charge place = some x) :
    x.connection ≠ ⟨s.hub.nextConnection⟩ := by
  intro hc
  have hlt := h.balanced.known place x hx
  rw [hc] at hlt
  exact Nat.lt_irrefl _ hlt

theorem Sound.recorded_openStream (h : s.Sound) (config : Config) (k : Audience) :
    (Web.openStream config k s).2.Recorded ⟨s.hub.nextConnection⟩ k
      (.fresh (some (.new ⟨s.hub.nextConnection⟩ (some (config.keepAliveSeconds * 1000)) s.clock)))
      [] [] := by
  refine ⟨?_, h.orderly.owes_register h.running k, _, rfl, fun box hbox => ?_,
    fun j x hx hc => ?_, fun _ _ _ _ => ⟨rfl, rfl⟩, fun j p hp hc => ?_, fun _ => rfl⟩
  · show s.hub.nextConnection < (s.hub.register k).2.nextConnection
    rw [Hub.nextConnection_register]
    exact Nat.lt_succ_self _
  · have hfresh := Hub.mailbox?_register h.running k
    rw [show (Web.openStream config k s).2.hub = (s.hub.register k).2 from rfl, hfresh] at hbox
    cases hbox
    rfl
  · have hstreams : (Web.openStream config k s).2.streams = s.streams.insert s.next
        (.new ⟨s.hub.nextConnection⟩ (some (config.keepAliveSeconds * 1000)) s.clock) := rfl
    rw [hstreams, Table.get?_insert] at hx
    split at hx
    · exact hx
    · exact absurd hc (h.ne_next (charge_stream hx))
  · exact absurd hc (h.ne_next (charge_task hp))

theorem Sound.recorded_beginGreeting (h : s.Sound) (student : StudentId) :
    (s.beginGreeting student).2.Recorded ⟨s.hub.nextConnection⟩ (.student student) (.fresh none)
      [] [] := by
  refine ⟨?_, h.orderly.owes_register h.running (.student student), _, rfl, fun box hbox => ?_,
    fun j x hx hc => ?_, fun _ _ _ _ => ⟨rfl, rfl⟩, fun j p hp hc => ?_, fun _ => rfl⟩
  · show s.hub.nextConnection < (s.hub.register (.student student)).2.nextConnection
    rw [Hub.nextConnection_register]
    exact Nat.lt_succ_self _
  · have hfresh := Hub.mailbox?_register h.running (.student student)
    rw [show (s.beginGreeting student).2.hub = (s.hub.register (.student student)).2 from rfl,
      hfresh] at hbox
    cases hbox
    rfl
  · exact absurd hc (h.ne_next (charge_stream hx))
  · exact absurd hc (h.ne_next (charge_task hp))

end Session
end LiveUpdate
