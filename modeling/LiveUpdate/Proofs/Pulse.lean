import LiveUpdate.Proofs.HubRuns
import LiveUpdate.Proofs.WebTranscripts

/-! What the steps of a session alone decide: the clock, the numbers of the connections and the
capacity of the mailboxes are the same whatever the hub and the pumps have done meanwhile. -/
namespace LiveUpdate

namespace Hub

/-- The number of the next connection, and the capacity of the mailboxes. -/
def pulse (hub : Hub) : Nat × Nat := (hub.nextConnection, hub.capacity)

theorem pulse_submit (hub : Hub) (command : Command) : (hub.submit command).pulse = hub.pulse := by
  rw [pulse, submit_nextConnection, submit_capacity, pulse]

theorem pulse_submitAll (hub : Hub) (commands : List Command) :
    (hub.submitAll commands).pulse = hub.pulse := by
  induction commands generalizing hub with
  | nil => rfl
  | cons command rest ih => exact (ih (hub.submit command)).trans (hub.pulse_submit command)

theorem pulse_register (hub : Hub) (a : Audience) :
    (hub.register a).2.pulse = (hub.nextConnection + 1, hub.capacity) := by
  rw [register_eq, pulse_submit]
  rfl

theorem Orderly.pulse_step {hub : Hub} (h : hub.Orderly) (hr : hub.running = true) :
    hub.step.pulse = hub.pulse := by
  rw [pulse, (continues_step h hr).next, step_capacity, pulse]

end Hub

namespace Session

/-- The moment, the number of the next connection and the capacity of the mailboxes. -/
def pulse (s : Session) : Nat × Nat × Nat := (s.clock, s.hub.pulse)

variable {s s' : Session}

theorem pulse_of_hub (hclock : s'.clock = s.clock) (hhub : s'.hub.pulse = s.hub.pulse) :
    s'.pulse = s.pulse := by
  rw [pulse, hclock, hhub, pulse]

theorem Sound.pulse_perform (h : s.Sound) {m : Move} (hm : m.cancels = false) :
    (s.perform m).pulse = s.pulse := by
  cases m with
  | apply =>
    exact pulse_of_hub rfl (h.orderly.pulse_step h.running)
  | stop =>
    have hheld := h.held
    simp only [Session.perform, stopIfIdle, hheld, Bool.not_true, Bool.and_false,
      Bool.false_eq_true, if_false]
  | start i =>
    simp only [Session.perform, Session.startTask]
    split <;> rfl
  | write i =>
    simp only [Session.perform, Session.stepWriter]
    split
    · rfl
    · split <;> rfl
  | read i =>
    simp only [Session.perform, Session.stepReader]
    split
    · rfl
    · split
      · rfl
      · exact pulse_of_hub rfl (Hub.pulse_submitAll (s.hub.logAll _) _)
  | observeWriter i =>
    simp only [Session.perform, observe]
    split
    · exact pulse_of_hub rfl (Hub.pulse_submitAll (s.hub.logAll _) _)
    · rfl
  | observeReader i =>
    simp only [Session.perform, observe]
    split
    · exact pulse_of_hub rfl (Hub.pulse_submitAll (s.hub.logAll _) _)
    · rfl
  | cancel i => cases hm
  | giveUp i =>
    simp only [Session.perform, Session.giveUpGreeting]
    split
    · exact pulse_of_hub rfl (Hub.pulse_submit (s.hub.log _) _)
    · rfl

theorem Sound.pulse_settle (h : s.Sound) : s.settle.pulse = s.pulse := by
  have hkept : s.settle.Sound ∧ s.settle.pulse = s.pulse := by
    refine settle_keeps (P := fun s' => s'.Sound ∧ s'.pulse = s.pulse)
      (fun _ h' => h'.1.undoomed) (fun s' m hm h' => ?_) (fun s' due resting h' => ?_) ⟨h, rfl⟩
    · exact ⟨h'.1.perform hm, (h'.1.pulse_perform hm).trans h'.2⟩
    · exact ⟨h'.1.lined due resting, h'.2⟩
  exact hkept.2

theorem pulse_closeStream (i : Nat) : (s.closeStream i).pulse = s.pulse := by
  unfold Session.closeStream
  split
  · rfl
  · exact pulse_of_hub rfl (Hub.pulse_submit (s.hub.updateMailbox _ _) _)

theorem pulse_handle (d : DomainEvent) : (s.handle d).2.pulse = s.pulse := by
  simp only [Session.handle]
  split
  · exact pulse_of_hub rfl (Hub.pulse_submitAll (s.hub.log _) _)
  · exact pulse_of_hub rfl (Hub.pulse_submitAll (s.hub.log _) _)

theorem Sound.pulse_hear (h : s.Sound) (i : Nat) (data : Option (List UInt8)) :
    (s.hear i data).pulse = s.pulse := by
  unfold hear
  split
  · split
    · rcases h.task_cases i with hi | ⟨p, hi, -⟩
      · rename_i hr
        simp [readable, hi] at hr
      · rw [absorb_eq hi]
        rfl
    · rfl
  · rfl

theorem Sound.pulse_readStream (h : s.Sound) (i : Nat) (limit : Option Nat) :
    (s.readStream i limit).2.pulse = s.pulse := by
  cases hi : s.streams.get? i with
  | none =>
    rw [Session.readStream, hi]
  | some x =>
    obtain ⟨waiting, hbox⟩ := h.mailbox_stream hi
    rw [readStream_eq hi hbox]
    split
    · exact pulse_closeStream i
    · rfl

end Session

namespace Web

/-- How many connections an errand opens. -/
def Errand.opens : Errand → Nat
  | .stream _ => 1
  | _ => 0

/-- How many connections a step opens. -/
def Step.opens (config : Config) : Step → Nat
  | .http r _ => (errand config r).2.opens
  | .connect r failure =>
    match (errand config r).2, failure with
    | .upgrade _, none => 1
    | e, _ => e.opens
  | _ => 0

/-- How much time a step takes. -/
def Step.lasts : Step → Nat
  | .advance ms => ms
  | _ => 0

variable {config : Config} {s s' : Session}

theorem pulse_finish (h : s.Sound) (kept : Bool) (e : Errand) :
    (e.finish config s kept).pulse =
      (s.clock, s.hub.nextConnection + e.opens, s.hub.capacity) := by
  cases e with
  | nothing => rfl
  | upgrade student => rfl
  | stream a =>
    have hopened : (openStream config a s).2.pulse =
        (s.clock, s.hub.nextConnection + 1, s.hub.capacity) :=
      congrArg (s.clock, ·) (s.hub.pulse_register a)
    cases kept with
    | true => exact hopened
    | false => exact (Session.pulse_closeStream _).trans hopened
  | publish d => exact Session.pulse_handle d
  | figures =>
    have hasked : s.asked.pulse = s.pulse :=
      Session.pulse_of_hub rfl (Hub.pulse_submit { s.hub with nextTicket := _ } _)
    exact h.asked.pulse_settle.trans hasked

/-- Steps move the clock, number the connections and keep the capacity, whatever else goes on. -/
theorem pulse_perform (h : s.Sound) (x : Step) : (perform config s x).pulse =
    (s.clock + x.lasts, s.hub.nextConnection + x.opens config, s.hub.capacity) := by
  cases x with
  | http r kept =>
    rw [perform_http]
    exact pulse_finish (h.logAll _) _ _
  | connect r failure =>
    rw [perform_connect]
    simp only [Step.opens]
    cases (errand config r).2 with
    | upgrade student =>
      cases failure with
      | none => exact congrArg (s.clock, ·) ((s.logAll _).hub.pulse_register _)
      | some why => rfl
    | nothing | stream a | publish d | figures => exact pulse_finish (h.logAll _) _ _
  | greet i =>
    simp only [perform, Session.finishGreeting]
    split <;> rfl
  | hangUp i why => rfl
  | read i limit => exact h.pulse_readStream i limit
  | drop i => exact Session.pulse_closeStream i
  | bytes i data => exact h.pulse_hear i (some data)
  | lose i => exact h.pulse_hear i none
  | sever i why => rfl
  | inbound i frame =>
    simp only [perform, Session.arrive]
    split
    · rfl
    · split <;> rfl
  | endInput i =>
    simp only [perform, Session.endInput]
    split
    · rfl
    · split <;> rfl
  | publish d => exact Session.pulse_handle d
  | handle d => exact Session.pulse_handle d
  | advance ms => exact (h.later ms).pulse_settle
  | move m =>
    simp only [perform]
    split
    · rfl
    · rename_i hm
      exact h.pulse_perform (Bool.eq_false_iff.mpr hm)
  | settle => exact h.pulse_settle

end Web
end LiveUpdate
