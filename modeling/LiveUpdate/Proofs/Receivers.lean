import LiveUpdate.Proofs.Courses
import LiveUpdate.Proofs.Regimes

/-! Who does anything at the receiving end of a mailbox. Unless somebody else is given the connection,
only the body that the router opened for it does, and nothing that goes on by itself does. -/
namespace LiveUpdate

/-! ### Mailboxes that nobody touches -/

namespace Hub

variable {hub : Hub} {c : ConnectionId} {first rest course : List Happening}

/-- Whose receiver does something in a happening. -/
def Happening.receiver? : Happening → Option ConnectionId
  | .act a => a.receiver?
  | _ => none

/-- The receiver of a connection does nothing in a course. -/
def Untouched (c : ConnectionId) (course : List Happening) : Prop :=
  ∀ x ∈ course, x.receiver? ≠ some c

theorem untouched_append :
    Untouched c (first ++ rest) ↔ Untouched c first ∧ Untouched c rest := by
  simp only [Untouched, List.forall_mem_append]

theorem untouched_cons {x : Happening} (hx : x.receiver? = none) :
    Untouched c (x :: rest) ↔ Untouched c rest := by
  simp [Untouched, hx]

theorem untouched_nil (c : ConnectionId) : Untouched c [] := List.forall_mem_nil _

theorem untouched_doings {acts : List Act} (h : ∀ act ∈ acts, act.receiver? ≠ some c) :
    Untouched c (doings acts) := by
  intro x hx
  obtain ⟨act, hact, rfl⟩ := List.mem_map.mp hx
  exact h act hact

/-- Handing over commands touches no mailbox. -/
theorem untouched_handing (c : ConnectionId) (commands : List Command) :
    Untouched c (handing commands) := by
  refine untouched_doings fun act hact => ?_
  obtain ⟨command, -, rfl⟩ := List.mem_map.mp hact
  cases command <;> simp [Command.act, Act.receiver?]

theorem untouched_leaving (c : ConnectionId) (entries : List Entry) (commands : List Command) :
    Untouched c (leaving entries commands) :=
  (untouched_cons rfl).mpr (untouched_handing c commands)

/-- The receiver that lets go of its mailbox is another one. -/
theorem untouched_letGo {c' : ConnectionId} (hc : c' ≠ c) :
    Untouched c (doings [.abandon c', .unregister c']) := by
  refine untouched_doings fun act hact => ?_
  simp only [List.mem_cons, List.not_mem_nil, or_false] at hact
  rcases hact with rfl | rfl
  · exact fun he => hc (Option.some.inj he)
  · intro hnone
    cases hnone

/-- Whoever does not take anything receives nothing. -/
theorem receivedIn_of_takeless (h : .act (.take c) ∉ course) : hub.receivedIn c course = [] := by
  refine glean_eq_nil _ fun x hx hub => ?_
  cases x with
  | act act =>
    cases act with
    | take c' => exact if_neg fun hc : c' = c => h (hc ▸ hx)
    | _ => rfl
  | _ => rfl

theorem Untouched.takeless (h : Untouched c course) : .act (.take c) ∉ course :=
  fun htake => h _ htake rfl

theorem receivedIn_of_untouched (h : Untouched c course) : hub.receivedIn c course = [] :=
  receivedIn_of_takeless h.takeless

/-- A mailbox that its receiver does not touch stays as receptive as it is. -/
theorem Orderly.mailbox?_untouched (h : hub.Orderly) {box : Mailbox}
    (hbox : hub.mailbox? c = some box) (hcourse : Untouched c course) :
    ∃ box', (hub.undergo course).mailbox? c = some box' ∧ box'.intake = box.intake := by
  induction course generalizing hub box with
  | nil => exact ⟨box, hbox, rfl⟩
  | cons x rest ih =>
    have hx := hcourse x List.mem_cons_self
    have hfirst : ∃ box', (hub.happen x).mailbox? c = some box' ∧ box'.intake = box.intake := by
      cases x with
      | act act =>
        obtain ⟨box', hbox', hintake, -⟩ := mailbox?_perform h hx hbox
        exact ⟨box', hbox', hintake⟩
      | stopped =>
        have hbox₀ : hub.mailboxes.get? c = some box := hbox
        refine ⟨box.detach, ?_, rfl⟩
        simp [Hub.happen, Hub.stop, halt, Hub.log, mailbox?, hbox₀]
      | _ => exact ⟨box, hbox, rfl⟩
    obtain ⟨box', hbox', hintake⟩ := hfirst
    obtain ⟨box'', hbox'', hsame⟩ := ih (h.happen x) hbox' fun y hy =>
      hcourse y (List.mem_cons_of_mem _ hy)
    exact ⟨box'', hbox'', hsame.trans hintake⟩

/-- A receiver that lets go of its mailbox is gone. -/
theorem Orderly.deserted_letGo (h : hub.Orderly) {box : Mailbox}
    (hbox : hub.mailbox? c = some box) :
    (hub.undergo (doings [.abandon c, .unregister c])).Deserted c := by
  have hgone : (hub.happen (.act (.abandon c))).Deserted c :=
    ⟨box.abandon, mailbox?_updateMailbox_own hbox _, rfl⟩
  exact (h.happen _).deserted_happen hgone (.act (.unregister c))

/-- Only the loop puts anything into a mailbox. -/
theorem enqueuedIn_of_stepless (h : .act .step ∉ course) : hub.enqueuedIn c course = [] := by
  refine glean_eq_nil _ fun x hx hub => ?_
  cases x with
  | act act =>
    cases act with
    | step => exact absurd hx h
    | _ => rfl
  | _ => rfl

/-- Nothing is put into a mailbox whose receiver is gone. -/
theorem Orderly.enqueuedIn_of_deserted (h : hub.Orderly) (hgone : hub.Deserted c) :
    hub.enqueuedIn c course = [] := by
  refine glean_eq_nil_of_keeps (P := fun hub => hub.Orderly ∧ hub.Deserted c) _ ⟨h, hgone⟩
    (fun hub hinv x => ⟨hinv.1.happen x, hinv.1.deserted_happen hinv.2 x⟩) fun hub hinv x _ => ?_
  obtain ⟨-, box, hbox, hintake⟩ := hinv
  cases x with
  | act act =>
    cases act with
    | step => simp [Happening.fills, enqueuing, hbox, Mailbox.offer, hintake]
    | _ => rfl
  | _ => rfl

/-- What a receiver is handed is the beginning of what waits and of what is put into the mailbox,
also when it lets go of the mailbox. -/
theorem Orderly.receivedIn_prefix (h : hub.Orderly) (course : List Happening) :
    hub.receivedIn c course <+: hub.waitingFor c ++ hub.enqueuedIn c course := by
  induction course generalizing hub with
  | nil => exact List.nil_prefix
  | cons x rest ih =>
    have hrest := ih (h.happen x)
    have hreceived : hub.receivedIn c (x :: rest) =
        x.empties hub c ++ (hub.happen x).receivedIn c rest := rfl
    have henqueued : hub.enqueuedIn c (x :: rest) =
        x.fills hub c ++ (hub.happen x).enqueuedIn c rest := rfl
    rw [hreceived, henqueued]
    by_cases hx : x = .act (.abandon c)
    · subst hx
      rw [waitingFor_abandon] at hrest
      cases hbox : hub.mailbox? c with
      | none =>
        rw [waitingFor_of_absent hbox]
        exact hrest
      | some box =>
        have hgone : (hub.happen (.act (.abandon c))).Deserted c :=
          ⟨box.abandon, mailbox?_updateMailbox_own hbox _, rfl⟩
        rw [(h.happen _).enqueuedIn_of_deserted hgone] at hrest
        rw [List.prefix_nil.mp hrest]
        exact List.nil_prefix
    · rw [← List.append_assoc, ← h.waitingFor_happen hx, List.append_assoc]
      exact (List.prefix_append_right_inj _).mpr hrest

/-- Whoever takes so many events is handed the first of those that wait. -/
theorem receivedIn_takes {box : Mailbox} (hbox : hub.mailbox? c = some box) (n : Nat) :
    hub.receivedIn c (doings (takes c n)) = box.waiting.take n := by
  induction n generalizing hub box with
  | zero => simp [takes, doings, receivedIn]
  | succ n ih =>
    have hafter : (hub.perform (.take c)).mailbox? c = some box.take.2 := by
      rw [perform_own rfl hbox]
      exact mailbox?_updateMailbox_own hbox _
    have hrest := ih hafter
    have hreceipt : hub.receipt c (.take c) = box.take.1.toList := by simp [receipt, hbox]
    have hsplit : hub.receivedIn c (doings (takes c (n + 1))) = hub.receipt c (.take c) ++
        (hub.perform (.take c)).receivedIn c (doings (takes c n)) := rfl
    rw [hsplit, hreceipt, hrest]
    cases hw : box.waiting <;> simp [Mailbox.take, hw]

end Hub

/-! ### Who works for a connection -/

theorem Hub.carries_anything (hub : Hub) : hub.Carries fun _ => True :=
  ⟨fun _ _ => trivial, fun _ _ _ _ _ => trivial⟩

/-- Nobody works for a connection before it is there. -/
def Regime.awaiting (c : ConnectionId) : Regime where
  event _ := True
  writer n w := w.connection = c → c.number < n
  stream n _ c' := c' = c → c.number < n
  greeting n _ g := g.connection = c → c.number < n
  minted := 0
  known := 0
  succeeds hle hw _ hsucceeds he := (hw (hsucceeds.connection.symm.trans he)).trans_le hle
  lasts hle hstream he := (hstream he).trans_le hle
  waits hle hgreeting he := (hgreeting he).trans_le hle
  opened _ _ he := he ▸ Nat.lt_succ_self _
  begun _ _ he := he ▸ Nat.lt_succ_self _
  obstructed hgreeting := hgreeting
  greeted hgreeting he := hgreeting he

/-- One body works for a connection, and nobody else does. -/
def Regime.solely (i : Nat) (c : ConnectionId) : Regime where
  event _ := True
  writer _ w := w.connection ≠ c
  stream _ j c' := c' = c ↔ j = i
  greeting _ _ g := g.connection ≠ c
  minted := i + 1
  known := c.number + 1
  succeeds _ hw _ hsucceeds he := hw (hsucceeds.connection.symm.trans he)
  lasts _ hstream := hstream
  waits _ hgreeting := hgreeting
  opened hknown hminted := by
    refine iff_of_false (fun he => ?_) (Nat.ne_of_gt hminted)
    rw [← he] at hknown
    exact absurd hknown (Nat.lt_irrefl _)
  begun hknown _ he := by
    rw [← he] at hknown
    exact absurd hknown (Nat.lt_irrefl _)
  obstructed hgreeting := hgreeting
  greeted hgreeting := hgreeting

namespace Session

/-- The connection on whose receiving end an action lays hands, or sets something to work. -/
def Action.takesUp : Action → Option ConnectionId
  | .receive c _ | .refuseMore c | .abandon c | .runPair c _ _ | .runWriter c _ _
  | .openStream c _ => some c
  | _ => none

variable {config : Config} {s : Session} {i : Nat} {c : ConnectionId} {action : Action}

theorem allows_awaiting (h : action.takesUp ≠ some c) :
    (Regime.awaiting c).Allows config action where
  event _ _ := trivial
  pair c' encode sink he n hc := absurd (by rw [he, ← hc]; rfl) h
  writer c' encode sink he n hc := absurd (by rw [he, ← hc]; rfl) h
  stream c' keepAlive he n j _ hc := absurd (by rw [he, ← hc]; rfl) h

theorem allows_solely (h : action.takesUp ≠ some c) :
    (Regime.solely i c).Allows config action where
  event _ _ := trivial
  pair c' encode sink he n hc := absurd (by rw [he, ← hc]; rfl) h
  writer c' encode sink he n hc := absurd (by rw [he, ← hc]; rfl) h
  stream c' keepAlive he n j hj :=
    iff_of_false (fun hc => absurd (by rw [he, ← hc]; rfl) h) (Nat.ne_of_gt hj)

/-! ### Courses that touch no mailbox -/

open Hub (Untouched)

theorem untouched_handleCourse (c : ConnectionId) (d : DomainEvent) :
    Untouched c (handleCourse d) :=
  Hub.untouched_append.mpr
    ⟨Hub.untouched_leaving c _ _, (Hub.untouched_cons rfl).mpr (Hub.untouched_nil c)⟩

theorem untouched_publishCourse (c : ConnectionId) (d : DomainEvent) :
    Untouched c (publishCourse d) := (Hub.untouched_cons rfl).mpr (untouched_handleCourse c d)

theorem untouched_builtCourse (c : ConnectionId) {kind payload : String} {act : Event → Hub.Act}
    (hact : ∀ e, (act e).receiver? = none) : Untouched c (builtCourse kind payload act) := by
  unfold builtCourse
  split
  · rename_i e _
    have hnone : (Hub.Happening.act (act e)).receiver? = none := hact e
    exact (Hub.untouched_cons hnone).mpr (Hub.untouched_nil c)
  · exact Hub.untouched_nil c

end Session

namespace Regime.Governs

open Session Hub

variable {config : Config} {s : Session} {i : Nat} {c : ConnectionId} {action : Action}

/-- What goes on by itself does not touch the mailbox of a body. -/
theorem untouched_effect (h : (solely i c).Governs s) (m : Move) : Untouched c (s.effect m) := by
  cases m with
  | apply => simp [effect, Untouched, Happening.receiver?, Act.receiver?]
  | stop =>
    simp only [effect]
    split <;> simp [Untouched, Happening.receiver?]
  | start j => exact untouched_nil c
  | write j =>
    simp only [effect]
    split
    · exact untouched_nil c
    · rename_i t hj
      split
      · rename_i w box hw _
        refine untouched_append.mpr ⟨untouched_doings fun act hact => ?_,
          (untouched_cons rfl).mpr (untouched_nil c)⟩
        rw [w.receiver?_acts box act hact]
        exact fun he => h.writer j t w hj hw (Option.some.inj he)
      · exact untouched_nil c
  | read j =>
    simp only [effect]
    split
    · exact untouched_leaving c _ _
    · exact untouched_nil c
  | observeWriter j =>
    simp only [effect]
    split
    · exact untouched_leaving c _ _
    · exact untouched_nil c
  | observeReader j =>
    simp only [effect]
    split
    · exact untouched_leaving c _ _
    · exact untouched_nil c
  | cancel j =>
    simp only [effect]
    split
    · rename_i t hj
      refine untouched_append.mpr ⟨?_, untouched_handing c _⟩
      split
      · rename_i howned
        have howns : t.owns = true := (Bool.and_eq_true_iff.mp howned).1
        cases hw : t.writer? with
        | none => simp [Task.owns, hw] at howns
        | some w =>
          intro x hx
          rw [List.mem_singleton.mp hx, Task.connection_of_writer? hw]
          exact fun he => h.writer j t w hj hw (Option.some.inj he)
      · exact untouched_nil c
    · exact untouched_nil c
  | giveUp j =>
    simp only [effect]
    split
    · rename_i c' student why hj
      refine (untouched_cons rfl).mpr ((untouched_cons rfl).mpr fun x hx => ?_)
      rw [List.mem_singleton.mp hx]
      exact fun he => h.greeting j _ hj (Option.some.inj he)
    · exact untouched_nil c

theorem untouched_settling (h : (solely i c).Governs s) : Untouched c s.settling := by
  have hall (moves : List Move) (s : Session) (h : (solely i c).Governs s) :
      Untouched c (s.effects moves) := by
    induction moves generalizing s with
    | nil => exact untouched_nil c
    | cons m rest ih => exact untouched_append.mpr ⟨h.untouched_effect m, ih _ (h.perform m)⟩
  exact hall _ _ h

theorem untouched_statsCourse (h : (solely i c).Governs s) : Untouched c s.statsCourse := by
  have hask : (solely i c).Governs { s with hub := s.hub.askStats.2 } :=
    h.of_hub (carries_anything _) (nextConnection_happen (.act .askStats)) (Nat.le_refl _)
      rfl rfl rfl
  rw [statsCourse, List.cons_append, untouched_cons rfl, untouched_append]
  exact ⟨hask.untouched_settling, (untouched_cons rfl).mpr (untouched_nil c)⟩

theorem untouched_errand (h : (solely i c).Governs s) (kept : Bool) (e : Web.Errand) :
    Untouched c (e.course s kept) := by
  cases e with
  | nothing => exact untouched_nil c
  | upgrade student => exact untouched_nil c
  | publish d => exact untouched_publishCourse c d
  | figures => exact h.untouched_statsCourse
  | stream a =>
    refine (untouched_cons rfl).mpr ?_
    cases kept with
    | true => exact untouched_nil c
    | false =>
      refine untouched_letGo fun he => ?_
      have hknown : c.number + 1 ≤ s.hub.nextConnection := h.known
      rw [← he] at hknown
      exact absurd hknown (Nat.lt_irrefl _)

/-- The body of another connection touches another mailbox. -/
theorem other_stream (h : (solely i c).Governs s) {j : Nat} {x : Stream} (hj : j ≠ i)
    (hx : s.streams.get? j = some x) : x.connection ≠ c :=
  fun hc => hj ((h.stream j x hx).mp hc)

theorem untouched_closeCourse (h : (solely i c).Governs s) {j : Nat} (hj : j ≠ i) :
    Untouched c (s.closeCourse j) := by
  unfold closeCourse
  split
  · exact untouched_nil c
  · rename_i x hx
    exact untouched_letGo (h.other_stream hj hx)

theorem untouched_readCourse (h : (solely i c).Governs s) {j : Nat} (hj : j ≠ i)
    (limit : Option Nat) : Untouched c (s.readCourse j limit) := by
  unfold readCourse
  split
  · exact untouched_nil c
  · rename_i x hx
    have hc := h.other_stream hj hx
    split
    · exact untouched_nil c
    · refine untouched_append.mpr ⟨untouched_doings fun act hact => ?_, ?_⟩
      · rw [(List.mem_replicate.mp hact).2]
        exact fun he => hc (Option.some.inj he)
      · split
        · exact (untouched_cons rfl).mpr (untouched_letGo hc)
        · exact untouched_nil c

theorem untouched_web (h : (solely i c).Governs s) {step : Web.Step}
    (hread : ∀ limit, step ≠ .read i limit) (hdrop : step ≠ .drop i) :
    Untouched c (Web.course config s step) := by
  cases step with
  | http r kept => exact (untouched_cons rfl).mpr ((h.logAll _).untouched_errand _ _)
  | connect r failure =>
    refine (untouched_cons rfl).mpr ?_
    have hlogged := h.logAll (Web.errand config r).1
    cases (Web.errand config r).2 with
    | upgrade student =>
      cases failure <;> exact (untouched_cons rfl).mpr (untouched_nil c)
    | nothing => exact untouched_nil c
    | stream a => exact hlogged.untouched_errand false (.stream a)
    | publish d => exact hlogged.untouched_errand false (.publish d)
    | figures => exact hlogged.untouched_errand false .figures
  | greet j =>
    simp only [Web.course]
    split
    · exact (untouched_cons rfl).mpr (untouched_nil c)
    · exact untouched_nil c
  | read j limit => exact h.untouched_readCourse (fun hj => hread limit (hj ▸ rfl)) limit
  | drop j => exact h.untouched_closeCourse fun hj => hdrop (hj ▸ rfl)
  | publish d => exact untouched_publishCourse c d
  | handle d => exact untouched_handleCourse c d
  | advance ms =>
    have hlater : (solely i c).Governs { s with clock := s.clock + ms } :=
      h.of_hub h.hub (Nat.le_refl _) (Nat.le_refl _) rfl rfl rfl
    exact hlater.untouched_settling
  | move m =>
    simp only [Web.course]
    split
    · exact untouched_nil c
    · exact h.untouched_effect m
  | settle => exact h.untouched_settling
  | _ => exact untouched_nil c

/-- Only reading the body or dropping it touches its mailbox. -/
theorem untouched_course (h : (solely i c).Governs s) (haction : action.takesUp ≠ some c)
    (hread : ∀ limit, action ≠ .web (.read i limit)) (hdrop : action ≠ .web (.drop i)) :
    Untouched c (s.course config action) := by
  have htaken {c' : ConnectionId} (hsame : action.takesUp = some c') : some c' ≠ some c :=
    hsame ▸ haction
  cases action with
  | web step =>
    exact h.untouched_web (fun limit he => hread limit (he ▸ rfl)) fun he => hdrop (he ▸ rfl)
  | send scope kind payload => exact untouched_builtCourse c fun _ => rfl
  | sendTo audiences kind payload => exact untouched_builtCourse c fun _ => rfl
  | sendToStudents students kind payload => exact untouched_builtCourse c fun _ => rfl
  | stats => exact h.untouched_statsCourse
  | receive c' limit =>
    simp only [Session.course, receiveCourse]
    split
    · exact untouched_nil c
    · refine untouched_doings fun act hact => ?_
      rw [(List.mem_replicate.mp hact).2]
      exact htaken rfl
  | refuseMore c' => exact List.forall_mem_singleton.mpr (htaken rfl)
  | abandon c' => exact List.forall_mem_singleton.mpr (htaken rfl)
  | dropGuard j =>
    simp only [Session.course, dropGuardCourse]
    split
    · exact untouched_nil c
    · exact (untouched_cons rfl).mpr (untouched_nil c)
  | cutOff j => exact h.untouched_effect (.cancel j)
  | register a => exact (untouched_cons rfl).mpr (untouched_nil c)
  | unregister c' => exact (untouched_cons rfl).mpr (untouched_nil c)
  | unregisterUnknown => exact (untouched_cons rfl).mpr ((untouched_cons rfl).mpr (untouched_nil c))
  | _ => exact untouched_nil c

end Regime.Governs
end LiveUpdate
