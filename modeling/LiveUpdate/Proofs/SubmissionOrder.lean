import LiveUpdate.Proofs.Account

/-! The order of submission is the only order. What the hub answers is what the account says of the
commands submitted before the question; without receivers it does not matter when the loop gets to
run; and the table depends on the commands that have been applied and on nothing else. -/
namespace LiveUpdate

/-- The ticket of a question. -/
def Command.ticket? : Command → Option Nat
  | stats ticket => some ticket
  | _ => none

namespace Command

theorem audiences_foldl_enact (commands : List Command) (r : Registry) (c : ConnectionId) :
    (commands.foldl enact r).audiences.get? c = standing c (r.audiences.get? c) commands := by
  induction commands generalizing r with
  | nil => rfl
  | cons command rest ih =>
    rw [List.foldl_cons, ih, audiences_enact]
    rfl

end Command

namespace Account

theorem apply_registry (capacity : Nat) (account : Account) (command : Command) :
    (account.apply capacity command).registry = command.enact account.registry := by
  cases command with
  | unregister c =>
    cases hc : account.registry.audiences.get? c with
    | none => simp [apply, hc, Command.enact, Registry.unregister_none hc]
    | some a => simp [apply, hc, Command.enact]
  | _ => rfl

/-- In an account, too, receivers have no say in the table. -/
theorem follow_registry (capacity : Nat) (account : Account) (moments : List Hub.Moment) :
    (account.follow capacity moments).registry =
      (moments.filterMap Hub.Moment.command?).foldl Command.enact account.registry := by
  induction moments generalizing account with
  | nil => rfl
  | cons moment rest ih =>
    have hrest := ih (account.note capacity moment)
    rw [follow, List.foldl_cons, ← follow, hrest]
    cases moment with
    | applied command =>
      rw [note, apply_registry]
      rfl
    | _ => rfl

end Account

namespace Hub

variable {hub hub' : Hub} {course : List Moment}

/-! ### Numbers -/

/-- An act uses up as many numbers as it submits registrations, and a ticket for each question. -/
theorem perform_numbers (hub : Hub) (act : Act) :
    (hub.perform act).nextConnection =
        hub.nextConnection + ((hub.submitted act).filterMap Command.entrant?).length ∧
      (hub.perform act).nextTicket =
        hub.nextTicket + ((hub.submitted act).filterMap Command.ticket?).length := by
  have hsubmit (hub : Hub) (command : Command) :
      (hub.submit command).nextConnection = hub.nextConnection ∧
        (hub.submit command).nextTicket = hub.nextTicket := by
    obtain ⟨_, _, hframe⟩ := hub.submit_frame command
    rw [hframe]
    exact ⟨rfl, rfl⟩
  cases act with
  | register a => exact hsubmit hub.opened _
  | unregister c => exact hsubmit hub _
  | send m => exact hsubmit hub _
  | sendTo audiences e =>
    rw [perform, sendTo, submitted]
    split
    · exact ⟨rfl, rfl⟩
    · exact hsubmit hub _
  | sendToStudents students e =>
    simp only [perform, sendToStudents, sendTo, submitted, List.map_eq_nil_iff]
    split
    · exact ⟨rfl, rfl⟩
    · exact hsubmit hub _
  | askStats => exact hsubmit { hub with nextTicket := hub.nextTicket + 1 } _
  | step =>
    cases hp : hub.pending with
    | nil => rw [perform, step_nil hp]; exact ⟨rfl, rfl⟩
    | cons command rest =>
      obtain ⟨_, _, _, _, _, _, hframe⟩ := (hub.popped rest).apply_frame command
      rw [perform, step_cons hp, hframe]
      exact ⟨rfl, rfl⟩
  | take c => exact ⟨rfl, rfl⟩
  | refuseMore c => exact ⟨rfl, rfl⟩
  | abandon c => exact ⟨rfl, rfl⟩

theorem submissions_cons (act : Act) (rest : List Act) :
    hub.submissions (act :: rest) = hub.submitted act ++ (hub.perform act).submissions rest := rfl

theorem run_numbers (hub : Hub) (acts : List Act) :
    (hub.run acts).nextConnection =
        hub.nextConnection + ((hub.submissions acts).filterMap Command.entrant?).length ∧
      (hub.run acts).nextTicket =
        hub.nextTicket + ((hub.submissions acts).filterMap Command.ticket?).length := by
  induction acts generalizing hub with
  | nil => exact ⟨rfl, rfl⟩
  | cons act rest ih =>
    obtain ⟨hconnection, hticket⟩ := hub.perform_numbers act
    obtain ⟨ihconnection, ihticket⟩ := ih (hub.perform act)
    have hrun : hub.run (act :: rest) = (hub.perform act).run rest := rfl
    rw [hrun, ihconnection, ihticket, hconnection, hticket, submissions_cons,
      List.filterMap_append, List.filterMap_append, List.length_append, List.length_append]
    omega

theorem ticket_of_submitted {ticket : Nat} {act : Act} (h : .stats ticket ∈ hub.submitted act) :
    ticket = hub.nextTicket := by
  cases act with
  | askStats => simpa [submitted] using h
  | sendTo audiences e =>
    rw [submitted] at h
    split at h <;> simp at h
  | sendToStudents students e =>
    rw [submitted] at h
    split at h <;> simp at h
  | _ => simp [submitted] at h

/-- Tickets are handed out in order and none of them twice. -/
theorem ticket_of_submissions {ticket : Nat} {acts : List Act}
    (h : .stats ticket ∈ hub.submissions acts) :
    hub.nextTicket ≤ ticket ∧ ticket < (hub.run acts).nextTicket := by
  induction acts generalizing hub with
  | nil => simp [submissions, gather] at h
  | cons act rest ih =>
    have hhere := (hub.perform_numbers act).2
    have hlater := ((hub.perform act).run_numbers rest).2
    have hrun : hub.run (act :: rest) = (hub.perform act).run rest := rfl
    rw [submissions_cons, List.mem_append] at h
    rcases h with h | h
    · have hcount : 0 < ((hub.submitted act).filterMap Command.ticket?).length :=
        List.length_pos_of_mem (List.mem_filterMap.mpr ⟨_, h, rfl⟩)
      rw [ticket_of_submitted h, hrun]
      omega
    · obtain ⟨hlow, hhigh⟩ := ih h
      rw [hrun]
      omega

/-! ### Schedules -/

theorem submitted_congr (hconnection : hub.nextConnection = hub'.nextConnection)
    (hticket : hub.nextTicket = hub'.nextTicket) (act : Act) :
    hub.submitted act = hub'.submitted act := by
  cases act <;> simp [submitted, hconnection, hticket]

/-- What is submitted depends on the numbers that are next, not on what the loop has done. -/
theorem submissions_congr (hconnection : hub.nextConnection = hub'.nextConnection)
    (hticket : hub.nextTicket = hub'.nextTicket) (acts : List Act) :
    hub.submissions acts = hub'.submissions acts := by
  induction acts generalizing hub hub' with
  | nil => rfl
  | cons act rest ih =>
    have hsubmitted := submitted_congr hconnection hticket act
    obtain ⟨hconnection₁, hticket₁⟩ := hub.perform_numbers act
    obtain ⟨hconnection₂, hticket₂⟩ := hub'.perform_numbers act
    rw [submissions_cons, submissions_cons, hsubmitted, ih]
    · rw [hconnection₁, hconnection₂, hconnection, hsubmitted]
    · rw [hticket₁, hticket₂, hticket, hsubmitted]

/-- Steps of the loop submit nothing, wherever they come in. -/
theorem submissions_filter (hub : Hub) (acts : List Act) :
    hub.submissions (acts.filter (· ≠ .step)) = hub.submissions acts := by
  induction acts generalizing hub with
  | nil => rfl
  | cons act rest ih =>
    by_cases hstep : act = .step
    · subst hstep
      have hnumbers := hub.perform_numbers .step
      rw [List.filter_cons_of_neg (by simp), ih, submissions_cons]
      exact submissions_congr hnumbers.1.symm hnumbers.2.symm rest
    · rw [List.filter_cons_of_pos (by simpa using hstep), submissions_cons, submissions_cons, ih]

/-- The receiver whose act it is. -/
def Act.receiver? : Act → Option ConnectionId
  | take c | refuseMore c | abandon c => some c
  | _ => none

/-- Where no receiver does anything, a course is nothing but the applied commands. -/
theorem course_of_undisturbed {acts : List Act} (h : ∀ act ∈ acts, act.receiver? = none) :
    hub.course acts = ((hub.course acts).filterMap Moment.command?).map .applied := by
  induction acts generalizing hub with
  | nil => rfl
  | cons act rest ih =>
    have hact := h act List.mem_cons_self
    have hrest := @ih (hub.perform act) fun act' hact' => h act' (List.mem_cons_of_mem _ hact')
    have hmoment : (hub.occurrence? act).toList =
        ((hub.occurrence? act).toList.filterMap Moment.command?).map .applied := by
      cases act with
      | step =>
        cases hp : hub.pending with
        | nil => simp [occurrence?, moment?, hp]
        | cons command rest => rw [occurrence?, moment?, hp]; rfl
      | take | refuseMore | abandon => cases hact
      | _ => rfl
    rw [course_cons, List.filterMap_append, List.map_append, ← hmoment, ← hrest]

/-- The loop applies what is pending. -/
def catchUp (hub : Hub) : Hub := hub.run (List.replicate hub.pending.length .step)

theorem catchUp_pending (hub : Hub) : hub.catchUp.pending = [] := by
  rw [catchUp]
  generalize hn : hub.pending.length = n
  induction n generalizing hub with
  | zero => exact List.length_eq_zero_iff.mp hn
  | succ n ih =>
    obtain ⟨command, rest, hp⟩ := List.exists_cons_of_length_eq_add_one hn
    have hstep : hub.step.pending = rest := by
      rw [step_cons hp, apply_pending]
      rfl
    refine ih hub.step ?_
    rw [hstep]
    simpa [hp] using hn

/-! ### Mailboxes -/

/-- The connections that have a mailbox are those that have been given a number. -/
def Numbered (hub : Hub) : Prop :=
  ∀ c, (hub.mailbox? c).isSome = true ↔ c.number < hub.nextConnection

theorem Numbered.of_eq (h : hub.Numbered)
    (hbox : ∀ c, (hub'.mailbox? c).isSome = (hub.mailbox? c).isSome)
    (hnext : hub'.nextConnection = hub.nextConnection) : hub'.Numbered := by
  intro c
  rw [hbox, hnext, h c]

theorem Numbered.submit (h : hub.Numbered) (command : Command) :
    (hub.submit command).Numbered :=
  h.of_eq (fun c => by rw [submit_mailbox?]) (submit_nextConnection command)

theorem Numbered.updateMailbox (h : hub.Numbered) (c : ConnectionId) (f : Mailbox → Mailbox) :
    (hub.updateMailbox c f).Numbered := by
  refine h.of_eq (fun c' => ?_) rfl
  simp only [mailbox?, Hub.updateMailbox, Table.get?_modify]
  split <;> simp

theorem Numbered.register (h : hub.Numbered) (a : Audience) : (hub.register a).2.Numbered := by
  rw [register_eq]
  refine Numbered.submit (fun c => ?_) _
  have hbox : (hub.opened.mailbox? c).isSome =
      (decide (c = ⟨hub.nextConnection⟩) || (hub.mailbox? c).isSome) := by
    simp only [opened, mailbox?, Table.get?_insert]
    split <;> simp [*]
  have hnext : hub.opened.nextConnection = hub.nextConnection + 1 := rfl
  rw [hbox, hnext, Bool.or_eq_true, decide_eq_true_eq, h c, Nat.lt_succ_iff_lt_or_eq, or_comm]
  exact or_congr_right ⟨fun hc => by rw [hc], fun hc => congrArg ConnectionId.mk hc⟩

theorem Numbered.step (h : hub.Numbered) (ho : hub.Orderly) : hub.step.Numbered := by
  cases hp : hub.pending with
  | nil => exact (step_nil hp).symm ▸ h
  | cons command rest =>
    have hpopped : (hub.popped rest).Numbered := h.of_eq (fun _ => rfl) rfl
    have hindexed : (hub.popped rest).registry.Indexed := ho.indexed
    rw [step_cons hp]
    refine hpopped.of_eq (fun c => ?_) (apply_nextConnection _ command)
    rw [mailbox?_apply _ hindexed]
    cases command with
    | unregister c' => simp only []; split <;> simp
    | send m => simp only []; split <;> simp
    | _ => rfl

theorem Numbered.perform (h : hub.Numbered) (ho : hub.Orderly) (act : Act) :
    (hub.perform act).Numbered := by
  have hsendTo (audiences : List Audience) (e : Event) : (hub.sendTo audiences e).Numbered := by
    rw [Hub.sendTo]
    split
    · exact h.of_eq (fun _ => rfl) rfl
    · exact h.submit _
  cases act with
  | register a => exact h.register a
  | unregister c => exact h.submit _
  | send m => exact h.submit _
  | sendTo audiences e => exact hsendTo audiences e
  | sendToStudents students e => exact hsendTo _ e
  | askStats =>
    have hasked : { hub with nextTicket := hub.nextTicket + 1 }.Numbered :=
      h.of_eq (fun _ => rfl) rfl
    exact hasked.submit _
  | step => exact h.step ho
  | take c => exact h.updateMailbox c _
  | refuseMore c => exact h.updateMailbox c _
  | abandon c => exact h.updateMailbox c _

theorem Numbered.run (h : hub.Numbered) (ho : hub.Orderly) (acts : List Act) :
    (hub.run acts).Numbered := by
  induction acts generalizing hub with
  | nil => exact h
  | cons act rest ih => exact ih (h.perform ho act) (ho.perform act)

theorem numbered_start (capacity : Nat) (hpos : 0 < capacity) :
    (start capacity hpos).Numbered := by
  intro c
  simp [mailbox?, start]

/-- Two hubs of one account that know the same connections have the same mailboxes. -/
theorem mailbox?_eq_of_describes {account : Account} (h : account.Describes hub)
    (h' : account.Describes hub') (hn : hub.Numbered) (hn' : hub'.Numbered)
    (hnext : hub.nextConnection = hub'.nextConnection) (c : ConnectionId) :
    hub.mailbox? c = hub'.mailbox? c := by
  have hbox := (h.boxes c).symm.trans (h'.boxes c)
  have hthere : (hub.mailbox? c).isSome = (hub'.mailbox? c).isSome := by
    rw [Bool.eq_iff_iff, hn c, hn' c, hnext]
  cases hc : hub.mailbox? c with
  | none =>
    rw [hc] at hthere
    exact (Option.not_isSome_iff_eq_none.mp (by simp [← hthere])).symm
  | some box =>
    rw [hc] at hthere hbox
    obtain ⟨box', hc'⟩ := Option.isSome_iff_exists.mp hthere.symm
    rw [hc'] at hbox ⊢
    exact congrArg some hbox

/-! ### Answers -/

/-- Every question that has been applied is answered, by what the account said when it was. -/
structure Replied (hub : Hub) (course : List Moment) : Prop where
  answered : ∀ ticket st, hub.answers.get? ticket = some st →
    ∃ first rest, course = first ++ .applied (.stats ticket) :: rest ∧
      st = (Account.blank.follow hub.capacity first).figures
  filed : ∀ ticket, .applied (.stats ticket) ∈ course →
    (hub.answers.get? ticket).isSome = true

theorem apply_answers (hub : Hub) (command : Command) :
    (hub.apply command).answers = match command with
      | .stats ticket => hub.answers.insert ticket hub.stats
      | _ => hub.answers := by
  cases command with
  | unregister c =>
    simp only [apply]
    split <;> rfl
  | send m =>
    obtain ⟨_, _, _, _, hframe⟩ := hub.fanOut_frame m
    simp only [apply, hframe]
    rfl
  | _ => rfl

theorem perform_answers (hub : Hub) (act : Act) :
    (hub.perform act).answers = match hub.occurrence? act with
      | some (.applied (.stats ticket)) => hub.answers.insert ticket hub.stats
      | _ => hub.answers := by
  have hsubmit (hub : Hub) (command : Command) :
      (hub.submit command).answers = hub.answers := by
    obtain ⟨_, _, hframe⟩ := hub.submit_frame command
    rw [hframe]
  have hdeed (moment : Moment) (hm : moment.command? = none) (p : Moment → Bool) :
      hub.answers = match (some moment).filter p with
        | some (.applied (.stats ticket)) => hub.answers.insert ticket hub.stats
        | _ => hub.answers := by
    cases moment with
    | applied command => cases hm
    | _ => rw [Option.filter_some]; split <;> simp_all
  have hsendTo (audiences : List Audience) (e : Event) :
      (hub.sendTo audiences e).answers = hub.answers := by
    rw [sendTo]
    split
    · rfl
    · exact hsubmit hub _
  cases act with
  | register a => exact hsubmit hub.opened _
  | unregister c => exact hsubmit hub _
  | send m => exact hsubmit hub _
  | sendTo audiences e => exact hsendTo audiences e
  | sendToStudents students e => exact hsendTo _ e
  | askStats => exact hsubmit { hub with nextTicket := hub.nextTicket + 1 } _
  | step =>
    cases hp : hub.pending with
    | nil => simp [perform, step_nil hp, occurrence?, moment?, hp]
    | cons command rest =>
      rw [perform, step_cons hp, apply_answers, occurrence?, moment?, hp]
      cases command <;> rfl
  | take c => exact hdeed (.taken c) rfl _
  | refuseMore c => exact hdeed (.refused c) rfl _
  | abandon c => exact hdeed (.abandoned c) rfl _

theorem Replied.perform (h : hub.Replied course)
    (hd : (Account.blank.follow hub.capacity course).Describes hub) (act : Act) :
    (hub.perform act).Replied (course ++ (hub.occurrence? act).toList) := by
  have hanswers := hub.perform_answers act
  have hcapacity := hub.perform_capacity act
  -- Whatever is added to the course, the earlier answers stand.
  have hearlier (more : List Moment) (ticket : Nat) (st : Stats)
      (hst : hub.answers.get? ticket = some st) :
      ∃ first rest, course ++ more = first ++ .applied (.stats ticket) :: rest ∧
        st = (Account.blank.follow hub.capacity first).figures := by
    obtain ⟨first, rest, hcourse, hfigures⟩ := h.answered ticket st hst
    exact ⟨first, rest ++ more, by rw [hcourse, List.append_assoc, List.cons_append], hfigures⟩
  by_cases hq : ∃ ticket, hub.occurrence? act = some (.applied (.stats ticket))
  · obtain ⟨ticket, hq⟩ := hq
    rw [hq] at hanswers ⊢
    simp only [] at hanswers
    constructor
    · intro ticket' st hst
      rw [hanswers, Table.get?_insert] at hst
      rw [hcapacity]
      split at hst
      · rename_i ht
        subst ht
        exact ⟨course, [], rfl, (Option.some.inj hst).symm.trans hd.stats⟩
      · exact hearlier _ ticket' st hst
    · intro ticket' hmem
      rw [hanswers, Table.get?_insert]
      split
      · rfl
      · rename_i ht
        refine h.filed ticket' ?_
        simpa [ht] using hmem
  · have hsame : (hub.perform act).answers = hub.answers := by
      rw [hanswers]
      split
      · rename_i ticket heq
        exact absurd ⟨ticket, heq⟩ hq
      · rfl
    constructor
    · intro ticket st hst
      rw [hsame] at hst
      rw [hcapacity]
      exact hearlier _ ticket st hst
    · intro ticket hmem
      rw [hsame]
      rcases List.mem_append.mp hmem with hmem | hmem
      · exact h.filed ticket hmem
      · exact absurd ⟨ticket, Option.mem_toList.mp hmem⟩ hq

theorem Replied.run (h : hub.Replied course)
    (hd : (Account.blank.follow hub.capacity course).Describes hub) (ho : hub.Orderly)
    (hr : hub.running = true) (acts : List Act) :
    (hub.run acts).Replied (course ++ hub.course acts) := by
  induction acts generalizing hub course with
  | nil => exact (List.append_nil course).symm ▸ h
  | cons act rest ih =>
    have hnoted := hd.perform ho hr act
    rw [← Account.follow_append, ← hub.perform_capacity act] at hnoted
    have hrest := ih (h.perform hd act) hnoted (ho.perform act) ((perform_running act).trans hr)
    rw [course_cons, ← List.append_assoc]
    exact hrest

theorem replied_start (capacity : Nat) (hpos : 0 < capacity) :
    (start capacity hpos).Replied [] where
  answered ticket st hst := by simp [start] at hst
  filed ticket hmem := by simp at hmem

/-! ### The order of submission -/

/-- What is submitted before a ticket is handed out and what is submitted afterwards lie on the two
sides of the one question with this ticket. -/
theorem submissions_split (before after : List Act) {first rest : List Command}
    (h : first ++ .stats (hub.run before).nextTicket :: rest =
      hub.submissions (before ++ .askStats :: after)) :
    first = hub.submissions before ∧
      rest = (hub.run before).askStats.2.submissions after := by
  have hsubmissions : hub.submissions (before ++ .askStats :: after) = hub.submissions before ++
      .stats (hub.run before).nextTicket :: (hub.run before).askStats.2.submissions after :=
    gather_append submitted hub before (.askStats :: after)
  -- The ticket is new when it is handed out, and is not handed out again.
  have hnew : .stats (hub.run before).nextTicket ∉ hub.submissions before := fun hmem =>
    Nat.lt_irrefl _ (ticket_of_submissions hmem).2
  have honce : .stats (hub.run before).nextTicket ∉
      (hub.run before).askStats.2.submissions after := by
    intro hmem
    have hlow := (ticket_of_submissions hmem).1
    have hnext : (hub.run before).askStats.2.nextTicket = (hub.run before).nextTicket + 1 :=
      ((hub.run before).perform_numbers .askStats).2
    omega
  rw [hsubmissions, eq_comm, List.append_cons_inj_of_notMem hnew honce] at h
  exact ⟨h.1.symm, h.2.2.symm⟩

/-- A question is answered once it is no longer pending, from the commands submitted before it. -/
theorem reply_of_question (capacity : Nat) (hpos : 0 < capacity) (before after : List Act) :
    let fresh := start capacity hpos
    let acts := before ++ .askStats :: after
    let ticket := (fresh.run before).nextTicket
    (((fresh.run acts).answers.get? ticket).isSome = true ↔
        .stats ticket ∉ (fresh.run acts).pending) ∧
      ∀ st, (fresh.run acts).answers.get? ticket = some st →
        ∃ first rest, fresh.course acts = first ++ .applied (.stats ticket) :: rest ∧
          first.filterMap Moment.command? = fresh.submissions before ∧
          st = (Account.blank.follow capacity first).figures := by
  intro fresh acts ticket
  have hreplied : (fresh.run acts).Replied (fresh.course acts) :=
    (replied_start capacity hpos).run (Account.describes_start capacity hpos)
      (orderly_start capacity hpos) rfl acts
  have hcapacity : (fresh.run acts).capacity = capacity := run_capacity acts
  have hcommands : fresh.submissions acts =
      (fresh.course acts).filterMap Moment.command? ++ (fresh.run acts).pending :=
    @commands_course fresh rfl acts
  have hsplit {first rest : List Moment}
      (hcourse : fresh.course acts = first ++ .applied (.stats ticket) :: rest) :
      first.filterMap Moment.command? = fresh.submissions before ∧
        rest.filterMap Moment.command? ++ (fresh.run acts).pending =
          (fresh.run before).askStats.2.submissions after := by
    refine submissions_split before after ?_
    have hall := hcommands
    rw [hcourse, List.filterMap_append, List.append_assoc] at hall
    exact hall.symm
  refine ⟨⟨fun hsome hpending => ?_, fun hpending => hreplied.filed ticket ?_⟩, fun st hst => ?_⟩
  · obtain ⟨st, hst⟩ := Option.isSome_iff_exists.mp hsome
    obtain ⟨first, rest, hcourse, -⟩ := hreplied.answered ticket st hst
    have hlater : .stats ticket ∈ (fresh.run before).askStats.2.submissions after := by
      rw [← (hsplit hcourse).2]
      exact List.mem_append_right _ hpending
    have hlow := (ticket_of_submissions hlater).1
    have hnext : (fresh.run before).askStats.2.nextTicket = ticket + 1 :=
      ((fresh.run before).perform_numbers .askStats).2
    omega
  · have hasked : .stats ticket ∈ fresh.submissions acts := by
      have happend : fresh.submissions acts = fresh.submissions before ++
          .stats ticket :: (fresh.run before).askStats.2.submissions after :=
        gather_append submitted fresh before (.askStats :: after)
      rw [happend]
      exact List.mem_append_right _ List.mem_cons_self
    rw [hcommands, List.mem_append] at hasked
    obtain ⟨moment, hmoment, happlied⟩ :=
      List.mem_filterMap.mp (hasked.resolve_right hpending)
    cases moment with
    | applied command =>
      obtain rfl : command = .stats ticket := Option.some.inj happlied
      exact hmoment
    | taken c | refused c | abandoned c => cases happlied
  · obtain ⟨first, rest, hcourse, hfigures⟩ := hreplied.answered ticket st hst
    rw [hcapacity] at hfigures
    exact ⟨first, rest, hcourse, (hsplit hcourse).1, hfigures⟩

/-- Without receivers a hub that has caught up is described by the submissions alone. -/
theorem describes_catchUp {account : Account} (h : account.Describes hub) (ho : hub.Orderly)
    (hr : hub.running = true) {acts : List Act} (hacts : ∀ act ∈ acts, act.receiver? = none) :
    (account.follow hub.capacity ((hub.pending ++ hub.submissions acts).map .applied)).Describes
      (hub.run acts).catchUp := by
  have hall : ∃ n, (hub.run acts).catchUp = hub.run (acts ++ List.replicate n .step) :=
    ⟨_, (List.foldl_append ..).symm⟩
  obtain ⟨n, hrun⟩ := hall
  have hquiet : ∀ act ∈ acts ++ List.replicate n .step, act.receiver? = none := by
    intro act hact
    rcases List.mem_append.mp hact with hact | hact
    · exact hacts act hact
    · rw [List.eq_of_mem_replicate hact]
      rfl
  have hsubmissions : hub.submissions (acts ++ List.replicate n .step) = hub.submissions acts := by
    rw [← submissions_filter hub acts, ← submissions_filter hub (acts ++ _), List.filter_append]
    simp
  have hcommands := commands_course hr (acts ++ List.replicate n .step)
  rw [← hrun, catchUp_pending, List.append_nil, hsubmissions] at hcommands
  have hdescribed := h.run ho hr (acts ++ List.replicate n .step)
  rw [course_of_undisturbed hquiet, ← hcommands, ← hrun] at hdescribed
  exact hdescribed

/-- The reply to a question counts what was submitted before it, in that order, amid what receivers
had done by then. Without receivers, table, mailboxes and counters come out the same however the
steps of the loop fall between the submissions. And the table is always that of the commands that
have been applied, which are the first of those submitted. -/
theorem submission_order (capacity : Nat) (hpos : 0 < capacity) (before : List Act) :
    let fresh := start capacity hpos
    let earlier := fresh.run before
    (∀ after,
      let acts := before ++ .askStats :: after
      let last := fresh.run acts
      let ticket := earlier.askStats.1
      ((last.answers.get? ticket).isSome = true ↔ .stats ticket ∉ last.pending) ∧
      ∀ st, last.answers.get? ticket = some st →
        ∃ first rest, fresh.course acts = first ++ .applied (.stats ticket) :: rest ∧
          first.filterMap Moment.command? = fresh.submissions before ∧
          st = (Account.blank.follow capacity first).figures) ∧
    (∀ acts acts' : List Act, (∀ act ∈ acts, act.receiver? = none) →
      (∀ act ∈ acts', act.receiver? = none) →
      acts.filter (· ≠ .step) = acts'.filter (· ≠ .step) →
      let last := (earlier.run acts).catchUp
      let last' := (earlier.run acts').catchUp
      last.pending = [] ∧ last'.pending = [] ∧ last.registry = last'.registry ∧
        (∀ c, last.mailbox? c = last'.mailbox? c) ∧
        last.delivered = last'.delivered ∧ last.dropped = last'.dropped) ∧
    ∃ applied, fresh.submissions before = applied ++ earlier.pending ∧
      earlier.registry = applied.foldl Command.enact .empty ∧
      ∀ c, earlier.registry.audiences.get? c = Command.standing c none applied := by
  intro fresh earlier
  have hfresh : fresh.Orderly := orderly_start capacity hpos
  have hearlier : earlier.Orderly := hfresh.run before
  have hrunning : earlier.running = true := run_running before
  have hdescribed : (Account.blank.follow capacity (fresh.course before)).Describes earlier :=
    (Account.describes_start capacity hpos).run hfresh rfl before
  refine ⟨reply_of_question capacity hpos before, ?_, ?_⟩
  · intro acts acts' hacts hacts' hsame last last'
    have hsubmissions : earlier.submissions acts = earlier.submissions acts' := by
      rw [← submissions_filter, hsame, submissions_filter]
    have hlast := describes_catchUp hdescribed hearlier hrunning hacts
    have hlast' := describes_catchUp hdescribed hearlier hrunning hacts'
    rw [← hsubmissions] at hlast'
    have hnumbered : earlier.Numbered := (numbered_start capacity hpos).run hfresh before
    have hcaughtUp (acts : List Act) : (earlier.run acts).catchUp.Numbered ∧
        (earlier.run acts).catchUp.nextConnection = (earlier.run acts).nextConnection := by
      refine ⟨(hnumbered.run hearlier acts).run (hearlier.run acts) _, ?_⟩
      have hnone : (earlier.run acts).submissions
          (List.replicate (earlier.run acts).pending.length .step) = [] := by
        rw [← submissions_filter]
        simp [submissions, gather]
      rw [catchUp, (run_numbers _ _).1, hnone]
      rfl
    have hnext : last.nextConnection = last'.nextConnection := by
      rw [(hcaughtUp acts).2, (hcaughtUp acts').2, (earlier.run_numbers acts).1,
        (earlier.run_numbers acts').1, hsubmissions]
    exact ⟨catchUp_pending _, catchUp_pending _, hlast.registry.trans hlast'.registry.symm,
      mailbox?_eq_of_describes hlast hlast' (hcaughtUp acts).1 (hcaughtUp acts').1 hnext,
      hlast.delivered.trans hlast'.delivered.symm, hlast.dropped.trans hlast'.dropped.symm⟩
  · have hregistry := hdescribed.registry
    rw [Account.follow_registry] at hregistry
    refine ⟨_, @commands_course fresh rfl before, hregistry, fun c => ?_⟩
    rw [hregistry, Command.audiences_foldl_enact]
    rfl

/-- The one place of a mailbox is taken from before the second message comes, so that both are
delivered by the time of the question; the connection leaves after it. With nobody to take, the
second message is lost, whether the loop is quick or late. -/
theorem submission_order_student : 0 < 1 ∧
    let fresh := start 1 (by decide)
    let hello : Act := .send ⟨.broadcast, .hello⟩
    let before : List Act := [.register (.student 5), hello, hello]
    let after : List Act := [.step, .unregister ⟨0⟩, .step, .take ⟨0⟩, .step, .step, .step]
    let quick : List Act := [.step, .step, .step, .unregister ⟨0⟩, .step]
    let late : List Act := [.unregister ⟨0⟩]
    (∃ first rest, fresh.course (before ++ .askStats :: after) =
        first ++ .applied (.stats 0) :: rest ∧
      first.filterMap Moment.command? = fresh.submissions before ∧
      (Account.blank.follow 1 first).figures = ⟨1, 1, 0, 2, 0⟩) ∧
    ((fresh.run before).run quick).catchUp.dropped =
      ((fresh.run before).run late).catchUp.dropped := by
  refine ⟨by decide, ?_⟩
  intro fresh hello before after quick late
  have hanswer : (fresh.run (before ++ .askStats :: after)).answers.get? 0 =
      some ⟨1, 1, 0, 2, 0⟩ := by decide
  obtain ⟨hreply, hschedule, -⟩ := submission_order 1 (by decide) before
  obtain ⟨first, rest, hcourse, hcommands, hfigures⟩ := (hreply after).2 _ hanswer
  obtain ⟨-, -, -, -, -, hdropped⟩ := hschedule quick late (by decide) (by decide) (by decide)
  exact ⟨⟨first, rest, hcourse, hcommands, hfigures.symm⟩, hdropped⟩

end Hub
end LiveUpdate
