import Mathlib.Data.List.TakeWhile
import LiveUpdate.Proofs.AlikeHubs
import LiveUpdate.Proofs.Malformed

/-! What a domain event is to become: a list of notices, each with its audiences, its kind and its
payload. They become messages one after the other, up to the first whose payload does not fit on a
line. Only what is pending and the journal change; and in which order affected students are named,
and how often, is all the same to everybody. -/
namespace LiveUpdate

/-- A message as it is meant, before anything is made of it. -/
structure Notice where
  scope : Scope
  kind : String
  payload : String
  deriving DecidableEq, Repr

def Message.notice (m : Message) : Notice := ⟨m.scope, m.event.kind, m.event.payload⟩

/-! ### First mentions -/

section firsts

variable {α κ : Type} [DecidableEq κ]

/-- Of a list, the entries whose key is that of no entry before them; some are before the list. -/
def firstsAfter (key : α → κ) (before : List α) : List α → List α
  | [] => []
  | x :: rest =>
    if key x ∈ before.map key then firstsAfter key (before ++ [x]) rest
    else x :: firstsAfter key (before ++ [x]) rest

def firsts (key : α → κ) (xs : List α) : List α := firstsAfter key [] xs

/-- To keep what has been kept in mind is to keep all that came before in mind. -/
theorem eraseDupsBy_loop (key : α → κ) (xs : List α) {kept before : List α}
    (h : ∀ k, k ∈ kept.map key ↔ k ∈ before.map key) :
    List.eraseDupsBy.loop (fun x y => key x == key y) xs kept =
      kept.reverse ++ firstsAfter key before xs := by
  induction xs generalizing kept before with
  | nil => simp [List.eraseDupsBy.loop, firstsAfter]
  | cons x rest ih =>
    have hany : kept.any (fun y => key x == key y) = decide (key x ∈ before.map key) := by
      rw [Bool.eq_iff_iff, decide_eq_true_iff, ← h]
      simp only [List.any_eq_true, beq_iff_eq, List.mem_map, @eq_comm κ (key x)]
    by_cases hx : key x ∈ before.map key
    · have hbefore : ∀ k, k ∈ kept.map key ↔ k ∈ (before ++ [x]).map key := by
        intro k
        rw [h, List.map_append, List.mem_append, List.map_singleton, List.mem_singleton]
        exact ⟨Or.inl, fun hk => hk.elim id (· ▸ hx)⟩
      simp only [List.eraseDupsBy.loop, hany, hx, decide_true, firstsAfter, if_true, ih hbefore]
    · have hbefore : ∀ k, k ∈ (x :: kept).map key ↔ k ∈ (before ++ [x]).map key := by
        intro k
        rw [List.map_cons, List.mem_cons, h, List.map_append, List.mem_append, List.map_singleton,
          List.mem_singleton, or_comm]
      simp only [List.eraseDupsBy.loop, hany, hx, decide_false, firstsAfter, if_false, ih hbefore]
      simp

theorem eraseDupsBy_eq_firsts (key : α → κ) (xs : List α) :
    xs.eraseDupsBy (fun x y => key x == key y) = firsts key xs :=
  eraseDupsBy_loop key xs fun _ => Iff.rfl

example : firsts Prod.fst [(2, "a"), (1, "b"), (2, "c"), (1, "d"), (3, "e")] =
    [(2, "a"), (1, "b"), (3, "e")] := by decide

end firsts

namespace DomainEvent

/-- Who is to hear what of a domain event, in this order. -/
def policy : DomainEvent → List Notice
  | categoriesChanged => [⟨.broadcast, "invalidate_categories", ""⟩]
  | periodsChanged => [⟨.broadcast, "invalidate_periods", ""⟩]
  | coursesChanged => [⟨.broadcast, "invalidate_courses", ""⟩]
  | gradesChanged => [⟨.broadcast, "invalidate_grades", ""⟩]
  | selectionsChanged students counts =>
    (if students = [] then []
      else [⟨.only ((firsts id students).map .student ++ [.unfiltered]), "invalidate_selections",
        ""⟩]) ++
    (firsts CourseCount.course (counts.filter (·.course ≠ ""))).map fun count =>
      ⟨.broadcast, "course_count_update", count.course ++ "," ++ Text.integerText count.students⟩
  | adminNotification message => [⟨.broadcast, "notify", message⟩]

/-- Whether something that is to be sent does not fit on a line: a notification, or a course. -/
def Breaks : DomainEvent → Prop
  | selectionsChanged _ counts =>
    ∃ count ∈ firsts CourseCount.course (counts.filter (·.course ≠ "")), ¬OneLine count.course
  | adminNotification message => ¬OneLine message
  | _ => False

end DomainEvent

/-! ### Plans -/

namespace Notice

def plan (n : Notice) : Plan := .single n.scope (Event.build n.kind n.payload)

def plans (notices : List Notice) : Plan :=
  notices.foldr (fun n rest => n.plan.append rest) .nothing

/-- A notice whose kind can be sent, whatever its payload is. -/
structure Kinded (n : Notice) : Prop where
  oneLine : OneLine n.kind
  speaks : n.kind ≠ ""

variable {n : Notice} {notices : List Notice}

theorem plan_of_oneLine (hk : n.Kinded) (hp : OneLine n.payload) :
    ∃ m : Message, m.notice = n ∧ n.plan = ⟨[m], none⟩ := by
  obtain ⟨e, he⟩ := Event.exists_build_iff.mpr ⟨hk.oneLine, hp, fun h => hk.speaks h.1⟩
  obtain ⟨hkind, hpayload⟩ := Event.build_eq_ok_iff.mp he
  refine ⟨⟨n.scope, e⟩, ?_, ?_⟩
  · simp [Message.notice, hkind, hpayload]
  · simp [plan, he, Plan.single]

theorem plan_of_broken (hk : n.Kinded) (hp : ¬OneLine n.payload) :
    n.plan = ⟨[], some (.brokenPayload n.kind)⟩ := by
  have herror := Event.build_eq_error_iff.mpr (.brokenPayload hk.oneLine hp)
  simp [plan, herror, Plan.single]

/-- The notices before the first that is broken become messages; that one is the reason why the rest
do not. -/
theorem plans_eq (h : ∀ n ∈ notices, n.Kinded) :
    (plans notices).messages.map Message.notice = notices.takeWhile (fun n => OneLine n.payload) ∧
      (plans notices).refusal =
        (notices.find? fun n => ¬OneLine n.payload).map fun n => .brokenPayload n.kind := by
  induction notices with
  | nil => exact ⟨rfl, rfl⟩
  | cons n rest ih =>
    obtain ⟨hn, hrest⟩ := List.forall_mem_cons.mp h
    obtain ⟨hmessages, hrefusal⟩ := ih hrest
    by_cases hp : OneLine n.payload
    · obtain ⟨m, hm, hplan⟩ := plan_of_oneLine hn hp
      have hplans : plans (n :: rest) = ⟨m :: (plans rest).messages, (plans rest).refusal⟩ := by
        rw [plans, List.foldr_cons, hplan]
        rfl
      simp [hplans, hm, hp, hmessages, hrefusal]
    · have hplans : plans (n :: rest) = ⟨[], some (.brokenPayload n.kind)⟩ := by
        rw [plans, List.foldr_cons, plan_of_broken hn hp]
        rfl
      simp [hplans, hp]

theorem plans_cons (n : Notice) (notices : List Notice) :
    plans (n :: notices) = n.plan.append (plans notices) := rfl

theorem plans_singleton (n : Notice) : plans [n] = n.plan := by
  cases hplan : n.plan with
  | mk messages refusal => cases refusal <;> simp [plans, Plan.append, Plan.nothing, hplan]

end Notice

namespace DomainEvent

open Notice

theorem kinded_policy (d : DomainEvent) : ∀ n ∈ d.policy, n.Kinded := by
  have hkinded {scope : Scope} {payload : String} (kind : String) (h : OneLine kind ∧ kind ≠ "") :
      (⟨scope, kind, payload⟩ : Notice).Kinded := ⟨h.1, h.2⟩
  cases d with
  | selectionsChanged students counts =>
    intro n hn
    rcases List.mem_append.mp hn with hn | hn
    · split at hn
      · cases hn
      · rw [List.mem_singleton.mp hn]
        exact hkinded _ (by decide)
    · obtain ⟨count, -, rfl⟩ := List.mem_map.mp hn
      exact hkinded _ (by decide)
  | _ => exact List.forall_mem_singleton.mpr (hkinded _ (by decide))

theorem plan_signal (scope : Scope) (r : Resource) :
    Notice.plan ⟨scope, r.eventKind, ""⟩ = .single scope (.ok (.invalidate r)) := by
  have hbuild : Event.build r.eventKind "" = .ok (.invalidate r) :=
    Event.build_eq_ok_iff.mpr ⟨rfl, rfl⟩
  simp [Notice.plan, hbuild]

theorem distinctStudents_eq (students : List StudentId) :
    distinctStudents students = firsts id students := eraseDupsBy_eq_firsts id students

theorem countPlan_eq (counts : List CourseCount) : countPlan counts =
    plans ((firsts CourseCount.course (counts.filter (·.course ≠ ""))).map fun count =>
      ⟨.broadcast, "course_count_update",
        count.course ++ "," ++ Text.integerText count.students⟩) := by
  rw [countPlan, distinctCounts, eraseDupsBy_eq_firsts, plans, List.foldr_map]
  rfl

theorem selectionPlan_of_ne {students : List StudentId} (h : students ≠ []) :
    selectionPlan students =
      .single (.only ((distinctStudents students).map .student ++ [.unfiltered]))
        (.ok (.invalidate .selections)) := by
  have hsome : distinctStudents students ≠ [] := by
    simpa only [ne_eq, List.eq_nil_iff_forall_not_mem, distinctStudents, List.mem_eraseDups] using h
  unfold selectionPlan
  split
  · contradiction
  · rfl

/-- What the handler plans is what the policy says. -/
theorem plan_eq_plans (d : DomainEvent) : d.plan = plans d.policy := by
  cases d with
  | selectionsChanged students counts =>
    rw [DomainEvent.plan, countPlan_eq, policy, ← distinctStudents_eq]
    by_cases hs : students = []
    · rw [if_pos hs, hs]
      rfl
    · rw [if_neg hs, List.singleton_append, plans_cons, selectionPlan_of_ne hs]
      exact congrArg (Plan.append · _) (plan_signal _ .selections).symm
  | adminNotification message =>
    exact (plans_singleton ⟨.broadcast, "notify", message⟩).symm
  | _ => exact ((plans_singleton _).trans (plan_signal .broadcast _)).symm

theorem oneLine_countText {course : String} {n : Int} :
    OneLine (course ++ "," ++ Text.integerText n) ↔ OneLine course := by
  have hcomma : OneLine "," := by decide
  rw [OneLine.append, OneLine.append]
  exact ⟨fun h => h.1.1, fun h => ⟨⟨h, hcomma⟩, oneLine_integerText n⟩⟩

theorem breaks_iff {d : DomainEvent} : d.Breaks ↔ ∃ n ∈ d.policy, ¬OneLine n.payload := by
  cases d with
  | selectionsChanged students counts =>
    constructor
    · rintro ⟨count, hcount, hbroken⟩
      exact ⟨_, List.mem_append_right _ (List.mem_map_of_mem hcount),
        mt oneLine_countText.mp hbroken⟩
    · rintro ⟨n, hn, hbroken⟩
      rcases List.mem_append.mp hn with hn | hn
      · split at hn
        · cases hn
        · rw [List.mem_singleton.mp hn] at hbroken
          exact absurd oneLine_empty hbroken
      · obtain ⟨count, hcount, rfl⟩ := List.mem_map.mp hn
        exact ⟨count, hcount, mt oneLine_countText.mpr hbroken⟩
  | adminNotification message => simp [Breaks, policy]
  | _ => simp [Breaks, policy, oneLine_empty]

/-! ### Which students are named, and how -/

theorem covers_distinct {students students' : List StudentId}
    (h : ∀ id, id ∈ students ↔ id ∈ students') (a : Audience) :
    (Scope.only ((distinctStudents students).map .student ++ [.unfiltered])).covers a =
      (Scope.only ((distinctStudents students').map .student ++ [.unfiltered])).covers a := by
  rw [Bool.eq_iff_iff]
  cases a <;> simp [Scope.covers, distinctStudents, List.mem_eraseDups, h]

theorem selectionPlan_alike {students students' : List StudentId}
    (h : ∀ id, id ∈ students ↔ id ∈ students') :
    List.Forall₂ Command.Alike ((selectionPlan students).messages.map .send)
      ((selectionPlan students').messages.map .send) := by
  have hnil : students = [] ↔ students' = [] := by
    simp only [List.eq_nil_iff_forall_not_mem, h]
  by_cases hs : students = []
  · rw [hs, hnil.mp hs]
    exact Command.alike_refl _
  · rw [selectionPlan_of_ne hs, selectionPlan_of_ne (mt hnil.mpr hs)]
    exact .cons ⟨rfl, covers_distinct h⟩ .nil

end DomainEvent

/-! ### Handling -/

namespace Session

/-- What is reported while a domain event is handled. -/
def handlingLines (s : Session) (d : DomainEvent) : List Entry :=
  .handling d.name ::
    (if s.hub.running then [] else List.replicate d.plan.messages.length .discarded) ++ lastLines d

/-- Handling a domain event adds to what is pending and to the journal, and that is all. -/
theorem handle_eq (s : Session) (d : DomainEvent) : s.handle d =
    (d.plan.refusal,
      { s with
        hub := { s.hub with
          pending := s.hub.pending ++ if s.hub.running then d.plan.messages.map .send else []
          journal := s.hub.journal ++ s.handlingLines d } }) := by
  have hhub : (s.handle d).2.hub = ((s.hub.log (.handling d.name)).submitAll
      (d.plan.messages.map .send)).logAll (lastLines d) := by
    rw [s.handle_hub d, handleCourse, Hub.undergo_append, Hub.undergo_leaving _ ?_]
    · rfl
    · simp [Command.isPlain]
  have hsession : s.handle d = (d.plan.refusal, { s with hub := (s.handle d).2.hub }) := rfl
  rw [hsession, hhub, Hub.submitAll_eq]
  by_cases hr : s.hub.running <;> simp [Hub.logAll, Hub.log, handlingLines, hr]

/-- Students may be named in any order, and more than once. -/
theorem handle_alike (s : Session) {students students' : List StudentId}
    (h : ∀ id, id ∈ students ↔ id ∈ students') (counts : List CourseCount) :
    (s.handle (.selectionsChanged students counts)).2.hub.Alike
      (s.handle (.selectionsChanged students' counts)).2.hub := by
  simp only [handle_eq, DomainEvent.selectionsChanged_messages, List.map_append]
  refine ⟨⟨_, _, _, rfl⟩, fun _ => rfl, List.rel_append (Command.alike_refl _) ?_⟩
  by_cases hr : s.hub.running
  · simp only [hr, if_true]
    exact List.rel_append (DomainEvent.selectionPlan_alike h) (Command.alike_refl _)
  · simp only [hr, Bool.false_eq_true, if_false]
    exact .nil

/-! ### Order -/

theorem orderly_destroyTask {s : Session} (h : s.hub.Orderly) (i : Nat) :
    (s.replaceTask i Task.destroy).hub.Orderly := by
  cases hi : s.tasks.get? i with
  | none => simpa only [replaceTask, hi] using h
  | some t =>
    have hplain := fun x hx => Command.plain_of_departs (t.destroy_departs x hx)
    rw [replaceTask_hub hi, ← Hub.undergo_handing hplain]
    refine Hub.Orderly.undergo ?_ _
    split
    · exact h.updateMailbox fun _ _ => rfl
    · exact h

/-- The loss of the hub leaves nothing in disorder. -/
theorem orderly_crash {s : Session} (h : s.hub.Orderly) : s.crash.hub.Orderly := by
  have hgreetings (gs : List Greeting) (s : Session) (h : s.hub.Orderly) :
      (gs.foldl (fun s g => s.abandon g.connection) s).hub.Orderly := by
    induction gs generalizing s with
    | nil => exact h
    | cons g rest ih => exact ih _ (h.updateMailbox fun _ _ => rfl)
  have htasks (is : List Nat) (s : Session) (h : s.hub.Orderly) :
      (is.foldl (fun s i => s.replaceTask i Task.destroy) s).hub.Orderly := by
    induction is generalizing s with
    | nil => exact h
    | cons i rest ih => exact ih _ (orderly_destroyTask h i)
  have hhalted : s.hub.halt.Orderly := h.stop.of_eq rfl rfl (fun _ => rfl) (Nat.le_refl _)
  exact htasks _ _ (hgreetings _ _ hhalted)

theorem orderly_meetAll {config : Config} {start : Session} (h : start.hub.Orderly)
    (incidents : List Incident) : (start.meetAll config incidents).hub.Orderly := by
  induction incidents generalizing start with
  | nil => exact h
  | cons incident rest ih =>
    refine ih ?_
    cases incident with
    | action action =>
      rw [meet, enact_hub]
      exact h.undergo _
    | crash => exact orderly_crash h

/-- Handling a domain event submits the messages of its policy, in that order, up to the first that
cannot be sent; that there is such a message is the only reason to refuse the event, and nothing
else at the hub is touched. Which students are named counts, but not in which order or how often. -/
theorem audience_policy {config : Config} {start : Session}
    (hstart : ofConfig? config = .ok start) (incidents : List Incident) (d : DomainEvent) :
    let s := start.meetAll config incidents
    (∃ messages : List Message,
      messages.map Message.notice = d.policy.takeWhile (fun n => OneLine n.payload) ∧
      (¬d.Breaks → messages.map Message.notice = d.policy) ∧
      (s.handle d).2 =
        { s with
          hub := { s.hub with
            pending := s.hub.pending ++ if s.hub.running then messages.map .send else []
            journal := s.hub.journal ++ s.handlingLines d } }) ∧
    (s.handle d).1 =
      (d.policy.find? fun n => ¬OneLine n.payload).map (fun n => .brokenPayload n.kind) ∧
    ((s.handle d).1.isSome ↔ d.Breaks) ∧
    ∀ students students' counts, (∀ id, id ∈ students ↔ id ∈ students') → ∀ course,
      let hub := (s.handle (.selectionsChanged students counts)).2.hub.undergo course
      let hub' := (s.handle (.selectionsChanged students' counts)).2.hub.undergo course
      (∀ c, hub'.mailbox? c = hub.mailbox? c) ∧ hub'.stats = hub.stats ∧
        hub'.answers = hub.answers := by
  intro s
  have horderly : s.hub.Orderly := orderly_meetAll (lasting_ofConfig hstart).orderly incidents
  obtain ⟨hmessages, hrefusal⟩ := Notice.plans_eq d.kinded_policy
  rw [← d.plan_eq_plans] at hmessages hrefusal
  refine ⟨⟨d.plan.messages, hmessages, fun hwhole => ?_, by rw [handle_eq]⟩, hrefusal, ?_, ?_⟩
  · rw [hmessages, List.takeWhile_eq_self_iff]
    intro n hn
    by_contra hbroken
    exact hwhole (DomainEvent.breaks_iff.mpr ⟨n, hn, by simpa using hbroken⟩)
  · rw [DomainEvent.breaks_iff, handle_eq, hrefusal, Option.isSome_map, List.find?_isSome]
    simp only [decide_eq_true_eq]
  · intro students students' counts hsame course
    have hhandled (students : List StudentId) :
        (s.handle (.selectionsChanged students counts)).2.hub.Orderly := by
      rw [handle_hub]
      exact horderly.undergo _
    have halike := (s.handle_alike hsame counts).undergo (hhandled students) (hhandled students')
      course
    exact ⟨halike.mailbox, halike.stats, halike.answers⟩

/-- The fourth course cannot be told, and so the fifth is not told either. -/
theorem audience_policy_broken :
    let counts : List CourseCount := [⟨"A", 1⟩, ⟨"", 9⟩, ⟨"A", 2⟩, ⟨"B\n", 3⟩, ⟨"C", 4⟩]
    let incidents : List Incident := [.action (.register (.student 5)), .action (.web .settle)]
    ∃ start, ofConfig? Config.standard = .ok start ∧
      let s := start.meetAll Config.standard incidents
      (s.handle (.selectionsChanged [5, 3, 5] counts)).1 =
        some (.brokenPayload "course_count_update") ∧
      (∃ messages : List Message,
        messages.map Message.notice =
          [⟨.only [.student 5, .student 3, .unfiltered], "invalidate_selections", ""⟩,
            ⟨.broadcast, "course_count_update", "A,1"⟩] ∧
        (s.handle (.selectionsChanged [5, 3, 5] counts)).2.hub.pending = messages.map .send) ∧
      ∀ course c,
        ((s.handle (.selectionsChanged [3, 5] counts)).2.hub.undergo course).mailbox? c =
          ((s.handle (.selectionsChanged [5, 3, 5] counts)).2.hub.undergo course).mailbox? c := by
  intro counts incidents
  let start : Session := (Session.start 256 (by decide)).onHub fun hub =>
    { hub with journal := settings Config.standard :: hub.journal }
  have hstart : ofConfig? Config.standard = .ok start := rfl
  obtain ⟨⟨messages, hmessages, -, hafter⟩, hrefusal, -, hsame⟩ :=
    audience_policy hstart incidents (.selectionsChanged [5, 3, 5] counts)
  refine ⟨start, hstart, hrefusal.trans (by decide +kernel), ⟨messages, ?_, ?_⟩, fun course c => ?_⟩
  · exact hmessages.trans (by decide +kernel)
  · have hpending : (start.meetAll Config.standard incidents).hub.pending = [] := by
      decide +kernel
    have hrunning : (start.meetAll Config.standard incidents).hub.running = true := by
      decide +kernel
    rw [hafter]
    simp only [hpending, hrunning, if_true, List.nil_append]
  · have hnamed : ∀ id : StudentId, id ∈ [5, 3, 5] ↔ id ∈ [3, 5] := by grind
    exact (hsame [5, 3, 5] [3, 5] counts hnamed course).1 c

end Session
end LiveUpdate
