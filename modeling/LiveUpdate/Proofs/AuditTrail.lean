import LiveUpdate.Proofs.AccessControl
import LiveUpdate.Proofs.Conservation
import LiveUpdate.Proofs.Shutdown

/-! The journal as an audit trail. The control loop writes a line for every connection that comes or
goes and for every event that a connection misses, and nobody else writes such lines. So at any time
the lines add up to the figures, and those about one connection tell its story in order. -/
namespace LiveUpdate

/-! ### Lines -/

namespace Entry

/-- Whether an entry is of this level and its words begin so. -/
def reads (level : Level) (words : String) (name : ConnectionId → String) (entry : Entry) : Bool :=
  entry.level = level && words.toList.isPrefixOf (entry.message name).toList

def isArrival : Entry → Bool
  | registered .. => true
  | _ => false

def isDeparture : Entry → Bool
  | unregistered .. => true
  | _ => false

def isMiss : Entry → Bool
  | droppedFor .. => true
  | _ => false

/-- The connection that comes, goes or misses something according to an entry. -/
def subject? : Entry → Option ConnectionId
  | registered c _ | unregistered c _ | droppedFor _ c _ => some c
  | _ => none

variable {name : ConnectionId → String}

theorem isPrefixOf_append (s t : List Char) : s.isPrefixOf (s ++ t) = true :=
  List.isPrefixOf_iff_prefix.mpr (List.prefix_append s t)

/-- The words of an entry and its level tell what it is: no other warning begins like this. -/
theorem reads_miss (entry : Entry) :
    entry.reads .warn "Dropping event " name = entry.isMiss := by
  unfold reads
  delta message
  cases entry with
  | droppedFor e c a =>
    simp only [String.toList_append, List.append_assoc, isPrefixOf_append]
    rfl
  | pumpStopped side c why =>
    cases side <;> simp only [String.toList_append, List.append_assoc] <;> rfl
  | upgradeFailed | greetingFailed | originIgnored =>
    simp only [String.toList_append, List.append_assoc]
    rfl
  | identityUntrusted =>
    dsimp only
    decide +kernel
  | _ => rfl

theorem reads_arrival (entry : Entry) :
    entry.reads .info "Registered live connection " name = entry.isArrival := by
  unfold reads
  delta message
  cases entry with
  | registered c a =>
    simp only [String.toList_append, isPrefixOf_append]
    rfl
  | settings | started | stopped | unregistered | connectionClosed | established | broadcasting
  | starting | serving =>
    simp only [String.toList_append, List.append_assoc]
    rfl
  | identityTrusted =>
    dsimp only
    decide +kernel
  | _ => rfl

theorem reads_departure (entry : Entry) :
    entry.reads .info "Unregistered live connection " name = entry.isDeparture := by
  unfold reads
  delta message
  cases entry with
  | unregistered c a =>
    simp only [String.toList_append, isPrefixOf_append]
    rfl
  | settings | started | stopped | registered | connectionClosed | established | broadcasting
  | starting | serving =>
    simp only [String.toList_append, List.append_assoc]
    rfl
  | identityTrusted =>
    dsimp only
    decide +kernel
  | _ => rfl

end Entry

/-! ### What is written about a connection -/

namespace Hub

open Entry

variable {hub : Hub} {c : ConnectionId} {m : Message} {rest : List Command}

/-- The lines of the journal about a connection. -/
def trail (hub : Hub) (c : ConnectionId) : List Entry :=
  hub.journal.filter fun entry => entry.subject? = some c

/-- The line about an event that comes up for a connection, if there is no room for it. -/
def misses (hub : Hub) (e : Event) (c : ConnectionId) : List Entry :=
  if hub.isOpen c && hub.isFull c then
    (hub.registry.audiences.get? c).toList.map (.droppedFor e c)
  else []

/-- What the loop writes about a connection when it applies a command. -/
def lines (hub : Hub) (c : ConnectionId) : Command → List Entry
  | .register c' a => if c' = c then [.registered c a] else []
  | .unregister c' =>
    if c' = c then (hub.registry.audiences.get? c).toList.map (.unregistered c) else []
  | .send m => if hub.isMeant m c then hub.misses m.event c else []
  | .stats _ => []

theorem trail_log (hub : Hub) (entry : Entry) (c : ConnectionId) :
    (hub.log entry).trail c = hub.trail c ++ if entry.subject? = some c then [entry] else [] := by
  simp only [trail, log, List.filter_append, List.filter_cons, List.filter_nil, decide_eq_true_eq]

/-- Whoever is registered misses an event just when its mailbox has it dropped. -/
theorem misses_eq {a : Audience} {box : Mailbox} (ha : hub.registry.audiences.get? c = some a)
    (hbox : hub.mailbox? c = some box) (e : Event) : hub.misses e c =
      if (box.offer hub.capacity e).1 = .dropped then [.droppedFor e c a] else [] := by
  simp [misses, isOpen, isFull, ha, hbox, Mailbox.offer_dropped_iff]

/-- What an offer is told by. -/
def tells (e : Event) (c : ConnectionId) (a : Audience) : Delivery → List Entry
  | .delivered => []
  | .dropped => [.droppedFor e c a]
  | .refused => [.stoppedReading c]

theorem deliver_told {a : Audience} {box : Mailbox} (ha : hub.registry.audiences.get? c = some a)
    (hbox : hub.mailbox? c = some box) (e : Event) :
    (deliver e hub c).journal = hub.journal ++ tells e c a (box.offer hub.capacity e).1 := by
  have hget : hub.mailboxes.get? c = some box := hbox
  simp only [deliver, ha, hget]
  split <;> rename_i hoffer <;> simp [hoffer, tells, log]

theorem deliver_of_stranger (e : Event)
    (h : hub.registry.audiences.get? c = none ∨ hub.mailbox? c = none) :
    deliver e hub c = hub := by
  unfold deliver
  split
  · rename_i a box ha hbox
    have hbox' : hub.mailbox? c = some box := hbox
    rw [ha, hbox'] at h
    exact h.elim nofun nofun
  · rfl

/-- An offer is told of in the line of its connection, and in no other. -/
theorem trail_deliver (e : Event) (hub : Hub) (c c' : ConnectionId) :
    (deliver e hub c').trail c = hub.trail c ++ if c' = c then hub.misses e c else [] := by
  cases ha : hub.registry.audiences.get? c' with
  | none =>
    rw [deliver_of_stranger e (.inl ha), misses]
    grind
  | some a =>
    cases hbox : hub.mailbox? c' with
    | none =>
      rw [deliver_of_stranger e (.inr hbox), misses, isOpen]
      grind
    | some box =>
      have hmisses := misses_eq ha hbox e
      rw [trail, deliver_told ha hbox, List.filter_append, trail]
      congr 1
      by_cases hc : c' = c
      · subst hc
        rw [if_pos rfl, hmisses]
        cases (box.offer hub.capacity e).1 <;> simp [tells, subject?]
      · cases (box.offer hub.capacity e).1 <;> simp [tells, subject?, hc]

/-- Of several offers, each is told of as things stood at the beginning. -/
theorem trail_foldl_deliver (e : Event) {cs : List ConnectionId} (hub : Hub) (hd : cs.Nodup)
    (c : ConnectionId) :
    (cs.foldl (deliver e) hub).trail c = hub.trail c ++ if c ∈ cs then hub.misses e c else [] := by
  induction cs generalizing hub with
  | nil => simp
  | cons c' cs ih =>
    obtain ⟨hc', hcs⟩ := List.nodup_cons.mp hd
    rw [List.foldl_cons, ih _ hcs, trail_deliver, List.append_assoc]
    by_cases hc : c' = c
    · subst hc
      rw [if_pos rfl, if_neg hc', if_pos List.mem_cons_self, List.append_nil]
    · obtain ⟨_, _, _, _, hframe⟩ := deliver_frame e hub c'
      have hbox := @mailbox?_deliver_of_ne hub e c' c (Ne.symm hc)
      have hsame : (deliver e hub c').misses e c = hub.misses e c := by
        unfold misses isOpen isFull
        rw [hbox, hframe]
      simp only [hsame, List.mem_cons, Ne.symm hc, hc, if_false, List.nil_append, false_or]

/-- A command is told of in the lines that it has for each connection. -/
theorem trail_apply (hi : hub.registry.Indexed) (command : Command) (c : ConnectionId) :
    (hub.apply command).trail c = hub.trail c ++ hub.lines c command := by
  cases command with
  | register c' a =>
    rw [apply, trail_log, lines]
    by_cases hc : c' = c
    · subst hc
      simp [subject?, trail]
    · simp [subject?, hc, trail]
  | unregister c' =>
    cases ha : hub.registry.audiences.get? c' with
    | none =>
      simp only [apply, Registry.unregister_none ha, trail_log, subject?, lines]
      grind
    | some a =>
      simp only [apply, Registry.unregister_some ha, trail_log, subject?, lines]
      by_cases hc : c' = c
      · subst hc
        simp [ha, trail]
      · simp [hc, trail]
  | send m =>
    have hmem : c ∈ hub.registry.recipients m.scope ↔ hub.isMeant m c = true := by
      rw [hi.mem_recipients, isMeant, Option.any_eq_true]
    simp only [apply, trail_log, subject?, lines, fanOut]
    rw [trail_foldl_deliver m.event hub (hi.nodup_recipients m.scope)]
    simp [hmem]
  | stats ticket => simp [apply, lines, trail]

/-! ### The story of a connection -/

/-- What the lines about a connection tell: nothing, as long as it has not been registered; that it
came, and what it has missed since; and in the end that it went. -/
inductive Story (c : ConnectionId) (missed : List Event) : Option Audience → List Entry → Prop
  | untold : missed = [] → Story c missed none []
  | present (a : Audience) :
    Story c missed (some a) (.registered c a :: missed.map (.droppedFor · c a))
  | gone (a : Audience) : Story c missed none
      (.registered c a :: missed.map (.droppedFor · c a) ++ [.unregistered c a])

/-- The events that a connection misses by a command. -/
def missedBy (hub : Hub) (c : ConnectionId) (command : Command) : List Event :=
  if hub.isOpen c && hub.isFull c then command.offers (hub.registry.audiences.get? c) else []

/-- Every command continues the story, if nobody comes twice. -/
theorem Story.apply {missed : List Event} {entries : List Entry}
    (h : Story c missed (hub.registry.audiences.get? c) entries) (command : Command)
    (hnew : ∀ a, command = .register c a → entries = []) :
    Story c (missed ++ hub.missedBy c command)
      (command.restate c (hub.registry.audiences.get? c)) (entries ++ hub.lines c command) := by
  have hsame (hmissed : hub.missedBy c command = []) (hlines : hub.lines c command = [])
      (hstays : command.restate c (hub.registry.audiences.get? c) =
        hub.registry.audiences.get? c) :
      Story c (missed ++ hub.missedBy c command)
        (command.restate c (hub.registry.audiences.get? c))
        (entries ++ hub.lines c command) := by
    rwa [hmissed, hlines, hstays, List.append_nil, List.append_nil]
  cases command with
  | register c' a =>
    have hnothing : hub.missedBy c (.register c' a) = [] := by simp [missedBy, Command.offers]
    by_cases hc : c' = c
    · subst hc
      obtain rfl := hnew a rfl
      generalize hub.registry.audiences.get? c' = before at h
      obtain ⟨rfl⟩ := h
      rw [hnothing]
      simpa [lines, Command.restate] using @Story.present c' [] a
    · exact hsame hnothing (if_neg hc) (if_neg fun he => hc he.symm)
  | unregister c' =>
    have hnothing : hub.missedBy c (.unregister c') = [] := by simp [missedBy, Command.offers]
    by_cases hc : c' = c
    · subst hc
      rw [hnothing, List.append_nil, lines, if_pos rfl, Command.restate, if_pos rfl]
      generalize hub.registry.audiences.get? c' = before at h
      cases h with
      | untold hmissed => exact .untold hmissed
      | present a => exact .gone a
      | gone a => simpa using @Story.gone c' missed a
    · exact hsame hnothing (if_neg hc) (if_neg fun he => hc he.symm)
  | send m =>
    obtain ⟨before, hbefore⟩ : ∃ before, hub.registry.audiences.get? c = before := ⟨_, rfl⟩
    simp only [Command.restate, lines, missedBy, misses, isMeant, Command.offers, hbefore]
    rw [hbefore] at h
    cases before with
    | none => simpa using h
    | some a =>
      cases h
      by_cases hfull : (hub.isOpen c && hub.isFull c) = true
      · by_cases hcovers : m.scope.covers a = true
        · simpa [hfull, hcovers] using @Story.present c (missed ++ [m.event]) a
        · simpa [hfull, hcovers] using @Story.present c missed a
      · simpa [hfull] using @Story.present c missed a
  | stats ticket => exact hsame (by simp [missedBy, Command.offers]) rfl rfl

/-- A line about a dropped event names a connection that has no room, with its audience. -/
theorem full_of_line {command : Command} {e : Event} {a : Audience}
    (h : .droppedFor e c a ∈ hub.lines c command) :
    hub.registry.audiences.get? c = some a ∧ hub.isOpen c = true ∧ hub.isFull c = true := by
  cases command with
  | register c' a' =>
    simp only [lines] at h
    split at h <;> simp at h
  | unregister c' =>
    simp only [lines] at h
    split at h <;> simp at h
  | send m =>
    simp only [lines, misses] at h
    grind
  | stats ticket => cases h

/-- Whoever is registered has been told of. -/
theorem Story.told {missed : List Event} {before : Option Audience} {entries : List Entry}
    (h : Story c missed before entries) (hthere : before.isSome = true) : entries ≠ [] := by
  cases h with
  | untold => cases hthere
  | present a => exact List.cons_ne_nil _ _
  | gone a => cases hthere

/-- A line is about a connection that comes or is there. -/
theorem register_of_lines {command : Command} (h : hub.lines c command ≠ []) :
    (∃ a, command = .register c a) ∨ (hub.registry.audiences.get? c).isSome = true := by
  by_cases hthere : (hub.registry.audiences.get? c).isSome = true
  · exact .inr hthere
  · have habsent := Option.not_isSome_iff_eq_none.mp hthere
    cases command with
    | register c' a =>
      simp only [lines] at h
      split at h
      · rename_i hc
        exact .inl ⟨a, hc ▸ rfl⟩
      · exact absurd rfl h
    | unregister c' => simp [lines, habsent] at h
    | send m => simp [lines, isMeant, habsent] at h
    | stats ticket => exact absurd rfl h

end Hub

/-! ### What the lines add up to -/

namespace Table

variable {κ α : Type} [DecidableEq κ] {t : Table κ α} {k : κ} {v : α}

omit [DecidableEq κ] in
theorem size_eq_length_keys (t : Table κ α) : t.size = t.keys.length :=
  (List.length_map Prod.fst).symm

theorem size_insert_of_absent (h : t.get? k = none) (v : α) :
    (t.insert k v).size = t.size + 1 := by
  have hnot : k ∉ t.keys := by simp [mem_keys_iff, h]
  have hperm : (t.insert k v).keys.Perm (k :: t.keys) := by
    refine (List.perm_ext_iff_of_nodup (nodup_keys _) (t.nodup_keys.cons hnot)).mpr fun x => ?_
    rw [mem_keys_iff, get?_insert, List.mem_cons, mem_keys_iff]
    split <;> simp_all
  rw [size_eq_length_keys, hperm.length_eq, List.length_cons, size_eq_length_keys]

theorem size_erase_of_present (h : t.get? k = some v) : (t.erase k).size + 1 = t.size := by
  have hnot : k ∉ (t.erase k).keys := by simp [mem_keys_iff]
  have hperm : t.keys.Perm (k :: (t.erase k).keys) := by
    refine (List.perm_ext_iff_of_nodup t.nodup_keys ((nodup_keys _).cons hnot)).mpr fun x => ?_
    rw [List.mem_cons, mem_keys_iff, mem_keys_iff, get?_erase]
    split <;> simp_all
  rw [size_eq_length_keys, size_eq_length_keys, hperm.length_eq, List.length_cons]

end Table

namespace Registry

variable {r : Registry} {c : ConnectionId}

theorem connectionCount_register (h : r.audiences.get? c = none) (a : Audience) :
    (r.register c a).connectionCount = r.connectionCount + 1 := by
  rw [register, unregister_none h]
  exact Table.size_insert_of_absent h a

theorem connectionCount_unregister {a : Audience} (h : r.audiences.get? c = some a) :
    (r.unregister c).2.connectionCount + 1 = r.connectionCount := by
  rw [unregister_some h]
  exact Table.size_erase_of_present h

end Registry

namespace Hub

open Entry

variable {hub : Hub} {c : ConnectionId} {rest : List Command}

/-- Every event that is dropped is counted where it is told of. -/
theorem deliver_misses (e : Event) (hub : Hub) (c : ConnectionId) :
    (deliver e hub c).journal.countP isMiss + hub.dropped =
      hub.journal.countP isMiss + (deliver e hub c).dropped := by
  unfold deliver
  split
  · split <;> simp [log, isMiss, Nat.add_comm, Nat.add_left_comm]
  · rfl

theorem foldl_deliver_misses (e : Event) (cs : List ConnectionId) (hub : Hub) :
    (cs.foldl (deliver e) hub).journal.countP isMiss + hub.dropped =
      hub.journal.countP isMiss + (cs.foldl (deliver e) hub).dropped := by
  induction cs generalizing hub with
  | nil => rfl
  | cons c cs ih =>
    have hfirst := deliver_misses e hub c
    have hrest := ih (deliver e hub c)
    rw [List.foldl_cons]
    omega

/-- No offer lets anybody come or go. -/
theorem foldl_deliver_filter {p : Entry → Bool} (hmiss : ∀ e c a, p (.droppedFor e c a) = false)
    (hrefusal : ∀ c, p (.stoppedReading c) = false) (e : Event) (cs : List ConnectionId)
    (hub : Hub) : (cs.foldl (deliver e) hub).journal.countP p = hub.journal.countP p := by
  induction cs generalizing hub with
  | nil => rfl
  | cons c cs ih =>
    rw [List.foldl_cons, ih]
    unfold deliver
    split
    · split <;> simp [log, hmiss, hrefusal]
    · rfl

/-- The lines about misses are as many as were counted, and the connections of the table are as
many as those that came, less those that went. -/
structure Tallied (hub : Hub) : Prop where
  misses : hub.journal.countP isMiss = hub.dropped
  balance : hub.registry.connectionCount + hub.journal.countP isDeparture =
    hub.journal.countP isArrival

theorem Tallied.apply (h : hub.Tallied) {command : Command}
    (hnew : ∀ c a, command = .register c a → hub.registry.audiences.get? c = none) :
    (hub.apply command).Tallied := by
  obtain ⟨hmisses, hbalance⟩ := h
  cases command with
  | register c a =>
    have hcount := Registry.connectionCount_register (hnew c a rfl) a
    refine ⟨by simpa [Hub.apply, log, isMiss] using hmisses, ?_⟩
    simp [Hub.apply, log, isArrival, isDeparture, hcount]
    omega
  | unregister c =>
    cases ha : hub.registry.audiences.get? c with
    | none =>
      simp only [Hub.apply, Registry.unregister_none ha]
      exact ⟨by simpa [log, isMiss] using hmisses,
        by simpa [log, isArrival, isDeparture] using hbalance⟩
    | some a =>
      have hcount := Registry.connectionCount_unregister ha
      rw [Registry.unregister_some ha] at hcount
      simp only [Hub.apply, Registry.unregister_some ha]
      refine ⟨by simpa [log, isMiss] using hmisses, ?_⟩
      simp only [log, List.countP_append, List.countP_singleton, isArrival, isDeparture]
      simp only [] at hcount
      simp
      omega
  | send m =>
    have hcount := foldl_deliver_misses m.event (hub.registry.recipients m.scope) hub
    have hregistry : (hub.fanOut m).registry = hub.registry := by
      obtain ⟨_, _, _, _, hframe⟩ := hub.fanOut_frame m
      rw [hframe]
    have harrivals : (hub.fanOut m).journal.countP isArrival = hub.journal.countP isArrival :=
      foldl_deliver_filter (fun _ _ _ => rfl) (fun _ => rfl) m.event _ hub
    have hdepartures : (hub.fanOut m).journal.countP isDeparture =
        hub.journal.countP isDeparture :=
      foldl_deliver_filter (fun _ _ _ => rfl) (fun _ => rfl) m.event _ hub
    rw [← fanOut] at hcount
    refine ⟨?_, ?_⟩
    · simp [Hub.apply, log, isMiss]
      omega
    · simpa [Hub.apply, log, isArrival, isDeparture, harrivals, hdepartures, hregistry] using
        hbalance
  | stats ticket => exact ⟨hmisses, hbalance⟩

/-! ### Courses -/

/-- Whether a happening leaves the lines of the loop to the loop. -/
def Happening.isQuiet : Happening → Bool
  | noted entries => entries.all fun entry => !entry.fromLoop
  | _ => true

/-- Nothing but a step writes lines of the loop. -/
theorem happen_filter {p : Entry → Bool} (hp : ∀ entry, entry.fromLoop = false → p entry = false)
    {x : Happening} (hquiet : x.isQuiet = true) (hx : x ≠ .act .step) :
    (hub.happen x).journal.filter p = hub.journal.filter p := by
  have hlog (hub : Hub) {entries : List Entry} (h : ∀ entry ∈ entries, entry.fromLoop = false) :
      (hub.journal ++ entries).filter p = hub.journal.filter p := by
    have hnone : entries.filter p = [] := List.filter_eq_nil_iff.mpr fun entry hentry => by
      simp [hp entry (h entry hentry)]
    rw [List.filter_append, hnone, List.append_nil]
  have hsubmit (hub : Hub) (command : Command) :
      (hub.submit command).journal.filter p = hub.journal.filter p := by
    unfold submit
    split
    · rfl
    · exact hlog hub (by simp [fromLoop])
  have hsendTo (audiences : List Audience) (e : Event) :
      (hub.sendTo audiences e).journal.filter p = hub.journal.filter p := by
    unfold sendTo
    split
    · exact hlog hub (by simp [fromLoop])
    · exact hsubmit hub _
  cases x with
  | noted entries =>
    refine hlog hub fun entry hentry => ?_
    simpa using List.all_eq_true.mp hquiet entry hentry
  | stopped => exact hlog hub (by simp [fromLoop])
  | act act =>
    cases act with
    | step => exact absurd rfl hx
    | register a =>
      rw [happen, perform, register_eq]
      exact hsubmit hub.opened _
    | unregister c => exact hsubmit hub _
    | send m => exact hsubmit hub _
    | sendTo audiences e => exact hsendTo audiences e
    | sendToStudents students e => exact hsendTo _ e
    | askStats => exact hsubmit { hub with nextTicket := hub.nextTicket + 1 } _
    | _ => rfl
  | _ => rfl

theorem applies_of_ne {x : Happening} (hx : x ≠ .act .step) : x.applies hub = [] := by
  refine List.eq_nil_iff_forall_not_mem.mpr fun command hcommand => ?_
  exact hx (pending_of_applies hcommand).1

/-- What a happening adds to the lines about a connection: those of the command that is applied. -/
theorem Orderly.trail_happen (h : hub.Orderly) {x : Happening} (hquiet : x.isQuiet = true)
    (c : ConnectionId) :
    (hub.happen x).trail c = hub.trail c ++ (x.applies hub).flatMap (hub.lines c) := by
  by_cases hx : x = .act .step
  · subst hx
    cases hp : hub.pending with
    | nil =>
      have hstays : hub.happen (.act .step) = hub := step_nil hp
      simp [hstays, Happening.applies, moment?, hp]
    | cons command rest =>
      have hindexed : (hub.popped rest).registry.Indexed := h.indexed
      have htrail : (hub.happen (.act .step)).trail c = hub.trail c ++ hub.lines c command := by
        rw [Hub.happen, Hub.perform, step_cons hp]
        exact trail_apply hindexed command c
      simp [htrail, Happening.applies, moment?, hp, Moment.command?]
  · rw [applies_of_ne hx, List.flatMap_nil, List.append_nil]
    exact happen_filter (fun entry h => by cases entry <;> first | rfl | cases h) hquiet hx

/-- The lines of the journal agree with the figures, and with the stories of all connections, given
what each of them has missed. Those of whom there is a story have been entered. -/
structure Audited (hub : Hub) (missed : ConnectionId → List Event) (entered : List ConnectionId) :
    Prop where
  tallied : hub.Tallied
  story : ∀ c, Story c (missed c) (hub.registry.audiences.get? c) (hub.trail c)
  entered : ∀ c, hub.trail c ≠ [] → c ∈ entered

variable {missed : ConnectionId → List Event} {entered : List ConnectionId}

theorem loses_of_ne {x : Happening} (hx : x ≠ .act .step) : x.loses hub c = [] :=
  (yields_nothing (by simp [applies_of_ne hx]) c).2

/-- What is said of no step. -/
theorem Audited.happen_of_ne (h : hub.Audited missed entered) {x : Happening}
    (hquiet : x.isQuiet = true) (hstopped : x ≠ .stopped) (hx : x ≠ .act .step) :
    (hub.happen x).Audited missed entered := by
  have hcount (p : Entry → Bool) (hp : ∀ entry, entry.fromLoop = false → p entry = false) :
      (hub.happen x).journal.countP p = hub.journal.countP p := by
    rw [List.countP_eq_length_filter, happen_filter hp hquiet hx, List.countP_eq_length_filter]
  have hmisses := hcount isMiss fun entry h => by cases entry <;> first | rfl | cases h
  have harrivals := hcount isArrival fun entry h => by cases entry <;> first | rfl | cases h
  have hdepartures := hcount isDeparture fun entry h => by cases entry <;> first | rfl | cases h
  have htrail (c : ConnectionId) : (hub.happen x).trail c = hub.trail c :=
    happen_filter (fun entry h => by cases entry <;> first | rfl | cases h) hquiet hx
  have hregistry : (hub.happen x).registry = hub.registry := by
    cases x with
    | act act => exact perform_registry fun he => hx (congrArg _ he)
    | stopped => exact absurd rfl hstopped
    | _ => rfl
  have hunsent : ∀ m, .send m ∉ x.applies hub := by simp [applies_of_ne hx]
  obtain ⟨-, hdropped⟩ := happen_counters hstopped hunsent
  refine ⟨⟨?_, ?_⟩, fun c => ?_, fun c hc => h.entered c (htrail c ▸ hc)⟩
  · rw [hmisses, hdropped, h.tallied.misses]
  · rw [hregistry, hdepartures, harrivals, h.tallied.balance]
  · rw [htrail, hregistry]
    exact h.story c

/-- A step writes about the connections what its command has them told of. -/
theorem Audited.step (h : hub.Audited missed entered) (ho : hub.Orderly) {command : Command}
    (hp : hub.pending = command :: rest)
    (hnodup : (entered ++ command.entrant?.toList).Nodup) :
    hub.step.Audited (fun c => missed c ++ hub.missedBy c command)
      (entered ++ command.entrant?.toList) := by
  have hnew (c : ConnectionId) (a : Audience) (hc : command = .register c a) :
      hub.trail c = [] := by
    subst hc
    by_contra htold
    have hdisjoint := (List.nodup_append.mp hnodup).2.2
    exact hdisjoint c (h.entered c htold) c (List.mem_singleton_self c) rfl
  have hindexed : (hub.popped rest).registry.Indexed := ho.indexed
  have htrail (c : ConnectionId) :
      ((hub.popped rest).apply command).trail c = hub.trail c ++ hub.lines c command :=
    trail_apply hindexed command c
  rw [step_cons hp]
  refine ⟨?_, fun c => ?_, fun c hc => ?_⟩
  · have hpopped : (hub.popped rest).Tallied := ⟨h.tallied.misses, h.tallied.balance⟩
    refine hpopped.apply fun c a hc => ?_
    have hstory := h.story c
    rw [hnew c a hc] at hstory
    generalize hbefore : hub.registry.audiences.get? c = before at hstory
    obtain ⟨-⟩ := hstory
    exact hbefore
  · have hstory := (h.story c).apply command fun a hc => hnew c a hc
    rw [htrail, apply_registry, Command.audiences_enact]
    exact hstory
  · rw [List.mem_append]
    rw [htrail] at hc
    by_cases htold : hub.trail c = []
    · rw [htold, List.nil_append] at hc
      rcases register_of_lines hc with ⟨a, rfl⟩ | hthere
      · exact .inr (List.mem_singleton_self c)
      · exact absurd htold ((h.story c).told hthere)
    · exact .inl (h.entered c htold)

/-- Whatever happens to a running hub, the lines stay in agreement, if nobody is entered twice. -/
theorem Audited.happen (h : hub.Audited missed entered) (ho : hub.Orderly) {x : Happening}
    (hquiet : x.isQuiet = true) (hstopped : x ≠ .stopped)
    (hnodup : (entered ++ (x.applies hub).filterMap Command.entrant?).Nodup) :
    (hub.happen x).Audited (fun c => missed c ++ x.loses hub c)
      (entered ++ (x.applies hub).filterMap Command.entrant?) := by
  by_cases hx : x = .act .step
  · subst hx
    cases hp : hub.pending with
    | nil =>
      have hnobody : Happening.applies hub (.act .step) = [] := by
        simp [Happening.applies, moment?, hp]
      have hnothing (c : ConnectionId) : Happening.loses hub c (.act .step) = [] :=
        (yields_nothing (by simp [hnobody]) c).2
      have hstays : hub.happen (.act .step) = hub := step_nil hp
      simpa only [hstays, hnobody, hnothing, List.filterMap_nil, List.append_nil] using h
    | cons command rest =>
      have hone : (Happening.applies hub (.act .step)).filterMap Command.entrant? =
          command.entrant?.toList := by
        cases hc : command.entrant? <;>
          simp [Happening.applies, moment?, hp, Moment.command?, hc]
      have hmissed (c : ConnectionId) :
          Happening.loses hub c (.act .step) = hub.missedBy c command := by
        simp only [Happening.loses, offering, hp, missedBy]
      simp only [hone, hmissed] at hnodup ⊢
      exact h.step ho hp hnodup
  · simpa only [applies_of_ne hx, loses_of_ne hx, List.filterMap_nil, List.append_nil] using
      h.happen_of_ne hquiet hstopped hx

theorem Audited.undergo (h : hub.Audited missed entered) (ho : hub.Orderly)
    {course : List Happening} (hquiet : ∀ x ∈ course, x.isQuiet = true)
    (hstopped : .stopped ∉ course) (hnodup : (entered ++ hub.enteredIn course).Nodup) :
    (hub.undergo course).Audited (fun c => missed c ++ hub.lostIn c course)
      (entered ++ hub.enteredIn course) := by
  induction course generalizing hub missed entered with
  | nil => simpa [lostIn, enteredIn, appliedIn] using h
  | cons x course ih =>
    obtain ⟨hx, hcourse⟩ := List.ne_and_not_mem_of_not_mem_cons hstopped
    have hentered : hub.enteredIn (x :: course) =
        (x.applies hub).filterMap Command.entrant? ++ (hub.happen x).enteredIn course :=
      List.filterMap_append
    rw [hentered, ← List.append_assoc] at hnodup ⊢
    have hfirst := h.happen ho (hquiet x List.mem_cons_self) (fun he => hx he.symm)
      (List.nodup_append.mp hnodup).1
    have hrest := ih hfirst (ho.happen x) (fun y hy => hquiet y (List.mem_cons_of_mem _ hy))
      hcourse hnodup
    simpa only [lostIn, glean_cons, undergo_cons, List.append_assoc] using hrest

theorem quiet_of_internal {x : Happening} (h : x.isInternal = true) : x.isQuiet = true := by
  cases x with
  | noted entries => exact h
  | _ => rfl

end Hub

/-! ### Sessions -/

namespace Session

open Hub (Happening doings)

variable {s : Session}

/-- A course that leaves the lines of the loop to the loop. -/
def Quiet (course : List Happening) : Prop := ∀ x ∈ course, x.isQuiet = true

theorem Quiet.append {first rest : List Happening} (hfirst : Quiet first) (hrest : Quiet rest) :
    Quiet (first ++ rest) := List.forall_mem_append.mpr ⟨hfirst, hrest⟩

theorem quiet_cons {x : Happening} {rest : List Happening} (hx : x.isQuiet = true) :
    Quiet (x :: rest) ↔ Quiet rest := by
  simp [Quiet, hx]

theorem quiet_doings (acts : List Hub.Act) : Quiet (doings acts) := by
  intro x hx
  obtain ⟨act, -, rfl⟩ := List.mem_map.mp hx
  rfl

theorem quiet_of_internal {course : List Happening} (h : ∀ x ∈ course, x.isInternal = true) :
    Quiet course := fun x hx => Hub.quiet_of_internal (h x hx)

theorem quiet_noted {entries : List Entry} (h : ∀ entry ∈ entries, entry.fromLoop = false) :
    (Happening.noted entries).isQuiet = true :=
  List.all_eq_true.mpr fun entry hentry => by simp [h entry hentry]

theorem quiet_effect (s : Session) (m : Move) : Quiet (s.effect m) := by
  rcases s.effect_cases m with ⟨hstopped, -⟩ | hinternal
  · rw [hstopped]
    exact (quiet_cons rfl).mpr (List.forall_mem_nil _)
  · exact quiet_of_internal hinternal

theorem quiet_settling (s : Session) : Quiet s.settling := by
  have hall (moves : List Move) (s : Session) : Quiet (s.effects moves) := by
    induction moves generalizing s with
    | nil => exact List.forall_mem_nil _
    | cons m rest ih => exact (s.quiet_effect m).append (ih _)
  exact hall _ _

theorem quiet_statsCourse (s : Session) : Quiet s.statsCourse := by
  rw [statsCourse, List.cons_append, quiet_cons rfl]
  exact (quiet_settling _).append (by simp [Quiet, Happening.isQuiet])

theorem quiet_handleCourse (d : DomainEvent) : Quiet (handleCourse d) := by
  rw [handleCourse, Hub.leaving, List.cons_append, quiet_cons rfl]
  exact (quiet_doings _).append
    ((quiet_cons (quiet_noted (lastLines_entries d))).mpr (List.forall_mem_nil _))

theorem quiet_publishCourse (d : DomainEvent) : Quiet (publishCourse d) :=
  (quiet_cons rfl).mpr (quiet_handleCourse d)

theorem quiet_builtCourse (kind payload : String) (act : Event → Hub.Act) :
    Quiet (builtCourse kind payload act) := by
  unfold builtCourse
  split <;> simp [Quiet, Happening.isQuiet]

theorem quiet_errand (s : Session) (kept : Bool) (e : Web.Errand) : Quiet (e.course s kept) := by
  cases e with
  | nothing => exact List.forall_mem_nil _
  | upgrade student => exact List.forall_mem_nil _
  | publish d => exact quiet_publishCourse d
  | figures => exact s.quiet_statsCourse
  | stream a => cases kept <;> simp [Web.Errand.course, Quiet, Happening.isQuiet, doings]

theorem quiet_web (config : Config) (s : Session) (step : Web.Step) :
    Quiet (Web.course config s step) := by
  have hlines (r : Web.Request) : (Happening.noted (Web.errand config r).1).isQuiet = true :=
    quiet_noted (Web.errand_entries config r)
  cases step with
  | http r kept => exact (quiet_cons (hlines r)).mpr (quiet_errand _ _ _)
  | connect r failure =>
    refine (quiet_cons (hlines r)).mpr ?_
    have hother := quiet_errand (s.logAll (Web.errand config r).1) false
    cases (Web.errand config r).2 with
    | upgrade student =>
      cases failure <;> simp [Web.Errand.connectCourse, Quiet, Happening.isQuiet, Entry.fromLoop]
    | nothing => exact hother .nothing
    | stream a => exact hother (.stream a)
    | publish d => exact hother (.publish d)
    | figures => exact hother .figures
  | greet i =>
    simp only [Web.course]
    split <;> simp [Quiet, Happening.isQuiet, Entry.fromLoop]
  | read i limit => exact quiet_of_internal (s.readCourse_internal i limit)
  | drop i => exact quiet_of_internal (s.closeCourse_internal i)
  | publish d => exact quiet_publishCourse d
  | handle d => exact quiet_handleCourse d
  | advance ms => exact quiet_settling _
  | move m =>
    simp only [Web.course]
    split
    · exact List.forall_mem_nil _
    · exact s.quiet_effect m
  | settle => exact s.quiet_settling
  | _ => exact List.forall_mem_nil _

theorem quiet_course (config : Config) (s : Session) (action : Action) :
    Quiet (s.course config action) := by
  cases action with
  | web step => exact quiet_web config s step
  | send scope kind payload => exact quiet_builtCourse _ _ _
  | sendTo audiences kind payload => exact quiet_builtCourse _ _ _
  | sendToStudents students kind payload => exact quiet_builtCourse _ _ _
  | stats => exact s.quiet_statsCourse
  | receive c limit =>
    simp only [course, receiveCourse]
    split
    · exact List.forall_mem_nil _
    · exact quiet_doings _
  | dropGuard i =>
    simp only [course, dropGuardCourse]
    split <;> simp [Quiet, Happening.isQuiet]
  | cutOff i => exact s.quiet_effect (.cancel i)
  | _ => simp [course, Quiet, Happening.isQuiet]

/-- Nothing that a session does to its hub writes lines of the loop. -/
theorem quiet_history (config : Config) (s : Session) (actions : List Action) :
    Quiet (s.history config actions) := by
  induction actions generalizing s with
  | nil => exact List.forall_mem_nil _
  | cons action rest ih =>
    refine Quiet.append ?_ (ih _)
    split
    · exact s.quiet_course config action
    · exact List.forall_mem_nil _

/-! ### Asking for the figures -/

/-- Only the loop has something to do. -/
theorem wake_of_idle (hdue : s.due = []) (hhub : s.canGo .hub = true)
    (hidle : ∀ w, w ≠ .hub → s.canGo w = false) : s.wake = { s with due := [.hub] } := by
  have hothers (ws : List Worker) (hws : .hub ∉ ws) :
      ws.filter (fun w => s.canGo w && !s.due.contains w) = [] :=
    List.filter_eq_nil_iff.mpr fun w hw => by simp [hidle w fun he => hws (he ▸ hw)]
  have hworkers : s.workers.filter (fun w => s.canGo w && !s.due.contains w) = [.hub] := by
    rw [workers, List.cons_append, List.filter_cons_of_pos (by simp [hhub, hdue]), hothers]
    simp
  rw [wake, hworkers, hdue, List.nil_append]

theorem wake_of_rest (hidle : ∀ w, s.canGo w = false) : s.wake = s := by
  have hworkers : s.workers.filter (fun w => s.canGo w && !s.due.contains w) = [] :=
    List.filter_eq_nil_iff.mpr fun w _ => by simp [hidle w]
  rw [wake, hworkers, List.append_nil]

/-- When nobody has anything to do after the turn of the one who had, the session has settled. -/
theorem settle_of_turn {s' : Session} {w : Worker} (hdue : s.due = [])
    (hwake : s.wake = { s with due := [w] }) (hturn : s.turn w = s') (hdue' : s'.due = [])
    (hresting : s'.resting = false) : s.settle = s' := by
  have hrest (n : Nat) : turns (n + 1) s' = s' := by simp [turns, hdue', hresting]
  have hfirst (n : Nat) : turns (n + 2) { s with due := [w] } = s' := by
    have hline : { s with due := [] } = s := by rw [← hdue]
    rw [turns]
    simp only [hline, hturn, hrest]
  obtain ⟨n, hn⟩ : ∃ n, patience { s with due := [w] } = n + 2 := ⟨_, (Nat.add_right_comm ..)⟩
  rw [settle, hwake, hn, hfirst]

/-- In a session at rest whose loop is there, only the loop has to go on to answer for the figures,
and they are those of the moment. -/
theorem Settled.stats_eq (h : s.Settled) (hs : s.Lasting) (hr : s.hub.running = true) :
    s.stats.1 = s.hub.stats := by
  obtain ⟨hp, hiff⟩ := h.running_iff hs
  have hheld : s.held = true := s.held_iff.mpr (hiff.mp hr)
  let asking : Hub := { s.hub with
    pending := [.stats s.hub.nextTicket], nextTicket := s.hub.nextTicket + 1 }
  let answered : Hub := { s.hub with
    pending := []
    answers := s.hub.answers.insert s.hub.nextTicket s.hub.stats
    nextTicket := s.hub.nextTicket + 1 }
  have hask : s.hub.askStats = (s.hub.nextTicket, asking) := by
    simp [Hub.askStats, Hub.submit, hr, hp, asking]
  have hidle (hub : Hub) (hboxes : hub.mailboxes = s.hub.mailboxes) (w : Worker)
      (hw : w ≠ .hub) : { s with hub }.canGo w = false := by
    rw [← h.idle w]
    cases w <;> first | exact absurd rfl hw | simp only [canGo, writerCanGo, Hub.mailbox?, hboxes]
  have hwoken : { s with hub := asking }.wake = { s with hub := asking, due := [.hub] } := by
    refine wake_of_idle h.due ?_ (hidle asking rfl)
    simp [canGo, hr, h.resting, asking]
  have hanswered : { s with hub := answered }.wake = { s with hub := answered } := by
    refine wake_of_rest fun w => ?_
    by_cases hw : w = .hub
    · subst hw
      have hheld' : { s with hub := answered }.held = true := hheld
      simp [canGo, hheld', answered]
    · exact hidle answered rfl w hw
  have hturn : { s with hub := asking }.turn .hub = { s with hub := answered } := by
    have hheld' : { s with hub := answered }.held = true := hheld
    have hstays : { s with hub := answered }.stopIfIdle = { s with hub := answered } := by
      simp [stopIfIdle, hheld']
    have hmoved : { s with hub := asking }.performAll [.apply, .stop] =
        { s with hub := answered } := hstays
    have hmoves : { s with hub := asking }.moves .hub = [.apply, .stop] := rfl
    have hgoesOn : { s with hub := asking }.rests .hub = false := rfl
    have hnobody : { s with hub := asking }.spawned .hub = [] := rfl
    rw [turn, hmoves, hmoved, hgoesOn, hnobody, List.append_nil, Bool.or_false]
    exact hanswered
  have hsettle : { s with hub := asking }.settle = { s with hub := answered } :=
    settle_of_turn h.due hwoken hturn h.due h.resting
  have hstats : s.stats.1 = (answered.answer s.hub.nextTicket).1 := by
    simp only [stats, hask, hsettle]
  rw [hstats]
  simp [Hub.answer, answered]

/-! ### The trail of a run -/

open Hub (Story)

theorem audited_ofConfig {config : Config} {start : Session}
    (hstart : ofConfig? config = .ok start) : start.hub.Audited (fun _ => []) [] := by
  unfold ofConfig? start? at hstart
  split at hstart <;> cases hstart
  exact ⟨⟨rfl, rfl⟩, fun c => .untold rfl, fun c hc => absurd rfl hc⟩

/-- The journal is a faithful account of what the loop does. At any time the lines about dropped
events are as many as are counted, and the lines about connections that came exceed those about
connections that went by the number of connections; in a session at rest these are the figures that
the loop answers with. The lines about one connection tell its story: at most that it came, what it
has missed since because its mailbox was full, and that it went, under one audience and in this
order. Whenever a line about a dropped event is written, the connection that it names is registered
under the audience that it names, takes events and has no room. -/
theorem journal_audits {config : Config} {start : Session}
    (hstart : ofConfig? config = .ok start) (actions : List Action)
    (hlive : (start.enactAll config actions).hub.running = true) :
    let s := start.enactAll config actions
    let course := start.history config actions
    (∀ name, s.hub.journal.countP (Entry.reads .warn "Dropping event " name) =
      s.hub.stats.dropped) ∧
    (∀ name, s.hub.stats.connections +
        s.hub.journal.countP (Entry.reads .info "Unregistered live connection " name) =
      s.hub.journal.countP (Entry.reads .info "Registered live connection " name)) ∧
    (s.Settled → s.stats.1 = s.hub.stats) ∧
    (∀ c, Story c (start.hub.lostIn c course) (s.hub.registry.audiences.get? c) (s.hub.trail c)) ∧
    ∀ first x rest, course = first ++ x :: rest →
      let hub := start.hub.undergo first
      ∀ added, (hub.happen x).journal = hub.journal ++ added →
        ∀ e c a, .droppedFor e c a ∈ added →
          hub.registry.audiences.get? c = some a ∧ hub.isOpen c ∧ hub.isFull c := by
  intro s course
  have hlasting := lasting_ofConfig hstart
  have hquiet : Quiet course := quiet_history config start actions
  have hhub := enactAll_hub config start actions
  rw [hhub] at hlive
  have hcourse : .stopped ∉ course := Hub.not_stopped_of_running hlive
  have hfresh : start.hub.running = true ∧ start.hub.pending = [] := by
    unfold ofConfig? start? at hstart
    split at hstart <;> cases hstart
    exact ⟨rfl, rfl⟩
  have haudited := (audited_ofConfig hstart).undergo hlasting.orderly hquiet hcourse
    (Hub.nodup_enteredIn hfresh.1 hfresh.2 hcourse)
  rw [← hhub] at haudited hlive
  refine ⟨fun name => ?_, fun name => ?_, fun hsettled => ?_, haudited.story, ?_⟩
  · rw [funext Entry.reads_miss]
    exact haudited.tallied.misses
  · rw [funext Entry.reads_arrival, funext Entry.reads_departure]
    exact haudited.tallied.balance
  · exact hsettled.stats_eq (lasting_enactAll hstart actions).1 hlive
  · intro first x rest hsplit hub added hadded e c a hmem
    have horderly : hub.Orderly := hlasting.orderly.undergo first
    have hx : x.isQuiet = true := hquiet x (by rw [hsplit]; simp)
    have hlines : added.filter (fun entry => entry.subject? = some c) =
        (x.applies hub).flatMap (hub.lines c) := by
      have htrail := horderly.trail_happen hx c
      rw [Hub.trail, hadded, List.filter_append, ← Hub.trail] at htrail
      exact List.append_cancel_left htrail
    have hline : .droppedFor e c a ∈ (x.applies hub).flatMap (hub.lines c) := by
      rw [← hlines]
      exact List.mem_filter.mpr ⟨hmem, by simp [Entry.subject?]⟩
    obtain ⟨command, -, hline⟩ := List.mem_flatMap.mp hline
    exact Hub.full_of_line hline

/-- A mailbox for one event. The second of two notifications does not fit, and of two requests to
take the connection back only the first one is told of. -/
theorem journal_audits_student :
    let config : Config := { Config.standard with queueCapacity := 1 }
    let late : Event := ⟨"notify", "late", by decide, by decide, by decide⟩
    let actions : List Action :=
      [.register (.student 5), .send .broadcast "notify" "soon", .send .broadcast "notify" "late",
        .unregister ⟨0⟩, .unregister ⟨0⟩, .web .settle]
    ∃ start, ofConfig? config = .ok start ∧
      let s := start.enactAll config actions
      s.hub.running = true ∧ s.hub.stats = ⟨0, 0, 0, 1, 1⟩ ∧
        s.hub.journal.countP (Entry.reads .warn "Dropping event " fun _ => "c") = 1 ∧
        s.hub.trail ⟨0⟩ = [.registered ⟨0⟩ (.student 5), .droppedFor late ⟨0⟩ (.student 5),
          .unregistered ⟨0⟩ (.student 5)] ∧
        start.hub.lostIn ⟨0⟩ (start.history config actions) = [late] ∧
        Story ⟨0⟩ [late] none (s.hub.trail ⟨0⟩) := by
  intro config late actions
  let start : Session := (Session.start 1 (by decide)).onHub fun hub =>
    { hub with journal := settings config :: hub.journal }
  have hstart : ofConfig? config = .ok start := rfl
  have hlive : (start.enactAll config actions).hub.running = true := by decide +kernel
  obtain ⟨hmisses, -, -, hstory, -⟩ := journal_audits hstart actions hlive
  have hstats : (start.enactAll config actions).hub.stats = ⟨0, 0, 0, 1, 1⟩ := by decide +kernel
  have hlost : start.hub.lostIn ⟨0⟩ (start.history config actions) = [late] := by decide +kernel
  have hgone : (start.enactAll config actions).hub.registry.audiences.get? ⟨0⟩ = none := by
    decide +kernel
  have hstory := hstory ⟨0⟩
  rw [hlost, hgone] at hstory
  refine ⟨start, hstart, hlive, hstats, ?_, by decide +kernel, hlost, hstory⟩
  rw [hmisses, hstats]

end Session
end LiveUpdate
