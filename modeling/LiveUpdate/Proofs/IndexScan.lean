import LiveUpdate.Proofs.AlikeHubs

/-! Two ways to find those who are meant. The index answers for a list of audiences, and a scan of
the table would find the same connections. Neither the order of the list, nor what it repeats, nor
the order in which table and index are walked makes a difference to anybody. -/
namespace LiveUpdate

namespace Registry

variable {r r' : Registry} {c : ConnectionId}

/-! ### The scan -/

/-- The connections that a scan of the whole table finds under some audiences. -/
def scan (r : Registry) (audiences : List Audience) : List ConnectionId :=
  (r.audiences.entries.filter fun entry => entry.2 ∈ audiences).map Prod.fst

theorem mem_scan {audiences : List Audience} :
    c ∈ r.scan audiences ↔ ∃ a, r.audiences.get? c = some a ∧ a ∈ audiences := by
  simp [scan, Table.mem_entries_iff]

theorem nodup_scan (r : Registry) (audiences : List Audience) : (r.scan audiences).Nodup :=
  r.audiences.distinct.sublist (List.filter_sublist.map _)

/-- The index finds those that the scan finds. -/
theorem Indexed.recipients_perm_scan (h : r.Indexed) (audiences : List Audience) :
    (r.recipients (.only audiences)).Perm (r.scan audiences) := by
  refine (List.perm_ext_iff_of_nodup (h.nodup_recipients _) (r.nodup_scan _)).mpr fun c => ?_
  simp only [h.mem_recipients, mem_scan, Scope.covers, List.contains_iff_mem]

/-! ### Another order -/

/-- The same table with the same index, walked in another order. -/
structure Shuffled (r r' : Registry) : Prop where
  audiences : r.audiences.entries.Perm r'.audiences.entries
  members : ∀ a, Option.Rel List.Perm (r.members.get? a) (r'.members.get? a)

theorem Shuffled.refl (r : Registry) : r.Shuffled r where
  audiences := .refl _
  members a := by
    cases r.members.get? a with
    | none => exact .none
    | some cs => exact .some (.refl cs)

theorem Shuffled.bucket (h : r.Shuffled r') (a : Audience) : (r.bucket a).Perm (r'.bucket a) := by
  have hmembers := h.members a
  simp only [Registry.bucket]
  generalize r.members.get? a = cs, r'.members.get? a = cs' at hmembers ⊢
  cases hmembers with
  | some hperm => exact hperm
  | none => exact .nil

theorem Shuffled.indexed (h : r.Shuffled r') (hi : r.Indexed) : r'.Indexed where
  occupied a cs hcs := by
    have hmembers := h.members a
    rw [hcs] at hmembers
    generalize hold : r.members.get? a = old at hmembers
    cases hmembers with
    | some hperm =>
      rintro rfl
      exact hi.occupied a _ hold hperm.eq_nil
  mem_bucket c a := by
    rw [← (h.bucket a).mem_iff, hi.mem_bucket, Table.get?_of_perm h.audiences]
  distinct a := (h.bucket a).nodup_iff.mp (hi.distinct a)

/-- The same connections are found, whatever order they are in. -/
theorem Shuffled.recipients_perm (h : r.Shuffled r') (hi : r.Indexed) {scope scope' : Scope}
    (hscope : ∀ a, scope.covers a = scope'.covers a) :
    (r.recipients scope).Perm (r'.recipients scope') := by
  refine (List.perm_ext_iff_of_nodup (hi.nodup_recipients scope)
    ((h.indexed hi).nodup_recipients scope')).mpr fun c => ?_
  simp only [hi.mem_recipients, (h.indexed hi).mem_recipients, Table.get?_of_perm h.audiences,
    hscope]

/-! ### Lists of audiences -/

/-- Of a second list only those audiences are served that the first does not name. -/
theorem recipients_append (r : Registry) (first rest : List Audience) :
    r.recipients (.only (first ++ rest)) =
      r.recipients (.only first) ++ r.recipients (.only (rest.filter (· ∉ first))) := by
  have hothers : rest.removeAll first = rest.filter (· ∉ first) := by simp [List.removeAll]
  rw [recipients, List.eraseDups_append, List.flatMap_append, hothers]
  rfl

end Registry

/-! ### What comes of an event -/

/-- What the hub counts when it passes an event on. -/
structure Reach where
  delivered : Nat
  dropped : Nat
  deriving DecidableEq, Repr

instance : Add Reach := ⟨fun x y => ⟨x.delivered + y.delivered, x.dropped + y.dropped⟩⟩

@[simp] theorem Reach.mk_add_mk (delivered delivered' dropped dropped' : Nat) :
    (⟨delivered, dropped⟩ : Reach) + ⟨delivered', dropped'⟩ =
      ⟨delivered + delivered', dropped + dropped'⟩ := rfl

namespace Hub

variable {hub hub' : Hub} {e : Event} {cs cs' : List ConnectionId} {after after' : Hub}

/-- What a message comes to. -/
def reach (hub : Hub) (m : Message) : Reach :=
  ⟨(hub.fanOut m).delivered - hub.delivered, (hub.fanOut m).dropped - hub.dropped⟩

/-- An event has been offered to some connections, once to each, and nothing else was done: the
outcome of every offer is in its mailbox, and has been counted. -/
structure Offered (hub : Hub) (e : Event) (cs : List ConnectionId) (after : Hub) : Prop where
  once : cs.Nodup
  frame : ∃ mailboxes delivered dropped journal,
    after = { hub with mailboxes, delivered, dropped, journal }
  mailbox : ∀ c, after.mailbox? c =
    if c ∈ cs then (hub.mailbox? c).map fun box => (box.offer hub.capacity e).2
    else hub.mailbox? c
  delivered : after.delivered = hub.delivered + hub.countOutcome e .delivered cs
  dropped : after.dropped = hub.dropped + hub.countOutcome e .dropped cs

theorem countOutcome_perm (hub : Hub) (e : Event) (d : Delivery) (h : cs.Perm cs') :
    hub.countOutcome e d cs = hub.countOutcome e d cs' := h.countP_eq _

theorem Offered.perm (h : hub.Offered e cs after) (hcs : cs.Perm cs') :
    hub.Offered e cs' after where
  once := hcs.nodup_iff.mp h.once
  frame := h.frame
  mailbox c := by simp only [h.mailbox c, hcs.mem_iff]
  delivered := by rw [h.delivered, hub.countOutcome_perm e _ hcs]
  dropped := by rw [h.dropped, hub.countOutcome_perm e _ hcs]

/-- A message is offered to those whom the index finds. -/
theorem Housed.offered (h : hub.Housed) (m : Message) :
    hub.Offered m.event (hub.registry.recipients m.scope) (hub.fanOut m) where
  once := h.indexed.nodup_recipients m.scope
  frame := hub.fanOut_frame m
  mailbox c := by
    refine mailbox?_foldl_deliver m.event hub (h.indexed.nodup_recipients m.scope)
      (fun x hx => ?_) c
    obtain ⟨a, ha, -⟩ := (h.indexed.mem_recipients m.scope x).mp hx
    rw [ha]
    rfl
  delivered := (h.send_counts m).1
  dropped := (h.send_counts m).2

theorem Housed.reach_eq (h : hub.Housed) (m : Message) : hub.reach m =
    ⟨hub.countOutcome m.event .delivered (hub.registry.recipients m.scope),
      hub.countOutcome m.event .dropped (hub.registry.recipients m.scope)⟩ := by
  obtain ⟨hdelivered, hdropped⟩ := h.send_counts m
  rw [reach, hdelivered, hdropped, Nat.add_sub_cancel_left, Nat.add_sub_cancel_left]

theorem Housed.fanOut (h : hub.Housed) (m : Message) : (hub.fanOut m).Housed := by
  obtain ⟨_, _, _, _, hframe⟩ := hub.fanOut_frame m
  have hregistry : (hub.fanOut m).registry = hub.registry := by rw [hframe]
  refine ⟨hregistry ▸ h.indexed, fun c hc => ?_⟩
  rw [hregistry] at hc
  rw [(h.offered m).mailbox c]
  split <;> simp [h.mailbox c hc]

/-- Walking table and index in another order leaves everybody a mailbox. -/
theorem Housed.shuffled (h : hub.Housed) {registry : Registry}
    (hr : hub.registry.Shuffled registry) : { hub with registry }.Housed where
  indexed := hr.indexed h.indexed
  mailbox c hc := by
    have hget : registry.audiences.get? c = hub.registry.audiences.get? c :=
      Table.get?_of_perm hr.audiences c
    exact h.mailbox c (hget ▸ hc)

/-- Two messages with one event, one of them sent while table and index are walked in another order,
come to the same if they cover the same audiences in use. -/
theorem Housed.same_reach (h : hub.Housed) {registry : Registry} (m m' : Message)
    (hr : hub.registry.Shuffled registry) (hevent : m'.event = m.event)
    (hperm : (hub.registry.recipients m.scope).Perm (registry.recipients m'.scope)) :
    (∀ c, ({ hub with registry }.fanOut m').mailbox? c = (hub.fanOut m).mailbox? c) ∧
      { hub with registry }.reach m' = hub.reach m := by
  have hshuffled := h.shuffled hr
  refine ⟨fun c => ?_, ?_⟩
  · rw [(h.offered m).mailbox c, (hshuffled.offered m').mailbox c, hevent]
    simp only [← hperm.mem_iff]
    rfl
  · rw [h.reach_eq, hshuffled.reach_eq, hevent, hub.countOutcome_perm _ _ hperm,
      hub.countOutcome_perm _ _ hperm]
    rfl

/-- Of two lists the second is served after the first, as far as it names anybody new. -/
theorem fanOut_append (hub : Hub) (first rest : List Audience) (e : Event) :
    hub.fanOut ⟨.only (first ++ rest), e⟩ =
      (hub.fanOut ⟨.only first, e⟩).fanOut ⟨.only (rest.filter (· ∉ first)), e⟩ := by
  obtain ⟨_, _, _, _, hframe⟩ := hub.fanOut_frame ⟨.only first, e⟩
  have hregistry : (hub.fanOut ⟨.only first, e⟩).registry = hub.registry := by rw [hframe]
  have hrest : (hub.fanOut ⟨.only first, e⟩).fanOut ⟨.only (rest.filter (· ∉ first)), e⟩ =
      (hub.registry.recipients (.only (rest.filter (· ∉ first)))).foldl (deliver e)
        (hub.fanOut ⟨.only first, e⟩) := by
    rw [← hregistry]
    rfl
  rw [hrest, fanOut, hub.registry.recipients_append, List.foldl_append]
  rfl

theorem Housed.reach_append (h : hub.Housed) (first rest : List Audience) (e : Event) :
    hub.reach ⟨.only (first ++ rest), e⟩ = hub.reach ⟨.only first, e⟩ +
      (hub.fanOut ⟨.only first, e⟩).reach ⟨.only (rest.filter (· ∉ first)), e⟩ := by
  obtain ⟨hdelivered, hdropped⟩ := h.send_counts ⟨.only first, e⟩
  obtain ⟨hdelivered', hdropped'⟩ :=
    (h.fanOut ⟨.only first, e⟩).send_counts ⟨.only (rest.filter (· ∉ first)), e⟩
  simp only [reach, hub.fanOut_append, Reach.mk_add_mk, Reach.mk.injEq]
  constructor <;> omega

/-- The index finds for every list of audiences whom a scan of the table would find, and the event
is offered to them alone and once to each. It does not matter to any mailbox or figure in which
order the audiences are named, how often, or in which order table and index are walked; a list may
be served in two parts; and who names all audiences in use might as well have named nobody. -/
theorem index_agrees_with_scan (capacity : Nat) (hpos : 0 < capacity) (course : List Happening)
    (e : Event) (keys : List Audience) :
    let hub := (start capacity hpos).undergo course
    let table := hub.registry
    let sent (keys : List Audience) : Message := ⟨.only keys, e⟩
    let toAll : Message := ⟨.broadcast, e⟩
    ((table.recipients (.only keys)).Perm (table.scan keys) ∧
      hub.Offered e (table.scan keys) (hub.fanOut (sent keys)) ∧
      hub.Offered e table.audiences.keys (hub.fanOut toAll)) ∧
    (∀ registry keys', table.Shuffled registry → (∀ a, a ∈ keys' ↔ a ∈ keys) →
      let other : Hub := { hub with registry }
      (∀ c, (other.fanOut (sent keys')).mailbox? c = (hub.fanOut (sent keys)).mailbox? c) ∧
      other.reach (sent keys') = hub.reach (sent keys) ∧
      (∀ c, (other.fanOut toAll).mailbox? c = (hub.fanOut toAll).mailbox? c) ∧
      other.reach toAll = hub.reach toAll) ∧
    (∀ more,
      let others := more.filter (· ∉ keys)
      let halfway := hub.fanOut (sent keys)
      hub.fanOut (sent (keys ++ more)) = halfway.fanOut (sent others) ∧
      hub.reach (sent (keys ++ more)) = hub.reach (sent keys) + halfway.reach (sent others)) ∧
    ((∀ a ∈ table.audiences.values, a ∈ keys) →
      (∀ c, (hub.fanOut (sent keys)).mailbox? c = (hub.fanOut toAll).mailbox? c) ∧
      hub.reach (sent keys) = hub.reach toAll) := by
  intro hub table sent toAll
  have hhoused : hub.Housed := ((orderly_start capacity hpos).undergo course).housed
  have hindexed : table.Indexed := hhoused.indexed
  have hscan := hindexed.recipients_perm_scan keys
  refine ⟨⟨hscan, (hhoused.offered (sent keys)).perm hscan, hhoused.offered toAll⟩,
    fun registry keys' hshuffled hkeys => ?_, fun more => ?_, fun hused => ?_⟩
  · have hcovers (a : Audience) :
        (Scope.only keys).covers a = (Scope.only keys').covers a := by
      simp [Scope.covers, hkeys a]
    obtain ⟨hmailbox, hreach⟩ := hhoused.same_reach (sent keys) (sent keys') hshuffled rfl
      (hshuffled.recipients_perm hindexed hcovers)
    obtain ⟨hmailbox', hreach'⟩ := hhoused.same_reach toAll toAll hshuffled rfl
      (hshuffled.recipients_perm hindexed fun _ => rfl)
    exact ⟨hmailbox, hreach, hmailbox', hreach'⟩
  · exact ⟨hub.fanOut_append keys more e, hhoused.reach_append keys more e⟩
  · have hall : (table.recipients .broadcast).Perm (table.recipients (.only keys)) := by
      refine (List.perm_ext_iff_of_nodup (hindexed.nodup_recipients _)
        (hindexed.nodup_recipients _)).mpr fun c => ?_
      simp only [hindexed.mem_recipients, Scope.covers, and_true, List.contains_iff_mem]
      refine exists_congr fun a => ⟨fun ha => ⟨ha, hused a (Table.mem_values ha)⟩, And.left⟩
    exact hhoused.same_reach toAll (sent keys) (.refl table) rfl hall

/-- Two of three connections are named, one of them twice, and the table is walked backwards; with
the third, everybody is. -/
theorem index_agrees_with_scan_student : 0 < 4 ∧
    let course := doings [.register (.student 5), .register .unfiltered, .register (.student 6),
      .step, .step, .step]
    let hub := (start 4 (by decide)).undergo course
    let entries := hub.registry.audiences.entries
    let keys := [Audience.unfiltered, .student 5, .unfiltered]
    let registry : Registry := ⟨⟨entries.reverse, by decide⟩, hub.registry.members⟩
    let all := keys ++ [Audience.student 5, .student 6]
    (hub.registry.recipients (.only keys)).Perm [⟨0⟩, ⟨1⟩] ∧
      { hub with registry }.reach ⟨.only [.student 5, .unfiltered], .hello⟩ = ⟨2, 0⟩ ∧
      hub.reach ⟨.only all, .hello⟩ = hub.reach ⟨.only keys, .hello⟩ + ⟨1, 0⟩ ∧
      hub.reach ⟨.only all, .hello⟩ = hub.reach ⟨.broadcast, .hello⟩ := by
  refine ⟨by decide, ?_⟩
  intro course hub entries keys registry all
  obtain ⟨⟨hperm, -, -⟩, hshuffled, happend, -⟩ :=
    index_agrees_with_scan 4 (by decide) course .hello keys
  obtain ⟨-, -, -, hall⟩ := index_agrees_with_scan 4 (by decide) course .hello all
  have hregistry : hub.registry.Shuffled registry :=
    ⟨(List.reverse_perm _).symm, (Registry.Shuffled.refl hub.registry).members⟩
  obtain ⟨-, hreach, -⟩ := hshuffled registry [.student 5, .unfiltered] hregistry
    (by simp [keys, or_comm])
  exact ⟨hperm, hreach.trans (by decide), (happend [.student 5, .student 6]).2,
    (hall (by decide)).2⟩

end Hub
end LiveUpdate
