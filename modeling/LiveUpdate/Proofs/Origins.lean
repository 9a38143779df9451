import LiveUpdate.Program
import LiveUpdate.Proofs.Quantities

/-! Which origins may read the answers. An origin counts if a header can hold it; any other is
reported and passed over, and does not keep the server from starting. -/
namespace LiveUpdate

open Text.Utf8 (encode)

/-! ### Origins that a header can hold -/

/-- An origin that a header can hold: its control characters are tabs at most. -/
def Usable (origin : String) : Prop :=
  ∀ c ∈ origin.toList, c = '\t' ∨ 0x20 ≤ c.toNat ∧ c.toNat ≠ 0x7F

instance (origin : String) : Decidable (Usable origin) :=
  List.decidableBAll _ origin.toList

namespace Web

theorem isHeaderByte_iff {b : UInt8} :
    isHeaderByte b = true ↔ b.toNat = 9 ∨ 0x20 ≤ b.toNat ∧ b.toNat ≠ 0x7F := by
  simp [isHeaderByte, UInt8.le_iff_toNat_le, ← UInt8.toNat_inj, or_comm]

namespace Cors

/-- A header holds a character if it holds all its bytes. -/
theorem forall_isHeaderByte_iff {c : Char} :
    (∀ b ∈ String.utf8EncodeChar c, isHeaderByte b = true) ↔
      c = '\t' ∨ 0x20 ≤ c.toNat ∧ c.toNat ≠ 0x7F := by
  -- The bytes that a header does not hold are each a character of their own.
  have hchar {b : UInt8} (hb : b.toNat < 0x80) (hc : c = Char.ofNat b.toNat) :
      c.toNat = b.toNat := by
    rw [hc]
    exact Text.Utf8.toNat_ofNat_of_valid (Or.inl (by omega))
  constructor
  · intro h
    by_contra hnot
    obtain ⟨htab, hcontrol⟩ := not_or.mp hnot
    have hsmall : c.toNat < 0x80 := by omega
    have hbyte : (UInt8.ofNat c.toNat).toNat = c.toNat := by
      rw [UInt8.toNat_ofNat']
      omega
    have hmem : UInt8.ofNat c.toNat ∈ String.utf8EncodeChar c :=
      (Text.Utf8.mem_encodeChar_iff (by omega)).mpr (by rw [hbyte, Char.ofNat_toNat])
    rcases isHeaderByte_iff.mp (h _ hmem) with h | h
    · exact htab (by rw [← Char.ofNat_toNat c, ← hbyte, h])
    · exact hcontrol (hbyte ▸ h)
  · intro h b hb
    by_contra hnot
    rw [isHeaderByte_iff, not_or] at hnot
    have hsmall : b.toNat < 0x80 := by omega
    have hc := hchar hsmall ((Text.Utf8.mem_encodeChar_iff hsmall).mp hb)
    rcases h with rfl | h
    · exact hnot.1 hc.symm
    · exact hnot.2 (hc ▸ h)

theorem isWritable_iff {origin : String} : isWritable origin = true ↔ Usable origin := by
  rw [isWritable, List.all_eq_true, encode, Usable]
  simp only [List.mem_flatMap, forall_exists_index, and_imp, ← forall_isHeaderByte_iff]
  exact ⟨fun h c hc b hb => h b c hc hb, fun h b c hc hb => h c hc b hb⟩

theorem filter_isWritable (origins : List String) :
    origins.filter isWritable = origins.filter fun o => Usable o :=
  List.filter_congr fun o _ => by rw [Bool.eq_iff_iff, isWritable_iff, decide_eq_true_iff]

theorem ofOrigins_eq_ok {origins : List String} (h : wildcard ∉ origins) :
    ofOrigins? origins = .ok ⟨origins.filter fun o => Usable o⟩ := by
  rw [ofOrigins?, filter_isWritable, if_neg]
  rw [List.contains_iff_mem]
  exact fun hmem => h (List.mem_of_mem_filter hmem)

/-- The wildcard can be held by a header, and so is never passed over. -/
theorem ofOrigins_eq_error {origins : List String} (h : wildcard ∈ origins) :
    ofOrigins? origins = .error wildcardObjection := by
  rw [ofOrigins?, filter_isWritable]
  exact if_pos (List.contains_iff_mem.mpr (List.mem_filter.mpr ⟨h, by decide⟩))

/-- An origin is admitted if it is that of the request, byte by byte. -/
theorem admitted?_eq_some_iff {cors : Cors} {r : Request} {o : String} :
    cors.admitted? r = some o ↔ o ∈ cors.origins ∧ r.header? "origin" = some (encode o.toList) := by
  rw [admitted?, Option.bind_eq_some_iff]
  constructor
  · rintro ⟨value, hvalue, hfind⟩
    have hbytes := List.find?_some hfind
    rw [decide_eq_true_iff] at hbytes
    exact ⟨List.mem_of_find?_eq_some hfind, hbytes ▸ hvalue⟩
  · rintro ⟨hmem, hvalue⟩
    refine ⟨_, hvalue, ?_⟩
    cases hfind : cors.origins.find? fun o' => encode o'.toList = encode o.toList with
    | none => exact absurd (decide_eq_true rfl) (List.find?_eq_none.mp hfind o hmem)
    | some o' =>
      -- No other origin has the same bytes.
      have hbytes := List.find?_some hfind
      rw [decide_eq_true_iff] at hbytes
      rw [String.toList_injective (Text.Utf8.encode_injective hbytes)]

theorem mem_headers_iff {cors : Cors} {r : Request} {o : String} :
    ("access-control-allow-origin", o) ∈ cors.headers r ↔ cors.admitted? r = some o := by
  simp [headers, eq_comm]

end Cors
end Web

/-! ### Starting the server -/

/-- The origin that an entry says is passed over, and why. -/
def Entry.ignored? : Entry → Option (String × String)
  | originIgnored origin why => some (origin, why)
  | _ => none

theorem Web.Cors.ignored_report (origins : List String) :
    (report origins).filterMap Entry.ignored? =
      (origins.filter fun o => ¬Usable o).map (·, "failed to parse header value") := by
  have hfilter : (origins.filter fun o => !isWritable o) = origins.filter fun o => ¬Usable o :=
    List.filter_congr fun o _ => by
      rw [decide_not, Bool.not_inj_iff, Bool.eq_iff_iff, isWritable_iff, decide_eq_true_iff]
  rw [report, hfilter, List.filterMap_map, ← List.filterMap_eq_map]
  rfl

theorem Server.launch_of_no_wildcard {config : Config}
    (h : Web.Cors.wildcard ∉ config.allowedOrigins) (network : Network) :
    (launch network config).2 = (match network config.interface config.port with
      | some why => .unbound why
      | none => .running ⟨config.allowedOrigins.filter fun o => Usable o⟩) ∧
    (launch network config).1.filterMap Entry.ignored? =
      (config.allowedOrigins.filter fun o => ¬Usable o).map
        (·, "failed to parse header value") := by
  rw [launch, Web.Cors.ofOrigins_eq_ok h]
  cases network config.interface config.port with
  | some why => exact ⟨rfl, Web.Cors.ignored_report _⟩
  | none =>
    refine ⟨rfl, ?_⟩
    rw [List.filterMap_append, Web.Cors.ignored_report]
    exact List.append_nil _

namespace Program

theorem ignored_announcement (config : Config) :
    (announcement config).filterMap Entry.ignored? = [] := by
  rw [announcement]
  split <;> rfl

/-- A run reports what is ignored as the server is launched, and launches it as it is. -/
theorem start_of_capacity {config : Config} (h : 0 < config.queueCapacity) (network : Network) :
    ∃ run, start network config = .ok run ∧ run.launch = (Server.launch network config).2 ∧
      run.session.hub.journal.filterMap Entry.ignored? =
        (Server.launch network config).1.filterMap Entry.ignored? := by
  rw [start, Session.ofConfig_eq_ok h]
  obtain ⟨entries, launch⟩ := Server.launch network config
  refine ⟨_, rfl, rfl, ?_⟩
  change List.filterMap Entry.ignored? (announcement config ++
    [Session.settings config, .started config.queueCapacity] ++ entries ++ _) = _
  rw [List.filterMap_append, List.filterMap_append, List.filterMap_append, ignored_announcement]
  cases launch <;> exact List.append_nil _

end Program

/-- Any list of origins without the wildcard lets the server start. It admits the origins that a
header can hold, as they are listed; any other is reported with a warning and passed over. -/
theorem origins_admitted {arguments : List (List UInt8)} {environment : Variables}
    {config : Config} (hread : Config.read arguments environment = .ok config)
    (hwildcard : Web.Cors.wildcard ∉ config.allowedOrigins) (network : Network) :
    ∃ (run : Program.Run) (cors : Web.Cors), Program.start network config = .ok run ∧
      run.launch = (match network config.interface config.port with
        | some why => .unbound why
        | none => .running cors) ∧
      cors.origins = config.allowedOrigins.filter (fun o => Usable o) ∧
      run.session.hub.journal.filterMap Entry.ignored? =
        (config.allowedOrigins.filter fun o => ¬Usable o).map
          (·, "failed to parse header value") ∧
      ∀ (r : Web.Request) (o : String), ("access-control-allow-origin", o) ∈ cors.headers r ↔
        o ∈ config.allowedOrigins ∧ Usable o ∧ r.header? "origin" = some (encode o.toList) := by
  obtain ⟨run, hrun, hlaunch, hjournal⟩ :=
    Program.start_of_capacity (Config.amount_within hread .queueCapacity).1 network
  obtain ⟨hopened, hignored⟩ := Server.launch_of_no_wildcard hwildcard network
  refine ⟨run, _, hrun, hlaunch.trans hopened, rfl, hjournal.trans hignored, fun r o => ?_⟩
  rw [Web.Cors.mem_headers_iff, Web.Cors.admitted?_eq_some_iff, List.mem_filter,
    decide_eq_true_iff, and_assoc]

/-- An origin with a line feed is passed over, between one that is admitted and a tab. -/
theorem origins_admitted_tab :
    let arguments := [encode "--allowed-origins=http://a,b\nc,\t".toList]
    ∃ (config : Config) (run : Program.Run) (cors : Web.Cors),
      Config.read arguments [] = .ok config ∧
      Program.start (fun _ _ => none) config = .ok run ∧ run.launch = .running cors ∧
      cors.origins = ["http://a", "\t"] ∧
      run.session.hub.journal.filterMap Entry.ignored? =
        [("b\nc", "failed to parse header value")] ∧
      ∀ r : Web.Request, r.header? "origin" = some (encode "http://a".toList) →
        ("access-control-allow-origin", "http://a") ∈ cors.headers r := by
  intro arguments
  let config : Config := { Config.standard with allowedOrigins := ["http://a", "b\nc", "\t"] }
  have hread : Config.read arguments [] = .ok config := by decide +kernel
  obtain ⟨run, cors, hrun, hlaunch, horigins, hignored, hheaders⟩ :=
    origins_admitted hread (by decide) fun _ _ => none
  have husable : config.allowedOrigins.filter (fun o => Usable o) = ["http://a", "\t"] := by
    decide +kernel
  have hothers : config.allowedOrigins.filter (fun o => ¬Usable o) = ["b\nc"] := by
    decide +kernel
  rw [hothers] at hignored
  exact ⟨config, run, cors, hread, hrun, hlaunch, horigins.trans husable, hignored,
    fun r horigin => (hheaders r "http://a").mpr ⟨by decide, by decide, horigin⟩⟩

/-- The wildcard alone is read as an origin, and then no server starts. -/
theorem wildcard_stops_server :
    ∃ config, Config.read [encode "--allowed-origins".toList, encode "*".toList] [] = .ok config ∧
      ∀ network, ∃ run, Program.start network config = .ok run ∧
        run.launch = .panicked Web.Cors.wildcardObjection ∧
        run.session.hub.journal.filterMap Entry.ignored? = [] := by
  let config : Config := { Config.standard with allowedOrigins := ["*"] }
  have hread : Config.read [encode "--allowed-origins".toList, encode "*".toList] [] =
      .ok config := by decide +kernel
  refine ⟨config, hread, fun network => ?_⟩
  obtain ⟨run, hrun, hlaunch, hjournal⟩ :=
    Program.start_of_capacity (Config.amount_within hread .queueCapacity).1 network
  have hwildcard : Web.Cors.wildcard ∈ config.allowedOrigins := List.mem_cons_self
  have hreport : Web.Cors.report config.allowedOrigins = [] := by decide +kernel
  have hopened : Server.launch network config = ([], .panicked Web.Cors.wildcardObjection) := by
    rw [Server.launch, Web.Cors.ofOrigins_eq_error hwildcard, hreport]
  rw [hopened] at hlaunch hjournal
  exact ⟨run, hrun, hlaunch, hjournal⟩

end LiveUpdate
