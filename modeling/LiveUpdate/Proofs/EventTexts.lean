import LiveUpdate.Proofs.QuotedText

/-! How events, and the strings of which none can be made, appear in a log. Each takes up one line,
though the strings need not; what is said of a rejection leaves the payload out, and quotes the kind
so that it can be read back. -/
namespace LiveUpdate

/-- An event is shown on a line. -/
theorem Event.oneLine_display (e : Event) : OneLine e.display := by
  have hwhole := e.wellFormed
  have hopen : OneLine "(" := by decide
  have hclose : OneLine ")" := by decide
  unfold display
  split
  · exact hwhole.kind_oneLine
  · simp only [OneLine.append]
    exact ⟨⟨⟨hwhole.kind_oneLine, hopen⟩, hwhole.payload_oneLine⟩, hclose⟩

namespace Rejection

variable {kind payload kind' payload' : String} {why why' : Rejection}

/-- The kind that a rejection names. -/
def kind? : Rejection → Option String
  | empty => none
  | brokenKind kind | brokenPayload kind => some kind

/-- The kind that a text quotes, which begins with the first quote in it. -/
def kindIn? (text : String) : Option String :=
  (Text.readQuoted? (text.toList.dropWhile (· ≠ '"'))).map fun read => String.ofList read.1

/-! ### Lines -/

theorem oneLine_reason (why : Rejection) : OneLine why.reason := by
  have hend : OneLine " contains a line break" := by decide
  have hkind : OneLine "kind " := by decide
  have hpayload : OneLine "payload for kind " := by decide
  cases why with
  | empty => decide
  | brokenKind kind =>
    exact OneLine.append.mpr ⟨OneLine.append.mpr ⟨hkind, Text.oneLine_quote kind⟩, hend⟩
  | brokenPayload kind =>
    exact OneLine.append.mpr ⟨OneLine.append.mpr ⟨hpayload, Text.oneLine_quote kind⟩, hend⟩

theorem oneLine_message (why : Rejection) : OneLine why.toFault.message :=
  OneLine.append.mpr ⟨by decide, why.oneLine_reason⟩

theorem oneLine_refusal (why : Rejection) : OneLine why.refusal :=
  OneLine.append.mpr ⟨by decide, why.oneLine_message⟩

/-! ### Kinds -/

/-- What is said of a rejection that names a kind is the kind in quotes, and words without quotes
around it. -/
theorem message_eq (h : why.kind? = some kind) : ∃ before after : String,
    '"' ∉ before.toList ∧ why.toFault.message = before ++ Text.quote kind ++ after := by
  have hassoc (first before quoted after : String) :
      first ++ (before ++ quoted ++ after) = first ++ before ++ quoted ++ after := by
    rw [String.append_assoc, String.append_assoc, String.append_assoc]
  cases why with
  | empty => cases h
  | brokenKind kind =>
    cases h
    exact ⟨_, _, by decide, hassoc "invalid event: " "kind " _ " contains a line break"⟩
  | brokenPayload kind =>
    cases h
    exact ⟨_, _, by decide, hassoc "invalid event: " "payload for kind " _ " contains a line break"⟩

theorem kindIn?_append {before : String} (hbefore : '"' ∉ before.toList) (kind after : String) :
    kindIn? (before ++ Text.quote kind ++ after) = some kind := by
  have hskip : ∀ c ∈ before.toList, decide (c ≠ '"') = true := by
    intro c hc
    exact decide_eq_true fun he => hbefore (he ▸ hc)
  have hrest : (Text.quoteChars kind.toList ++ after.toList).dropWhile (· ≠ '"') =
      Text.quoteChars kind.toList ++ after.toList := rfl
  rw [kindIn?, String.toList_append, String.toList_append, Text.quote, String.toList_ofList,
    List.append_assoc, List.dropWhile_append_of_pos hskip, hrest, Text.readQuoted?_quoteChars]
  simp

/-- The kind can be read off what is said of a rejection. -/
theorem kindIn?_message (why : Rejection) : kindIn? why.toFault.message = why.kind? := by
  cases hkind : why.kind? with
  | none =>
    cases why with
    | empty => decide
    | _ => cases hkind
  | some kind =>
    obtain ⟨before, after, hbefore, hmessage⟩ := message_eq hkind
    rw [hmessage, kindIn?_append hbefore]

/-- A rejection names the kind, unless the kind is empty, and the payload as well. -/
theorem kind?_of_build (h : Event.build kind payload = .error why) :
    why.kind? = some kind ∨ why = .empty ∧ kind = "" := by
  cases Event.build_eq_error_iff.mp h with
  | empty hkind hpayload => exact .inr ⟨rfl, hkind⟩
  | brokenKind => exact .inl rfl
  | brokenPayload => exact .inl rfl

/-- Different kinds are rejected in different words. -/
theorem message_ne_of_build (h : Event.build kind payload = .error why)
    (h' : Event.build kind' payload' = .error why') (hne : kind' ≠ kind) :
    why'.toFault.message ≠ why.toFault.message := by
  intro hsame
  have hkinds : why'.kind? = why.kind? := by
    rw [← kindIn?_message, ← kindIn?_message, hsame]
  rcases kind?_of_build h with hk | ⟨rfl, hk⟩ <;>
    rcases kind?_of_build h' with hk' | ⟨rfl, hk'⟩
  · exact hne (Option.some.inj (hk'.symm.trans (hkinds.trans hk)))
  · cases hkinds.trans hk
  · cases hk'.symm.trans hkinds
  · exact hne (hk'.trans hk.symm)

/-- Of the payload it matters whether it is empty and whether it fits on a line. -/
theorem build_of_alike (h : Event.build kind payload = .error why)
    (hempty : payload' = "" ↔ payload = "") (hline : OneLine payload' ↔ OneLine payload) :
    Event.build kind payload' = .error why := by
  rw [Event.build_eq_error_iff] at h ⊢
  cases h with
  | empty hkind hpayload => exact .empty hkind (hempty.mpr hpayload)
  | brokenKind hkind => exact .brokenKind hkind
  | brokenPayload hkind hpayload => exact .brokenPayload hkind fun h => hpayload (hline.mp h)

/-- A line break in either string is a reason for a rejection that names the kind. -/
theorem exists_of_broken (h : ¬(OneLine kind ∧ OneLine payload)) :
    ∃ why, Event.build kind payload = .error why ∧ why ≠ .empty := by
  simp only [Event.build_eq_error_iff]
  by_cases hkind : OneLine kind
  · exact ⟨_, .brokenPayload hkind fun hpayload => h ⟨hkind, hpayload⟩, by simp⟩
  · exact ⟨_, .brokenKind hkind, by simp⟩

/-- Whatever two strings an event is to be made of, what is said of the outcome fits on a line. An
event is shown as its kind and its payload; with a line break in either string there is none, and
the rejection quotes the kind, which can be read back from it. Of the payload it tells no more than
whether it is empty and whether it fits on a line; and different kinds are rejected in different
words. -/
theorem texts_on_one_line (kind payload : String) :
    (∀ e, Event.build kind payload = .ok e → OneLine e.display) ∧
    (¬(OneLine kind ∧ OneLine payload) →
      ∃ why, Event.build kind payload = .error why ∧ why ≠ .empty) ∧
    (∀ why, Event.build kind payload = .error why →
      OneLine why.toFault.message ∧ OneLine why.refusal ∧
      (∀ payload', (payload' = "" ↔ payload = "") → (OneLine payload' ↔ OneLine payload) →
        Event.build kind payload' = .error why) ∧
      (why ≠ .empty →
        (∃ before after, why.toFault.message = before ++ Text.quote kind ++ after) ∧
          kindIn? why.toFault.message = some kind) ∧
      ∀ kind' payload' why', Event.build kind' payload' = .error why' → kind' ≠ kind →
        why'.toFault.message ≠ why.toFault.message) ∧
    ∀ s, Text.unquote? (Text.quote s) = some s := by
  refine ⟨fun e _ => e.oneLine_display, exists_of_broken, fun why h => ?_, Text.unquote?_quote⟩
  refine ⟨why.oneLine_message, why.oneLine_refusal, fun _ => build_of_alike h, fun hne => ?_,
    fun _ _ _ h' => message_ne_of_build h h'⟩
  have hkind : why.kind? = some kind :=
    (kind?_of_build h).resolve_right fun hempty => hne hempty.1
  obtain ⟨before, after, -, hmessage⟩ := message_eq hkind
  exact ⟨⟨before, after, hmessage⟩, (kindIn?_message why).trans hkind⟩

/-- A kind that breaks the line, holds quotes and joins a mark to a letter is read back from what is
said of it. -/
theorem texts_on_one_line_marks :
    let kind := "e\u0301\"\n\\"
    (∃ why, Event.build kind "" = .error why ∧ kindIn? why.toFault.message = some kind) ∧
      Text.quote kind = "\"e\\u\x7b301\x7d\\\"\\n\\\\\"" := by
  intro kind
  obtain ⟨-, hbroken, hrejected, -⟩ := texts_on_one_line kind ""
  obtain ⟨why, hwhy, hne⟩ := hbroken (by decide)
  obtain ⟨-, -, -, hread, -⟩ := hrejected why hwhy
  exact ⟨⟨why, hwhy, (hread hne).2⟩, by set_option maxRecDepth 8000 in decide⟩

end Rejection
end LiveUpdate
