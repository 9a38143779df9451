import LiveUpdate.Proofs.EventSource
import LiveUpdate.Proofs.JsonParsing
import LiveUpdate.Proofs.TextGrammar

/-! Course counts as clients read them. A count travels as one text, the course and the number with
a comma between them, and a course may hold commas itself; the number holds none, so the last comma
is the one that separates. -/
namespace LiveUpdate

/-- What the member of that name says, if it is a string. -/
def Json.Value.text? (name : String) : Json.Value → Option String
  | .object members =>
    match members.lookup name with
    | some (.string text) => some text
    | _ => none
  | _ => none

namespace CourseCount

/-- The course is what stands before the last comma, and the number what stands after it. -/
def ofPayload? (payload : String) : Option CourseCount := do
  let (course, number) ← EncodingCause.splitLast? [','] payload.toList
  let students ← Text.readInteger? number
  return ⟨String.ofList course, students⟩

/-- The count that a text frame tells. -/
def ofFrame? (frame : String) : Option CourseCount := do
  let update ← Json.parse frame
  if update.text? "kind" = some "course_count_update" then
    let payload ← update.text? "payload"
    ofPayload? payload
  else none

/-- The count that the block of a stream tells. -/
def ofBlock? (block : String) : Option CourseCount :=
  match EventSource.messages block with
  | [message] => if message.type = "course_count_update" then ofPayload? message.data else none
  | _ => none

end CourseCount

/-! ### The last comma -/

namespace EncodingCause

variable {mark : Char} {s before after : List Char}

theorem splitLast?_cons (c : Char) (s : List Char) : splitLast? [mark] (c :: s) =
    match splitLast? [mark] s with
    | some (before, after) => some (c :: before, after)
    | none => if c = mark then some ([], s) else none := by
  have hprefix : [mark].isPrefixOf (c :: s) = (c == mark) := by
    simp [List.isPrefixOf, Bool.beq_comm]
  rw [splitLast?, hprefix]
  cases splitLast? [mark] s <;> simp

theorem splitLast?_eq_none_iff : splitLast? [mark] s = none ↔ mark ∉ s := by
  induction s with
  | nil => simp [splitLast?]
  | cons c s ih =>
    rw [splitLast?_cons, List.mem_cons, not_or, ← ih]
    cases splitLast? [mark] s <;> simp [eq_comm]

theorem splitLast?_append (before : List Char) (h : mark ∉ after) :
    splitLast? [mark] (before ++ mark :: after) = some (before, after) := by
  induction before with
  | nil =>
    rw [List.nil_append, splitLast?_cons, splitLast?_eq_none_iff.mpr h]
    exact if_pos rfl
  | cons c before ih => rw [List.cons_append, splitLast?_cons, ih]

/-- The mark that a text is split at is the one that no other follows. -/
theorem splitLast?_eq_some_iff :
    splitLast? [mark] s = some (before, after) ↔ s = before ++ mark :: after ∧ mark ∉ after := by
  constructor
  · intro h
    have hmem : mark ∈ s.reverse := by
      by_contra hno
      rw [List.mem_reverse, ← splitLast?_eq_none_iff, h] at hno
      cases hno
    -- The last mark of a text is the first one from behind.
    obtain ⟨back, front, hsplit, hback⟩ := List.eq_append_cons_of_mem hmem
    have hs : s = front.reverse ++ mark :: back.reverse := by
      rw [← s.reverse_reverse, hsplit]
      simp
    have hafter : mark ∉ back.reverse := by rwa [List.mem_reverse]
    rw [hs, splitLast?_append _ hafter] at h
    cases h
    exact ⟨hs, hafter⟩
  · rintro ⟨rfl, h⟩
    exact splitLast?_append before h

end EncodingCause

/-! ### Counts -/

theorem comma_not_mem_numeral {s : List Char} {n : Int} (h : Text.Numeral s n) : ',' ∉ s := by
  have hdigits {s : List Char} {n : Nat} (h : Text.Digits s n) : ',' ∉ s := fun hmem =>
    Bool.noConfusion (h.all_digits _ hmem)
  cases h with
  | unsigned h => exact hdigits h
  | positive h => simpa using hdigits h
  | negative h => simpa using hdigits h

namespace CourseCount

variable {course : String} {students : Int} {e : Event}

/-- Whatever the course is, a payload tells it from the number. -/
theorem ofPayload?_payload (course : String) (students : Int) :
    ofPayload? (course ++ "," ++ Text.integerText students) = some ⟨course, students⟩ := by
  have hnumber := Text.numeral_integerText students
  have hsplit : EncodingCause.splitLast? [',']
      (course ++ "," ++ Text.integerText students).toList =
        some (course.toList, (Text.integerText students).toList) := by
    rw [EncodingCause.splitLast?_eq_some_iff]
    exact ⟨by simp, comma_not_mem_numeral hnumber⟩
  have hread := Text.readInteger?_eq_some_iff.mpr hnumber
  simp only [ofPayload?, hsplit, hread, Option.bind_eq_bind, Option.bind_some,
    String.ofList_toList, pure]

/-- The payload of a count is never empty, as there is a comma in it. -/
theorem fields_of_courseCount (h : Event.courseCount course students = .ok e) :
    e.kind = "course_count_update" ∧ e.payload = course ++ "," ++ Text.integerText students ∧
      e.payload ≠ "" := by
  obtain ⟨hkind, hpayload⟩ := Event.build_eq_ok_iff.mp h
  refine ⟨hkind, hpayload, ?_⟩
  rw [hpayload]
  intro hempty
  have hlength := congrArg String.length hempty
  simp [String.length_append] at hlength

theorem ofFrame?_json (h : Event.courseCount course students = .ok e) :
    ofFrame? (Frame.json e) = some ⟨course, students⟩ := by
  obtain ⟨hkind, hpayload, hne⟩ := fields_of_courseCount h
  have hmembers : Json.members e = [("kind", .string "course_count_update"),
      ("payload", .string (course ++ "," ++ Text.integerText students))] := by
    rw [Json.members, if_neg hne, hkind, hpayload]
  simp [ofFrame?, Json.parse_json, hmembers, Json.Value.text?, List.lookup_cons, ofPayload?_payload]

theorem ofBlock?_sse (h : Event.courseCount course students = .ok e) :
    ofBlock? (Frame.sse e) = some ⟨course, students⟩ := by
  obtain ⟨hkind, hpayload, hne⟩ := fields_of_courseCount h
  have htold : EventSource.messages (Frame.sse e) = [EventSource.heard e] := by
    have hmark := EventSource.head?_sse e []
    have htell := EventSource.tell_sse e []
    rw [List.append_nil] at hmark htell
    rw [if_neg hne] at htell
    rw [EventSource.messages, Frame.sse, String.toList_ofList, if_neg hmark, htell]
    rfl
  have hheard : EventSource.heard e =
      ⟨"course_count_update", course ++ "," ++ Text.integerText students, ""⟩ := by
    rw [EventSource.heard, if_neg (by rw [hkind]; decide), hkind, hpayload]
  simp [ofBlock?, htold, hheard, ofPayload?_payload]

/-- A course that fits on a line survives both wires with its count: the event is built, and of its
text frame and of its block a client reads the course and the number exactly as they were, splitting
the payload at its last comma. So no other count is ever told by the same frame or the same block. -/
theorem courseCount_survives (course : String) (students : Int) (h : OneLine course) :
    ∃ e frame block, Event.courseCount course students = .ok e ∧
      Encoder.json e = .frame frame ∧ Encoder.sse e = .frame block ∧
      ofFrame? frame = some ⟨course, students⟩ ∧ ofBlock? block = some ⟨course, students⟩ ∧
      ∀ course' students' e', Event.courseCount course' students' = .ok e' →
        (Encoder.json e' = .frame frame ∨ Encoder.sse e' = .frame block) →
          course' = course ∧ students' = students := by
  obtain ⟨e, he⟩ := Event.courseCount_iff.mpr h
  refine ⟨e, Frame.json e, Frame.sse e, he, rfl, rfl, ofFrame?_json he, ofBlock?_sse he,
    fun course' students' e' he' hsame => ?_⟩
  have hcount : some (CourseCount.mk course' students') = some ⟨course, students⟩ := by
    rcases hsame with hsame | hsame
    · rw [← ofFrame?_json he', Encoding.frame.inj hsame, ofFrame?_json he]
    · rw [← ofBlock?_sse he', Encoding.frame.inj hsame, ofBlock?_sse he]
  cases hcount
  exact ⟨rfl, rfl⟩

/-- A course that looks like a count itself, with the least number that a word can hold. -/
theorem courseCount_survives_commas :
    let e : Event := ⟨"course_count_update", "a, -1,07,-9223372036854775808", by decide, by decide,
      by decide⟩
    OneLine "a, -1,07" ∧ Event.courseCount "a, -1,07" (-9223372036854775808) = .ok e ∧
      ofFrame? (Frame.json e) = some ⟨"a, -1,07", -9223372036854775808⟩ ∧
      ofBlock? (Frame.sse e) = some ⟨"a, -1,07", -9223372036854775808⟩ := by
  intro e
  have hbuilt : Event.courseCount "a, -1,07" (-9223372036854775808) = .ok e := by decide +kernel
  obtain ⟨e', frame, block, he, hframe, hblock, hread, hheard, -⟩ :=
    courseCount_survives "a, -1,07" (-9223372036854775808) (by decide)
  obtain rfl : e = e' := Except.ok.inj (hbuilt.symm.trans he)
  obtain rfl : Frame.json e = frame := Encoding.frame.inj hframe
  obtain rfl : Frame.sse e = block := Encoding.frame.inj hblock
  exact ⟨by decide, hbuilt, hread, hheard⟩

end CourseCount
end LiveUpdate
