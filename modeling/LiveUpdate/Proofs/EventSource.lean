import LiveUpdate.Proofs.SseParsing
import LiveUpdate.Pump.Sink

/-! A client of a server-sent-events stream that goes by the standard: a block whose data are empty
is no message, even if it has a type. What such a client is told of a stream are the events that
have a payload; of an event without one it hears nothing. -/
namespace LiveUpdate.EventSource

/-- What a client hands to its listeners. -/
structure MessageEvent where
  type : String
  data : String
  lastId : String
  deriving DecidableEq, Repr

/-- What a client has gathered since the last blank line; the last id stays. -/
structure Buffers where
  type : List Char
  data : List Char
  lastId : List Char
  deriving DecidableEq, Repr

namespace Buffers

def empty : Buffers := ⟨[], [], []⟩

/-- A field is processed. A field `retry` says only how long to wait before asking again, and other
names say nothing. -/
def process (b : Buffers) (name value : List Char) : Buffers :=
  if name = "event".toList then { b with type := value }
  else if name = "data".toList then { b with data := b.data ++ value ++ ['\n'] }
  else if name = "id".toList then if '\x00' ∈ value then b else { b with lastId := value }
  else b

/-- A line that is not blank. A line that starts with a colon is a comment; one space after the
colon of a field does not count; a line without a colon is a field without a value. -/
def read (b : Buffers) (line : List Char) : Buffers :=
  if line.head? = some ':' then b
  else
    let name := line.takeWhile (· ≠ ':')
    let value := (line.dropWhile (· ≠ ':')).drop 1
    b.process name (if value.head? = some ' ' then value.drop 1 else value)

/-- What a blank line makes of the buffers: nothing if the data are empty, else a message without
the last line feed of the data. -/
def dispatch (b : Buffers) : List MessageEvent :=
  if b.data = [] then []
  else
    let data := if b.data.getLast? = some '\n' then b.data.dropLast else b.data
    [⟨if b.type = [] then "message" else String.ofList b.type, String.ofList data,
      String.ofList b.lastId⟩]

def clear (b : Buffers) : Buffers := { b with type := [], data := [] }

end Buffers

/-- The lines that have ended: with a carriage return, a line feed, or one after the other. -/
def linesFrom (line : List Char) : List Char → List (List Char)
  | [] => []
  | '\r' :: '\n' :: rest => line :: linesFrom [] rest
  | c :: rest =>
    if c = '\r' ∨ c = '\n' then line :: linesFrom [] rest else linesFrom (line ++ [c]) rest

/-- What is told line by line. A block that is not ended by a blank line does not count. -/
def tell (b : Buffers) : List (List Char) → List MessageEvent
  | [] => []
  | line :: rest => if line = [] then b.dispatch ++ tell b.clear rest else tell (b.read line) rest

/-- What a client is told of a stream, at the front of which one byte order mark does not count. -/
def messages (stream : String) : List MessageEvent :=
  let text := stream.toList
  tell .empty (linesFrom [] (if text.head? = some '\ufeff' then text.drop 1 else text))

variable {line rest : List Char} {b : Buffers} {e : Event}

/-! ### Lines -/

theorem linesFrom_line (before : List Char) (h : ∀ c ∈ line, c ≠ '\n' ∧ c ≠ '\r') :
    linesFrom before (line ++ '\n' :: rest) = (before ++ line) :: linesFrom [] rest := by
  induction line generalizing before with
  | nil => simp [linesFrom]
  | cons c line ih =>
    obtain ⟨⟨hfeed, hreturn⟩, hline⟩ := List.forall_mem_cons.mp h
    rw [List.cons_append, linesFrom, if_neg (by simp [hfeed, hreturn]), ih _ hline,
      List.append_assoc, List.singleton_append]
    exact fun _ hc _ => hreturn hc

theorem linesFrom_blank : linesFrom [] ('\n' :: rest) = [] :: linesFrom [] rest :=
  linesFrom_line [] (List.forall_mem_nil _)

/-- The line of a field, if it has a value. -/
theorem linesFrom_field {name value : String} (hname : OneLine name) (hvalue : OneLine value) :
    linesFrom [] (Frame.sseField name value ++ rest) =
      (if value = "" then [] else [name.toList ++ ':' :: ' ' :: value.toList]) ++
        linesFrom [] rest := by
  by_cases hv : value = ""
  · simp [Frame.sseField, hv]
  · have hline : ∀ c ∈ name.toList ++ ':' :: ' ' :: value.toList, c ≠ '\n' ∧ c ≠ '\r' := by
      intro c hc
      simp only [List.mem_append, List.mem_cons] at hc
      rcases hc with hc | rfl | rfl | hc
      · exact hname c hc
      · decide
      · decide
      · exact hvalue c hc
    have hended := @linesFrom_line _ rest [] hline
    simpa [Frame.sseField, hv] using hended

theorem tell_line (h : line ≠ []) (lines : List (List Char)) :
    tell b (line :: lines) = tell (b.read line) lines := if_neg h

theorem tell_blank (lines : List (List Char)) :
    tell b ([] :: lines) = b.dispatch ++ tell b.clear lines := rfl

/-! ### Fields -/

variable {kind payload : String}

theorem tell_event (h : OneLine kind) :
    tell b (linesFrom [] (Frame.sseField "event" kind ++ rest)) =
      tell { b with type := if kind = "" then b.type else kind.toList } (linesFrom [] rest) := by
  rw [linesFrom_field (by decide) h]
  by_cases hk : kind = ""
  · simp [hk]
  · rw [if_neg hk, if_neg hk, List.singleton_append, tell_line (by simp)]
    simp [Buffers.read, Buffers.process]

theorem tell_data (h : OneLine payload) :
    tell b (linesFrom [] (Frame.sseField "data" payload ++ rest)) =
      tell { b with data := b.data ++ if payload = "" then [] else payload.toList ++ ['\n'] }
        (linesFrom [] rest) := by
  rw [linesFrom_field (by decide) h]
  by_cases hp : payload = ""
  · simp [hp]
  · rw [if_neg hp, if_neg hp, List.singleton_append, tell_line (by simp)]
    simp [Buffers.read, Buffers.process]

/-! ### Blocks -/

/-- What a client makes of an event that reaches its listeners. -/
def heard (e : Event) : MessageEvent :=
  ⟨if e.kind = "" then "message" else e.kind, e.payload, ""⟩

/-- The block of an event is told as the event if there is a payload, and not at all if not. -/
theorem tell_sse (e : Event) (rest : List Char) :
    tell .empty (linesFrom [] (Frame.sseChars e ++ rest)) =
      (if e.payload = "" then [] else [heard e]) ++ tell .empty (linesFrom [] rest) := by
  rw [Frame.sseChars, List.append_assoc, List.append_assoc, tell_event e.wellFormed.kind_oneLine,
    tell_data e.wellFormed.payload_oneLine, List.singleton_append, linesFrom_blank, tell_blank]
  by_cases hk : e.kind = "" <;> by_cases hp : e.payload = "" <;>
    simp [hk, hp, Buffers.dispatch, Buffers.clear, Buffers.empty, heard]

theorem tell_keepAlive (rest : List Char) :
    tell .empty (linesFrom [] (Frame.keepAlive.toList ++ rest)) =
      tell .empty (linesFrom [] rest) := rfl

/-! ### Streams -/

/-- What has been read of a stream: the blocks of some events, and comments between them. -/
theorem tell_join {chunks : List String} {events : List Event}
    (h : chunks.filter (· ≠ Frame.keepAlive) = events.map Frame.sse) :
    tell .empty (linesFrom [] (chunks.flatMap String.toList)) =
      (events.filter (·.payload ≠ "")).map heard := by
  induction chunks generalizing events with
  | nil =>
    obtain rfl := List.map_eq_nil_iff.mp h.symm
    rfl
  | cons chunk chunks ih =>
    rw [List.flatMap_cons]
    by_cases hchunk : chunk = Frame.keepAlive
    · rw [List.filter_cons_of_neg (by simp [hchunk])] at h
      rw [hchunk, tell_keepAlive, ih h]
    · rw [List.filter_cons_of_pos (by simp [hchunk])] at h
      cases events with
      | nil => cases h
      | cons e events =>
        obtain ⟨rfl, hrest⟩ := List.cons.inj h
        rw [Frame.sse, String.toList_ofList, tell_sse, ih hrest]
        by_cases hp : e.payload = "" <;> simp [hp]

theorem head?_sse (e : Event) (rest : List Char) :
    (Frame.sseChars e ++ rest).head? ≠ some '\ufeff' := by
  by_cases hk : e.kind = "" <;> by_cases hp : e.payload = "" <;>
    simp [Frame.sseChars, Frame.sseField, hk, hp]

/-- Neither a block nor a comment begins with a byte order mark. -/
theorem head?_join {chunks : List String} {events : List Event}
    (h : chunks.filter (· ≠ Frame.keepAlive) = events.map Frame.sse) :
    (chunks.flatMap String.toList).head? ≠ some '\ufeff' := by
  cases chunks with
  | nil => simp
  | cons chunk chunks =>
    by_cases hchunk : chunk = Frame.keepAlive
    · simp [hchunk, Frame.keepAlive]
    · have hmem : chunk ∈ events.map Frame.sse := by
        rw [← h]
        exact List.mem_filter.mpr ⟨List.mem_cons_self, by simp [hchunk]⟩
      obtain ⟨e, -, rfl⟩ := List.mem_map.mp hmem
      rw [List.flatMap_cons, Frame.sse, String.toList_ofList]
      exact head?_sse e _

/-- Of all the events of a stream, a client is told in their order of those that have a payload,
each of them once, and of nothing else; so it is told of every event only if every event has one. -/
theorem payloads_dispatched {chunks : List String} {events : List Event}
    (h : (chunks.filter (· ≠ Frame.keepAlive)).map Encoding.frame = events.map Encoder.sse) :
    messages (String.join chunks) = (events.filter (·.payload ≠ "")).map heard ∧
      (messages (String.join chunks) = events.map heard ↔ ∀ e ∈ events, e.payload ≠ "") := by
  have hblocks : chunks.filter (· ≠ Frame.keepAlive) = events.map Frame.sse := by
    have hframes : events.map Encoder.sse = (events.map Frame.sse).map Encoding.frame := by
      rw [List.map_map]
      rfl
    rw [hframes] at h
    exact List.map_injective_iff.mpr (fun _ _ he => Encoding.frame.inj he) h
  have htold : messages (String.join chunks) = (events.filter (·.payload ≠ "")).map heard := by
    rw [messages, String.toList_join, if_neg (head?_join hblocks)]
    exact tell_join hblocks
  refine ⟨htold, ?_⟩
  rw [htold]
  constructor
  · intro hall
    have hlength := congrArg List.length hall
    rw [List.length_map, List.length_map, List.length_filter_eq_length_iff] at hlength
    simpa using hlength
  · intro hall
    rw [List.filter_eq_self.mpr (by simpa using hall)]

/-- A notification comes between two changes without a payload; it alone is told. -/
theorem payloads_dispatched_notify :
    let note : Event := ⟨"notify", "soon", by decide, by decide, by decide⟩
    let events : List Event := [.invalidate .courses, note, .hello]
    let chunks := ["event: invalidate_courses\n\n", ":\n\n", "event: notify\ndata: soon\n\n",
      "event: hello\n\n"]
    (chunks.filter (· ≠ Frame.keepAlive)).map Encoding.frame = events.map Encoder.sse ∧
      messages (String.join chunks) = [⟨"notify", "soon", ""⟩] ∧
      ¬messages (String.join chunks) = events.map heard := by
  intro note events chunks
  have hchunks : (chunks.filter (· ≠ Frame.keepAlive)).map Encoding.frame =
      events.map Encoder.sse := by decide
  obtain ⟨htold, hall⟩ := payloads_dispatched hchunks
  refine ⟨hchunks, htold.trans rfl, fun h => ?_⟩
  exact hall.mp h .hello (by decide) rfl

/-- A stream with one event of which its client is not told. -/
theorem signal_unheard :
    messages (Frame.sse (.invalidate .courses)) = [] ∧
      ¬∀ events : List Event,
        messages (String.join (events.map Frame.sse)) = events.map heard := by
  refine ⟨rfl, fun hall => ?_⟩
  have hone : messages (String.join ([.invalidate .courses].map Frame.sse)) ≠
      [.invalidate .courses].map heard := by decide
  exact hone (hall _)

end LiveUpdate.EventSource
