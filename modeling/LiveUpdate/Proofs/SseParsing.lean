import LiveUpdate.Frame.Sse
import LiveUpdate.Proofs.WellFormed

/-! Reading server-sent events line by line. Lines end in a line feed, a line that starts with a colon
is a comment, an empty line ends a block, and one space after the colon of a field does not count.
What the body of a stream is made of reads back as the events that were put into it. -/
namespace LiveUpdate.Sse

/-- What a reader is told: the kind and the payload of an event. -/
abbrev Notice := String × String

/-- The fields of a block that have been read so far, the data line by line. -/
structure Block where
  kind : Option (List Char)
  data : List (List Char)
  deriving DecidableEq, Repr

namespace Block

def empty : Block := ⟨none, []⟩

/-- One space after the colon does not count. -/
def unspaced : List Char → List Char
  | ' ' :: rest => rest
  | value => value

/-- Reads a line. Comments and fields of other names are skipped. -/
def read (b : Block) : List Char → Block
  | ':' :: _ => b
  | line =>
    let name := line.takeWhile (· ≠ ':')
    let value := unspaced ((line.dropWhile (· ≠ ':')).drop 1)
    if name = "event".toList then { b with kind := some value }
    else if name = "data".toList then { b with data := b.data ++ [value] }
    else b

/-- What a block tells when it ends: nothing if it has no field, and a missing field is empty. -/
def notices (b : Block) : List Notice :=
  if b = empty then []
  else [(String.ofList (b.kind.getD []), String.ofList (['\n'].intercalate b.data))]

end Block

/-- Reads on in the middle of a line and of a block. What is not ended does not count. -/
def readOn (line : List Char) (b : Block) : List Char → List Notice
  | [] => []
  | c :: rest =>
    if c = '\n' then
      if line = [] then b.notices ++ readOn [] .empty rest else readOn [] (b.read line) rest
    else readOn (line ++ [c]) b rest

def parse (text : String) : List Notice := readOn [] .empty text.toList

variable {b : Block} {line rest : List Char} {e : Event}

/-! ### Lines -/

theorem readOn_line (before : List Char) (h : '\n' ∉ line) :
    readOn before b (line ++ '\n' :: rest) =
      if before ++ line = [] then b.notices ++ readOn [] .empty rest
      else readOn [] (b.read (before ++ line)) rest := by
  induction line generalizing before with
  | nil => simp [readOn]
  | cons c more ih =>
    obtain ⟨hc, hmore⟩ := List.ne_and_not_mem_of_not_mem_cons h
    have hrest := ih (before ++ [c]) hmore
    rw [List.append_assoc, List.singleton_append] at hrest
    rw [List.cons_append, readOn, if_neg fun he => hc he.symm, hrest]

theorem readOn_blank : readOn [] b ('\n' :: rest) = b.notices ++ readOn [] .empty rest := by
  simp [readOn]

theorem read_event (value : List Char) :
    b.read ("event".toList ++ ':' :: ' ' :: value) = { b with kind := some value } := by
  simp [Block.read, Block.unspaced]

theorem read_data (value : List Char) :
    b.read ("data".toList ++ ':' :: ' ' :: value) = { b with data := b.data ++ [value] } := by
  simp [Block.read, Block.unspaced]

theorem not_mem_of_oneLine {s : String} (h : OneLine s) : '\n' ∉ s.toList :=
  fun hmem => (h _ hmem).1 rfl

/-- The line of a field that is not empty. -/
theorem readOn_field {name value : String} (hname : '\n' ∉ name.toList) (hvalue : OneLine value)
    (hne : value ≠ "") : readOn [] b (Frame.sseField name value ++ rest) =
      readOn [] (b.read (name.toList ++ ':' :: ' ' :: value.toList)) rest := by
  have hline : '\n' ∉ name.toList ++ ':' :: ' ' :: value.toList := by
    simp [hname, not_mem_of_oneLine hvalue]
  have hread := @readOn_line b _ rest [] hline
  rw [List.nil_append, if_neg (by simp)] at hread
  rw [← hread, Frame.sseField, if_neg hne]
  simp

theorem readOn_noField (name : String) :
    readOn [] b (Frame.sseField name "" ++ rest) = readOn [] b rest := by
  simp [Frame.sseField]

/-! ### Blocks -/

/-- The block of an event tells of the event, whatever its fields look like. -/
theorem readOn_sse (e : Event) (rest : List Char) :
    readOn [] .empty (Frame.sseChars e ++ rest) = (e.kind, e.payload) :: readOn [] .empty rest := by
  obtain ⟨hkind, hpayload, hspeaks⟩ := e.wellFormed
  rw [Frame.sseChars, List.append_assoc, List.append_assoc]
  by_cases hk : e.kind = ""
  · have hp : e.payload ≠ "" := fun hp => hspeaks ⟨hk, hp⟩
    rw [hk, readOn_noField, readOn_field (by decide) hpayload hp, read_data, List.singleton_append,
      readOn_blank]
    simp [Block.notices, Block.empty, List.intercalate]
  · rw [readOn_field (by decide) hkind hk, read_event]
    by_cases hp : e.payload = ""
    · rw [hp, readOn_noField, List.singleton_append, readOn_blank]
      simp [Block.notices, Block.empty, List.intercalate]
    · rw [readOn_field (by decide) hpayload hp, read_data, List.singleton_append, readOn_blank]
      simp [Block.notices, Block.empty, List.intercalate]

theorem readOn_keepAlive (rest : List Char) :
    readOn [] .empty (Frame.keepAlive.toList ++ rest) = readOn [] .empty rest := rfl

/-- No block is a comment. -/
theorem sse_ne_keepAlive (e : Event) : Frame.sse e ≠ Frame.keepAlive := by
  intro he
  have hchars : Frame.sseChars e = Frame.keepAlive.toList := by
    rw [← he, Frame.sse, String.toList_ofList]
  have htold := readOn_sse e []
  rw [hchars] at htold
  have hnothing : readOn [] .empty (Frame.keepAlive.toList ++ []) = [] := rfl
  rw [hnothing] at htold
  cases htold

/-! ### Bodies -/

/-- Chunks that are, comments apart, the blocks of some events read as these events. -/
theorem parse_join {chunks : List String} {events : List Event}
    (h : chunks.filter (· ≠ Frame.keepAlive) = events.map Frame.sse) :
    parse (String.join chunks) = events.map fun e => (e.kind, e.payload) := by
  rw [parse, String.toList_join]
  induction chunks generalizing events with
  | nil =>
    cases events with
    | nil => rfl
    | cons e events => cases h
  | cons chunk rest ih =>
    rw [List.flatMap_cons]
    by_cases hchunk : chunk = Frame.keepAlive
    · rw [List.filter_cons_of_neg (by simp [hchunk])] at h
      rw [hchunk, readOn_keepAlive, ih h]
    · rw [List.filter_cons_of_pos (by simp [hchunk])] at h
      cases events with
      | nil => cases h
      | cons e events =>
        obtain ⟨rfl, hrest⟩ := List.cons.inj h
        rw [Frame.sse, String.toList_ofList, readOn_sse, ih hrest, List.map_cons]

end LiveUpdate.Sse
