import LiveUpdate.Event

/-! The block of an event in a server-sent-events stream: a line for each field that is not empty,
and the blank line that ends the block. -/
namespace LiveUpdate.Frame

def sseField (name value : String) : List Char :=
  if value = "" then [] else name.toList ++ ':' :: ' ' :: value.toList ++ ['\n']

def sseChars (e : Event) : List Char :=
  sseField "event" e.kind ++ sseField "data" e.payload ++ ['\n']

def sse (e : Event) : String := String.ofList (sseChars e)

/-- An empty comment, which clients skip; it keeps an idle stream from being cut off. -/
def keepAlive : String := ":\n\n"

end LiveUpdate.Frame
