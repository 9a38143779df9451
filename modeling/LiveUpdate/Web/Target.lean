/-! The target of a request: a path with perhaps a query, which may follow a scheme and an
authority. A fragment is not part of it. -/
namespace LiveUpdate.Web

structure Target where
  /-- Scheme and authority, with what separates them; empty where only a path is given. -/
  origin : String
  path : String
  query : Option String
  deriving DecidableEq, Repr

namespace Target

/-- Cuts before the first of some characters. -/
def cutAt (stops : List Char) (s : List Char) : List Char × List Char :=
  s.span fun c => !stops.contains c

def ofPath (origin : String) (s : List Char) : Target :=
  let (path, rest) := cutAt ['?'] s
  let path := if path = [] && origin ≠ "" then ['/'] else path
  ⟨origin, String.ofList path, rest.tail?.map String.ofList⟩

/-- The scheme in front, and what follows the two slashes after it. -/
def scheme? (s : List Char) : Option (List Char × List Char) :=
  match cutAt [':', '/', '?'] s with
  | (scheme, ':' :: '/' :: '/' :: rest) => some (scheme, rest)
  | _ => none

/-- The two common schemes are known in any mixture of cases. -/
def schemeText (scheme : List Char) : List Char :=
  let lower := scheme.map Char.toLower
  if lower = "http".toList || lower = "https".toList then lower else scheme

def ofText (text : String) : Target :=
  let s := (cutAt ['#'] text.toList).1
  match s.head? with
  | some '/' => ofPath "" s
  | _ =>
    match scheme? s with
    | none => if s = ['*'] then ⟨"", "*", none⟩ else ⟨String.ofList s, "", none⟩
    | some (scheme, rest) =>
      let (authority, rest) := cutAt ['/', '?'] rest
      ofPath (String.ofList (schemeText scheme ++ "://".toList ++ authority)) rest

/-- The target as reports name it. -/
def display (t : Target) : String :=
  t.origin ++ t.path ++ match t.query with
    | some query => "?" ++ query
    | none => ""

end Target
end LiveUpdate.Web
