import ReactLint.Failure
import ReactLint.Json.Decode
import ReactLint.Json.Render
import ReactLint.Text.Character

/-!
# Requests

A framework stands between the service and those who ask it: it leads a request to what it asks for
and reads its body. A request that asks for nothing of the service is answered by the framework.

The standard framework knows a resource by its path, sends a path with a slash too many or too few
to the right one, and minds the letter case of a method. A body is read as JSON in UTF-8 if its
content type says so or if it has none. It must be an object or `null`; one that is not is answered
by 422, and so is a body that is no JSON. A body that is not in UTF-8, that holds a whole number
with too many digits or in which lists and objects are nested too deeply is answered by 400. Left
out are bodies in other encodings, the pages that describe the interface and the requests by which a
browser asks ahead.
-/

namespace ReactLint.Http

structure Request where
  method : String
  /-- The path, without the query and without escapes. -/
  path : String
  headers : List (String × String) := []
  body : ByteArray := .empty

structure Response where
  status : Nat
  /-- The path to ask for instead. -/
  location : Option String := none
  /-- The origin that may read the answer. -/
  allowOrigin : Option String := none
  body : Option Json := none
  logs : List LogEntry := []

inductive Demand where
  | root
  | health
  /-- An analysis, with the members of the object that the body holds, if it holds one. -/
  | analysis (members : Option (List (String × Json)))

abbrev Framework := Request → Except Response Demand

def lowerName (s : String) : String := String.ofList (s.toList.map Char.toLower)

/-- The value of a header, whose name may be in any letter case. -/
def Request.header? (r : Request) (name : String) : Option String :=
  (r.headers.find? fun h => lowerName h.1 == name).map Prod.snd

def detail (s : String) : Json := .object [("detail", .text s)]

namespace Framework

/-! ## The standard framework -/

def notFound : Response := { status := 404, body := some (detail "Not Found") }

def notAllowed : Response := { status := 405, body := some (detail "Method Not Allowed") }

def invalid : Response := { status := 422 }

def unreadable : Response :=
  { status := 400, body := some (detail "There was an error parsing the body") }

def isJson (contentType : String) : Bool :=
  let cs := Text.trim (contentType.toList.takeWhile (· != ';'))
  let kind := "application/".toList
  let cs := cs.map Char.toLower
  let form := cs.drop kind.length
  kind.isPrefixOf cs && !form.contains '/' &&
    (form == "json".toList || "+json".toList.isSuffixOf form)

def dropMark (s : String) : String :=
  match s.toList with
  | '\uFEFF' :: cs => String.ofList cs
  | _ => s

def isReadable (nesting : Nat) (j : Json) : Bool := j.leavesAll Json.isShort && j.depth ≤ nesting

def membersOf : Json → Except Response (Option (List (String × Json)))
  | .null => .ok none
  | .object members => .ok (some members)
  | _ => .error invalid

def readBody (nesting : Nat) (r : Request) : Except Response (Option (List (String × Json))) :=
  if r.body.isEmpty then .ok none
  else if !((r.header? "content-type").all fun s => s = "" || isJson s) then .error invalid
  else match String.fromUTF8? r.body with
    | none => .error unreadable
    | some s =>
      match Json.decode (dropMark s) with
      | none => .error invalid
      | some j => if isReadable nesting j then membersOf j else .error unreadable

inductive Resource where
  | root
  | health
  | analysis
  deriving DecidableEq, Repr

namespace Resource

def all : List Resource := [.root, .health, .analysis]

def path : Resource → String
  | .root => "/"
  | .health => "/health"
  | .analysis => "/analyze"

def method : Resource → String
  | .root => "GET"
  | .health => "GET"
  | .analysis => "POST"

def ofPath? (path : String) : Option Resource := all.find? fun r => r.path == path

end Resource

/-- The path without the slashes at its end, or with one if it has none. -/
def sibling (path : String) : String :=
  match path.toList.reverse with
  | '/' :: cs => String.ofList (cs.dropWhile (· == '/')).reverse
  | _ => path ++ "/"

/-- The framework on a machine that reads bodies up to a depth of nesting. -/
def standard (nesting : Nat) : Framework := fun r =>
  match Resource.ofPath? r.path with
  | some resource =>
    if resource.method ≠ r.method then .error notAllowed
    else match resource with
      | .root => .ok .root
      | .health => .ok .health
      | .analysis => (readBody nesting r).map .analysis
  | none =>
    if (Resource.ofPath? (sibling r.path)).isSome then
      .error { status := 307, location := some (sibling r.path) }
    else .error notFound

end Framework

end ReactLint.Http
