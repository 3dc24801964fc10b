/-
**Logins.**

A web server in front authenticates the user and forwards the request with the identity in a
header.  The login turns it into a session for the room that the query names.  What is wrong is
looked for in a fixed order: a parameter that is named twice, a parameter that is missing or empty,
and an identity that is missing.

Main definitions:

* `Login.Params`, `Login.Params.ofPairs` — the parameters of a query;
* `Login.identity?` — the forwarded identity;
* `Login.respond` — the answer to a login, and what it changes.

Main results:

* `Login.respond_of_duplicate` — a parameter that is named twice changes nothing.
-/
import ConferenceAuth.Backend
import ConferenceAuth.Http.Message
import ConferenceAuth.Http.Query
import ConferenceAuth.Text.Blank
import ConferenceAuth.Text.Json

set_option autoImplicit false

namespace ConferenceAuth

namespace Login

/-! ### Parameters -/

/-- The parameters of a login. -/
structure Params where
  room : Option String := none
  machineUid : Option String := none
  deriving DecidableEq, Repr

def roomField : String := "room"

def machineField : String := "machineUID"

namespace Params

/-- The parameters with one more pair; fails with the name of a parameter that is named again. -/
def add (p : Params) (pair : String × String) : Except String Params :=
  if pair.1 = roomField then
    if p.room.isSome then .error roomField else .ok { p with room := some pair.2 }
  else if pair.1 = machineField then
    if p.machineUid.isSome then .error machineField else .ok { p with machineUid := some pair.2 }
  else .ok p

def addAll (p : Params) : List (String × String) → Except String Params
  | [] => .ok p
  | pair :: pairs =>
      match p.add pair with
      | .ok p => p.addAll pairs
      | .error field => .error field

/-- The parameters that pairs name; fails with the name of one that is named twice. -/
def ofPairs (pairs : List (String × String)) : Except String Params := addAll {} pairs

end Params

def params (r : Request) : Except String Params := Params.ofPairs (Query.pairs r.queryBytes)

/-! ### Identity -/

/-- The headers that may hold an identity, the preferred one first. -/
def identityHeaders : List String := ["eppn", "mail"]

/-- The identity in a header: its value without the blanks around it, unless nothing is left. -/
def identityIn? (r : Request) (header : String) : Option String :=
  ((r.header? header).map fun v => String.ofList (Text.trim v.toList)).filter (· ≠ "")

/-- The forwarded identity. -/
def identity? (r : Request) : Option String := identityHeaders.findSome? (identityIn? r)

/-! ### Answers -/

/-- The body that tells a client its session. -/
def sessionBody (id : String) : String :=
  "\x7b\"sessionId\":" ++ Text.jsonString id ++ "\x7d"

/-- The body that tells a client what is wrong. -/
def errorBody (reason : String) : String := "\x7b\"error\":" ++ Text.jsonString reason ++ "\x7d"

/-- The text for a parameter that is named twice. -/
def duplicateText (field : String) : String :=
  "Failed to deserialize query string: duplicate field \x60" ++ field ++ "\x60"

/-- A refused login: the answer, and the outcome in the metrics. -/
def refuse (b : Backend) (status : Nat) (reason : String) (outcome : LoginOutcome) :
    Response × Backend :=
  (.json status (errorBody reason), { b with metrics := b.metrics.countLogin outcome })

/-- A successful login: the answer, and the session with the outcome in the metrics. -/
def accept (b : Backend) (authority : AuthorityRef) (machineUid identity room : String) :
    Response × Backend :=
  let (s, b') := b.openSession authority machineUid identity room
  (.json 200 (sessionBody s.id), { b' with metrics := b'.metrics.countLogin .success })

/-- **The answer to a login at an authority, and what it changes.** -/
def respond (authority : AuthorityRef) (r : Request) (b : Backend) : Response × Backend :=
  match params r with
  | .error field => (.text 400 (duplicateText field), b)
  | .ok p =>
      match p.room.filter (· ≠ ""), p.machineUid.filter (· ≠ "") with
      | some room, some machineUid =>
          match identity? r with
          | some identity => accept b authority machineUid identity room
          | none => refuse b 403 "no identity forwarded" .noIdentity
      | _, _ => refuse b 400 "room and machineUID are required" .badRequest

/-- A parameter that is named twice changes nothing. -/
theorem respond_of_duplicate {authority : AuthorityRef} {r : Request} {b : Backend}
    {field : String} (h : params r = .error field) :
    respond authority r b = (.text 400 (duplicateText field), b) := by
  simp [respond, h]

end Login

end ConferenceAuth
