/-
**Requests and responses.**

A request has a method, a target and headers.  The target is a path, perhaps with a query; it may be
written as an absolute address, of which only path and query count, and a fragment is dropped.  A
header can be read as text when it holds visible ASCII characters, blanks and tabs only, and of
headers with one name only the first is looked at.

Main definitions:

* `Target`, `Target.ofText` — what a request asks for;
* `Request`, `Request.header?` — the readable value of a header;
* `Response` — status, the headers that matter, and the body.

Main results:

* `Target.cut_of_not_mem` — without a separator there is nothing to cut.
-/
import ConferenceAuth.Text.LetterCase
import ConferenceAuth.Text.Utf8

set_option autoImplicit false

namespace ConferenceAuth

/-! ### Targets -/

/-- What a request asks for. -/
structure Target where
  path : List Char
  /-- The query, empty where there is none. -/
  query : List Char
  deriving DecidableEq, Repr

namespace Target

/-- The part of an absolute address behind scheme and host, if a text is one. -/
def afterAuthority? : List Char → Option (List Char)
  | ':' :: '/' :: '/' :: rest => some (rest.dropWhile fun c => c != '/' && c != '?')
  | c :: rest => if c = '/' then none else afterAuthority? rest
  | [] => none

/-- The part of a text that names path and query. -/
def origin (cs : List Char) : List Char :=
  -- An absolute address may have a query without a path; its path is then the root.
  match afterAuthority? cs with
  | some rest => if rest.head? = some '/' then rest else '/' :: rest
  | none => cs

/-- What stands in front of a character, and what stands behind it. -/
def cut (sep : Char) (cs : List Char) : List Char × List Char :=
  (cs.takeWhile (· != sep), (cs.dropWhile (· != sep)).drop 1)

/-- Where a separator is missing, everything stands in front of it. -/
theorem cut_of_not_mem {sep : Char} {cs : List Char} (h : sep ∉ cs) :
    cut sep cs = (cs, []) := by
  have hne : ∀ c ∈ cs, (c != sep) = true := fun c hc => bne_iff_ne.2 fun heq => h (heq ▸ hc)
  have hfront := @List.takeWhile_append_of_pos _ (· != sep) cs [] hne
  have hback := @List.dropWhile_append_of_pos _ (· != sep) cs [] hne
  rw [List.append_nil] at hfront hback
  rw [cut, hfront, hback]
  simp

/-- **The target that a text names.** -/
def ofText (s : String) : Target :=
  let (path, query) := cut '?' (origin (cut '#' s.toList).1)
  ⟨path, query⟩

end Target

/-! ### Requests -/

/-- A request. -/
structure Request where
  /-- The method, in which letter case counts. -/
  method : String := "GET"
  /-- The target as it was sent. -/
  uri : String
  headers : List (String × String) := []
  deriving DecidableEq, Repr

namespace Request

/-- What a request asks for. -/
def target (r : Request) : Target := Target.ofText r.uri

/-- The path that a request asks for. -/
def path (r : Request) : String := String.ofList r.target.path

/-- The bytes of the query. -/
def queryBytes (r : Request) : List UInt8 := Text.utf8Encode r.target.query

/-- Whether a character may stand in a header that is read as text. -/
def isReadable (c : Char) : Bool := (' ' ≤ c && c ≤ '~') || c == '\t'

/-- The readable value of the first header of a name, in any letter case. -/
def header? (r : Request) (name : String) : Option String :=
  ((r.headers.find? fun h => Text.sameLetters h.1.toList name.toList).map (·.2)).filter
    (·.toList.all isReadable)

end Request

/-! ### Responses -/

/-- A response. -/
structure Response where
  status : Nat
  /-- The type of the body, if one is sent. -/
  contentType : Option String := none
  /-- The methods that would have been allowed, if they are sent. -/
  allow : Option String := none
  body : String := ""
  deriving DecidableEq, Repr

namespace Response

/-- A response that is only a status. -/
def bare (status : Nat) : Response := { status }

/-- A response with a body in the JSON format. -/
def json (status : Nat) (body : String) : Response :=
  { status, contentType := some "application/json", body }

/-- A response with a plain text. -/
def text (status : Nat) (body : String) : Response :=
  { status, contentType := some "text/plain; charset=utf-8", body }

/-- The response to an unknown path. -/
def notFound : Response := bare 404

/-- The response to a method that a path does not take. -/
def methodNotAllowed : Response := { status := 405, allow := some "GET,HEAD" }

def withoutBody (r : Response) : Response := { r with body := "" }

end Response

end ConferenceAuth
