/-
**What a request to log in comes to.**

A login looks for what is wrong with a request in a fixed order, and what it finds first decides the
answer: a parameter that the query names twice, a parameter that is missing or empty, an identity
that no header bears.  Only when nothing is wrong is a session opened.  Each of the four is told
here by the decoded query and the headers as they stand, without the reader that goes through them,
and by the texts and the numbers that are seen afterwards.

Main definitions:

* `Login.given`, `Login.Repeats`, `Login.Lacks` — what a query says of a parameter;
* `Request.HasFirst`, `Login.Bears`, `Login.Forwards` — what the headers say of the user;
* `Metrics.LoginCounted` — one more login has ended in a way;
* `Login.Refused` — what is answered and what is left when a login is refused with a reason.

Main results:

* `Login.params_cases` — the reader of a query finds every parameter that is named once, and fails
  just at one that is named twice;
* `Login.identity?_eq_some_iff` — the identity is that of the preferred header that bears one;
* `login_is_decided_in_order` — **the four ways in which a login ends**, with all that each changes.
-/
import ConferenceAuth.Proofs.Http.Disclosure

set_option autoImplicit false

namespace ConferenceAuth

/-! ### The user that the headers name -/

/-- **The first header of a name**, in any letter case, has a value. -/
def Request.HasFirst (r : Request) (name value : String) : Prop :=
  ∃ before h after, r.headers = before ++ h :: after ∧ h.2 = value ∧
    Text.sameLetters h.1.toList name.toList = true ∧
    ∀ g ∈ before, Text.sameLetters g.1.toList name.toList = false

/-- Visible characters of ASCII, blanks and tabs can be read. -/
theorem Request.isReadable_iff {c : Char} :
    isReadable c = true ↔ (' ' ≤ c ∧ c ≤ '~') ∨ c = '\t' := by
  rw [isReadable, Bool.or_eq_true, Bool.and_eq_true, decide_eq_true_iff, decide_eq_true_iff,
    beq_iff_eq]

/-- The value that is looked at is that of the first header of the name, if it can be read. -/
theorem Request.header?_eq_some_iff {r : Request} {name value : String} :
    r.header? name = some value ↔
      r.HasFirst name value ∧ ∀ c ∈ value.toList, (' ' ≤ c ∧ c ≤ '~') ∨ c = '\t' := by
  simp only [header?, Option.filter_eq_some_iff, Option.map_eq_some_iff,
    List.find?_eq_some_iff_append, List.all_eq_true, Bool.not_eq_true', isReadable_iff]
  refine and_congr_left fun _ => ?_
  constructor
  · rintro ⟨h, ⟨hname, before, after, hheaders, hbefore⟩, hvalue⟩
    exact ⟨before, h, after, hheaders, hvalue, hname, hbefore⟩
  · rintro ⟨before, h, after, hheaders, hvalue, hname, hbefore⟩
    exact ⟨h, ⟨hname, before, after, hheaders, hbefore⟩, hvalue⟩

namespace Login

/-- **A header bears an identity**: the first of its name can be read, and between blanks there
stands the identity. -/
def Bears (r : Request) (header identity : String) : Prop :=
  ∃ value, r.HasFirst header value ∧ (∀ c ∈ value.toList, (' ' ≤ c ∧ c ≤ '~') ∨ c = '\t') ∧
    Text.TrimsTo value.toList identity.toList

theorem identityIn?_eq_some_iff {r : Request} {header identity : String} :
    identityIn? r header = some identity ↔ Bears r header identity := by
  have htrims : ∀ value : String, (String.ofList (Text.trim value.toList) = identity ∧
      identity ≠ "") ↔ Text.TrimsTo value.toList identity.toList := by
    intro value
    rw [Text.trimsTo_iff, ne_eq, ne_eq, String.toList_eq_nil_iff, ← String.toList_inj,
      String.toList_ofList]
  simp only [identityIn?, Option.filter_eq_some_iff, Option.map_eq_some_iff,
    Request.header?_eq_some_iff, decide_eq_true_eq]
  constructor
  · rintro ⟨⟨value, ⟨hfirst, hreadable⟩, htrim⟩, hne⟩
    exact ⟨value, hfirst, hreadable, (htrims value).1 ⟨htrim, hne⟩⟩
  · rintro ⟨value, hfirst, hreadable, htrim⟩
    obtain ⟨htrim, hne⟩ := (htrims value).2 htrim
    exact ⟨⟨value, ⟨hfirst, hreadable⟩, htrim⟩, hne⟩

/-- **The forwarded identity**: that of the header `eppn` if it bears one, and otherwise that of the
header `mail`. -/
def Forwards (r : Request) (identity : String) : Prop :=
  Bears r "eppn" identity ∨ (∀ other, ¬ Bears r "eppn" other) ∧ Bears r "mail" identity

/-- **The identity is that of the preferred header that bears one.** -/
theorem identity?_eq_some_iff {r : Request} {identity : String} :
    identity? r = some identity ↔ Forwards r identity := by
  have hor : identity? r = (identityIn? r "eppn").or (identityIn? r "mail") := by
    simp only [identity?, identityHeaders, List.findSome?_cons, List.findSome?_nil]
    cases identityIn? r "eppn" <;> cases identityIn? r "mail" <;> rfl
  rw [hor, Option.or_eq_some_iff, Option.eq_none_iff_forall_ne_some, identityIn?_eq_some_iff,
    identityIn?_eq_some_iff]
  simp only [ne_eq, identityIn?_eq_some_iff, Forwards]

/-! ### What the query says of a parameter -/

/-- The values that pairs give a name, in order. -/
def valuesOf (field : String) (pairs : List (String × String)) : List String :=
  (pairs.filter (·.1 = field)).map (·.2)

theorem valuesOf_cons (field : String) (pair : String × String) (pairs : List (String × String)) :
    valuesOf field (pair :: pairs) =
      (if pair.1 = field then [pair.2] else []) ++ valuesOf field pairs := by
  by_cases h : pair.1 = field <;> simp [valuesOf, h]

/-- The values that the decoded query gives a parameter. -/
def given (r : Request) (field : String) : List String := valuesOf field (Query.pairs r.queryBytes)

/-- The parameters of a login. -/
def fields : List String := ["room", "machineUID"]

theorem mem_fields {field : String} : field ∈ fields ↔ field = roomField ∨ field = machineField := by
  simp [fields, roomField, machineField]

/-- A parameter is named more than once. -/
def Repeats (r : Request) (field : String) : Prop := 1 < (given r field).length

/-- A parameter is missing or empty. -/
def Lacks (r : Request) (field : String) : Prop := ∀ value ∈ given r field, value = ""

instance (r : Request) (field : String) : Decidable (Repeats r field) :=
  inferInstanceAs (Decidable (1 < (given r field).length))

instance (r : Request) (field : String) : Decidable (Lacks r field) :=
  inferInstanceAs (Decidable (∀ value ∈ given r field, value = ""))

/-- A parameter that is named once and is not empty has one value. -/
theorem given_eq_singleton {r : Request} {field : String} (honce : ¬ Repeats r field)
    (hthere : ¬ Lacks r field) : ∃ value, value ≠ "" ∧ given r field = [value] := by
  unfold Repeats at honce
  unfold Lacks at hthere
  match hgiven : given r field with
  | [] => simp [hgiven] at hthere
  | [value] => exact ⟨value, by simpa [hgiven] using hthere, rfl⟩
  | _ :: _ :: _ => simp [hgiven] at honce

namespace Params

/-- The values that have been read for a parameter, at most one. -/
def read (p : Params) (field : String) : List String :=
  if field = roomField then p.room.toList else p.machineUid.toList

@[simp] theorem read_room (p : Params) : p.read roomField = p.room.toList := rfl

@[simp] theorem read_machine (p : Params) : p.read machineField = p.machineUid.toList := by
  rw [read, if_neg (by decide)]

theorem length_read_le (p : Params) (field : String) : (p.read field).length ≤ 1 := by
  unfold read
  split <;> exact Option.length_toList_le

/-- **One more pair** adds its value to those of its name, or it names a parameter again. -/
theorem add_cases (p : Params) (pair : String × String) :
    (∃ q, p.add pair = .ok q ∧
      ∀ field ∈ fields, q.read field = p.read field ++ valuesOf field [pair]) ∨
    (∃ field ∈ fields, p.add pair = .error field ∧
      1 < (p.read field ++ valuesOf field [pair]).length) := by
  obtain ⟨name, value⟩ := pair
  obtain ⟨room, machineUid⟩ := p
  have hne : machineField ≠ roomField := by decide
  simp only [add, mem_fields, valuesOf_cons]
  by_cases hroom : name = roomField
  · subst hroom
    cases room with
    | none => exact Or.inl ⟨_, rfl, by simp [valuesOf, hne.symm]⟩
    | some old => exact Or.inr ⟨roomField, Or.inl rfl, rfl, by simp [valuesOf]⟩
  · by_cases hmachine : name = machineField
    · subst hmachine
      cases machineUid with
      | none => exact Or.inl ⟨_, by rw [if_neg hne, if_pos rfl]; rfl, by simp [valuesOf, hne]⟩
      | some old =>
          exact Or.inr ⟨machineField, Or.inr rfl, by rw [if_neg hne, if_pos rfl]; rfl,
            by simp [valuesOf]⟩
    · exact Or.inl ⟨_, by rw [if_neg hroom, if_neg hmachine], by simp [valuesOf, hroom, hmachine]⟩

/-- **The pairs of a query** add up to all values of each parameter, or they name one again. -/
theorem addAll_cases (p : Params) (pairs : List (String × String)) :
    (∃ q, p.addAll pairs = .ok q ∧
      ∀ field ∈ fields, q.read field = p.read field ++ valuesOf field pairs) ∨
    (∃ field ∈ fields, p.addAll pairs = .error field ∧
      1 < (p.read field ++ valuesOf field pairs).length) := by
  induction pairs generalizing p with
  | nil => exact Or.inl ⟨p, rfl, fun field _ => (List.append_nil _).symm⟩
  | cons pair pairs ih =>
      have hvalues : ∀ field, valuesOf field (pair :: pairs) =
          valuesOf field [pair] ++ valuesOf field pairs := by
        intro field
        rw [valuesOf_cons, valuesOf_cons field pair []]
        simp [valuesOf]
      rcases p.add_cases pair with ⟨q, hq, hread⟩ | ⟨field, hfield, herror, hlength⟩
      · -- the values of the first pair move over to those that have been read
        have hstep : p.addAll (pair :: pairs) = q.addAll pairs := by rw [addAll, hq]
        have hsum : ∀ field ∈ fields, q.read field ++ valuesOf field pairs =
            p.read field ++ valuesOf field (pair :: pairs) := by
          intro field hfield
          rw [hread field hfield, hvalues, List.append_assoc]
        rw [hstep]
        rcases ih q with ⟨q', hq', hread'⟩ | ⟨field, hfield, herror, hlength⟩
        · exact Or.inl ⟨q', hq', fun field hfield =>
            (hread' field hfield).trans (hsum field hfield)⟩
        · exact Or.inr ⟨field, hfield, herror, hsum field hfield ▸ hlength⟩
      · refine Or.inr ⟨field, hfield, by rw [addAll, herror], ?_⟩
        rw [hvalues, ← List.append_assoc, List.length_append]
        omega

end Params

/-- **The reader of a query** finds every value of the parameters, or it fails at one that is named
again. -/
theorem params_cases (r : Request) :
    (∃ p, params r = .ok p ∧ given r roomField = p.room.toList ∧
      given r machineField = p.machineUid.toList ∧ ∀ field ∈ fields, ¬ Repeats r field) ∨
    (∃ field ∈ fields, params r = .error field ∧ Repeats r field) := by
  have hempty : ∀ field, Params.read {} field = [] := fun field => ite_self []
  rcases Params.addAll_cases {} (Query.pairs r.queryBytes) with
    ⟨p, hp, hread⟩ | ⟨field, hfield, herror, hlength⟩
  · have hgiven : ∀ field ∈ fields, given r field = p.read field := by
      intro field hfield
      rw [hread field hfield, hempty, List.nil_append, given]
    refine Or.inl ⟨p, hp, hgiven roomField (by decide), ?_, fun field hfield => ?_⟩
    · rw [hgiven machineField (by decide), Params.read_machine]
    · rw [Repeats, hgiven field hfield, Nat.not_lt]
      exact p.length_read_le field
  · rw [hempty, List.nil_append] at hlength
    exact Or.inr ⟨field, hfield, herror, hlength⟩

/-! ### The four ways in which a login ends -/

section

variable {r : Request} (a : AuthorityRef) (b : Backend)

/-- A query that names a parameter again is refused for it, and nothing changes. -/
theorem respond_of_repeats (h : ∃ field ∈ fields, Repeats r field) :
    ∃ field ∈ fields, Repeats r field ∧
      respond a r b = (.text 400 (duplicateText field), b) := by
  rcases params_cases r with ⟨p, -, -, -, honce⟩ | ⟨field, hfield, herror, hrepeats⟩
  · obtain ⟨field, hfield, hrepeats⟩ := h
    exact absurd hrepeats (honce field hfield)
  · exact ⟨field, hfield, hrepeats, respond_of_duplicate herror⟩

/-- A query without one of the parameters is refused, whatever the headers are. -/
theorem respond_of_lacks (honce : ∀ field ∈ fields, ¬ Repeats r field)
    (h : ∃ field ∈ fields, Lacks r field) :
    respond a r b = refuse b 400 "room and machineUID are required" .badRequest := by
  rcases params_cases r with ⟨p, hp, hroom, hmachine, -⟩ | ⟨field, hfield, -, hrepeats⟩
  · have hmissing : p.room.filter (· ≠ "") = none ∨ p.machineUid.filter (· ≠ "") = none := by
      obtain ⟨field, hfield, hlacks⟩ := h
      simp only [Option.filter_eq_none_iff, decide_eq_true_eq, Decidable.not_not]
      rw [mem_fields] at hfield
      rcases hfield with rfl | rfl
      · rw [Lacks, hroom] at hlacks
        exact Or.inl fun value hvalue => hlacks value (Option.mem_toList.2 hvalue)
      · rw [Lacks, hmachine] at hlacks
        exact Or.inr fun value hvalue => hlacks value (Option.mem_toList.2 hvalue)
    simp only [respond, hp]
    rcases hmissing with hnone | hnone <;> rw [hnone]
    cases p.room.filter (· ≠ "") <;> rfl
  · exact absurd hrepeats (honce field hfield)

/-- A query with both parameters is decided by the headers. -/
theorem respond_of_given {room machineUid : String} (hroom : room ≠ "")
    (hmachine : machineUid ≠ "") (hgivenRoom : given r roomField = [room])
    (hgivenMachine : given r machineField = [machineUid]) :
    respond a r b =
      match identity? r with
      | some identity => accept b a machineUid identity room
      | none => refuse b 403 "no identity forwarded" .noIdentity := by
  have hparams : params r = .ok ⟨some room, some machineUid⟩ := by
    rcases params_cases r with ⟨⟨room', machineUid'⟩, hp, hroom', hmachine', -⟩ |
      ⟨field, hfield, -, hrepeats⟩
    · obtain rfl : room' = some room :=
        Option.toList_eq_singleton_iff.1 (hroom'.symm.trans hgivenRoom)
      obtain rfl : machineUid' = some machineUid :=
        Option.toList_eq_singleton_iff.1 (hmachine'.symm.trans hgivenMachine)
      exact hp
    · rw [mem_fields] at hfield
      rcases hfield with rfl | rfl <;> simp [Repeats, hgivenRoom, hgivenMachine] at hrepeats
  rw [respond, hparams]
  cases identity? r <;>
    simp only [Option.filter_some, ne_eq, hroom, hmachine, not_false_eq_true, decide_true, if_true]

end

end Login

/-! ### What is counted -/

/-- **One more login has ended in a way**, and nothing else has been counted. -/
structure Metrics.LoginCounted (o : LoginOutcome) (m m' : Metrics) : Prop where
  counted : m'.logins o = m.logins o + 1
  others : ∀ o', o' ≠ o → m'.logins o' = m.logins o'
  expired : m'.expired = m.expired
  transitions : m'.transitions = m.transitions

/-- To count a login counts one, whatever the gauge has been set to before. -/
theorem Metrics.loginCounted_countLogin (m m' : Metrics) (o : LoginOutcome)
    (hgauge : m' = { m with active := m'.active }) : LoginCounted o m (m'.countLogin o) := by
  rw [hgauge]
  exact ⟨if_pos rfl, fun _ hne => if_neg hne, rfl, rfl⟩

namespace Login

/-! ### Refused logins -/

/-- **A login is refused**: it is answered with a status and a text in the JSON format, and nothing
changes but that one more login has ended so. -/
structure Refused (r : Request) (before after : Backend) (answer : Response) (status : Nat)
    (body : String) (o : LoginOutcome) : Prop where
  answered : answer =
    ({ status, contentType := some "application/json", body } : Response).sentTo r
  kept : after = { before with metrics := after.metrics }
  active : after.metrics.active = before.metrics.active
  counted : Metrics.LoginCounted o before.metrics after.metrics

theorem refused_refuse (r : Request) (b : Backend) (status : Nat) (reason : String)
    (o : LoginOutcome) :
    Refused r b (refuse b status reason o).2 ((refuse b status reason o).1.sentTo r) status
      (errorBody reason) o :=
  ⟨rfl, rfl, rfl, Metrics.loginCounted_countLogin _ _ o rfl⟩

/-! ### Accepted logins -/

/-- **What an accepted login changes**: one session is stored more, at the authority of the login;
the gauge shows how many that authority has then, and a success is counted. -/
theorem accept_changes {a : AuthorityRef} {b : Backend} (ha : (b.authority? a).isSome = true)
    (hnew : ∀ a s, b.Stores a s → s.id ≠ b.sessionIds.current)
    (machineUid identity room : String) :
    let s := b.newSession machineUid identity room
    let after := (accept b a machineUid identity room).2
    (accept b a machineUid identity room).1 = .json 200 (sessionBody s.id) ∧
      (∀ a' s', after.Stores a' s' ↔ b.Stores a' s' ∨ (a' = a ∧ s' = s)) ∧
      (∀ a', a' ≠ a → after.authority? a' = b.authority? a') ∧
      ∃ x, after.authority? a = some x ∧
        after.metrics.active = some x.keeper.sessions.toList.length ∧
        Metrics.LoginCounted .success b.metrics after.metrics := by
  intro s after
  obtain ⟨x, hx⟩ := Option.isSome_iff_exists.1 ha
  have hmetrics : after.metrics =
      (b.metrics.setActive (x.keeper.sessions.insert s).size).countLogin .success := by
    show (b.store a s).metrics.countLogin .success = _
    rw [Backend.store, hx]
    rfl
  refine ⟨rfl, Backend.stores_openSession_iff ha hnew machineUid identity room,
    fun a' hne => b.authority?_openSession_of_ne hne machineUid identity room,
    _, Backend.authority?_openSession hx machineUid identity room, ?_, ?_⟩ <;> rw [hmetrics]
  · rfl
  · exact Metrics.loginCounted_countLogin _ _ _ rfl

end Login

/-! ### Requests to a login -/

/-- The first login of a chain gets the requests to its path. -/
theorem Chain.router_login {front rest : Chain} {a : AuthorityRef}
    (hfront : ∀ g ∈ front, g.knows "/login" = false) {r : Request} (hpath : r.path = "/login")
    (hmethod : r.method = "GET" ∨ r.method = "HEAD") (b : Backend) :
    Chain.router (front ++ .login a :: rest) r b =
      ((Login.respond a r b).1.sentTo r, (Login.respond a r b).2) := by
  have hunknown : ¬ Chain.knows front r.path = true := by simpa [Chain.knows, hpath] using hfront
  rw [Chain.router_append, if_neg hunknown, Chain.router_cons, Handler.router, hpath]
  exact Endpoint.serve_of_taken hmethod (.login a) b

/-- **A login is decided in a fixed order.**  Take any chain in which no handler in front of a login
knows its path, whose logins have their authorities, a source of distinct session identifiers, and
sessions that have theirs from there, if there are any; and let any steps have been taken.  A `GET`
or `HEAD` request for `/login`, with any query and headers, is answered as follows, to `HEAD`
without the body.

* If the decoded query names a parameter more than once, the status is 400 with the name of such a
  parameter, and nothing changes.
* Otherwise, if a parameter is missing or empty, the status is 400, whatever the headers are, and
  nothing changes but that one more bad request has been counted.
* Otherwise, if neither header bears an identity, the status is 403, and nothing changes but that
  one more missing identity has been counted.
* Otherwise the status is 200, and the body tells the identifier of a session that has both
  parameters as the query gives them, the forwarded identity and the present time.  It is stored at
  the authority of the login, and no session had its identifier before; all other sessions are
  stored as before, all other authorities are as before, the gauge shows how many sessions this
  authority has now, and of the counters only that of successes has gone on, by one. -/
theorem login_is_decided_in_order {front rest : Chain} {a : AuthorityRef} {b : Backend}
    (hfront : ∀ g ∈ front, g.knows "/login" = false) (hids : b.sessionIds.Distinct)
    (hissued : ∀ a s, b.Stores a s → b.sessionIds.HasIssued s.id)
    (hbound : ∀ a', .login a' ∈ front ++ .login a :: rest → (b.authority? a').isSome = true)
    (steps : List ChainStep) {r : Request} (hpath : r.path = "/login")
    (hmethod : r.method = "GET" ∨ r.method = "HEAD") :
    let c := front ++ .login a :: rest
    let before := c.run b steps
    let answer := (c.router r before).1
    let after := (c.router r before).2
    ((∃ field ∈ Login.fields, Login.Repeats r field) →
      ∃ field ∈ Login.fields, Login.Repeats r field ∧
        answer =
          ({ status := 400
             contentType := some "text/plain; charset=utf-8"
             body := "Failed to deserialize query string: duplicate field \x60" ++ field ++
               "\x60" } : Response).sentTo r ∧
        after = before) ∧
    ((∀ field ∈ Login.fields, ¬ Login.Repeats r field) →
      ((∃ field ∈ Login.fields, Login.Lacks r field) →
        Login.Refused r before after answer 400
          "\x7b\"error\":\"room and machineUID are required\"\x7d" .badRequest) ∧
      ((∀ field ∈ Login.fields, ¬ Login.Lacks r field) →
        ((∀ identity, ¬ Login.Forwards r identity) →
          Login.Refused r before after answer 403
            "\x7b\"error\":\"no identity forwarded\"\x7d" .noIdentity) ∧
        (∀ identity, Login.Forwards r identity →
          ∃ s : Session, Login.given r "room" = [s.room] ∧
            Login.given r "machineUID" = [s.machineUid] ∧ s.identity = identity ∧
            s.createdAt = before.now ∧ Login.AnswersFor r s answer ∧
            (∀ a' s', before.Stores a' s' → s'.id ≠ s.id) ∧
            (∀ a' s', after.Stores a' s' ↔ before.Stores a' s' ∨ (a' = a ∧ s' = s)) ∧
            (∀ a', a' ≠ a → after.authority? a' = before.authority? a') ∧
            ∃ x, after.authority? a = some x ∧
              after.metrics.active = some x.keeper.sessions.toList.length ∧
              Metrics.LoginCounted .success before.metrics after.metrics))) := by
  intro c before answer after
  have horder : c.InOrder before := Chain.InOrder.run ⟨hids, hissued, hbound⟩ steps
  have hrouter : c.router r before =
      ((Login.respond a r before).1.sentTo r, (Login.respond a r before).2) :=
    Chain.router_login hfront hpath hmethod before
  have hanswer : answer = (Login.respond a r before).1.sentTo r := by
    show (c.router r before).1 = _
    rw [hrouter]
  have hafter : after = (Login.respond a r before).2 := by
    show (c.router r before).2 = _
    rw [hrouter]
  rw [hanswer, hafter]
  refine ⟨fun hrepeats => ?_, fun honce => ⟨fun hlacks => ?_, fun hthere => ?_⟩⟩
  · obtain ⟨field, hfield, hrepeats, heq⟩ := Login.respond_of_repeats a before hrepeats
    rw [heq]
    exact ⟨field, hfield, hrepeats, rfl, rfl⟩
  · have hbody : Login.errorBody "room and machineUID are required" =
        "\x7b\"error\":\"room and machineUID are required\"\x7d" := by decide +kernel
    rw [Login.respond_of_lacks a before honce hlacks, ← hbody]
    exact Login.refused_refuse ..
  · -- each parameter has one value now, and only the headers are left to be looked at
    obtain ⟨room, hroom, hgivenRoom⟩ :=
      Login.given_eq_singleton (honce _ (by decide)) (hthere Login.roomField (by decide))
    obtain ⟨machineUid, hmachine, hgivenMachine⟩ :=
      Login.given_eq_singleton (honce _ (by decide)) (hthere Login.machineField (by decide))
    rw [Login.respond_of_given a before hroom hmachine hgivenRoom hgivenMachine]
    refine ⟨fun hnone => ?_, fun identity hidentity => ?_⟩
    · have hidentity : Login.identity? r = none :=
        Option.eq_none_iff_forall_ne_some.2 fun identity h =>
          hnone identity (Login.identity?_eq_some_iff.1 h)
      have hbody : Login.errorBody "no identity forwarded" =
          "\x7b\"error\":\"no identity forwarded\"\x7d" := by decide +kernel
      rw [hidentity, ← hbody]
      exact Login.refused_refuse ..
    · rw [Login.identity?_eq_some_iff.2 hidentity]
      have hnew := fun a' s' hs => horder.ne_current (a := a') (s := s') hs
      obtain ⟨haccepted, hstores, hothers, hmetrics⟩ := Login.accept_changes
        (horder.bound a (List.mem_append_right front List.mem_cons_self)) hnew
        machineUid identity room
      refine ⟨before.newSession machineUid identity room, hgivenRoom, hgivenMachine, rfl, rfl, ?_,
        hnew, hstores, hothers, hmetrics⟩
      rw [haccepted]
      exact Login.answersFor_sentTo hmethod _

/-- A login behind the health checks whose preferred header is blank: Alice is known by her mail
address, and her session is for the room as it was decoded.  Before her someone has forgotten the
machine.  So two logins are counted, and one session is shown. -/
theorem login_by_mail_address :
    let c : Chain := [.health 0] ++ .login 0 :: []
    let b := ({ sessionIds := .numbered "session-" } : Backend).enroll
      (.ofVariant (.shibboleth "https://sso.example.com" none) {})
    let incomplete : Request := { uri := "/login?room=the+hall&machineUID=" }
    let login : Request :=
      { uri := "/login?machine%55ID=m1&room=the+hall", method := "HEAD"
        headers := [("Eppn", " "), ("eppn", "mallory"), ("Mail", " alice@example.com ")] }
    let before := c.run b [.tend (.elapse 1000), .request incomplete]
    let after := (c.router login before).2
    (before.metrics.logins .badRequest = 1 ∧ before.metrics.active = none) ∧
      (c.router login before).1.status = 200 ∧ (c.router login before).1.body = "" ∧
      (∃ s : Session, s.identity = "alice@example.com" ∧ Login.given login "room" = [s.room] ∧
        after.Stores 0 s) ∧
      after.metrics.logins .success = 1 ∧ after.metrics.logins .badRequest = 1 ∧
      after.metrics.logins .noIdentity = 0 ∧ after.metrics.active = some 1 := by
  intro c b incomplete login before after
  have hfront : ∀ g ∈ [Handler.health 0], g.knows "/login" = false := by decide
  have hbound : ∀ a, .login a ∈ [Handler.health 0] ++ .login 0 :: [] →
      (b.authority? a).isSome = true := by
    intro a ha
    rcases List.mem_cons.1 ha with ha | ha
    · cases ha
    · cases List.mem_singleton.1 ha
      rfl
  have hdecided := login_is_decided_in_order hfront (IdSource.distinct_numbered "session-")
    (fun _ _ hs => absurd hs (Backend.not_stores_enroll_of_nil rfl)) hbound
    [.tend (.elapse 1000), .request incomplete] (r := login) (by decide +kernel) (.inr rfl)
  have hidentity : Login.Forwards login "alice@example.com" :=
    Login.identity?_eq_some_iff.1 (by decide +kernel)
  obtain ⟨s, hroom, -, hs, -, hanswer, -, hstores, -, -, -, -, hcounted⟩ :=
    ((hdecided.2 (by decide +kernel)).2 (by decide +kernel)).2 "alice@example.com" hidentity
  replace hanswer : Login.AnswersFor login s (c.router login before).1 := hanswer
  replace hcounted : Metrics.LoginCounted .success before.metrics after.metrics := hcounted
  have hstored : after.Stores 0 s := (hstores 0 s).2 (Or.inr ⟨rfl, rfl⟩)
  have hbefore : before.metrics.logins .badRequest = 1 ∧ before.metrics.logins .success = 0 ∧
      before.metrics.logins .noIdentity = 0 := by decide +kernel
  obtain ⟨hbad, hnone, hother⟩ := hbefore
  refine ⟨⟨hbad, by decide +kernel⟩, hanswer.status, hanswer.untold rfl, ⟨s, hs, hroom, hstored⟩,
    ?_, ?_, ?_, by decide +kernel⟩
  · rw [hcounted.counted, hnone]
  · rw [hcounted.others _ (by decide), hbad]
  · rw [hcounted.others _ (by decide), hother]

end ConferenceAuth
