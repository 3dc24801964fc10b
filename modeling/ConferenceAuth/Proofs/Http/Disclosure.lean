/-
**Who is told of a session.**

A session is opened by a request to the login of a chain, or by someone who holds the authority
itself, and by nothing else.  Who holds the authority is given the session.  The answer to a request
has the status 200, and its body is a JSON object with the identifier of the session, which can be
read in one way only, so that the client can be recognised by it.  But `HEAD` requests are answered
like `GET` requests without the body: such a request opens a session that nobody is told of.

Main definitions:

* `ChainStep`, `Chain.step`, `Chain.run` — what happens to a chain and to what stands behind it;
* `Login.Tells` — a body and the identifier that can be read in it;
* `Response.sentTo` — an answer as it is sent;
* `Login.AnswersFor`, `Chain.Answers` — the answer to whoever has opened a session;
* `Chain.InOrder` — what every step keeps;
* `Authority.Fixed` — what no step of its keeper changes of an authority.

Main results:

* `Backend.stores_openSession_iff` — what is stored after a session has been opened;
* `Login.tells_sessionBody_iff` — **the body that tells a session tells its identifier and no
  other**;
* `Login.respond_cases`, `Chain.router_cases` — a request is accepted as a login, or it opens
  nothing;
* `Chain.InOrder.step`, `Chain.InOrder.answers_of_stores_step` — a step keeps all in order, and
  answers for the session that it adds;
* `Chain.fixed_run` — what no step of its keeper changes, an authority keeps in every run;
* `session_is_told_but_for_head_requests` — **whoever opens a session is told of it, but for `HEAD`
  requests**.
-/
import ConferenceAuth.Proofs.Backend.Upkeep
import ConferenceAuth.Proofs.Http.Precedence
import ConferenceAuth.Proofs.Issued
import ConferenceAuth.Proofs.Text.Json

set_option autoImplicit false

namespace ConferenceAuth

/-! ### A session that is opened -/

/-- **After a session has been opened one more is stored**, at the authority that opened it. -/
theorem Backend.stores_openSession_iff {b : Backend} {a : AuthorityRef}
    (ha : (b.authority? a).isSome = true)
    (hnew : ∀ a s, b.Stores a s → s.id ≠ b.sessionIds.current)
    (machineUid identity room : String) (a' : AuthorityRef) (s : Session) :
    (b.openSession a machineUid identity room).2.Stores a' s ↔
      b.Stores a' s ∨ (a' = a ∧ s = b.newSession machineUid identity room) := by
  obtain ⟨x, hx⟩ := Option.isSome_iff_exists.1 ha
  have hrows : (x.keeper.sessions.insert (b.newSession machineUid identity room)).toList =
      x.keeper.sessions.toList ++ [b.newSession machineUid identity room] :=
    Table.toList_insert_of_fresh fun y hy => hnew a y ⟨x, hx, hy⟩
  have hafter := b.authority?_stepAt a a' (.create b.sessionIds.current machineUid identity room)
  rw [openSession_eq_stepAt]
  show (b.stepAt a (.create b.sessionIds.current machineUid identity room)).Stores a' s ↔ _
  constructor
  · intro h
    rcases stores_of_stores_stepAt h with h | ⟨ha, hs⟩
    · exact Or.inl h
    · exact Or.inr ⟨ha, (Option.some.inj hs).symm⟩
  · intro h
    by_cases ha : a = a'
    · subst ha
      rw [hx, Option.map_some, if_pos rfl] at hafter
      refine ⟨_, hafter, ?_⟩
      show s ∈ (x.keeper.sessions.insert (b.newSession machineUid identity room)).toList
      rw [hrows, List.mem_append, List.mem_singleton]
      rcases h with ⟨x', hx', hs⟩ | ⟨-, hs⟩
      · rw [hx] at hx'
        cases hx'
        exact Or.inl hs
      · exact Or.inr hs
    · obtain ⟨x', hx', hs⟩ := h.resolve_right fun h => ha h.1.symm
      rw [hx', Option.map_some, if_neg ha] at hafter
      exact ⟨x', hafter, hs⟩

/-- An authority opens a session for whom it lets in, or it does nothing. -/
theorem Backend.authenticate_cases (b : Backend) (a : AuthorityRef)
    (machineUid identity room : String) :
    ((b.authority? a).isSome = true ∧ b.authenticate a machineUid identity room =
      (some (b.newSession machineUid identity room),
        (b.openSession a machineUid identity room).2)) ∨
    b.authenticate a machineUid identity room = (none, b) := by
  unfold authenticate
  split
  · next h =>
      obtain ⟨x, hx, -⟩ := (Option.any_eq_true _ _).1 h
      exact Or.inl ⟨by rw [hx]; rfl, rfl⟩
  · exact Or.inr rfl

/-! ### The body that tells a session -/

namespace Login

/-- **A body tells an identifier**: it is a JSON object whose only member is `sessionId`, and the
value of the member is a text that stands for the identifier. -/
def Tells (body id : String) : Prop :=
  ∃ written, Text.JsonSpells id.toList written ∧
    body.toList = "\x7b\"sessionId\":\"".toList ++ (written ++ "\"\x7d".toList)

/-- No body tells two identifiers. -/
theorem Tells.unique {body id id' : String} (h : Tells body id) (h' : Tells body id') : id = id' := by
  obtain ⟨written, hspells, hbody⟩ := h
  obtain ⟨written', hspells', hbody'⟩ := h'
  obtain rfl : written = written' :=
    List.append_cancel_right (List.append_cancel_left (hbody.symm.trans hbody'))
  exact String.toList_inj.1 (hspells.unique hspells')

/-- **The body that tells a session tells its identifier and no other.** -/
theorem tells_sessionBody_iff {id other : String} : Tells (sessionBody id) other ↔ other = id := by
  have htells : Tells (sessionBody id) id := by
    refine ⟨_, Text.jsonSpells_flatMap id.toList, ?_⟩
    simp [sessionBody, Text.jsonString]
  constructor
  · exact fun h => h.unique htells
  · rintro rfl
    exact htells

/-- Where there is no body, nothing is told. -/
theorem not_tells_empty (id : String) : ¬ Tells "" id := by
  rintro ⟨written, -, hbody⟩
  cases hbody

end Login

/-- **An answer as it is sent**: to a `HEAD` request without the body. -/
def Response.sentTo (answer : Response) (r : Request) : Response :=
  { answer with body := if r.method = "HEAD" then "" else answer.body }

theorem Endpoint.serve_of_taken {r : Request} (hmethod : r.method = "GET" ∨ r.method = "HEAD")
    (e : Endpoint) (b : Backend) :
    e.serve r b = ((e.answer r b).1.sentTo r, (e.answer r b).2) := by
  rcases hmethod with h | h <;> simp [serve, Response.sentTo, Response.withoutBody, h]

/-! ### A login -/

namespace Login

/-- **The answer to a request that has opened a session.**  A `GET` request is told the identifier
of the session, and nothing else can be read in the answer; the answer to a `HEAD` request is the
same without the body. -/
structure AnswersFor (r : Request) (s : Session) (answer : Response) : Prop where
  method : r.method = "GET" ∨ r.method = "HEAD"
  status : answer.status = 200
  contentType : answer.contentType = some "application/json"
  allow : answer.allow = none
  told : r.method = "GET" → answer.body = sessionBody s.id ∧ ∀ id, Tells answer.body id ↔ id = s.id
  untold : r.method = "HEAD" → answer.body = ""

/-- The body that tells a session is the answer for it, as it is sent. -/
theorem answersFor_sentTo {r : Request} (hmethod : r.method = "GET" ∨ r.method = "HEAD")
    (s : Session) : AnswersFor r s ((Response.json 200 (sessionBody s.id)).sentTo r) where
  method := hmethod
  status := rfl
  contentType := rfl
  allow := rfl
  told hget := by
    have hbody : ((Response.json 200 (sessionBody s.id)).sentTo r).body = sessionBody s.id :=
      if_neg (by rw [hget]; decide)
    rw [hbody]
    exact ⟨rfl, fun id => tells_sessionBody_iff⟩
  untold hhead := if_pos hhead

/-- **A login is accepted or refused**; one that is refused opens nothing. -/
theorem respond_cases (a : AuthorityRef) (r : Request) (b : Backend) :
    (∃ machineUid identity room, respond a r b = accept b a machineUid identity room) ∨
    ((respond a r b).1.status ≠ 200 ∧ (respond a r b).2.authorities = b.authorities ∧
      (respond a r b).2.sessionIds = b.sessionIds) := by
  unfold respond
  split
  · exact Or.inr ⟨(by decide : (400 : Nat) ≠ 200), rfl, rfl⟩
  · split
    · next room machineUid _ _ =>
        split
        · next identity _ => exact Or.inl ⟨machineUid, identity, room, rfl⟩
        · exact Or.inr ⟨(by decide : (403 : Nat) ≠ 200), rfl, rfl⟩
    · exact Or.inr ⟨(by decide : (400 : Nat) ≠ 200), rfl, rfl⟩

end Login

namespace Endpoint

/-- An endpoint is that of a login which accepts the request, or it opens nothing. -/
theorem answer_cases (e : Endpoint) (r : Request) (b : Backend) :
    (∃ a machineUid identity room, e = .login a ∧
      e.answer r b = Login.accept b a machineUid identity room) ∨
    ((∀ a, e = .login a → (e.answer r b).1.status ≠ 200) ∧
      (e.answer r b).2.authorities = b.authorities ∧
      (e.answer r b).2.sessionIds = b.sessionIds) := by
  cases e with
  | login a =>
      have hanswer : (login a).answer r b = Login.respond a r b := rfl
      rw [hanswer]
      rcases Login.respond_cases a r b with ⟨machineUid, identity, room, heq⟩ | ⟨hstatus, hrest⟩
      · exact Or.inl ⟨a, machineUid, identity, room, rfl, heq⟩
      · exact Or.inr ⟨fun _ _ => hstatus, hrest⟩
  | _ => exact Or.inr ⟨(fun _ h => nomatch h), rfl, rfl⟩

/-- The same with regard to the method. -/
theorem serve_opens_cases (e : Endpoint) (r : Request) (b : Backend) :
    (∃ a machineUid identity room, e = .login a ∧
      (e.serve r b).2 = (Login.accept b a machineUid identity room).2 ∧
      Login.AnswersFor r (b.newSession machineUid identity room) (e.serve r b).1) ∨
    ((∀ a, e = .login a → (e.serve r b).1.status ≠ 200) ∧
      (e.serve r b).2.authorities = b.authorities ∧ (e.serve r b).2.sessionIds = b.sessionIds) := by
  by_cases hmethod : r.method = "GET" ∨ r.method = "HEAD"
  · rw [e.serve_of_taken hmethod]
    rcases e.answer_cases r b with ⟨a, machineUid, identity, room, he, haccept⟩ | hrefused
    · rw [haccept]
      exact Or.inl ⟨a, machineUid, identity, room, he, rfl, Login.answersFor_sentTo hmethod _⟩
    · exact Or.inr hrefused
  · obtain ⟨hget, hhead⟩ := not_or.1 hmethod
    have heq : e.serve r b = (.methodNotAllowed, b) := by rw [serve, if_neg hget, if_neg hhead]
    rw [heq]
    exact Or.inr ⟨fun _ _ => (by decide : (405 : Nat) ≠ 200), rfl, rfl⟩

end Endpoint

/-! ### Runs of a chain -/

/-- What may happen to a chain, and to what stands behind it. -/
inductive ChainStep where
  | request (r : Request)
  /-- Someone who holds an authority asks it for a session. -/
  | authenticate (a : AuthorityRef) (machineUid identity room : String)
  | tend (u : Upkeep)

namespace Chain

def step (c : Chain) (b : Backend) : ChainStep → Backend
  | .request r => (c.router r b).2
  | .authenticate a machineUid identity room => (b.authenticate a machineUid identity room).2
  | .tend u => b.tend u

def run (c : Chain) (b : Backend) (steps : List ChainStep) : Backend := steps.foldl c.step b

/-- **Whether the answer to a step is that for a session** opened at an authority: the answer to a
request to the login of the authority, or the session itself. -/
def Answers (c : Chain) (b : Backend) (a : AuthorityRef) (s : Session) : ChainStep → Prop
  | .request r => .login a ∈ c ∧ Login.AnswersFor r s (c.router r b).1
  | .authenticate a' machineUid identity room =>
      a' = a ∧ (b.authenticate a machineUid identity room).1 = some s
  | .tend _ => False

/-- **A request is accepted as a login, or it opens nothing**, and then it is no login with the
status 200. -/
theorem router_cases (c : Chain) (r : Request) (b : Backend) :
    (∃ a machineUid identity room, .login a ∈ c ∧
      (c.router r b).2 = (Login.accept b a machineUid identity room).2 ∧
      Login.AnswersFor r (b.newSession machineUid identity room) (c.router r b).1) ∨
    ((c.router r b).2.authorities = b.authorities ∧ (c.router r b).2.sessionIds = b.sessionIds ∧
      (r.path = "/login" → (c.router r b).1.status ≠ 200)) := by
  rw [router_eq]
  split
  · next e he =>
      obtain ⟨g, hg, hge⟩ := List.exists_of_findSome?_eq_some he
      rcases e.serve_opens_cases r b with
        ⟨a, machineUid, identity, room, rfl, hbackend, hanswer⟩ | ⟨hstatus, has, hids⟩
      · rw [← Handler.handler_of_endpoint? hge] at hg
        exact Or.inl ⟨a, machineUid, identity, room, hg, hbackend, hanswer⟩
      · refine Or.inr ⟨has, hids, fun hpath => ?_⟩
        -- only a login knows this path
        rw [hpath] at hge
        cases g with
        | login a => exact hstatus a (Option.some.inj hge).symm
        | health x => cases hge
  · exact Or.inr ⟨rfl, rfl, fun _ => (by decide : (404 : Nat) ≠ 200)⟩

/-! ### What every step keeps -/

/-- The session identifiers of a backend are distinct, those of the stored sessions have been given
out, and the authorities of the logins of a chain are there. -/
structure InOrder (c : Chain) (b : Backend) : Prop where
  distinct : b.sessionIds.Distinct
  issued : ∀ a s, b.Stores a s → b.sessionIds.HasIssued s.id
  bound : ∀ a, .login a ∈ c → (b.authority? a).isSome = true

namespace InOrder

variable {c : Chain} {b b' : Backend}

/-- The identifier that is given out next is that of no stored session. -/
theorem ne_current (h : c.InOrder b) {a : AuthorityRef} {s : Session} (hs : b.Stores a s) :
    s.id ≠ b.sessionIds.current :=
  h.distinct.ne_current (h.issued a s hs)

/-- Only the authorities and the session identifiers matter. -/
theorem congr (h : c.InOrder b) (has : b'.authorities = b.authorities)
    (hids : b'.sessionIds = b.sessionIds) : c.InOrder b' := by
  have hauthority : b'.authority? = b.authority? := by
    funext a
    rw [Backend.authority?, has, Backend.authority?]
  refine ⟨hids ▸ h.distinct, fun a s hs => ?_, fun a ha => ?_⟩
  · rw [Backend.Stores, hauthority] at hs
    rw [hids]
    exact h.issued a s hs
  · rw [hauthority]
    exact h.bound a ha

theorem openSession (h : c.InOrder b) (a : AuthorityRef) (machineUid identity room : String) :
    c.InOrder (b.openSession a machineUid identity room).2 := by
  rw [Backend.openSession_eq_stepAt]
  refine ⟨h.distinct.advance, fun a' s hs => ?_, fun a' ha' => ?_⟩
  · rcases Backend.stores_of_stores_stepAt hs with hs | ⟨-, hs⟩
    · exact (h.issued a' s hs).advance
    · cases hs
      exact b.sessionIds.hasIssued_advance_current
  · exact (b.isSome_authority?_stepAt a a' _).trans (h.bound a' ha')

/-- **Whatever happens, all stays in order.** -/
theorem step (h : c.InOrder b) (st : ChainStep) : c.InOrder (c.step b st) := by
  cases st with
  | request r =>
      rw [Chain.step]
      rcases c.router_cases r b with
        ⟨a, machineUid, identity, room, -, hbackend, -⟩ | ⟨has, hids, -⟩
      · rw [hbackend]
        exact (h.openSession a machineUid identity room).congr rfl rfl
      · exact h.congr has hids
  | authenticate a machineUid identity room =>
      rw [Chain.step]
      rcases b.authenticate_cases a machineUid identity room with ⟨-, heq⟩ | heq <;> rw [heq]
      · exact h.openSession a machineUid identity room
      · exact h
  | tend u =>
      refine ⟨?_, fun a s hs => ?_, fun a ha => Backend.isSome_authority?_tend (h.bound a ha) u⟩
      · rw [Chain.step, Backend.sessionIds_tend]
        exact h.distinct
      · rw [Chain.step, Backend.sessionIds_tend]
        exact h.issued a s (Backend.stores_of_stores_tend hs)

theorem run (h : c.InOrder b) (steps : List ChainStep) : c.InOrder (c.run b steps) := by
  induction steps generalizing b with
  | nil => exact h
  | cons st steps ih => exact ih (h.step st)

/-! ### What a step tells -/

/-- **What a request does to the stored sessions.**  It adds one to those of a login of the chain
and is answered accordingly; or it changes nothing, and is no login with the status 200. -/
theorem request_cases (h : c.InOrder b) (r : Request) :
    (∃ a s, .login a ∈ c ∧ Login.AnswersFor r s (c.router r b).1 ∧ ¬ b.Stores a s ∧
      ∀ a' s', (c.router r b).2.Stores a' s' ↔ b.Stores a' s' ∨ (a' = a ∧ s' = s)) ∨
    ((∀ a s, (c.router r b).2.Stores a s ↔ b.Stores a s) ∧
      (r.path = "/login" → (c.router r b).1.status ≠ 200)) := by
  rcases c.router_cases r b with
    ⟨a, machineUid, identity, room, ha, hbackend, hanswer⟩ | ⟨has, -, hstatus⟩
  · refine Or.inl ⟨a, _, ha, hanswer, fun hs => h.ne_current hs rfl, fun a' s' => ?_⟩
    rw [hbackend]
    exact Backend.stores_openSession_iff (h.bound a ha) (fun _ _ hs => h.ne_current hs)
      machineUid identity room a' s'
  · refine Or.inr ⟨fun a s => ?_, hstatus⟩
    unfold Backend.Stores Backend.authority?
    rw [has]

/-- **A session that a step adds is answered for by the step.** -/
theorem answers_of_stores_step (h : c.InOrder b) {st : ChainStep} {a : AuthorityRef} {s : Session}
    (hs : (c.step b st).Stores a s) : b.Stores a s ∨ c.Answers b a s st := by
  cases st with
  | request r =>
      rcases h.request_cases r with ⟨a', s', ha', hanswer, -, hstores⟩ | ⟨hstores, -⟩
      · rcases (hstores a s).1 hs with hs | ⟨rfl, rfl⟩
        · exact Or.inl hs
        · exact Or.inr ⟨ha', hanswer⟩
      · exact Or.inl ((hstores a s).1 hs)
  | authenticate a' machineUid identity room =>
      rw [Chain.step] at hs
      rcases b.authenticate_cases a' machineUid identity room with ⟨ha', heq⟩ | heq <;>
        rw [heq] at hs
      · rcases (Backend.stores_openSession_iff ha' (fun _ _ hs => h.ne_current hs)
          machineUid identity room a s).1 hs with hs | ⟨rfl, rfl⟩
        · exact Or.inl hs
        · exact Or.inr ⟨rfl, congrArg Prod.fst heq⟩
      · exact Or.inl hs
  | tend u => exact Or.inl (Backend.stores_of_stores_tend hs)

/-- **Every session that is stored in the end was there in the beginning, or it was answered for by
a step of the run.** -/
theorem answers_of_stores_run (h : c.InOrder b) {steps : List ChainStep} {a : AuthorityRef}
    {s : Session} (hs : (c.run b steps).Stores a s) :
    b.Stores a s ∨ ∃ done st rest, steps = done ++ st :: rest ∧ c.Answers (c.run b done) a s st := by
  induction steps generalizing b with
  | nil => exact Or.inl hs
  | cons st steps ih =>
      rcases ih (h.step st) hs with hstep | ⟨done, st', rest, rfl, hanswers⟩
      · rcases h.answers_of_stores_step hstep with hs | hanswers
        · exact Or.inl hs
        · exact Or.inr ⟨[], st, steps, rfl, hanswers⟩
      · exact Or.inr ⟨st :: done, st', rest, rfl, hanswers⟩

end InOrder

end Chain

/-! ### What authorities keep -/

/-- **What no step of its keeper changes** of an authority. -/
def Authority.Fixed {α : Type} (f : Authority → α) : Prop :=
  ∀ (b : Backend) (x : Authority) (st : KeeperStep),
    f { x with keeper := ((b.moment x).step st).keeper } = f x

namespace Backend

variable {α : Type} {f : Authority → α} {b : Backend} {r : AuthorityRef} {v : α}

theorem fixed_stepAt (hf : Authority.Fixed f) (b : Backend) (a r : AuthorityRef) (st : KeeperStep) :
    ((b.stepAt a st).authority? r).map f = (b.authority? r).map f := by
  rw [authority?_stepAt, Option.map_map]
  refine congrArg (Option.map · (b.authority? r)) (funext fun x => ?_)
  rw [Function.comp_apply]
  split
  · exact hf b x st
  · rfl

/-- The authorities that are there remain when another one is built. -/
theorem fixed_enroll (h : (b.authority? r).map f = some v) (x : Authority) :
    ((b.enroll x).authority? r).map f = some v := by
  obtain ⟨y, hy, -⟩ := Option.map_eq_some_iff.1 h
  have hlt : r < b.authorities.length := (List.getElem?_eq_some_iff.1 hy).1
  rw [← h, authority?, enroll, List.getElem?_append_left hlt]
  rfl

theorem fixed_openSession (hf : Authority.Fixed f) (b : Backend) (a r : AuthorityRef)
    (machineUid identity room : String) :
    ((b.openSession a machineUid identity room).2.authority? r).map f =
      (b.authority? r).map f := by
  rw [openSession_eq_stepAt]
  exact fixed_stepAt hf b a r _

theorem fixed_tend (hf : Authority.Fixed f) (h : (b.authority? r).map f = some v) (u : Upkeep) :
    ((b.tend u).authority? r).map f = some v := by
  rcases b.tend_cases u with ⟨a, st, heq, -⟩ | ⟨variant, config, heq⟩ | ⟨ms, heq⟩ |
    ⟨x, ready, heq⟩ <;> rw [heq]
  · rw [fixed_stepAt hf, h]
  · exact fixed_enroll h _
  · rw [authority?_elapse, Option.map_map, ← h]
    exact congrArg (Option.map · (b.authority? r)) (funext fun x => hf b x (.advance ms))
  · exact h

end Backend

/-- **Whatever happens to a chain and to what stands behind it, an authority keeps what no step of
its keeper changes.** -/
theorem Chain.fixed_run {α : Type} {f : Authority → α} (hf : Authority.Fixed f) {c : Chain}
    {b : Backend} {r : AuthorityRef} {v : α} (h : (b.authority? r).map f = some v)
    (steps : List ChainStep) : ((c.run b steps).authority? r).map f = some v := by
  induction steps generalizing b with
  | nil => exact h
  | cons st steps ih =>
      refine ih ?_
      cases st with
      | request req =>
          rw [step]
          rcases c.router_cases req b with ⟨a, machineUid, identity, room, -, heq, -⟩ | ⟨has, -, -⟩
          · rw [heq, ← h]
            exact Backend.fixed_openSession hf b a r machineUid identity room
          · rw [Backend.authority?, has, ← h]
            rfl
      | authenticate a machineUid identity room =>
          rw [step]
          rcases b.authenticate_cases a machineUid identity room with ⟨-, heq⟩ | heq <;> rw [heq]
          · rw [Backend.fixed_openSession hf, h]
          · exact h
      | tend u => exact Backend.fixed_tend hf h u

/-! ### Who is told -/

/-- **A session is told to whoever opens it, but for `HEAD` requests.**  Take any chain whose
logins have their authorities, a source of distinct session identifiers and no sessions, and let
any requests come in, in between sessions be asked for at the authorities themselves, and
authorities be built, started and stopped, conferences end and time pass.  Then

* every session that a step adds is answered for by this step: it is handed to the one who asked the
  authority for it; or the step is a request to a login of that authority and is answered with the
  status 200 and, if it is a `GET` request, with a body that tells the identifier of the session and
  no other.  If it is a `HEAD` request, the body is missing;
* every request for `/login` that is answered with the status 200 has added one session, for which
  the answer stands, and nothing else;
* every session that is stored in the end was answered for by a step of the run. -/
theorem session_is_told_but_for_head_requests {c : Chain} {b : Backend}
    (hids : b.sessionIds.Distinct) (hempty : ∀ a s, ¬ b.Stores a s)
    (hbound : ∀ a, .login a ∈ c → (b.authority? a).isSome = true) (steps : List ChainStep) :
    (∀ st a s, (c.step (c.run b steps) st).Stores a s → ¬ (c.run b steps).Stores a s →
      c.Answers (c.run b steps) a s st) ∧
    (∀ r : Request, r.path = "/login" → (c.router r (c.run b steps)).1.status = 200 →
      ∃ a s, .login a ∈ c ∧ Login.AnswersFor r s (c.router r (c.run b steps)).1 ∧
        ¬ (c.run b steps).Stores a s ∧
        ∀ a' s', (c.router r (c.run b steps)).2.Stores a' s' ↔
          (c.run b steps).Stores a' s' ∨ (a' = a ∧ s' = s)) ∧
    (∀ a s, (c.run b steps).Stores a s →
      ∃ done st rest, steps = done ++ st :: rest ∧ c.Answers (c.run b done) a s st) := by
  have hstart : c.InOrder b := ⟨hids, fun a s hs => absurd hs (hempty a s), hbound⟩
  have horder := hstart.run steps
  refine ⟨fun st a s hs hnot => ?_, fun r hpath hstatus => ?_, fun a s hs => ?_⟩
  · exact (horder.answers_of_stores_step hs).resolve_left hnot
  · rcases horder.request_cases r with hopened | ⟨-, hother⟩
    · exact hopened
    · exact absurd hstatus (hother hpath)
  · exact (hstart.answers_of_stores_run hs).resolve_left (hempty a s)

/-- Alice opens a session by a `GET` request and is told of it. -/
theorem alice_is_told_of_her_session :
    let c : Chain := [.login 0]
    let b := ({ sessionIds := .numbered "session-" } : Backend).enroll
      (.ofVariant (.shibboleth "https://sso.example.com" none) {})
    let login : Request :=
      { uri := "/login?room=hall&machineUID=m1", headers := [("eppn", "alice@example.com")] }
    let steps : List ChainStep :=
      [.tend (.elapse 1000), .request login, .tend (.conferenceEnded 0 "hall")]
    let alice : Session := ⟨"session-0", "m1", "alice@example.com", "hall", 1000⟩
    (c.router login (c.run b [.tend (.elapse 1000)])).1.body =
        "\x7b\"sessionId\":\"session-0\"\x7d" ∧
      (c.run b steps).Stores 0 alice ∧
      ∃ done st rest, steps = done ++ st :: rest ∧ c.Answers (c.run b done) 0 alice st := by
  intro c b login steps alice
  have hempty : ∀ a s, ¬ b.Stores a s := fun _ _ => Backend.not_stores_enroll_of_nil rfl
  have hbound : ∀ a, .login a ∈ c → (b.authority? a).isSome = true := by
    intro a ha
    cases List.mem_singleton.1 ha
    rfl
  have hstored : (c.run b steps).Stores 0 alice := by decide +kernel
  exact ⟨by decide +kernel, hstored, (session_is_told_but_for_head_requests
    (IdSource.distinct_numbered "session-") hempty hbound steps).2.2 0 alice hstored⟩

/-- **A `HEAD` request opens a session that nobody is told of.**  So it does not hold of all chains
that whoever opens a session by a request is answered with its identifier. -/
theorem head_request_is_not_told :
    ¬ ∀ (c : Chain) (b : Backend), b.sessionIds.Distinct → (∀ a s, ¬ b.Stores a s) →
      (∀ a, .login a ∈ c → (b.authority? a).isSome = true) →
        ∀ (steps : List ChainStep) (r : Request) (a : AuthorityRef) (s : Session),
          (c.router r (c.run b steps)).2.Stores a s → ¬ (c.run b steps).Stores a s →
            (c.router r (c.run b steps)).1.status = 200 ∧
              Login.Tells (c.router r (c.run b steps)).1.body s.id := by
  intro h
  let b := ({ sessionIds := .numbered "session-" } : Backend).enroll
    (.ofVariant (.shibboleth "https://sso.example.com" none) {})
  let login : Request :=
    { method := "HEAD", uri := "/login?room=room1&machineUID=m1",
      headers := [("eppn", "alice@example.com")] }
  have hempty : ∀ a s, ¬ b.Stores a s := fun _ _ => Backend.not_stores_enroll_of_nil rfl
  have hbound : ∀ a, .login a ∈ [Handler.login 0] → (b.authority? a).isSome = true := by
    intro a ha
    cases List.mem_singleton.1 ha
    rfl
  obtain ⟨-, htold⟩ := h [.login 0] b (IdSource.distinct_numbered "session-") hempty hbound []
    login 0 ⟨"session-0", "m1", "alice@example.com", "room1", 0⟩ (by decide +kernel) (hempty 0 _)
  have hbody : (Chain.router [.login 0] login b).1.body = "" := by decide +kernel
  exact Login.not_tells_empty _ (hbody ▸ htold)

end ConferenceAuth
