/-
**Which handler answers a request.**

A chain is composed from the back: every handler has the rest of the chain behind it.  What comes
out is a search from the front.  The first handler that knows the path answers, also when all it has
to say is that it does not take the method; no handler behind it is asked, and where no handler
knows the path nothing is found.  All handlers of one kind know the same paths, so of those the
first one gets every request, and the others might as well not be there.

Main definitions:

* `Endpoint.handler` — the handler that an endpoint belongs to;
* `Handler.knows`, `Chain.knows` — whether a path is known;
* `Chain.endpoint?` — the endpoint that a search from the front finds;
* `Chain.answerAll` — the answers to a row of requests, and what they change;
* `Backend.withHealth` — a backend with other health states.

Main results:

* `Chain.router_eq`, `Chain.router_append` — **the composition from the back is a search from the
  front**;
* `Handler.kind_eq_of_knows` — handlers of different kinds know different paths;
* `Chain.handler_of_first_of_kind` — the first handler of a kind gets the requests to that kind;
* `first_handler_that_knows_the_path_answers` — **the first handler that knows the path answers, and
  what stands behind another handler of its kind is never reached**.
-/
import ConferenceAuth.Proofs.Backend.Roster

set_option autoImplicit false

namespace ConferenceAuth

/-! ### Handlers and the paths that they know -/

/-- The handler that an endpoint belongs to. -/
def Endpoint.handler : Endpoint → Handler
  | login a => .login a
  | report x | liveness x | readiness x => .health x

namespace Handler

/-- Whether a handler knows a path. -/
def knows (h : Handler) (path : String) : Bool := (h.endpoint? path).isSome

theorem knows_iff {h : Handler} {path : String} :
    h.knows path = true ↔ ∃ e, h.endpoint? path = some e :=
  Option.isSome_iff_exists

theorem knows_eq_false_iff {h : Handler} {path : String} :
    h.knows path = false ↔ h.endpoint? path = none := by
  simp [knows]

/-- A handler has endpoints of its own only. -/
theorem handler_of_endpoint? {h : Handler} {path : String} {e : Endpoint}
    (he : h.endpoint? path = some e) : e.handler = h := by
  cases h with
  | login a =>
      simp only [endpoint?] at he
      split at he <;> cases he
      rfl
  | health x =>
      simp only [endpoint?] at he
      split at he
      · cases he; rfl
      · split at he
        · cases he; rfl
        · split at he <;> cases he
          rfl

/-- **Handlers of different kinds know different paths.** -/
theorem kind_eq_of_knows {h h' : Handler} {path : String} (hh : h.knows path = true)
    (hh' : h'.knows path = true) : h.kind = h'.kind := by
  cases h <;> cases h' <;> simp only [knows, endpoint?] at hh hh' <;> grind [kind]

end Handler

namespace Chain

/-- Whether some handler of a chain knows a path. -/
def knows (c : Chain) (path : String) : Bool := c.any (·.knows path)

/-- The endpoint of a path that a search from the front finds. -/
def endpoint? (c : Chain) (path : String) : Option Endpoint := c.findSome? (·.endpoint? path)

/-! ### A search from the front -/

/-- **The composition from the back is a search from the front.** -/
theorem router_eq (c : Chain) (r : Request) (b : Backend) :
    c.router r b =
      match c.endpoint? r.path with
      | some e => e.serve r b
      | none => (.notFound, b) := by
  induction c with
  | nil => rfl
  | cons h c ih =>
      rw [router_cons, Handler.router, endpoint?, List.findSome?_cons]
      cases h.endpoint? r.path with
      | some e => rfl
      | none => exact ih

theorem endpoint?_append (c c' : Chain) (path : String) :
    endpoint? (c ++ c') path = (c.endpoint? path).or (c'.endpoint? path) :=
  List.findSome?_append

theorem knows_iff {c : Chain} {path : String} :
    c.knows path = true ↔ ∃ e, c.endpoint? path = some e := by
  simp [knows, endpoint?, Handler.knows, ← Option.isSome_iff_exists, List.isSome_findSome?]

/-- **A chain behind another one gets the requests to the paths that the other does not know.** -/
theorem router_append (c c' : Chain) (r : Request) (b : Backend) :
    router (c ++ c') r b = if c.knows r.path then c.router r b else c'.router r b := by
  rw [router_eq, router_eq, router_eq, endpoint?_append]
  cases hc : c.endpoint? r.path with
  | some e => rw [if_pos (knows_iff.2 ⟨e, hc⟩)]; rfl
  | none =>
      have hunknown : ¬ c.knows r.path = true := by simp [knows_iff, hc]
      rw [if_neg hunknown]
      rfl

/-! ### Several handlers of one kind -/

section

variable {front rest : Chain} {h : Handler}

/-- A handler in front of which there is none of its kind is reached by every request that it
knows the path of. -/
theorem endpoint?_of_first_of_kind (hfront : ∀ g ∈ front, g.kind ≠ h.kind) {path : String}
    (hknows : h.knows path = true) :
    endpoint? (front ++ h :: rest) path = h.endpoint? path := by
  have hnone : front.endpoint? path = none := by
    refine List.findSome?_eq_none_iff.2 fun g hg => Handler.knows_eq_false_iff.1 ?_
    exact Bool.eq_false_iff.2 fun hgknows =>
      hfront g hg (Handler.kind_eq_of_knows hgknows hknows)
  obtain ⟨e, he⟩ := Handler.knows_iff.1 hknows
  rw [endpoint?_append, hnone, Option.none_or, endpoint?, List.findSome?_cons, he]

/-- **The first handler of a kind gets the requests to that kind.** -/
theorem handler_of_first_of_kind (hfront : ∀ g ∈ front, g.kind ≠ h.kind) {path : String}
    {e : Endpoint} (he : endpoint? (front ++ h :: rest) path = some e)
    (hkind : e.handler.kind = h.kind) : e.handler = h := by
  obtain ⟨g, -, hge⟩ := List.exists_of_findSome?_eq_some he
  have hknows : h.knows path = true := by
    rw [Handler.handler_of_endpoint? hge] at hkind
    rw [Handler.knows, ← Handler.isSome_endpoint?_eq path hkind, hge]
    rfl
  rw [endpoint?_of_first_of_kind hfront hknows] at he
  exact Handler.handler_of_endpoint? he

/-- Handlers that do not know a path may be left out of the search. -/
theorem endpoint?_filter {c : Chain} {p : Handler → Bool} {path : String}
    (hp : ∀ g ∈ c, p g = false → g.endpoint? path = none) :
    endpoint? (c.filter p) path = c.endpoint? path := by
  induction c with
  | nil => rfl
  | cons g c ih =>
      have ih := ih fun g' hg' => hp g' (List.mem_cons_of_mem g hg')
      rw [List.filter_cons]
      cases hg : p g with
      | true =>
          simp only [endpoint?, List.findSome?_cons, if_true] at ih ⊢
          rw [ih]
      | false =>
          have hnone := hp g List.mem_cons_self hg
          simp only [endpoint?, List.findSome?_cons, hnone] at ih ⊢
          exact ih

/-- **Behind the first handler of a kind the others of the kind might as well not be there.** -/
theorem router_eq_of_first_of_kind :
    router (front ++ h :: rest) = router (front ++ h :: rest.filter (·.kind ≠ h.kind)) := by
  funext r b
  rw [router_eq, router_eq]
  have hsame : endpoint? (front ++ h :: rest) r.path =
      endpoint? (front ++ h :: rest.filter (·.kind ≠ h.kind)) r.path := by
    rw [endpoint?_append, endpoint?_append]
    congr 1
    cases hh : h.endpoint? r.path with
    | some e => simp only [endpoint?, List.findSome?_cons, hh]
    | none =>
        have hrest : endpoint? (rest.filter (·.kind ≠ h.kind)) r.path = rest.endpoint? r.path := by
          refine endpoint?_filter fun g _ hg => ?_
          have hkind : g.kind = h.kind := by simpa using hg
          rw [← Option.not_isSome_iff_eq_none, Handler.isSome_endpoint?_eq r.path hkind, hh]
          exact Bool.false_ne_true
        simp only [endpoint?, List.findSome?_cons, hh] at hrest ⊢
        exact hrest.symm
  rw [hsame]

end

end Chain

/-! ### What a request can change, and what it can see -/

/-- An authority other than that of a login is left alone by it. -/
theorem Backend.authority?_openSession_of_ne (b : Backend) {a a' : AuthorityRef} (h : a' ≠ a)
    (machineUid identity room : String) :
    (b.openSession a machineUid identity room).2.authority? a' = b.authority? a' := by
  show (b.store a (b.newSession machineUid identity room)).authority? a' = b.authority? a'
  unfold Backend.store
  split
  · rfl
  · rw [Backend.authority?_updateKeeper]
    simp [Ne.symm h]

theorem Login.authority?_respond_of_ne {a a' : AuthorityRef} (h : a' ≠ a) (r : Request)
    (b : Backend) : (Login.respond a r b).2.authority? a' = b.authority? a' := by
  unfold Login.respond
  split
  · rfl
  · split
    · next room machineUid _ _ =>
        split
        · next identity _ => exact b.authority?_openSession_of_ne h machineUid identity room
        · rfl
    · rfl

/-- The backend with other health states. -/
def Backend.withHealth (b : Backend) (f : HealthRef → Health) : Backend := { b with health := f }

theorem Backend.store_withHealth (b : Backend) (f : HealthRef → Health) (a : AuthorityRef)
    (s : Session) : (b.withHealth f).store a s = (b.store a s).withHealth f := by
  have hsame : (b.withHealth f).authority? a = b.authority? a := rfl
  rw [Backend.store, Backend.store, hsame]
  cases b.authority? a <;> rfl

/-- A login does not look at the health states. -/
theorem Login.respond_withHealth (a : AuthorityRef) (r : Request) (b : Backend)
    (f : HealthRef → Health) :
    Login.respond a r (b.withHealth f) =
      ((Login.respond a r b).1, (Login.respond a r b).2.withHealth f) := by
  unfold Login.respond
  split
  · rfl
  · split
    · next room machineUid _ _ =>
        split
        · next identity _ =>
            have hnew : (b.withHealth f).newSession machineUid identity room =
                b.newSession machineUid identity room := rfl
            simp only [Login.accept, Backend.openSession, hnew, Backend.store_withHealth]
            rfl
        · rfl
    · rfl

namespace Endpoint

/-- **The three ways in which an endpoint is served**, by the method. -/
theorem serve_cases (e : Endpoint) (r : Request) (b : Backend) :
    (r.method = "GET" ∧ e.serve r b = e.answer r b) ∨
    (r.method = "HEAD" ∧ e.serve r b = ((e.answer r b).1.withoutBody, (e.answer r b).2)) ∨
    (r.method ≠ "GET" ∧ r.method ≠ "HEAD" ∧ e.serve r b = (.methodNotAllowed, b)) := by
  by_cases hget : r.method = "GET"
  · exact Or.inl ⟨hget, if_pos hget⟩
  · by_cases hhead : r.method = "HEAD"
    · exact Or.inr (Or.inl ⟨hhead, by simp [serve, hhead]⟩)
    · exact Or.inr (Or.inr ⟨hget, hhead, by simp [serve, hget, hhead]⟩)

/-- An endpoint leaves alone every authority but that of its login. -/
theorem authority?_serve_of_ne {e : Endpoint} {a : AuthorityRef} (h : e ≠ .login a) (r : Request)
    (b : Backend) : (e.serve r b).2.authority? a = b.authority? a := by
  have hanswer : (e.answer r b).2.authority? a = b.authority? a := by
    cases e with
    | login a' => exact Login.authority?_respond_of_ne (fun heq => h (congrArg login heq.symm)) r b
    | _ => rfl
  rcases e.serve_cases r b with ⟨-, heq⟩ | ⟨-, heq⟩ | ⟨-, -, heq⟩ <;> rw [heq]
  · exact hanswer
  · exact hanswer

/-- An endpoint looks at its own health state only. -/
theorem serve_withHealth {e : Endpoint} {b : Backend} {f : HealthRef → Health}
    (h : ∀ x, e.handler = .health x → f x = b.health x) (r : Request) :
    e.serve r (b.withHealth f) = ((e.serve r b).1, (e.serve r b).2.withHealth f) := by
  have hanswer : e.answer r (b.withHealth f) = ((e.answer r b).1, (e.answer r b).2.withHealth f) := by
    cases e with
    | login a => exact Login.respond_withHealth a r b f
    | _ x =>
        have hx : (b.withHealth f).health x = b.health x := h x rfl
        simp only [answer, hx]
  unfold serve
  split
  · exact hanswer
  · split
    · rw [hanswer]
    · rfl

end Endpoint

namespace Chain

section

variable {front rest : Chain} {h : Handler}

/-- Requests leave alone every authority but that of the first login. -/
theorem authority?_router_of_first (hfront : ∀ g ∈ front, g.kind ≠ h.kind) {a a' : AuthorityRef}
    (ha : h = .login a) (hne : a' ≠ a) (r : Request) (b : Backend) :
    (router (front ++ h :: rest) r b).2.authority? a' = b.authority? a' := by
  rw [router_eq]
  split
  · next e he =>
      refine Endpoint.authority?_serve_of_ne (fun heq => ?_) r b
      subst ha heq
      have hfirst := handler_of_first_of_kind hfront he rfl
      exact hne (Handler.login.inj hfirst)
  · rfl

/-- The answers do not depend on any health state but that of the first health handler. -/
theorem router_withHealth_of_first (hfront : ∀ g ∈ front, g.kind ≠ h.kind) {x : HealthRef}
    (hx : h = .health x) {b : Backend} {f : HealthRef → Health} (hf : f x = b.health x)
    (r : Request) :
    router (front ++ h :: rest) r (b.withHealth f) =
      ((router (front ++ h :: rest) r b).1, (router (front ++ h :: rest) r b).2.withHealth f) := by
  rw [router_eq, router_eq]
  split
  · next e he =>
      refine Endpoint.serve_withHealth (fun y hy => ?_) r
      subst hx
      have hfirst := handler_of_first_of_kind hfront he (by rw [hy]; rfl)
      rw [hy] at hfirst
      rw [Handler.health.inj hfirst]
      exact hf
  · rfl

/-! ### Rows of requests -/

/-- **The answers to a row of requests**, in order, and what they change. -/
def answerAll (c : Chain) : List Request → Backend → List Response × Backend
  | [], b => ([], b)
  | r :: rs, b =>
      let (answer, b') := c.router r b
      let (answers, b'') := c.answerAll rs b'
      (answer :: answers, b'')

theorem answerAll_cons (c : Chain) (r : Request) (rs : List Request) (b : Backend) :
    c.answerAll (r :: rs) b =
      ((c.router r b).1 :: (c.answerAll rs (c.router r b).2).1,
        (c.answerAll rs (c.router r b).2).2) := rfl

theorem authority?_answerAll_of_first (hfront : ∀ g ∈ front, g.kind ≠ h.kind)
    {a a' : AuthorityRef} (ha : h = .login a) (hne : a' ≠ a) (rs : List Request) (b : Backend) :
    (answerAll (front ++ h :: rest) rs b).2.authority? a' = b.authority? a' := by
  induction rs generalizing b with
  | nil => rfl
  | cons r rs ih =>
      rw [answerAll_cons]
      exact (ih _).trans (authority?_router_of_first hfront ha hne r b)

theorem answerAll_withHealth_of_first (hfront : ∀ g ∈ front, g.kind ≠ h.kind) {x : HealthRef}
    (hx : h = .health x) {b : Backend} {f : HealthRef → Health} (hf : f x = b.health x)
    (rs : List Request) :
    (answerAll (front ++ h :: rest) rs (b.withHealth f)).1 =
      (answerAll (front ++ h :: rest) rs b).1 := by
  induction rs generalizing b with
  | nil => rfl
  | cons r rs ih =>
      -- no request touches a health state, so the two backends still agree about this one
      have hkept := (undisturbed_router (front ++ h :: rest) r b).health
      rw [answerAll_cons, answerAll_cons, router_withHealth_of_first hfront hx hf r]
      exact congrArg ((router (front ++ h :: rest) r b).1 :: ·) (ih (by rw [hkept]; exact hf))

end

end Chain

/-! ### First come, first served -/

/-- **The first handler that knows the path answers.**  Take any chain.

* If some handler knows the path of a request, and none in front of it does, the answer is that of
  this handler with nothing behind it.  When the method is neither `GET` nor `HEAD` it is the status
  405 with the allowed methods, and nothing changes.
* If no handler knows the path, the answer is the status 404, and nothing changes.
* With another chain behind it, the chain answers the requests to the paths that it knows, and the
  other one all other requests.
* Behind the first handler of a kind, the others of that kind might as well not be there.  If the
  first one is the login of an authority, no row of requests changes any other authority; and if it
  shows a health state, the answers to a row of requests are the same whatever the other health
  states are. -/
theorem first_handler_that_knows_the_path_answers (c : Chain) :
    (∀ front h rest, c = front ++ h :: rest → ∀ (r : Request) (b : Backend),
      (∀ g ∈ front, g.knows r.path = false) → h.knows r.path = true →
        c.router r b = h.router .nothing r b ∧
        (r.method ≠ "GET" → r.method ≠ "HEAD" →
          c.router r b = ({ status := 405, allow := some "GET,HEAD" }, b))) ∧
    (∀ (r : Request) (b : Backend), (∀ h ∈ c, h.knows r.path = false) →
      c.router r b = ({ status := 404 }, b)) ∧
    (∀ (c' : Chain) (r : Request) (b : Backend),
      Chain.router (c ++ c') r b = if c.knows r.path then c.router r b else c'.router r b) ∧
    (∀ front h rest, c = front ++ h :: rest → (∀ g ∈ front, g.kind ≠ h.kind) →
      c.router = Chain.router (front ++ h :: rest.filter (·.kind ≠ h.kind)) ∧
      ∀ (rs : List Request) (b : Backend),
        (∀ a, h = .login a → ∀ a', a' ≠ a →
          (c.answerAll rs b).2.authority? a' = b.authority? a') ∧
        (∀ x, h = .health x → ∀ f, f x = b.health x →
          (c.answerAll rs (b.withHealth f)).1 = (c.answerAll rs b).1)) := by
  refine ⟨?_, fun r b hunknown => ?_, fun c' r b => c.router_append c' r b, ?_⟩
  · rintro front h rest rfl r b hfront hknows
    have hunknown : ¬ Chain.knows front r.path = true := by simpa [Chain.knows] using hfront
    obtain ⟨e, he⟩ := Handler.knows_iff.1 hknows
    have hrouter : Chain.router (front ++ h :: rest) r b = e.serve r b := by
      rw [Chain.router_append, if_neg hunknown, Chain.router_cons, Handler.router, he]
    rw [hrouter]
    refine ⟨by rw [Handler.router, he], fun hget hhead => ?_⟩
    rcases e.serve_cases r b with ⟨h, -⟩ | ⟨h, -⟩ | ⟨-, -, heq⟩
    · exact absurd h hget
    · exact absurd h hhead
    · exact heq
  · have hnone : c.endpoint? r.path = none :=
      List.findSome?_eq_none_iff.2 fun h hh => Handler.knows_eq_false_iff.1 (hunknown h hh)
    rw [Chain.router_eq, hnone]
    rfl
  · rintro front h rest rfl hfront
    refine ⟨Chain.router_eq_of_first_of_kind, fun rs b => ⟨?_, ?_⟩⟩
    · intro a ha a' hne
      exact Chain.authority?_answerAll_of_first hfront ha hne rs b
    · intro x hx f hf
      exact Chain.answerAll_withHealth_of_first hfront hx hf rs

end ConferenceAuth
