/-
**A room from the query into the session and back.**

Who asks for a login writes the room and the machine into the query, in whichever way queries may be
written, and perhaps with more around them.  When the conference in the room ends, the room is named
again, this time as it is.  The session is found only if nothing has been lost in between: it has
exactly the room that was written.

Main definitions:

* `Login.Unrelated` — a piece of a query that says nothing of the room or the machine;
* `Login.Asks` — the queries that ask for a session of a machine in a room.

Main results:

* `Login.Asks.given_eq` — the parameters of such a query are the room and the machine;
* `Backend.stores_conferenceEnded_iff` — whose sessions end with a conference;
* `room_survives_the_query` — **a session has the room that was written into the query**, and ends
  with the conference in this room and in no other.
-/
import ConferenceAuth.Proofs.Http.FormEncoding
import ConferenceAuth.Proofs.Http.Login

set_option autoImplicit false

namespace ConferenceAuth

/-! ### Queries that ask for a session -/

namespace Login

/-- **A piece of a query that says nothing of the room or the machine**: whatever stands between two
ampersands and is read with another name. -/
structure Unrelated (piece : List Char) : Prop where
  enclosed : Query.Enclosed piece
  name_not_mem : (Query.readPair (piece.map Query.byte)).1 ∉ fields

/-- **A query that asks for a session of a machine in a room**: between ampersands there are the two
parameters, in any order and in any writing, and whatever is unrelated. -/
def Asks (room machineUid : String) (query : List Char) : Prop :=
  ∃ pieces roomPiece machinePiece others, query = ['&'].intercalate pieces ∧
    pieces.Perm (roomPiece :: machinePiece :: others) ∧
    Query.Gives roomField room roomPiece ∧ Query.Gives machineField machineUid machinePiece ∧
    ∀ piece ∈ others, Unrelated piece

/-- An empty piece is unrelated. -/
theorem unrelated_nil : Unrelated [] := ⟨Query.enclosed_nil, by decide⟩

/-- So is a parameter of another name, in any writing. -/
theorem Unrelated.of_gives {name value : String} {piece : List Char}
    (h : Query.Gives name value piece) (hname : name ∉ fields) : Unrelated piece :=
  ⟨h.enclosed, by rwa [h.readPair_eq]⟩

/-- So is another name without a value. -/
theorem Unrelated.of_writes {name : String} {piece : List Char} (h : Query.Writes name piece)
    (hname : name ∉ fields) : Unrelated piece :=
  ⟨Query.Written.enclosed h, by rwa [h.readPair_eq]⟩

/-- Unrelated pieces give the parameters no value. -/
theorem valuesOf_unrelated {others : List (List Char)} (h : ∀ piece ∈ others, Unrelated piece)
    {field : String} (hfield : field ∈ fields) :
    valuesOf field ((others.filter (· ≠ [])).map fun piece =>
      Query.readPair (piece.map Query.byte)) = [] := by
  rw [valuesOf, List.map_eq_nil_iff, List.filter_eq_nil_iff]
  intro pair hpair
  obtain ⟨piece, hpiece, rfl⟩ := List.mem_map.1 hpair
  rw [decide_eq_true_eq]
  exact fun heq => (h piece (List.mem_filter.1 hpiece).1).name_not_mem (heq ▸ hfield)

namespace Asks

variable {room machineUid : String} {query : List Char}

theorem enclosed_of_perm {pieces others : List (List Char)} {roomPiece machinePiece : List Char}
    (hperm : pieces.Perm (roomPiece :: machinePiece :: others))
    (hroom : Query.Gives roomField room roomPiece)
    (hmachine : Query.Gives machineField machineUid machinePiece)
    (hothers : ∀ piece ∈ others, Unrelated piece) : ∀ piece ∈ pieces, Query.Enclosed piece := by
  intro piece hpiece
  rcases List.mem_cons.1 (hperm.mem_iff.1 hpiece) with rfl | hpiece
  · exact hroom.enclosed
  · rcases List.mem_cons.1 hpiece with rfl | hpiece
    · exact hmachine.enclosed
    · exact (hothers piece hpiece).enclosed

/-- No fragment starts in such a query. -/
theorem not_mem (h : Asks room machineUid query) : '#' ∉ query := by
  obtain ⟨pieces, roomPiece, machinePiece, others, rfl, hperm, hroom, hmachine, hothers⟩ := h
  have henclosed := enclosed_of_perm hperm hroom hmachine hothers
  exact fun hmem => Query.forall_mem_intercalate (P := (· ≠ '#')) (by decide)
    (fun piece hpiece c hc => (henclosed piece hpiece c hc).2.2) '#' hmem rfl

/-- **The parameters of such a query are the room and the machine.** -/
theorem given_eq (h : Asks room machineUid query) {r : Request}
    (hbytes : r.queryBytes = Text.utf8Encode query) :
    given r roomField = [room] ∧ given r machineField = [machineUid] := by
  obtain ⟨pieces, roomPiece, machinePiece, others, rfl, hperm, hroom, hmachine, hothers⟩ := h
  have henclosed := enclosed_of_perm hperm hroom hmachine hothers
  have hne : pieces ≠ [] := by
    rintro rfl
    exact absurd hperm.length_eq (by simp)
  have hread : (roomPiece :: machinePiece :: others).filter (· ≠ []) =
      roomPiece :: machinePiece :: others.filter (· ≠ []) := by
    simp [hroom.ne_nil, hmachine.ne_nil]
  have hvalues : ∀ field ∈ fields, (given r field).Perm
      (valuesOf field [(roomField, room), (machineField, machineUid)]) := by
    intro field hfield
    rw [given, hbytes, Query.pairs_intercalate hne henclosed]
    refine (((hperm.filter _).map _).filter _).map _ |>.trans (.of_eq ?_)
    rw [hread, List.map_cons, List.map_cons, hroom.readPair_eq, hmachine.readPair_eq]
    show valuesOf field _ = _
    rw [valuesOf_cons, valuesOf_cons, valuesOf_unrelated hothers hfield, valuesOf_cons,
      valuesOf_cons]
    rfl
  constructor
  · exact List.perm_singleton.1 (hvalues roomField (by decide))
  · exact List.perm_singleton.1 (hvalues machineField (by decide))

/-- The target of a login with such a query. -/
theorem target_eq (h : Asks room machineUid query) {r : Request}
    (huri : r.uri = "/login?" ++ String.ofList query) :
    r.path = "/login" ∧ r.queryBytes = Text.utf8Encode query := by
  have htext : r.uri.toList = "/login?".toList ++ query := by simp [huri]
  have hnumber : '#' ∉ "/login?".toList ++ query := by
    rw [List.mem_append, not_or]
    exact ⟨by decide, h.not_mem⟩
  have htarget : r.target = ⟨"/login".toList, query⟩ := by
    rw [Request.target, Target.ofText, htext, Target.cut_of_not_mem hnumber]
    rfl
  rw [Request.path, Request.queryBytes, htarget]
  exact ⟨String.ofList_toList .., rfl⟩

end Asks

end Login

/-! ### Sessions that end with a conference -/

/-- Whether the sessions of an authority end with their conference, no step changes. -/
theorem Authority.fixed_disableAutologin : Authority.Fixed (·.keeper.disableAutologin) := by
  intro b x st
  show ((b.moment x).step st).keeper.disableAutologin = x.keeper.disableAutologin
  cases st with
  | conferenceEnded room =>
      show (x.keeper.conferenceEnded b.metrics room).1.disableAutologin = _
      unfold Keeper.conferenceEnded
      split <;> rfl
  | start runtime =>
      show (x.keeper.start b.metrics b.now runtime).2.1.disableAutologin = _
      unfold Keeper.start
      split
      · rfl
      · split <;> rfl
  | advance ms =>
      show (x.keeper.tick b.metrics (b.now + ms)).1.disableAutologin = _
      unfold Keeper.tick
      split
      · rfl
      · split <;> rfl
  | _ => rfl

/-- **With a conference end the sessions of its room**, where sessions end with conferences. -/
theorem Backend.stores_conferenceEnded_iff {b : Backend} {a : AuthorityRef}
    (ha : (b.authority? a).map (·.keeper.disableAutologin) = some true) (room : String)
    (s : Session) :
    (b.conferenceEnded a room).Stores a s ↔ b.Stores a s ∧ s.room ≠ room := by
  obtain ⟨x, hx, hends⟩ := Option.map_eq_some_iff.1 ha
  have hafter := b.authority?_stepAt a a (.conferenceEnded room)
  rw [hx, Option.map_some, if_pos rfl, ← conferenceEnded_eq_stepAt] at hafter
  have hkept : ((b.moment x).step (.conferenceEnded room)).keeper.sessions.toList =
      x.keeper.sessions.toList.filter (·.room != room) := by
    show (x.keeper.conferenceEnded b.metrics room).1.sessions.toList = _
    rw [Keeper.conferenceEnded, if_pos hends]
    rfl
  unfold Stores
  rw [hafter, hx]
  simp only [Option.some.injEq, exists_eq_left', hkept, List.mem_filter, bne_iff_ne]

/-! ### There and back -/

/-- **A room survives the query.**  Take any chain in which no handler in front of a login knows its
path, whose logins have their authorities, a source of distinct session identifiers, and sessions
that have theirs from there, if there are any; and let any steps have been taken.  Let a room and a
machine be any texts that are not empty, and let a query ask for them, in any writing and any order,
with unrelated and empty parameters around them.  A `GET` request for `/login` with this query and
with an identity in its headers opens a session, and nothing else is stored or dropped.

* The session has exactly the room and the machine that were written, and the forwarded identity,
  and the answer tells its identifier.
* If the sessions of the authority end with their conference, then whatever happens next, as long as
  the session is stored: when a conference ends, the session is dropped if and only if the
  conference was in that room, letter for letter. -/
theorem room_survives_the_query {front rest : Chain} {a : AuthorityRef} {b : Backend}
    (hfront : ∀ g ∈ front, g.knows "/login" = false) (hids : b.sessionIds.Distinct)
    (hissued : ∀ a s, b.Stores a s → b.sessionIds.HasIssued s.id)
    (hbound : ∀ a', .login a' ∈ front ++ .login a :: rest → (b.authority? a').isSome = true)
    (steps : List ChainStep) {room machineUid identity : String} (hroom : room ≠ "")
    (hmachine : machineUid ≠ "") {query : List Char} (hquery : Login.Asks room machineUid query)
    {r : Request} (hget : r.method = "GET") (huri : r.uri = "/login?" ++ String.ofList query)
    (hidentity : Login.Forwards r identity) :
    let c := front ++ .login a :: rest
    let before := c.run b steps
    let after := (c.router r before).2
    ∃ s : Session, s.room = room ∧ s.machineUid = machineUid ∧ s.identity = identity ∧
      (c.router r before).1 = .json 200 (Login.sessionBody s.id) ∧
      ¬ before.Stores a s ∧
      (∀ a' s', after.Stores a' s' ↔ before.Stores a' s' ∨ (a' = a ∧ s' = s)) ∧
      ∀ x, b.authority? a = some x → x.keeper.disableAutologin = true →
        ∀ more : List ChainStep, (c.run after more).Stores a s →
          ∀ room', ((c.run after more).conferenceEnded a room').Stores a s ↔ room' ≠ room := by
  intro c before after
  have horder : c.InOrder before := Chain.InOrder.run ⟨hids, hissued, hbound⟩ steps
  obtain ⟨hpath, hbytes⟩ := hquery.target_eq huri
  obtain ⟨hgivenRoom, hgivenMachine⟩ := hquery.given_eq hbytes
  have hrouter : c.router r before = Login.accept before a machineUid identity room := by
    have hget' : r.method ≠ "HEAD" := by rw [hget]; decide
    rw [Chain.router_login hfront hpath (.inl hget), Response.sentTo, if_neg hget',
      Login.respond_of_given a before hroom hmachine hgivenRoom hgivenMachine,
      Login.identity?_eq_some_iff.2 hidentity]
  have hnew := fun a' s' hs => horder.ne_current (a := a') (s := s') hs
  obtain ⟨hanswer, hstores, -⟩ := Login.accept_changes
    (horder.bound a (List.mem_append_right front List.mem_cons_self)) hnew
    machineUid identity room
  have hafter : after = (Login.accept before a machineUid identity room).2 := by
    show (c.router r before).2 = _
    rw [hrouter]
  refine ⟨before.newSession machineUid identity room, rfl, rfl, rfl, ?_, fun hs => hnew a _ hs rfl,
    ?_, fun x hx hends more hs room' => ?_⟩
  · rw [hrouter]
    exact hanswer
  · rw [hafter]
    exact hstores
  · -- the authority has not changed in this respect, neither before the login nor since
    have hstart : (b.authority? a).map (·.keeper.disableAutologin) = some true := by
      rw [hx, Option.map_some, hends]
    have hfixed := Authority.fixed_disableAutologin
    have hlogin : (after.authority? a).map (·.keeper.disableAutologin) = some true :=
      Chain.fixed_run hfixed (c := c) (Chain.fixed_run hfixed (c := c) hstart steps) [.request r]
    rw [Backend.stores_conferenceEnded_iff (Chain.fixed_run hfixed hlogin more)]
    exact ⟨fun h => Ne.symm h.2, fun h => ⟨hs, Ne.symm h⟩⟩

/-- A room with a letter beyond ASCII and a space, and a machine with an ampersand, are written in
mixed ways and against the usual order, with an empty pair, another parameter and a name alone
between them.  Half a minute later the conference in a room of a similar name ends, and then the one
in this room. -/
theorem room_with_accent_and_space :
    let c : Chain := [.health 0] ++ .login 0 :: []
    let b := ({ sessionIds := .numbered "session-" } : Backend).enroll
      (.ofVariant (.shibboleth "https://sso.example.com" none) { disableAutologin := true })
    let login : Request :=
      { uri := "/login?machineUID=m%261&&lang=&beta&room=%C3%a9t%c3%A9+1"
        headers := [("mail", "alice@example.com")] }
    let after := c.run (c.router login b).2 [.tend (.elapse 30000)]
    ∃ s : Session, s.room = "été 1" ∧ s.machineUid = "m&1" ∧ after.Stores 0 s ∧
      (after.conferenceEnded 0 "été+1").Stores 0 s ∧
      ¬ (after.conferenceEnded 0 "été 1").Stores 0 s := by
  intro c b login after
  have hroom : Query.Gives Login.roomField "été 1" "room=%C3%a9t%c3%A9+1".toList := by
    refine ⟨"room".toList, "%C3%a9t%c3%A9+1".toList, rfl, Query.writes_self (by decide), ?_⟩
    have hbytes : Text.utf8Encode "été 1".toList =
        [0xC3, 0xA9, Query.byte 't', 0xC3, 0xA9, Query.byte ' ', Query.byte '1'] := by decide
    rw [Query.Writes, hbytes]
    exact .escape (.inr rfl) (.inl rfl) (.escape (.inl rfl) (.inl rfl) (.plain rfl
      (.escape (.inl rfl) (.inl rfl) (.escape (.inr rfl) (.inl rfl) (.plus (.plain rfl .nil))))))
  have hmachine : Query.Gives Login.machineField "m&1" "machineUID=m%261".toList := by
    refine ⟨"machineUID".toList, "m%261".toList, rfl, Query.writes_self (by decide), ?_⟩
    have hbytes : Text.utf8Encode "m&1".toList =
        [Query.byte 'm', Query.byte '&', Query.byte '1'] := by decide
    rw [Query.Writes, hbytes]
    exact .plain rfl (.escape (.inl rfl) (.inl rfl) (.plain rfl .nil))
  have hlang : Query.Gives "lang" "" "lang=".toList :=
    ⟨"lang".toList, [], rfl, Query.writes_self (by decide), .nil⟩
  have hbeta : Query.Writes "beta" "beta".toList := Query.writes_self (by decide)
  have hothers : ∀ piece ∈ [[], "lang=".toList, "beta".toList], Login.Unrelated piece := by
    rw [List.forall_mem_cons, List.forall_mem_cons, List.forall_mem_singleton]
    exact ⟨Login.unrelated_nil, .of_gives hlang (by decide), .of_writes hbeta (by decide)⟩
  have hquery : Login.Asks "été 1" "m&1"
      "machineUID=m%261&&lang=&beta&room=%C3%a9t%c3%A9+1".toList :=
    ⟨["machineUID=m%261".toList, [], "lang=".toList, "beta".toList,
        "room=%C3%a9t%c3%A9+1".toList], _, _, _, by decide, by decide, hroom, hmachine, hothers⟩
  have hfront : ∀ g ∈ [Handler.health 0], g.knows "/login" = false := by decide
  have hbound : ∀ a, .login a ∈ [Handler.health 0] ++ .login 0 :: [] →
      (b.authority? a).isSome = true := by
    intro a ha
    rcases List.mem_cons.1 ha with ha | ha
    · cases ha
    · cases List.mem_singleton.1 ha
      rfl
  have hempty : ∀ a s, ¬ b.Stores a s := fun _ _ => Backend.not_stores_enroll_of_nil rfl
  have hidentity : Login.Forwards login "alice@example.com" :=
    Login.identity?_eq_some_iff.1 (by decide)
  obtain ⟨s, hsroom, hsmachine, -, -, -, hstores, hends⟩ :=
    room_survives_the_query hfront (IdSource.distinct_numbered "session-")
      (fun _ _ hs => absurd hs (hempty _ _)) hbound [] (by decide) (by decide) hquery
      (r := login) rfl rfl hidentity
  have halice : (c.router login b).2.Stores 0
      ⟨"session-0", "m&1", "alice@example.com", "été 1", 0⟩ := by decide
  obtain ⟨-, rfl⟩ := ((hstores 0 _).1 halice).resolve_left (hempty _ _)
  have hstored : after.Stores 0 ⟨"session-0", "m&1", "alice@example.com", "été 1", 0⟩ := by
    decide +kernel
  have hended := hends _ rfl rfl [.tend (.elapse 30000)] hstored
  exact ⟨_, hsroom, hsmachine, hstored, (hended "été+1").2 (by decide),
    fun h => (hended "été 1").1 h rfl⟩

end ConferenceAuth
