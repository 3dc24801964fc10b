/-
**Stored sessions.**

A session binds a user to the room of a conference.  The store keeps sessions by their identifiers
and drops them in bulk: those of a room, those older than a lifetime, or all.

Times are integers, in milliseconds on the wall clock.  The clock may be set back, so a session can
seem to have been created in the future; such a session has not expired.

Main definitions:

* `Session`, `Session.expired`;
* `SessionStore`, a table of sessions, with `SessionStore.get?`, `SessionStore.removeRoom` and
  `SessionStore.expire`.

Main results:

* `Session.expired_iff` — when a session has reached a lifetime;
* `SessionStore.size_expire_le` — a store never grows by an expiry.
-/
import ConferenceAuth.Table

set_option autoImplicit false

namespace ConferenceAuth

/-! ### Sessions -/

/-- An authenticated user, bound to the room of a conference. -/
structure Session where
  /-- The identifier that the client is told. -/
  id : String
  machineUid : String
  identity : String
  room : String
  createdAt : Int
  deriving DecidableEq, Repr

/-- Whether a session has reached a lifetime. -/
def Session.expired (now : Int) (lifetime : Nat) (s : Session) : Bool :=
  s.createdAt ≤ now && lifetime ≤ now - s.createdAt

theorem Session.expired_iff {now : Int} {lifetime : Nat} {s : Session} :
    s.expired now lifetime = true ↔ s.createdAt ≤ now ∧ lifetime ≤ now - s.createdAt := by
  simp [expired]

/-! ### The store -/

/-- Sessions kept by their identifiers. -/
abbrev SessionStore := Table Session Session.id

namespace SessionStore

abbrev get? (t : SessionStore) (id : String) : Option Session := t.find? id

/-- The store without the sessions of a room. -/
def removeRoom (t : SessionStore) (room : String) : SessionStore := t.keep (·.room != room)

/-- The store without the sessions that have reached a lifetime. -/
def expire (t : SessionStore) (now : Int) (lifetime : Nat) : SessionStore :=
  t.keep fun s => !s.expired now lifetime

/-- The number of sessions that a change of the store removes. -/
def dropped (before after : SessionStore) : Nat := before.size - after.size

theorem size_expire_le (t : SessionStore) (now : Int) (lifetime : Nat) :
    (t.expire now lifetime).size ≤ t.size := Table.size_keep_le ..

end SessionStore

end ConferenceAuth
