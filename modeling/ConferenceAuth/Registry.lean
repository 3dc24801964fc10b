/-
**The service registry.**

A capability is published under the name of a service and known by the entry that publication gives
back; withdrawing the entry ends the publication.  Several capabilities may be published under one
name.  A look-up asks for a service and for a kind of value, which is given as a partial view of the
values; the order in which the registry goes through its publications is not fixed, and so it is an
argument.

Main definitions:

* `RegistryEntry`, `RegistryEntry.display`;
* `Registry`, `Registry.publish`, `Registry.withdraw`, `Registry.size`;
* `Enumeration` — an order in which publications may be gone through;
* `Registry.lookup`.

Main results:

* `Registry.withdraw_of_holds`, `Registry.withdraw_of_not_holds` — when a withdrawal succeeds;
* `Registry.lookup_eq_none_iff`, `Registry.exists_of_lookup_eq_some` — in every order, a look-up
  fails only when nothing fits, and finds something that fits otherwise.
-/
import ConferenceAuth.Error
import ConferenceAuth.Table

set_option autoImplicit false

namespace ConferenceAuth

/-! ### Entries -/

/-- What a publication is known by. -/
structure RegistryEntry where
  id : String
  service : String
  deriving DecidableEq, Repr

def RegistryEntry.display (e : RegistryEntry) : String := e.service ++ "#" ++ e.id

/-- A capability under its entry. -/
structure Publication (α : Type) where
  entry : RegistryEntry
  value : α
  deriving DecidableEq, Repr

/-! ### The registry -/

/-- A service registry: the publications, kept by the identifiers of their entries. -/
structure Registry (α : Type) where
  /-- The publications in the order in which they were made. -/
  published : Table (Publication α) (·.entry.id) := .empty

/-- An order in which publications may be gone through: it leaves none out and repeats none. -/
structure Enumeration where
  order : {α : Type} → List α → List α
  order_perm : ∀ {α : Type} (l : List α), (order l).Perm l

/-- The order in which publications were made. -/
def Enumeration.oldestFirst : Enumeration := ⟨fun l => l, fun l => List.Perm.refl l⟩

/-- The order against that in which publications were made. -/
def Enumeration.newestFirst : Enumeration := ⟨List.reverse, fun l => List.reverse_perm l⟩

namespace Registry

variable {α β : Type}

/-- The registry with a capability published under an entry. -/
def publish (r : Registry α) (entry : RegistryEntry) (value : α) : Registry α :=
  ⟨r.published.insert ⟨entry, value⟩⟩

/-- Whether a publication is known by an entry. -/
def holds (r : Registry α) (entry : RegistryEntry) : Bool := (r.published.find? entry.id).isSome

/-- The registry without the publication of an entry, which has to be there. -/
def withdraw (r : Registry α) (entry : RegistryEntry) : Except HostError (Registry α) :=
  if r.holds entry then .ok ⟨r.published.erase entry.id⟩
  else .error (.entryNotFound entry.display)

def size (r : Registry α) : Nat := r.published.size

def isEmpty (r : Registry α) : Bool := r.size == 0

/-- **The value published under a service that a view accepts**, the first in a given order. -/
def lookup (r : Registry α) (en : Enumeration) (service : String) (view : α → Option β) :
    Option β :=
  (en.order r.published.toList).findSome? fun p =>
    if p.entry.service = service then view p.value else none

/-- The description that a registry gives of itself. -/
def debugText (r : Registry α) : String :=
  "InMemoryServiceRegistry \x7b published: " ++ toString r.size ++ " \x7d"

/-! ### First facts -/

theorem holds_iff {r : Registry α} {entry : RegistryEntry} :
    r.holds entry = true ↔ ∃ p ∈ r.published.toList, p.entry.id = entry.id := by
  rw [holds, Option.isSome_iff_exists]
  constructor
  · rintro ⟨p, hp⟩
    exact ⟨p, (Table.find?_eq_some_iff.1 hp).1, (Table.find?_eq_some_iff.1 hp).2⟩
  · rintro ⟨p, hp, hid⟩
    exact ⟨p, Table.find?_eq_some_iff.2 ⟨hp, hid⟩⟩

theorem withdraw_of_holds {r : Registry α} {entry : RegistryEntry} (h : r.holds entry = true) :
    r.withdraw entry = .ok ⟨r.published.erase entry.id⟩ := by
  rw [withdraw, if_pos h]

theorem withdraw_of_not_holds {r : Registry α} {entry : RegistryEntry}
    (h : r.holds entry = false) : r.withdraw entry = .error (.entryNotFound entry.display) := by
  rw [withdraw, if_neg (by simp [h])]

/-- Erasing an identifier ends the publications that are known by it, and no others. -/
theorem holds_erase_iff {r : Registry α} {id : String} {entry : RegistryEntry} :
    (⟨r.published.erase id⟩ : Registry α).holds entry = true ↔
      r.holds entry = true ∧ entry.id ≠ id := by
  simp only [holds_iff, Table.toList_erase, List.mem_filter, bne_iff_ne]
  constructor
  · rintro ⟨p, ⟨hp, hne⟩, hid⟩
    exact ⟨⟨p, hp, hid⟩, hid ▸ hne⟩
  · rintro ⟨⟨p, hp, hid⟩, hne⟩
    exact ⟨p, ⟨hp, hid ▸ hne⟩, hid⟩

theorem eq_erase_of_withdraw {r r' : Registry α} {entry : RegistryEntry}
    (h : r.withdraw entry = .ok r') : r' = ⟨r.published.erase entry.id⟩ := by
  unfold withdraw at h
  split at h
  · cases h; rfl
  · cases h

/-- In every order, a look-up fails only when nothing fits. -/
theorem lookup_eq_none_iff {r : Registry α} {en : Enumeration} {service : String}
    {view : α → Option β} :
    r.lookup en service view = none ↔
      ∀ p ∈ r.published.toList, p.entry.service = service → view p.value = none := by
  simp only [lookup, List.findSome?_eq_none_iff, (en.order_perm _).mem_iff]
  constructor
  · intro h p hp hs
    simpa [hs] using h p hp
  · intro h p hp
    split
    · next hs => exact h p hp hs
    · rfl

/-- In every order, what a look-up finds is published under the service, and the view accepts it. -/
theorem exists_of_lookup_eq_some {r : Registry α} {en : Enumeration} {service : String}
    {view : α → Option β} {b : β} (h : r.lookup en service view = some b) :
    ∃ p ∈ r.published.toList, p.entry.service = service ∧ view p.value = some b := by
  obtain ⟨p, hp, hb⟩ := List.exists_of_findSome?_eq_some h
  split at hb
  · next hs => exact ⟨p, (en.order_perm _).mem_iff.1 hp, hs, hb⟩
  · cases hb

end Registry

end ConferenceAuth
