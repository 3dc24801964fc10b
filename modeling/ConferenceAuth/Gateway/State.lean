/-
**The states of the gateway.**

A start leads from `stopped` through the configured, selected and published states to `started`, or
from the configured state to `disabled` when no authority is wanted.  The three states in between
are seen only while a start is under way.

Main definitions:

* `LifecycleState`, `LifecycleState.name`, `LifecycleState.isStarted`.
-/
set_option autoImplicit false

namespace ConferenceAuth

/-- The state of a gateway. -/
inductive LifecycleState where
  | stopped
  | configLoaded
  | authoritySelected
  | published
  | started
  /-- The gateway was started without an authority. -/
  | disabled
  deriving DecidableEq, Repr

namespace LifecycleState

/-- Every state, in the order of a start. -/
def all : List LifecycleState :=
  [stopped, configLoaded, authoritySelected, published, started, disabled]

/-- The name of a state, as metrics and logs have it. -/
def name : LifecycleState → String
  | stopped => "stopped"
  | configLoaded => "config_loaded"
  | authoritySelected => "authority_selected"
  | published => "published"
  | started => "started"
  | disabled => "disabled"

/-- The name of a state in descriptions of the gateway. -/
def debugText : LifecycleState → String
  | stopped => "Stopped"
  | configLoaded => "ConfigLoaded"
  | authoritySelected => "AuthoritySelected"
  | published => "Published"
  | started => "Started"
  | disabled => "Disabled"

/-- Whether the gateway counts as started. -/
def isStarted : LifecycleState → Bool
  | started | disabled => true
  | _ => false

theorem isStarted_iff (s : LifecycleState) : s.isStarted = true ↔ s = started ∨ s = disabled := by
  cases s <;> decide

end LifecycleState

end ConferenceAuth
