/-
**The settings of the process.**

The process itself has one setting, the address of its metrics listener.  Unlike a property it is
not forgiving: a text that is no socket address stops the process.

Main definitions:

* `ProcessConfig`, `ProcessConfig.ofVariables`.

Main results:

* `ProcessConfig.ofVariables_eq_ok_iff` — the text is kept verbatim, and exactly the socket
  addresses are taken.
-/
import ConferenceAuth.Error
import ConferenceAuth.Net.SocketAddress

set_option autoImplicit false

namespace ConferenceAuth

structure ProcessConfig where
  metricsAddress : String
  deriving DecidableEq, Repr

namespace ProcessConfig

/-- The variable that holds the address of the metrics listener. -/
def metricsVariable : String := "GATEWAY_METRICS_BIND_ADDRESS"

/-- The address of the metrics listener when none is set. -/
def defaultMetricsAddress : String := "0.0.0.0:9888"

/-- The address that the variables ask for. -/
def requestedAddress (vars : Settings) : String :=
  (vars.get? metricsVariable).getD defaultMetricsAddress

/-- **The settings that the variables of an environment give.** -/
def ofVariables (vars : Settings) : Except ConfigError ProcessConfig :=
  let address := requestedAddress vars
  if (Net.SocketAddress.ofText? address).isSome then .ok ⟨address⟩
  else .error (.invalidValue (metricsVariable ++ " is not a socket address: " ++ address))

/-- The text is kept verbatim, and exactly the socket addresses are taken. -/
theorem ofVariables_eq_ok_iff {vars : Settings} {c : ProcessConfig} :
    ofVariables vars = .ok c ↔
      c.metricsAddress = requestedAddress vars ∧
        (Net.SocketAddress.ofText? c.metricsAddress).isSome = true := by
  simp only [ofVariables]
  obtain ⟨a⟩ := c
  split
  · next h =>
    simp only [Except.ok.injEq, mk.injEq]
    exact ⟨fun e => ⟨e.symm, e ▸ h⟩, fun e => e.1.symm⟩
  · next h =>
    simp only [reduceCtorEq, false_iff, not_and]
    rintro rfl
    exact h

end ProcessConfig

end ConferenceAuth
