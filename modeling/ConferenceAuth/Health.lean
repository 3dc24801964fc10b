/-
**Health of the gateway.**

The process is live as long as it answers at all; it is ready between a successful start and the
next stop.

Main definitions:

* `Health`, `Health.withReady`, `Health.healthy`.
-/
set_option autoImplicit false

namespace ConferenceAuth

structure Health where
  live : Bool := true
  ready : Bool := false
  deriving DecidableEq, Repr

namespace Health

def withReady (h : Health) (ready : Bool) : Health := { h with ready }

def healthy (h : Health) : Bool := h.live && h.ready

@[simp] theorem ready_withReady (h : Health) (b : Bool) : (h.withReady b).ready = b := rfl

@[simp] theorem live_withReady (h : Health) (b : Bool) : (h.withReady b).live = h.live := rfl

end Health

end ConferenceAuth
