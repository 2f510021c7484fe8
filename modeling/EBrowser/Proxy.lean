import EBrowser.InputHandler

/-!
# The state of `InputHandlerProxy` and of the governor

The state is split the way the code uses it, so that a handler's type already says which state
it cannot touch.

**The proxy.**  `Proxy` holds the `InputHandlerProxy` members the handlers read, with the fling
members grouped in `FlingState`, the file-level globals that eBrowser added for its stream
tracker (start points, accumulators, counters) grouped in `StreamState`, `calls`, every call
issued to `input_handler_`, `client_` or the elasticity controller, in order, and
`postedObservations`, the tasks `HandleScrollElasticityOverscroll` has posted to the compositor
thread's task runner and that have not run yet, oldest first.  Member names drop
Chromium's trailing underscore; the globals keep the source's spelling where it has two variables
differing only by one (`start_point_x` and `start_point_x_` are `startPointX` and
`startPointX_`).

**The governor.**  `Governor` holds the globals that only the governor reads and writes: the model
text and routing id stored by `HandleInputModelMsg`, the stored speed, the frame-rate hint `fps`
written by a sentinel `GestureScrollBegin`, the governor's two counters, and `sleeps`, every
duration passed to `base::PlatformThread::Sleep`, in microseconds.  A `Process` is one proxy with
the globals of its process.

**Left out.**  Histograms, trace events and `LOG` output; `expect_scroll_update_end_`, which
exists only in debug builds; `input_handler_` itself, since nothing here runs after
`WillShutdown`; `allow_root_animate_`, read only by `HandleGestureFlingStart`, which nothing
calls.  The fling curve is the client's object: `flingCurve` records whether `fling_curve_` holds
one, and the environment answers for it.
-/

namespace EBrowser

/-- The fling members of `InputHandlerProxy`, at their values on construction. -/
structure FlingState where
  deferredFlingCancelTimeSeconds : ℚ := 0
  flingMayBeActiveOnMainThread : Bool := false
  disallowHorizontalFlingScroll : Bool := false
  disallowVerticalFlingScroll : Bool := false
  hasFlingAnimationStarted : Bool := false
  flingCurve : Bool := false
  currentFlingVelocity : Vector2dF := {}
  flingParameters : WebActiveWheelFlingParameters := {}
  lastFlingBoostEvent : WebGestureEvent := {}
  lastFlingAnimateTime : ℚ := 0
  deriving DecidableEq, Repr

/-- The globals eBrowser added for the gesture-stream tracker, at their values in a fresh
process. -/
structure StreamState where
  startPointX : ℚ := 0
  startPointY : ℚ := 0
  startPointX_ : ℚ := 0
  startPointY_ : ℚ := 0
  accumulatedDeltaX : ℚ := 0
  accumulatedDeltaY : ℚ := 0
  accumulatedDeltaX_ : ℚ := 0
  accumulatedDeltaY_ : ℚ := 0
  pinchCount : Int := 0
  scrollCount : Int := 0
  isPinch : Bool := false
  count : Int := 0
  lastFps : Int := 0
  deriving DecidableEq, Repr

/-- The members of `InputHandlerProxy` the handlers use, the stream globals, the calls issued
so far and the posted tasks still to run.  The defaults are the values on construction. -/
structure Proxy where
  fling : FlingState := {}
  synchronousInputHandler : Bool := false
  gestureScrollOnImplThread : Bool := false
  gesturePinchOnImplThread : Bool := false
  smoothScrollEnabled : Bool := false
  /-- `touch_start_result_`; `none` is `kEventDispositionUndefined`. -/
  touchStartResult : Option EventDisposition := none
  currentOverscrollParams : Option DidOverscrollParams := none
  scrollElasticityController : Bool := false
  stream : StreamState := {}
  calls : List Call := []
  /-- Each posted task delivers a gesture event and its scroll result to the elasticity
  controller's `ObserveGestureEventAndResult` when it runs. -/
  postedObservations : List (WebGestureEvent × InputHandlerScrollResult) := []

/-- The governor's globals, at their values in a fresh process. -/
structure Governor where
  msgModel : String := ""
  routingId : Int := 0
  scrollSpeed : Int := 0
  fps : Int := 0
  countScrolling : Int := 0
  countPinching : Int := 0
  sleeps : List Int := []
  deriving DecidableEq, Repr

/-- One proxy and the globals of its process. -/
structure Process where
  proxy : Proxy
  governor : Governor

namespace Proxy

/-- The proxy after the constructor and `set_smooth_scroll_enabled`; `scrollElasticityController`
says whether `CreateScrollElasticityHelper` returned a helper. -/
def initial (smoothScrollEnabled scrollElasticityController : Bool) : Proxy :=
  { smoothScrollEnabled, scrollElasticityController }

/-- Issue a call to a collaborator. -/
def issue (s : Proxy) (c : Call) : Proxy := { s with calls := s.calls ++ [c] }

/-- Issue a query and read its answer on the record that ends with it. -/
def query {α : Type} (s : Proxy) (c : Call) (answer : List Call → α) : α × Proxy :=
  (answer (s.calls ++ [c]), s.issue c)

/-- `ShouldAnimate`, as built for every platform but Mac. -/
def shouldAnimate (s : Proxy) (hasPreciseScrollDeltas : Bool) : Bool :=
  s.smoothScrollEnabled && !hasPreciseScrollDeltas

@[simp] lemma issue_calls (s : Proxy) (c : Call) : (s.issue c).calls = s.calls ++ [c] := rfl

end Proxy

namespace Process

/-- A fresh process with a newly constructed proxy. -/
def initial (smoothScrollEnabled scrollElasticityController : Bool) : Process :=
  ⟨Proxy.initial smoothScrollEnabled scrollElasticityController, {}⟩

/-- The result of a handler of the proxy alone, with the globals left as they are. -/
def withProxy {α : Type} (p : Process) (r : α × Proxy) : α × Process :=
  (r.1, { p with proxy := r.2 })

end Process

namespace Governor

/-- The `base::PlatformThread::Sleep` calls of one block, in order, each given in
microseconds. -/
def sleep (g : Governor) (durations : List Int) : Governor :=
  { g with sleeps := g.sleeps ++ durations }

end Governor

/-- `InputHandlerProxy::HandleInputModelMsg`: store the routing id, the model text unless it is
empty, and the speed, with `0` read as `200`. -/
def handleInputModelMsg (g : Governor) (msg : String) (routingId speed : Int) : Governor :=
  let g := { g with routingId := routingId }
  let g := if msg ≠ "" ∧ msg.length ≠ 0 then { g with msgModel := msg } else g
  let speed := if speed = 0 then 200 else speed
  { g with scrollSpeed := speed }

/-- `predict`: the rate for a speed.  An empty model text or `"stop"` gives the ceiling `60`;
otherwise the text is parsed afresh and `svm_predict` answers, and a text `svm_load_model`
rejects ends the process (`none`). -/
def predict (svm : Svm) (msgModel : String) (speed : ℚ) : Option ℚ :=
  if msgModel = "" ∨ msgModel.length = 0 ∨ msgModel = "stop" then some 60
  else if svm.loads msgModel then some (svm.predict msgModel speed)
  else none

end EBrowser
