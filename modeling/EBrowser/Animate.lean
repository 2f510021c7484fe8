import EBrowser.Dispatch

/-!
# Animation and the other entry points

`Animate` drives a fling: the client's curve calls back `scrollBy` (the proxy is its
`WebGestureCurveTarget`), which scrolls on the impl thread for a touchscreen fling and through a
synthetic wheel event for a touchpad fling.  A touchpad fling that the main thread must handle is
handed over to it, and its cancellation can re-enter `HandleInputEvent`.  With no fling curve,
`Animate` only forwards the tick to the elasticity controller.

The curve itself belongs to the client: the environment says which `scrollBy` call it makes, if
any, and what `apply` returns.

`MainThreadHasStoppedFlinging` and `SynchronouslyZoomBy` are the two remaining entry points of
the proxy.  The compositor thread also runs the tasks `HandleScrollElasticityOverscroll` posted,
oldest first, each whenever its message loop gets to it (`runPostedTask`).
-/

namespace EBrowser

open Proxy

/-- `RequestAnimation`: root flings go through the synchronous handler when there is one. -/
def requestAnimation (env : Env) (s : Proxy) : Proxy :=
  if s.synchronousInputHandler then
    let (viewport, s) := s.query .IsCurrentlyScrollingViewport env.scrollingViewport
    if viewport then s.issue .SetNeedsSynchronousAnimateInput else s.issue .SetNeedsAnimateInput
  else s.issue .SetNeedsAnimateInput

/-- `ScrollByMouseWheel`: begin, scroll and end a wheel scroll on the impl thread. -/
def scrollByMouseWheel (env : Env) (s : Proxy) (event : WebMouseWheelEvent)
    (listenerProperties : EventListenerProperties) : EventDisposition × Proxy :=
  let scrollDelta : Vector2dF :=
    ⟨if event.railsMode ≠ .RailsModeVertical then -event.deltaX else 0,
     if event.railsMode ≠ .RailsModeHorizontal then -event.deltaY else 0⟩
  if event.scrollByPage then (.DidNotHandle, s)
  else
    let (thread, s) := s.query
      (.ScrollBegin { positionX := event.x, positionY := event.y, isBeginning := true } .Wheel)
      env.scrollStatus
    match thread with
    | .ScrollOnImplThread =>
      let update : ScrollStateData :=
        { deltaX := scrollDelta.x, deltaY := scrollDelta.y, positionX := event.x,
          positionY := event.y }
      let (result, s) := s.query (.ScrollBy update) env.scrollResult
      let s := (handleOverscroll s ⟨event.x, event.y⟩ result false).issue
        (.ScrollEnd { isEnding := true })
      (if !result.didScroll then .DropEvent
       else if listenerProperties = .kPassive then .DidHandleNonBlocking else .DidHandle, s)
    | _ => (.DidNotHandle, s)

/-- `TouchpadFlingScroll`: scroll a touchpad fling by a synthetic precise wheel event; if the main
thread has to handle it, transfer the fling there and cancel it here. -/
def touchpadFlingScroll (env : Env) (p : Process) (increment : Vector2dF) :
    Option (Bool × Process) :=
  let (properties, s) :=
    p.proxy.query (.GetEventListenerProperties .kMouseWheel) env.listenerProperties
  let wheel : WebMouseWheelEvent :=
    { deltaX := increment.x, deltaY := increment.y, hasPreciseScrollingDeltas := true,
      x := s.fling.flingParameters.point.x, y := s.fling.flingParameters.point.y }
  let outcome : Option (EventDisposition × Proxy) :=
    match properties with
    | .kBlocking => some (.DidNotHandle, s)
    | .kPassive | .kNone =>
      let (disposition, s) := scrollByMouseWheel env s wheel properties
      some (disposition, if disposition = .DidHandleNonBlocking then
        s.issue (.DispatchNonBlockingEventToMainThread wheel) else s)
    | .kBlockingAndPassive => none
  match outcome with
  | none => some (false, { p with proxy := s })
  | some (.DidHandle, s) | some (.DidHandleNonBlocking, s) => some (true, { p with proxy := s })
  | some (.DropEvent, s) => some (false, { p with proxy := s })
  | some (.DidNotHandle, s) =>
    let s := s.issue (.TransferActiveWheelFlingAnimation s.fling.flingParameters)
    let s := { s with fling.flingMayBeActiveOnMainThread := true }.issue .DidStartFlinging
    (cancelCurrentFlingWithoutNotifyingClient env { p with proxy := s }).map
      fun (_, p) => (false, p)

/-- `scrollBy`, the fling curve's callback: clip the increment and velocity to the axes still
allowed, scroll, and report whether the fling should go on. -/
def flingScrollBy (env : Env) (p : Process) (increment velocity : Vector2dF) :
    Option (Bool × Process) :=
  let s := p.proxy
  let clippedIncrement : Vector2dF :=
    ⟨if s.fling.disallowHorizontalFlingScroll then 0 else increment.x,
     if s.fling.disallowVerticalFlingScroll then 0 else increment.y⟩
  let clippedVelocity : Vector2dF :=
    ⟨if s.fling.disallowHorizontalFlingScroll then 0 else velocity.x,
     if s.fling.disallowVerticalFlingScroll then 0 else velocity.y⟩
  let p := { p with proxy.fling.currentFlingVelocity := clippedVelocity }
  if clippedIncrement = {} then some (clippedVelocity ≠ {}, p)
  else
    let scrolled : Option (Bool × Vector2dF × Process) :=
      match p.proxy.fling.flingParameters.sourceDevice with
      | .Touchpad =>
        (touchpadFlingScroll env p clippedIncrement).map fun (b, p) => (b, clippedIncrement, p)
      | .Touchscreen =>
        let increment := toClientScrollIncrement clippedIncrement
        let state : ScrollStateData :=
          { deltaX := increment.x, deltaY := increment.y, velocityX := clippedVelocity.x,
            velocityY := clippedVelocity.y, isInInertialPhase := true }
        let (result, s) := p.proxy.query (.ScrollBy state) env.scrollResult
        some (result.didScroll, increment,
          { p with proxy := handleOverscroll s s.fling.flingParameters.point result false })
      | .Uninitialized => none
    match scrolled with
    | none => some (false, p)
    | some (didScroll, increment, p) =>
      let fp := p.proxy.fling.flingParameters
      let p := if didScroll then
        { p with proxy.fling.flingParameters := { fp with
            cumulativeScrollWidth := truncToInt (fp.cumulativeScrollWidth + increment.x)
            cumulativeScrollHeight := truncToInt (fp.cumulativeScrollHeight + increment.y) } }
        else p
      some (if |increment.x| < 0.1 ∧ |increment.y| < 0.1 then true else didScroll, p)

/-- `InputHandlerProxy::Animate`, for a frame at `time` seconds. -/
def animate (env : Env) (p : Process) (time : ℚ) : Option Process :=
  let s := p.proxy
  let s := if s.scrollElasticityController then s.issue (.ElasticityAnimate time) else s
  if !s.fling.flingCurve then some { p with proxy := s }
  else
    let s := { s with fling.lastFlingAnimateTime := time }
    if s.fling.deferredFlingCancelTimeSeconds ≠ 0 ∧
        time > s.fling.deferredFlingCancelTimeSeconds then
      (cancelCurrentFling env { p with proxy := s }).map Prod.snd
    else
      let s := s.issue .DidAnimateForInput
      let startTime := s.fling.flingParameters.startTime
      if !s.fling.hasFlingAnimationStarted ∧
          (startTime = 0 ∨ time ≤ startTime ∨ time ≥ startTime + 2 / 60) then
        let s := { s with
          fling.hasFlingAnimationStarted := true, fling.flingParameters.startTime := time }
        some { p with proxy := requestAnimation env s }
      else
        let s := { s with fling.hasFlingAnimationStarted := true }.issue
          (.FlingCurveApply (time - startTime))
        let applied : Option (Option Bool × Process) :=
          match env.flingCurveScroll s.calls with
          | none => some (none, { p with proxy := s })
          | some (increment, velocity) =>
            (flingScrollBy env { p with proxy := s } increment velocity).map
              fun (b, p) => (some b, p)
        applied.bind fun (didScroll, p) =>
          if env.flingCurveActive p.proxy.calls didScroll &&
              !(p.proxy.fling.disallowVerticalFlingScroll &&
                p.proxy.fling.disallowHorizontalFlingScroll) then
            some { p with proxy := requestAnimation env p.proxy }
          else (cancelCurrentFling env p).map Prod.snd

/-- `MainThreadHasStoppedFlinging`. -/
def mainThreadHasStoppedFlinging (s : Proxy) : Proxy :=
  { s with fling.flingMayBeActiveOnMainThread := false }.issue .DidStopFlinging

/-- The compositor thread runs the oldest task `HandleScrollElasticityOverscroll` posted: the
elasticity controller's `ObserveGestureEventAndResult` on the event and result the task was bound
to.  The task holds the controller through a weak pointer, which stays valid while the proxy owns
the controller. -/
def runPostedTask (s : Proxy) : Proxy :=
  match s.postedObservations with
  | [] => s
  | (event, result) :: rest =>
    { s with postedObservations := rest }.issue (.ObserveGestureEventAndResult event result)

/-- `SynchronouslyZoomBy`: a whole pinch, whatever pinch the proxy is in. -/
def synchronouslyZoomBy (s : Proxy) (magnifyDelta : ℚ) (anchor : Point) : Proxy :=
  ((s.issue .PinchGestureBegin).issue (.PinchGestureUpdate magnifyDelta anchor)).issue
    .PinchGestureEnd

end EBrowser
