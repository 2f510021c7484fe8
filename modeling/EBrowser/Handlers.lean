import EBrowser.Delay
import EBrowser.Proxy

/-!
# The handlers that do not cancel a fling

The cases of `InputHandlerProxy::HandleInputEvent` whose code never reaches
`CancelCurrentFling`, each as a function from the proxy to a disposition and a proxy.  The two
update handlers start with eBrowser's governor block, which is split off as its own function
on the governor's globals (`throttleScrollUpdate`, `throttlePinchUpdate`): the block reads and
writes those globals and nothing else, and the rest of each handler is Chromium's code with
eBrowser's stream accumulators added, a function of the proxy alone.

`HandleGestureScrollBegin`, `HandleMouseWheel`, the fling cases and the keyboard case can cancel
a fling, which can re-enter `HandleInputEvent`; they are in `EBrowser.Dispatch`, and the parts of
them that follow the cancellation are here (`scrollBeginAfterCancel`, `mouseWheelDisposition`).
-/

namespace EBrowser

open Proxy

/-- `ToClientScrollIncrement`. -/
def toClientScrollIncrement (increment : Vector2dF) : Vector2dF := ⟨-increment.x, -increment.y⟩

/-- `HandleScrollElasticityOverscroll`: post a task that hands the event and its result to the
elasticity controller; the call is made when the compositor thread runs the task
(`runPostedTask`), after the current entry point has returned. -/
def handleScrollElasticityOverscroll (s : Proxy) (event : WebGestureEvent)
    (result : InputHandlerScrollResult) : Proxy :=
  { s with postedObservations := s.postedObservations ++ [(event, result)] }

/-- `HandleOverscroll`: on a root overscroll, stop a running fling along an axis that overscrolled
by a pixel or more, and report the overscroll, bundled with the event's acknowledgement or to
the client. -/
def handleOverscroll (s : Proxy) (point : Point) (result : InputHandlerScrollResult)
    (bundleOverscrollParamsWithAck : Bool) : Proxy :=
  if !result.didOverscrollRoot then s
  else
    let s := if s.fling.flingCurve then
      { s with
        fling.disallowHorizontalFlingScroll :=
          s.fling.disallowHorizontalFlingScroll || 1 ≤ |result.accumulatedRootOverscroll.x|
        fling.disallowVerticalFlingScroll :=
          s.fling.disallowVerticalFlingScroll || 1 ≤ |result.accumulatedRootOverscroll.y| }
      else s
    if bundleOverscrollParamsWithAck then
      { s with currentOverscrollParams := some ⟨result.accumulatedRootOverscroll,
          result.unusedScrollDelta, toClientScrollIncrement s.fling.currentFlingVelocity, point⟩ }
    else
      s.issue (.DidOverscroll result.accumulatedRootOverscroll result.unusedScrollDelta
        (toClientScrollIncrement s.fling.currentFlingVelocity) point)

/-! ## Scroll updates -/

/-- The eScroll block at the head of `HandleGestureScrollUpdate` (lines 1001–1093): divide the
stored speed by `50` in place, predict a rate from it, and sleep for the band of the clamped
rate.  It runs whatever the scroll state, and fails only where `predict` ends the process. -/
def throttleScrollUpdate (svm : Svm) (g : Governor) : Option Governor :=
  let g := { g with scrollSpeed := g.scrollSpeed.tdiv 50 }
  (predict svm g.msgModel g.scrollSpeed).map fun fps =>
    { g with countScrolling := g.countScrolling + 1 }.sleep (sleepsForRate false (clampedRate fps))

/-- Lines 1110–1124 of `HandleGestureScrollUpdate`: take the update's position as the stream's
start point where none is recorded, and add its delta to both pairs of accumulators. -/
def accumulateScrollUpdate (t : StreamState) (event : WebGestureEvent) : StreamState :=
  { t with
    startPointX_ := if t.startPointX_ = 0 then event.x else t.startPointX_
    startPointY_ := if t.startPointY_ = 0 then event.y else t.startPointY_
    accumulatedDeltaX_ := t.accumulatedDeltaX_ + event.scrollUpdate.deltaX
    accumulatedDeltaY_ := t.accumulatedDeltaY_ + event.scrollUpdate.deltaY
    accumulatedDeltaX := t.accumulatedDeltaX + event.scrollUpdate.deltaX
    accumulatedDeltaY := t.accumulatedDeltaY + event.scrollUpdate.deltaY }

/-- The rest of `HandleGestureScrollUpdate` (lines 1103–1194): nothing to do unless a scroll or a
pinch is on the impl thread; otherwise accumulate the stream state and forward the delta, as an
animated scroll or through `ScrollBy`, clearing the accumulators on the `ScrollBy` path. -/
def forwardScrollUpdate (env : Env) (s : Proxy) (event : WebGestureEvent) :
    EventDisposition × Proxy :=
  if !s.gestureScrollOnImplThread && !s.gesturePinchOnImplThread then (.DidNotHandle, s)
  else
    let scrollState := createScrollStateForGesture event
    let scrollPoint : Point := ⟨event.x, event.y⟩
    let scrollDelta : Vector2dF := ⟨-event.scrollUpdate.deltaX, -event.scrollUpdate.deltaY⟩
    let s := { s with stream := accumulateScrollUpdate s.stream event }
    if s.shouldAnimate (event.scrollUpdate.deltaUnits ≠ .Pixels) then
      let (status, s) := s.query (.ScrollAnimated scrollPoint scrollDelta) env.scrollStatus
      (match status with
        | .ScrollOnImplThread => .DidHandle
        | .ScrollIgnored => .DropEvent
        | _ => .DidNotHandle, s)
    else
      let (result, s) := s.query (.ScrollBy scrollState) env.scrollResult
      let s := handleOverscroll s scrollPoint result true
      let s := if s.scrollElasticityController then
        handleScrollElasticityOverscroll s event result else s
      (if result.didScroll then .DidHandle else .DropEvent,
        { s with stream.startPointX_ := 0, stream.startPointY_ := 0,
                 stream.accumulatedDeltaX_ := 0, stream.accumulatedDeltaY_ := 0 })

/-- `HandleGestureScrollUpdate`: the governor block, then the forwarding. -/
def handleGestureScrollUpdate (env : Env) (p : Process) (event : WebGestureEvent) :
    Option (EventDisposition × Process) :=
  (throttleScrollUpdate env.svm p.governor).map fun g =>
    let (result, s) := forwardScrollUpdate env p.proxy event
    (result, ⟨s, g⟩)

/-- `HandleGestureScrollEnd`: unless the scroll is animated, clear the accumulators and end the
scroll; then, if the scroll was on the impl thread, leave it. -/
def handleGestureScrollEnd (s : Proxy) (event : WebGestureEvent) : EventDisposition × Proxy :=
  let s := { s with stream.count := 0, stream.lastFps := 0 }
  let s := if s.shouldAnimate (event.scrollEnd.deltaUnits ≠ .Pixels) then s
    else
      { s with stream.startPointX_ := 0, stream.startPointY_ := 0,
               stream.accumulatedDeltaX_ := 0, stream.accumulatedDeltaY_ := 0 }.issue
        (.ScrollEnd { createScrollStateForGesture event with isEnding := true })
  if !s.gestureScrollOnImplThread then (.DidNotHandle, s)
  else
    let s := if s.scrollElasticityController then
      handleScrollElasticityOverscroll s event {} else s
    (.DidHandle, { s with gestureScrollOnImplThread := false })

/-! ## Pinch -/

/-- The `else` branch of the `GesturePinchBegin` case: begin the pinch on the impl thread. -/
def pinchBeginOnImplThread (s : Proxy) : EventDisposition × Proxy :=
  (.DidHandle, { s.issue .PinchGestureBegin with gesturePinchOnImplThread := true })

/-- The `GesturePinchBegin` case: a touchpad pinch with wheel listeners goes to the main thread;
any other pinch begins on the impl thread.  The listener query is made only for a touchpad, as
the `&&` of line 425 evaluates it. -/
def gesturePinchBegin (env : Env) (s : Proxy) (event : WebGestureEvent) :
    EventDisposition × Proxy :=
  let s := { s with stream.isPinch := true }
  if event.sourceDevice = .Touchpad then
    let (p, s) := s.query (.GetEventListenerProperties .kMouseWheel) env.listenerProperties
    if p ≠ .kNone then (.DidNotHandle, s) else pinchBeginOnImplThread s
  else pinchBeginOnImplThread s

/-- The `GesturePinchEnd` case. -/
def gesturePinchEnd (s : Proxy) : EventDisposition × Proxy :=
  let s := { s with stream.isPinch := false }
  if s.gesturePinchOnImplThread then
    (.DidHandle,
      { s with gesturePinchOnImplThread := false, stream.pinchCount := 0 }.issue .PinchGestureEnd)
  else (.DidNotHandle, s)

/-- The governor block of the `GesturePinchUpdate` case (lines 458–508): a rate that is linear
in the stored speed, which is then zeroed, and the sleep for its band. -/
def throttlePinchUpdate (g : Governor) : Governor :=
  let fps : ℚ := 0.0213 * g.scrollSpeed + 15.6
  let g := { g with scrollSpeed := 0, countPinching := g.countPinching + 1 }
  g.sleep (sleepsForRate true (clampedRate fps))

/-- The rest of the `GesturePinchUpdate` case (lines 509–529): count the update and forward the
scale unless zoom is disabled. -/
def forwardPinchUpdate (s : Proxy) (event : WebGestureEvent) : EventDisposition × Proxy :=
  let s := { s with stream.pinchCount := s.stream.pinchCount + 1 }
  if event.pinchUpdate.zoomDisabled then (.DropEvent, s)
  else (.DidHandle, s.issue (.PinchGestureUpdate event.pinchUpdate.scale ⟨event.x, event.y⟩))

/-- The `GesturePinchUpdate` case: on the impl thread, throttle, then forward. -/
def gesturePinchUpdate (p : Process) (event : WebGestureEvent) : EventDisposition × Process :=
  if p.proxy.gesturePinchOnImplThread then
    let (result, s) := forwardPinchUpdate p.proxy event
    (result, ⟨s, throttlePinchUpdate p.governor⟩)
  else (.DidNotHandle, p)

/-! ## Scroll begin and mouse wheel, after a possible fling cancellation -/

/-- The route of lines 831–849: a page-based scroll goes to the main thread with no call, one that
targets the viewport begins at the root, one that should animate begins an animated scroll, and
any other begins a scroll. -/
def scrollBeginRoute (env : Env) (s : Proxy) (event : WebGestureEvent) : ScrollThread × Proxy :=
  let scrollState := createScrollStateForGesture event
  let type := gestureScrollInputType event.sourceDevice
  if event.scrollBegin.deltaHintUnits = .Page then (.ScrollOnMainThread, s)
  else if event.scrollBegin.targetViewport then
    s.query (.RootScrollBegin scrollState type) env.scrollStatus
  else if s.shouldAnimate (event.scrollBegin.deltaHintUnits ≠ .Pixels) then
    s.query (.ScrollAnimatedBegin ⟨event.x, event.y⟩) env.scrollStatus
  else s.query (.ScrollBegin scrollState type) env.scrollStatus

/-- The switch of lines 858–872 on the thread that took the scroll. -/
def enterScroll (thread : ScrollThread) (s : Proxy) : EventDisposition × Proxy :=
  match thread with
  | .ScrollOnImplThread => (.DidHandle, { s with gestureScrollOnImplThread := true })
  | .ScrollUnknown | .ScrollOnMainThread => (.DidNotHandle, s)
  | .ScrollIgnored => (.DropEvent, s)

/-- `HandleGestureScrollBegin` from line 821 on: record the start point, begin the scroll by the
route the event asks for, and enter the impl-thread scroll if the input handler takes it. -/
def scrollBeginAfterCancel (env : Env) (s : Proxy) (event : WebGestureEvent) :
    EventDisposition × Proxy :=
  let s := { s with stream.startPointX := event.x, stream.startPointY := event.y }
  let (thread, s) := scrollBeginRoute env s event
  let (result, s) := enterScroll thread s
  (result, if s.scrollElasticityController ∧ result ≠ .DidNotHandle then
    handleScrollElasticityOverscroll s event {} else s)

/-- `HandleMouseWheel` after the fling check: the disposition follows the wheel listeners. -/
def mouseWheelDisposition (env : Env) (s : Proxy) : EventDisposition × Proxy :=
  let (p, s) := s.query (.GetEventListenerProperties .kMouseWheel) env.listenerProperties
  (match p with
    | .kPassive => .DidHandleNonBlocking
    | .kBlockingAndPassive | .kBlocking => .DidNotHandle
    | .kNone => .DropEvent, s)

/-! ## Touch and mouse -/

/-- The loop of `HandleTouchStart`: for each pressed point in order, ask whether touch events
block scrolling there, and stop at the first that does. -/
def touchesBlockScroll (env : Env) (s : Proxy) : List WebTouchPoint → Bool × Proxy
  | [] => (false, s)
  | t :: ts =>
    if t.state ≠ .StatePressed then touchesBlockScroll env s ts
    else
      let (blocks, s) := s.query
        (.DoTouchEventsBlockScrollAt ⟨truncToInt t.positionX, truncToInt t.positionY⟩)
        env.touchBlocksScroll
      if blocks then (true, s) else touchesBlockScroll env s ts

/-- The disposition `HandleTouchStart` computes for the event itself (lines 1395–1432), before it
is merged into `touch_start_result_` and adjusted for touch-end listeners. -/
def touchStartDisposition (env : Env) (s : Proxy) (event : WebTouchEvent) :
    EventDisposition × Proxy :=
  let (blocks, s) := touchesBlockScroll env s event.touches
  if blocks then (.DidNotHandle, s)
  else
    let (p, s) := s.query (.GetEventListenerProperties .kTouchStartOrMove) env.listenerProperties
    (match p with
      | .kPassive | .kBlockingAndPassive => .DidHandleNonBlocking
      | .kBlocking | .kNone => .DropEvent, s)

/-- The merge of lines 1437–1439: keep the highest of `DropEvent < DidHandleNonBlocking <
DidNotHandle`. -/
def mergeTouchStartResult (previous : Option EventDisposition) (result : EventDisposition) :
    Option EventDisposition :=
  if previous = none ∨ previous = some .DropEvent ∨ result = .DidNotHandle then some result
  else previous

/-- `HandleTouchStart`. -/
def handleTouchStart (env : Env) (s : Proxy) (event : WebTouchEvent) : EventDisposition × Proxy :=
  let (result, s) := touchStartDisposition env s event
  let s := { s with touchStartResult := mergeTouchStartResult s.touchStartResult result }
  if result = .DropEvent then
    let (p, s) := s.query (.GetEventListenerProperties .kTouchEndOrCancel) env.listenerProperties
    (if p ≠ .kNone then .DidHandleNonBlocking else result, s)
  else (result, s)

/-- `HandleTouchMove`. -/
def handleTouchMove (s : Proxy) : EventDisposition :=
  s.touchStartResult.getD .DidNotHandle

/-- `HandleTouchEnd`: a single remaining touch ends the sequence. -/
def handleTouchEnd (s : Proxy) (event : WebTouchEvent) : Proxy :=
  if event.touches.length = 1 then { s with touchStartResult := none } else s

/-- The mouse cases of `HandleInputEvent`: report left-button presses, moves and leaves to the
input handler; the main thread handles every mouse event. -/
def handleMouseEvent (s : Proxy) (event : WebMouseEvent) : Proxy :=
  match event.type with
  | .MouseDown => if event.button = .Left then s.issue .MouseDown else s
  | .MouseUp => if event.button = .Left then s.issue .MouseUp else s
  | .MouseMove => s.issue (.MouseMoveAt ⟨event.x, event.y⟩)
  | .MouseLeave => s.issue .MouseLeave
  | _ => s

end EBrowser
