import EBrowser.Events

/-!
# The proxy's collaborators

`InputHandlerProxy` talks to `cc::InputHandler` (`input_handler_`), to its
`InputHandlerProxyClient` (`client_`), to an optional `SynchronousInputHandler`, to the scroll
elasticity controller, to the client's fling curve, and to the `libsvm` library that the governor
calls.  None of them is part of this repository's code under study; they are the environment.

**Calls.**  Every call the proxy issues to one of them is a `Call`, with its arguments, and a
run records them in order; the theorems about the proxy's calls speak of this record.  One call
is not on it: `CreateLatencyInfoSwapPromiseMonitor`, which `HandleInputEventWithLatencyInfo`
makes only to attach the event's latency info to the next frame, and whose monitor nothing here
reads.  The call that `HandleScrollElasticityOverscroll` posts as a task enters the record when
the compositor thread runs the task, not when it is posted.

**Answers.**  An `Env` answers each query from the record so far, the query itself being its
last entry: two runs that issue the same calls get the same answers.  The `libsvm` functions are
fixed by `Svm`: whether `svm_load_model` accepts a model text, and what `svm_predict` returns on
the one-feature vector `{1: speed}` of the model it parses.
-/

namespace EBrowser

/-- `InputHandlerProxy::EventDisposition`. -/
inductive EventDisposition
  | DidHandle | DidNotHandle | DidHandleNonBlocking | DropEvent
  deriving DecidableEq, Repr

/-- `cc::InputHandler::ScrollThread`, the part of a `ScrollStatus` the proxy branches on (the
main-thread reasons only feed histograms). -/
inductive ScrollThread
  | ScrollOnMainThread | ScrollOnImplThread | ScrollIgnored | ScrollUnknown
  deriving DecidableEq, Repr

/-- `cc::InputHandler::ScrollInputType`. -/
inductive ScrollInputType
  | Touchscreen | Wheel | NonBubblingGesture
  deriving DecidableEq, Repr

inductive EventListenerClass
  | kTouchStartOrMove | kMouseWheel | kTouchEndOrCancel
  deriving DecidableEq, Repr

inductive EventListenerProperties
  | kNone | kPassive | kBlocking | kBlockingAndPassive
  deriving DecidableEq, Repr

/-- `cc::ScrollStateData`, the fields the proxy sets. -/
structure ScrollStateData where
  positionX : Int := 0
  positionY : Int := 0
  deltaX : ℚ := 0
  deltaY : ℚ := 0
  velocityX : ℚ := 0
  velocityY : ℚ := 0
  isBeginning : Bool := false
  isInInertialPhase : Bool := false
  isEnding : Bool := false
  deriving DecidableEq, Repr

/-- `cc::InputHandlerScrollResult`. -/
structure InputHandlerScrollResult where
  didScroll : Bool := false
  didOverscrollRoot : Bool := false
  accumulatedRootOverscroll : Vector2dF := {}
  unusedScrollDelta : Vector2dF := {}
  deriving DecidableEq, Repr

/-- `ui::DidOverscrollParams`. -/
structure DidOverscrollParams where
  accumulatedOverscroll : Vector2dF
  latestOverscrollDelta : Vector2dF
  currentFlingVelocity : Vector2dF
  causalEventViewportPoint : Point
  deriving DecidableEq, Repr

/-- `blink::WebActiveWheelFlingParameters`; its constructor sets the device to `Touchpad`.
`cumulativeScroll` is a `WebSize`, so it holds integers. -/
structure WebActiveWheelFlingParameters where
  delta : Vector2dF := {}
  point : Point := ⟨0, 0⟩
  globalPoint : Point := ⟨0, 0⟩
  modifiers : Int := 0
  sourceDevice : WebGestureDevice := .Touchpad
  cumulativeScrollWidth : Int := 0
  cumulativeScrollHeight : Int := 0
  startTime : ℚ := 0
  deriving DecidableEq, Repr

/-- The calls the proxy issues to its collaborators, with their arguments.  `ScrollAnimated`'s
third argument, the time elapsed since the event (read from the wall clock), is left out. -/
inductive Call
  -- `input_handler_`
  | ScrollBegin (state : ScrollStateData) (type : ScrollInputType)
  | RootScrollBegin (state : ScrollStateData) (type : ScrollInputType)
  | ScrollAnimatedBegin (point : Point)
  | ScrollAnimated (point : Point) (delta : Vector2dF)
  | ScrollBy (state : ScrollStateData)
  | ScrollEnd (state : ScrollStateData)
  | PinchGestureBegin
  | PinchGestureUpdate (magnifyDelta : ℚ) (anchor : Point)
  | PinchGestureEnd
  | GetEventListenerProperties (cls : EventListenerClass)
  | DoTouchEventsBlockScrollAt (point : Point)
  | MouseDown
  | MouseUp
  | MouseMoveAt (point : Point)
  | MouseLeave
  | SetNeedsAnimateInput
  | IsCurrentlyScrollingViewport
  -- `client_`
  | DidStopFlinging
  | DidStartFlinging
  | DidAnimateForInput
  | DidOverscroll (accumulated latest flingVelocity : Vector2dF) (point : Point)
  | TransferActiveWheelFlingAnimation (params : WebActiveWheelFlingParameters)
  | DispatchNonBlockingEventToMainThread (event : WebMouseWheelEvent)
  -- `synchronous_input_handler_`
  | SetNeedsSynchronousAnimateInput
  -- `scroll_elasticity_controller_`
  | ObserveGestureEventAndResult (event : WebGestureEvent) (result : InputHandlerScrollResult)
  | ElasticityAnimate (time : ℚ)
  -- `fling_curve_`
  | FlingCurveApply (time : ℚ)
  deriving DecidableEq, Repr

/-- `libsvm` as the governor uses it.  `svm_predict` returns a `double`; here its answer is a
rational, so it is never NaN or infinite, which the governor's clamp of the rate to `[10, 60]`
and the bounds on its sleeps rest on. -/
structure Svm where
  /-- `svm_load_model` returns a model for this text. -/
  loads : String → Bool
  /-- `svm_predict` on `{1: speed}`, for the model parsed from the text. -/
  predict : String → ℚ → ℚ

/-- The collaborators' answers.  Each is read on the call record whose last entry is the query
being answered. -/
structure Env where
  /-- The thread of the `ScrollStatus` returned by `ScrollBegin`, `RootScrollBegin`,
  `ScrollAnimatedBegin` and `ScrollAnimated`. -/
  scrollStatus : List Call → ScrollThread
  scrollResult : List Call → InputHandlerScrollResult
  listenerProperties : List Call → EventListenerProperties
  touchBlocksScroll : List Call → Bool
  scrollingViewport : List Call → Bool
  /-- The `scrollBy(increment, velocity)` call the fling curve makes back, if any. -/
  flingCurveScroll : List Call → Option (Vector2dF × Vector2dF)
  /-- What `fling_curve_->apply` returns, given the result of its `scrollBy` call. -/
  flingCurveActive : List Call → Option Bool → Bool
  svm : Svm

/-- `GestureScrollInputType`. -/
def gestureScrollInputType : WebGestureDevice → ScrollInputType
  | .Touchpad => .Wheel
  | _ => .Touchscreen

/-- `CreateScrollStateForGesture`. -/
def createScrollStateForGesture (event : WebGestureEvent) : ScrollStateData :=
  match event.type with
  | .GestureScrollBegin =>
    { positionX := event.x, positionY := event.y, isBeginning := true,
      isInInertialPhase := event.scrollBegin.inertialPhase = .MomentumPhase }
  | .GestureFlingStart =>
    { velocityX := event.flingStart.velocityX, velocityY := event.flingStart.velocityY,
      isInInertialPhase := true }
  | .GestureScrollUpdate =>
    { deltaX := -event.scrollUpdate.deltaX, deltaY := -event.scrollUpdate.deltaY,
      velocityX := event.scrollUpdate.velocityX, velocityY := event.scrollUpdate.velocityY,
      isInInertialPhase := event.scrollUpdate.inertialPhase = .MomentumPhase }
  | .GestureScrollEnd | .GestureFlingCancel => { isEnding := true }
  | _ => {}

end EBrowser
