import EBrowser.Handlers

/-!
# `HandleInputEvent` and fling cancellation

`HandleInputEvent` is mutually recursive with `CancelCurrentFling`: when a boosted fling is
cancelled with a deferred cancellation pending and the last boost event was a scroll begin or
update, `CancelCurrentFlingWithoutNotifyingClient` synthesizes a `GestureScrollBegin` and hands
it to `HandleInputEvent`.  The recursion is well founded because the deferred-cancel time is
cleared before that call: the measure is whether a cancellation is pending, then the depth in
the chain `HandleInputEvent` → `CancelCurrentFling` → `CancelCurrentFlingWithoutNotifyingClient`.

**One dispatch.**  Every call that `HandleInputEvent`, `HandleGestureScrollBegin` and
`HandleMouseWheel` make to `CancelCurrentFling` is on the process they were given, so their
bodies are written once, with the cancellation as a parameter (`handleInputEventWith`); the
model's functions pass `CancelCurrentFling` itself, and the budgeted cycle of `EBrowser.Reentry`
passes its budgeted cancellation.

Every function returns `none` when the process exits, which only `predict` can cause.

**The dead fling code.**  `FilterInputEventForFlingBoosting` returns `false` on its first line,
and the `GestureFlingStart` case no longer calls `HandleGestureFlingStart` but falls through to
`GestureFlingCancel`.  So nothing installs a fling curve or sets a deferred cancellation: the
boosting logic, `HandleGestureFlingStart` and `ExtendBoostedFlingTimeout` are unreachable and not
modelled, while the code that reads the fling state is, for every state.
-/

namespace EBrowser

open Proxy

/-- `FilterInputEventForFlingBoosting`, whose first statement is `return false`. -/
def filterInputEventForFlingBoosting (_event : WebInputEvent) : Bool := false

/-- Whether a deferred fling cancellation is pending. -/
def deferredCancelPending (p : Process) : Nat :=
  if p.proxy.fling.deferredFlingCancelTimeSeconds = 0 then 0 else 1

/-- The first part of `CancelCurrentFlingWithoutNotifyingClient` (lines 1793–1815): end the
scroll of a touchscreen fling, then drop the fling and the impl-thread scroll. -/
def resetFling (s : Proxy) : Proxy :=
  let s := if s.fling.flingCurve ∧ s.fling.flingParameters.sourceDevice = .Touchscreen then
    s.issue (.ScrollEnd { isEnding := true }) else s
  { s with
    fling.flingCurve := false, fling.hasFlingAnimationStarted := false,
    gestureScrollOnImplThread := false, fling.currentFlingVelocity := {},
    fling.flingParameters := {} }

/-! ## The dispatch, given how a cancellation is made -/

section Dispatch

variable {m : Type → Type} [Monad m]

/-- `HandleGestureScrollBegin`, with its call to `CancelCurrentFling` on the process it was given
made through `cancel`: a begin at a sentinel position only records the frame-rate hint in the
global `fps` and is dropped; any other begin first cancels the fling of an impl-thread scroll.
The hint is `timeStampSeconds * 1000` truncated, computed exactly: the source multiplies in
`double` and stores into an `int`, so a stamp that is not a `double` (such as `1.001`) may give
one less, and a product beyond the range of `int` is undefined; no handler reads `fps`. -/
def handleGestureScrollBeginWith (env : Env) (p : Process)
    (cancel : Unit → m (Option (Bool × Process))) (event : WebGestureEvent) :
    m (Option (EventDisposition × Process)) :=
  if event.x = -1 ∧ event.y = -1 then
    pure (some (.DropEvent,
      { p with governor.fps := truncToInt (event.timeStampSeconds * 1000) }))
  else if event.x = 0 ∧ event.y = 0 then
    pure (some (.DropEvent,
      { p with governor.fps := truncToInt (event.timeStampSeconds * 1000) }))
  else
    let cancelled := if p.proxy.gestureScrollOnImplThread then cancel () else pure (some (false, p))
    (Option.map fun (_, p) => p.withProxy (scrollBeginAfterCancel env p.proxy event)) <$> cancelled

/-- `HandleMouseWheel`, with its call to `CancelCurrentFling` made through `cancel`: an imprecise
wheel event cancels a running fling. -/
def handleMouseWheelWith (env : Env) (p : Process) (cancel : Unit → m (Option (Bool × Process)))
    (event : WebMouseWheelEvent) : m (Option (EventDisposition × Process)) :=
  let cancelled := if !event.hasPreciseScrollingDeltas && p.proxy.fling.flingCurve then
    cancel () else pure (some (false, p))
  (Option.map fun (_, p) => p.withProxy (mouseWheelDisposition env p.proxy)) <$> cancelled

/-- `InputHandlerProxy::HandleInputEvent`, with every call to `CancelCurrentFling`, all of them on
the process it was given, made through `cancel`.  The inner `none` of a result is the exit of the
process; `m` is what else a cancellation can do: nothing for `HandleInputEvent` itself (`Id`),
and run out of its budget of re-entries in `EBrowser.Reentry` (`Option`). -/
def handleInputEventWith (env : Env) (p : Process) (cancel : Unit → m (Option (Bool × Process)))
    (event : WebInputEvent) : m (Option (EventDisposition × Process)) :=
  if filterInputEventForFlingBoosting event then pure (some (.DidHandle, p))
  else
    match event with
    | .MouseWheel e => handleMouseWheelWith env p cancel e
    | .Gesture e =>
      match e.type with
      | .GestureScrollBegin => handleGestureScrollBeginWith env p cancel e
      | .GestureScrollUpdate =>
        pure (handleGestureScrollUpdate env
          { p with proxy.stream.scrollCount := p.proxy.stream.scrollCount + 1 } e)
      | .GestureScrollEnd => pure (some (p.withProxy (handleGestureScrollEnd p.proxy e)))
      | .GesturePinchBegin => pure (some (p.withProxy (gesturePinchBegin env p.proxy e)))
      | .GesturePinchEnd => pure (some (p.withProxy (gesturePinchEnd p.proxy)))
      | .GesturePinchUpdate => pure (some (gesturePinchUpdate p e))
      | .GestureFlingStart | .GestureFlingCancel =>
        (Option.map fun (cancelled, p) =>
          (if cancelled then .DidHandle
           else if !p.proxy.fling.flingMayBeActiveOnMainThread then .DropEvent
           else .DidNotHandle, p)) <$> cancel ()
      | _ => pure (some (.DidNotHandle, p))
    | .Touch e =>
      match e.type with
      | .TouchStart => pure (some (p.withProxy (handleTouchStart env p.proxy e)))
      | .TouchMove => pure (some (handleTouchMove p.proxy, p))
      | .TouchEnd => pure (some (.DidNotHandle, { p with proxy := handleTouchEnd p.proxy e }))
      | _ => pure (some (.DidNotHandle, p))
    | .Mouse e => pure (some (.DidNotHandle, { p with proxy := handleMouseEvent p.proxy e }))
    | .Keyboard _ =>
      if p.proxy.fling.flingCurve then
        (Option.map fun (_, p) => (.DidNotHandle, p)) <$> cancel ()
      else pure (some (.DidNotHandle, p))

/-- `CancelCurrentFling`, given the result of `CancelCurrentFlingWithoutNotifyingClient`: tell the
client if a fling was running. -/
def cancelCurrentFlingWith (without : m (Option (Bool × Process))) : m (Option (Bool × Process)) :=
  (Option.map fun (had, p) =>
    if had then (true, { p with proxy := p.proxy.issue .DidStopFlinging }) else (false, p)) <$>
    without

end Dispatch

/-! ## The cycle -/

mutual

/-- `InputHandlerProxy::HandleInputEvent`. -/
def handleInputEvent (env : Env) (p : Process) (event : WebInputEvent) :
    Option (EventDisposition × Process) :=
  handleInputEventWith (m := Id) env p (fun _ => cancelCurrentFling env p) event
termination_by (deferredCancelPending p, 2)

/-- `CancelCurrentFling`. -/
def cancelCurrentFling (env : Env) (p : Process) : Option (Bool × Process) :=
  cancelCurrentFlingWith (m := Id) (cancelCurrentFlingWithoutNotifyingClient env p)
termination_by (deferredCancelPending p, 1)

/-- `CancelCurrentFlingWithoutNotifyingClient`: reset the fling; if a cancellation was deferred,
clear it and replay the suppressed scroll begin through `HandleInputEvent`. -/
def cancelCurrentFlingWithoutNotifyingClient (env : Env) (p : Process) :
    Option (Bool × Process) :=
  let hadFlingAnimation := p.proxy.fling.flingCurve
  let s := resetFling p.proxy
  if _pending : p.proxy.fling.deferredFlingCancelTimeSeconds = 0 then
    some (hadFlingAnimation, { p with proxy := s })
  else
    let last := s.fling.lastFlingBoostEvent
    let s := { s with fling.deferredFlingCancelTimeSeconds := 0, fling.lastFlingBoostEvent := {} }
    if last.type = .GestureScrollBegin ∨ last.type = .GestureScrollUpdate then
      (handleInputEvent env { p with proxy := s } (.Gesture (obtainGestureScrollBegin last))).map
        fun (_, p) => (hadFlingAnimation, p)
    else some (hadFlingAnimation, { p with proxy := s })
termination_by (deferredCancelPending p, 0)
decreasing_by exact Prod.Lex.left _ _ (by simp [deferredCancelPending, _pending])

end

/-- `HandleGestureScrollBegin`. -/
def handleGestureScrollBegin (env : Env) (p : Process) (event : WebGestureEvent) :
    Option (EventDisposition × Process) :=
  handleGestureScrollBeginWith (m := Id) env p (fun _ => cancelCurrentFling env p) event

/-- `HandleMouseWheel`. -/
def handleMouseWheel (env : Env) (p : Process) (event : WebMouseWheelEvent) :
    Option (EventDisposition × Process) :=
  handleMouseWheelWith (m := Id) env p (fun _ => cancelCurrentFling env p) event

/-! ## Cancelling with no fling and nothing deferred -/

section Idle

variable {env : Env} {p : Process}

/-- With no fling curve and no deferred cancellation, `CancelCurrentFling` only leaves the
impl-thread scroll: it reports no fling and issues no call. -/
lemma cancelCurrentFling_of_idle (hd : p.proxy.fling.deferredFlingCancelTimeSeconds = 0)
    (hc : p.proxy.fling.flingCurve = false) :
    cancelCurrentFling env p = some (false, { p with proxy := resetFling p.proxy }) := by
  rw [cancelCurrentFling, cancelCurrentFlingWithoutNotifyingClient]
  simp [cancelCurrentFlingWith, hd, hc]

end Idle

end EBrowser
