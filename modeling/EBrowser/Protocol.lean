import EBrowser.Idle

/-!
# What the proxy tells its collaborators

Two facts about the proxy's interface: which calls it makes, and what the compositor's entry
point acknowledges.

**The calls it can issue.**  `Call.issuable smooth elastic` says which calls a proxy built with
the given settings may make: the animated-scroll calls only with smooth scrolling, the
elasticity controller's only with a controller, and none of the calls of the fling paths (an
animation request, the viewport query that goes with it, a fling start or animation report to
the client, an overscroll sent apart from the event's acknowledgement, a wheel-fling transfer,
a non-blocking wheel dispatch, a tick of the fling curve).  Every handler a reachable step runs
issues only such calls, and posts the controller's observation only with a controller; running a
posted task moves its call from the posted ones to the record (`runPostedTask_calls_postedCalls`).
So every step keeps the record and the posted calls issuable (`stepProxy_callsIssuable`), and the
whole record of a reachable proxy is issuable (`Reachable.calls_issuable`): the fling code
eBrowser keeps is never reached from the outside, and the two settings decide the rest.

**The acknowledgement's overscroll.**  `HandleInputEventWithLatencyInfo` is the entry point the
compositor calls: it empties `current_overscroll_params_`, handles the event, and passes the
member, moved out, to the acknowledgement.  No handler reads the member, and on a process with no
fling the only write is the bundling of `HandleOverscroll` on the `ScrollBy` path of a scroll
update (`dispatchProxy_withOverscroll`).  So the wrapper acts on a reachable process as
`HandleInputEvent` does, whatever the member holds, and the acknowledgement carries exactly the
overscroll of the event's own `ScrollBy` (`handleInputEventWithLatencyInfo_eq`).

**The compositor's runs.**  `CompositorReachable` is the set of processes the compositor reaches
when every event goes through the wrapper.  Each is a reachable process of `EBrowser.System` with
some overscroll left in the member (`compositorReachable_refines`), so what holds of every
reachable proxy and does not mention the member holds of the compositor's, and each of its
acknowledgements is the one above.
-/

namespace EBrowser

open Proxy

/-- The calls a proxy built with the given settings can issue while no fling runs. -/
def Call.issuable (smooth elastic : Bool) : Call → Bool
  | .ScrollAnimatedBegin _ | .ScrollAnimated _ _ => smooth
  | .ObserveGestureEventAndResult _ _ | .ElasticityAnimate _ => elastic
  | .SetNeedsAnimateInput | .IsCurrentlyScrollingViewport | .DidStartFlinging
  | .DidAnimateForInput | .DidOverscroll .. | .TransferActiveWheelFlingAnimation _
  | .DispatchNonBlockingEventToMainThread _ | .SetNeedsSynchronousAnimateInput
  | .FlingCurveApply _ => false
  | _ => true

/-- The calls the proxy's posted tasks will make, in the order they run. -/
def Proxy.postedCalls (s : Proxy) : List Call :=
  s.postedObservations.map fun (event, result) => .ObserveGestureEventAndResult event result

/-- Every call on the proxy's record, and every call a task it has posted will make, is one its
own settings allow. -/
def Proxy.CallsIssuable (s : Proxy) : Prop :=
  ∀ c ∈ s.calls ++ s.postedCalls, c.issuable s.smoothScrollEnabled s.scrollElasticityController = true

section Issuable

variable {env : Env} {s : Proxy}

@[simp] lemma callsIssuable_issue (c : Call) :
    (s.issue c).CallsIssuable ↔
      s.CallsIssuable ∧ c.issuable s.smoothScrollEnabled s.scrollElasticityController = true := by
  simp only [Proxy.CallsIssuable, issue_calls, List.forall_mem_append, List.forall_mem_singleton]
  exact and_right_comm

/-- A proxy with another proxy's calls, posted tasks and settings, whatever its other members. -/
@[simp] lemma callsIssuable_mk (t : Proxy) {f : FlingState} {sync scroll pinch : Bool}
    {touch : Option EventDisposition} {o : Option DidOverscrollParams} {st : StreamState} :
    (Proxy.mk f sync scroll pinch t.smoothScrollEnabled touch o t.scrollElasticityController st
      t.calls t.postedObservations).CallsIssuable ↔ t.CallsIssuable := Iff.rfl

/-- Posting the controller's observation is allowed only with a controller. -/
@[simp] lemma callsIssuable_handleScrollElasticityOverscroll (e : WebGestureEvent)
    (r : InputHandlerScrollResult) :
    (handleScrollElasticityOverscroll s e r).CallsIssuable ↔
      s.CallsIssuable ∧ s.scrollElasticityController = true := by
  simp only [Proxy.CallsIssuable, handleScrollElasticityOverscroll, Proxy.postedCalls,
    List.map_append, ← List.append_assoc, List.forall_mem_append, List.map_singleton,
    List.forall_mem_singleton]
  rfl

/-- Running a posted task moves its call from the posted ones to the record. -/
lemma runPostedTask_calls_postedCalls :
    (runPostedTask s).calls ++ (runPostedTask s).postedCalls = s.calls ++ s.postedCalls := by
  unfold runPostedTask
  split
  · rfl
  · rename_i h
    simp only [Proxy.postedCalls, Proxy.issue, h, List.map_cons, List.append_assoc,
      List.singleton_append]

@[simp] lemma touchesBlockScroll_callsIssuable (ts : List WebTouchPoint) :
    (touchesBlockScroll env s ts).2.CallsIssuable ↔ s.CallsIssuable := by
  induction ts generalizing s with
  | nil => rfl
  | cons t ts ih =>
    simp only [touchesBlockScroll, Proxy.query]
    split_ifs <;> simp only [ih, callsIssuable_issue, Call.issuable, and_true]

@[simp] lemma handleTouchStart_callsIssuable (e : WebTouchEvent) :
    (handleTouchStart env s e).2.CallsIssuable ↔ s.CallsIssuable := by
  simp only [handleTouchStart, touchStartDisposition, Proxy.query]
  split_ifs <;> simp only [callsIssuable_mk, callsIssuable_issue, touchesBlockScroll_callsIssuable,
    Call.issuable, and_true]

@[simp] lemma mouseWheelDisposition_callsIssuable :
    (mouseWheelDisposition env s).2.CallsIssuable ↔ s.CallsIssuable := by
  simp only [mouseWheelDisposition, Proxy.query, callsIssuable_issue, Call.issuable, and_true]

@[simp] lemma resetFling_callsIssuable : (resetFling s).CallsIssuable ↔ s.CallsIssuable := by
  simp only [resetFling]
  split_ifs <;> simp only [callsIssuable_mk, callsIssuable_issue, Call.issuable, and_true]

lemma smoothScrollEnabled_of_shouldAnimate {precise : Bool} (h : s.shouldAnimate precise = true) :
    s.smoothScrollEnabled = true :=
  (Bool.and_eq_true _ _ ▸ h).1

lemma scrollBeginRoute_callsIssuable (e : WebGestureEvent) :
    (scrollBeginRoute env s e).2.CallsIssuable ↔ s.CallsIssuable := by
  simp only [scrollBeginRoute, Proxy.query]
  split_ifs with _ _ h <;>
    simp only [callsIssuable_issue, Call.issuable, and_true, and_iff_left_iff_imp]
  exact fun _ => smoothScrollEnabled_of_shouldAnimate h

@[simp] lemma scrollBeginAfterCancel_callsIssuable (e : WebGestureEvent) :
    (scrollBeginAfterCancel env s e).2.CallsIssuable ↔ s.CallsIssuable := by
  have hr := @scrollBeginRoute_callsIssuable env
    { s with stream.startPointX := e.x, stream.startPointY := e.y } e
  have he : ∀ t u, (enterScroll t u).2.CallsIssuable ↔ u.CallsIssuable := by
    intro t u; cases t <;> rfl
  simp only [scrollBeginAfterCancel]
  split_ifs with h
  · simp only [callsIssuable_handleScrollElasticityOverscroll, h.1, and_true, he, hr,
      callsIssuable_mk]
  · simp only [he, hr, callsIssuable_mk]

/-- Bundled with the acknowledgement, an overscroll issues no call. -/
lemma handleOverscroll_callsIssuable (pt : Point) (r : InputHandlerScrollResult) :
    (handleOverscroll s pt r true).CallsIssuable ↔ s.CallsIssuable := by
  simp only [handleOverscroll]
  split_ifs <;> simp only [callsIssuable_mk, if_true]

@[simp] lemma forwardScrollUpdate_callsIssuable (e : WebGestureEvent) :
    (forwardScrollUpdate env s e).2.CallsIssuable ↔ s.CallsIssuable := by
  simp only [forwardScrollUpdate, Proxy.query]
  split_ifs with _ ha <;>
    simp only [callsIssuable_mk, callsIssuable_issue, handleOverscroll_callsIssuable,
      callsIssuable_handleScrollElasticityOverscroll, Call.issuable, and_true,
      and_iff_left_iff_imp]
  all_goals first
    | exact fun _ => smoothScrollEnabled_of_shouldAnimate ha
    | exact fun _ => ‹_›

@[simp] lemma handleGestureScrollEnd_callsIssuable (e : WebGestureEvent) :
    (handleGestureScrollEnd s e).2.CallsIssuable ↔ s.CallsIssuable := by
  simp only [handleGestureScrollEnd]
  split_ifs <;> simp only [callsIssuable_mk, callsIssuable_issue, Call.issuable, and_true,
    callsIssuable_handleScrollElasticityOverscroll, and_iff_left_iff_imp]
  all_goals exact fun _ => ‹_›

@[simp] lemma gesturePinchBegin_callsIssuable (e : WebGestureEvent) :
    (gesturePinchBegin env s e).2.CallsIssuable ↔ s.CallsIssuable := by
  simp only [gesturePinchBegin, pinchBeginOnImplThread, Proxy.query]
  split_ifs <;> simp only [callsIssuable_mk, callsIssuable_issue, Call.issuable, and_true]

@[simp] lemma gesturePinchEnd_callsIssuable :
    (gesturePinchEnd s).2.CallsIssuable ↔ s.CallsIssuable := by
  simp only [gesturePinchEnd]
  split_ifs <;> simp only [callsIssuable_mk, callsIssuable_issue, Call.issuable, and_true]

@[simp] lemma forwardPinchUpdate_callsIssuable (e : WebGestureEvent) :
    (forwardPinchUpdate s e).2.CallsIssuable ↔ s.CallsIssuable := by
  simp only [forwardPinchUpdate]
  split_ifs <;> simp only [callsIssuable_mk, callsIssuable_issue, Call.issuable, and_true]

@[simp] lemma handleTouchEnd_callsIssuable (e : WebTouchEvent) :
    (handleTouchEnd s e).CallsIssuable ↔ s.CallsIssuable := by
  simp only [handleTouchEnd]
  split_ifs <;> simp only [callsIssuable_mk]

@[simp] lemma handleMouseEvent_callsIssuable (e : WebMouseEvent) :
    (handleMouseEvent s e).CallsIssuable ↔ s.CallsIssuable := by
  simp only [handleMouseEvent]
  split <;> (try split_ifs) <;> simp only [callsIssuable_issue, Call.issuable, and_true]

/-- **A step issues only calls the proxy's settings allow.** -/
lemma stepProxy_callsIssuable (i : Input) :
    (stepProxy env s i).2.CallsIssuable ↔ s.CallsIssuable := by
  cases i with
  | HandleInputEvent e =>
    cases e with
    | Gesture e =>
      cases ht : e.type <;> simp only [stepProxy, dispatchProxy, ht] <;> (try split_ifs) <;>
        simp only [scrollBeginAfterCancel_callsIssuable, resetFling_callsIssuable,
          forwardScrollUpdate_callsIssuable, callsIssuable_mk, handleGestureScrollEnd_callsIssuable,
          gesturePinchBegin_callsIssuable, gesturePinchEnd_callsIssuable,
          forwardPinchUpdate_callsIssuable]
    | Touch e =>
      cases ht : e.type <;> simp only [stepProxy, dispatchProxy, ht, handleTouchStart_callsIssuable,
        handleTouchEnd_callsIssuable]
    | Mouse e => exact handleMouseEvent_callsIssuable e
    | MouseWheel e => exact @mouseWheelDisposition_callsIssuable env s
    | Keyboard k => rfl
  | Animate time =>
    simp only [stepProxy]
    split_ifs with h <;> simp only [callsIssuable_issue, Call.issuable, h, and_true]
  | MainThreadHasStoppedFlinging =>
    simp only [stepProxy, mainThreadHasStoppedFlinging, callsIssuable_issue, callsIssuable_mk,
      Call.issuable, and_true]
  | SynchronouslyZoomBy magnifyDelta anchor =>
    simp only [stepProxy, synchronouslyZoomBy, callsIssuable_issue, Call.issuable, and_true]
  | HandleInputModelMsg => rfl
  | RunPostedTask =>
    have hf := congrArg Prod.snd (runPostedTask_frame (s := s))
    simp only [Proxy.frame, Prod.mk.injEq] at hf
    show (runPostedTask s).CallsIssuable ↔ s.CallsIssuable
    rw [Proxy.CallsIssuable, Proxy.CallsIssuable, runPostedTask_calls_postedCalls, hf.1, hf.2]

end Issuable

section Reachable

variable {env : Env} {smooth elastic : Bool} {p : Process}

/-- **A reachable proxy has issued only calls its construction settings allow.** -/
theorem Reachable.calls_issuable (hp : Reachable env smooth elastic p) :
    ∀ c ∈ p.proxy.calls, c.issuable smooth elastic = true := by
  have h : p.proxy.CallsIssuable :=
    hp.proxy_induction (fun _ h => absurd h (List.not_mem_nil _))
      fun _ i _ _ h => (stepProxy_callsIssuable i).2 h
  have he : p.proxy.scrollElasticityController = elastic := congrArg (fun x => x.2.2) hp.frame
  exact fun c hc => hp.smoothScrollEnabled ▸ he ▸ h c (List.mem_append_left _ hc)

theorem calls_issuable_after_scrollBegin :
    ∃ p o, step implEnv (Process.initial true true)
        (.HandleInputEvent (.Gesture { type := .GestureScrollBegin, x := 1, y := 1 })) =
          some (o, p) ∧
      ∀ c ∈ p.proxy.calls, c.issuable true true = true := by
  have h := @Reachable.step_eq implEnv true true _ .initial
    (.HandleInputEvent (.Gesture { type := .GestureScrollBegin, x := 1, y := 1 }))
  exact ⟨_, _, h, Reachable.calls_issuable (.step .initial h)⟩

end Reachable

/-! ## The acknowledgement's overscroll -/

/-- `HandleInputEventWithLatencyInfo`: empty the overscroll to bundle, handle the event, and
acknowledge it with its disposition and the bundled overscroll, which is moved out of the
member.  The `CreateLatencyInfoSwapPromiseMonitor` call it makes first is not on the record: it
only attaches the event's latency info to the next frame, and nothing here reads the monitor. -/
def handleInputEventWithLatencyInfo (env : Env) (p : Process) (event : WebInputEvent) :
    Option ((EventDisposition × Option DidOverscrollParams) × Process) :=
  (handleInputEvent env { p with proxy.currentOverscrollParams := none } event).map
    fun (disposition, p) =>
      ((disposition, p.proxy.currentOverscrollParams),
        { p with proxy.currentOverscrollParams := none })

/-- What `HandleOverscroll` bundles for a scroll result at a point: nothing unless the result
overscrolled the root. -/
def overscrollParams (s : Proxy) (point : Point) (result : InputHandlerScrollResult) :
    Option DidOverscrollParams :=
  if !result.didOverscrollRoot then none
  else some ⟨result.accumulatedRootOverscroll, result.unusedScrollDelta,
    toClientScrollIncrement s.fling.currentFlingVelocity, point⟩

/-- The overscroll a scroll update's own `ScrollBy` reports: it has one only if the update goes
to `ScrollBy` (a scroll or a pinch is on the impl thread and the update is not animated) and the
result overscrolled the root. -/
def scrollByOverscroll (env : Env) (s : Proxy) (event : WebGestureEvent) :
    Option DidOverscrollParams :=
  if !s.gestureScrollOnImplThread && !s.gesturePinchOnImplThread then none
  else if s.shouldAnimate (event.scrollUpdate.deltaUnits ≠ .Pixels) then none
  else overscrollParams s ⟨event.x, event.y⟩
    (env.scrollResult (s.calls ++ [.ScrollBy (createScrollStateForGesture event)]))

/-- The overscroll an event bundles with its acknowledgement: only a scroll update has one. -/
def bundledOverscroll (env : Env) (s : Proxy) : WebInputEvent → Option DidOverscrollParams
  | .Gesture e => if e.type = .GestureScrollUpdate then scrollByOverscroll env s e else none
  | _ => none

/-- One call into the proxy as the compositor makes it: an event goes through
`HandleInputEventWithLatencyInfo` and is acknowledged with its disposition and overscroll; the
other entry points are called directly. -/
def stepWithLatencyInfo (env : Env) (p : Process) :
    Input → Option (Option (EventDisposition × Option DidOverscrollParams) × Process)
  | .HandleInputEvent e => (handleInputEventWithLatencyInfo env p e).map fun (a, p) => (some a, p)
  | i => (step env p i).map fun (_, p) => (none, p)

/-- The processes the compositor reaches from a proxy constructed with the given settings. -/
inductive CompositorReachable (env : Env) (smoothScrollEnabled scrollElasticityController : Bool) :
    Process → Prop
  | initial : CompositorReachable env smoothScrollEnabled scrollElasticityController
      (Process.initial smoothScrollEnabled scrollElasticityController)
  | step {p p' : Process} {i : Input} {a : Option (EventDisposition × Option DidOverscrollParams)} :
      CompositorReachable env smoothScrollEnabled scrollElasticityController p →
      stepWithLatencyInfo env p i = some (a, p') →
      CompositorReachable env smoothScrollEnabled scrollElasticityController p'

/-- The proxy with another overscroll to bundle. -/
def Proxy.withOverscroll (s : Proxy) (o : Option DidOverscrollParams) : Proxy :=
  { s with currentOverscrollParams := o }

section Overscroll

variable {env : Env} {s : Proxy} {o : Option DidOverscrollParams}

@[simp] lemma withOverscroll_calls : (s.withOverscroll o).calls = s.calls := rfl
@[simp] lemma withOverscroll_fling : (s.withOverscroll o).fling = s.fling := rfl
@[simp] lemma withOverscroll_gestureScrollOnImplThread :
    (s.withOverscroll o).gestureScrollOnImplThread = s.gestureScrollOnImplThread := rfl
@[simp] lemma withOverscroll_gesturePinchOnImplThread :
    (s.withOverscroll o).gesturePinchOnImplThread = s.gesturePinchOnImplThread := rfl
@[simp] lemma withOverscroll_smoothScrollEnabled :
    (s.withOverscroll o).smoothScrollEnabled = s.smoothScrollEnabled := rfl
@[simp] lemma withOverscroll_scrollElasticityController :
    (s.withOverscroll o).scrollElasticityController = s.scrollElasticityController := rfl
@[simp] lemma withOverscroll_stream : (s.withOverscroll o).stream = s.stream := rfl
@[simp] lemma withOverscroll_postedObservations :
    (s.withOverscroll o).postedObservations = s.postedObservations := rfl
@[simp] lemma withOverscroll_issue (c : Call) :
    (s.withOverscroll o).issue c = (s.issue c).withOverscroll o := rfl

lemma withOverscroll_stream_update (x : StreamState) :
    ({ s.withOverscroll o with stream := x } : Proxy) =
      { s with stream := x }.withOverscroll o := rfl

lemma touchesBlockScroll_withOverscroll (ts : List WebTouchPoint) :
    touchesBlockScroll env (s.withOverscroll o) ts =
      ((touchesBlockScroll env s ts).1, (touchesBlockScroll env s ts).2.withOverscroll o) := by
  induction ts generalizing s with
  | nil => rfl
  | cons t ts ih =>
    simp only [touchesBlockScroll, Proxy.query, withOverscroll_calls, withOverscroll_issue, ih]
    split_ifs <;> rfl

lemma touchStartDisposition_withOverscroll (e : WebTouchEvent) :
    touchStartDisposition env (s.withOverscroll o) e =
      ((touchStartDisposition env s e).1, (touchStartDisposition env s e).2.withOverscroll o) := by
  simp only [touchStartDisposition, Proxy.query, touchesBlockScroll_withOverscroll,
    withOverscroll_calls, withOverscroll_issue]
  split_ifs <;> rfl

lemma handleTouchStart_withOverscroll (e : WebTouchEvent) :
    handleTouchStart env (s.withOverscroll o) e =
      ((handleTouchStart env s e).1, (handleTouchStart env s e).2.withOverscroll o) := by
  simp only [handleTouchStart, Proxy.query, touchStartDisposition_withOverscroll,
    withOverscroll_calls]
  split_ifs <;> rfl

lemma scrollBeginRoute_withOverscroll (e : WebGestureEvent) :
    scrollBeginRoute env (s.withOverscroll o) e =
      ((scrollBeginRoute env s e).1, (scrollBeginRoute env s e).2.withOverscroll o) := by
  simp only [scrollBeginRoute, Proxy.query, Proxy.shouldAnimate, withOverscroll_calls,
    withOverscroll_issue, withOverscroll_smoothScrollEnabled]
  split_ifs <;> rfl

lemma enterScroll_withOverscroll (thread : ScrollThread) :
    enterScroll thread (s.withOverscroll o) =
      ((enterScroll thread s).1, (enterScroll thread s).2.withOverscroll o) := by
  cases thread <;> rfl

lemma scrollBeginAfterCancel_withOverscroll (e : WebGestureEvent) :
    scrollBeginAfterCancel env (s.withOverscroll o) e =
      ((scrollBeginAfterCancel env s e).1,
        (scrollBeginAfterCancel env s e).2.withOverscroll o) := by
  have h := @scrollBeginRoute_withOverscroll env
    { s with stream.startPointX := e.x, stream.startPointY := e.y } o e
  simp only [scrollBeginAfterCancel, handleScrollElasticityOverscroll]
  erw [h, enterScroll_withOverscroll]
  simp only [withOverscroll_scrollElasticityController, withOverscroll_issue]
  split_ifs <;> rfl

lemma mouseWheelDisposition_withOverscroll :
    mouseWheelDisposition env (s.withOverscroll o) =
      ((mouseWheelDisposition env s).1, (mouseWheelDisposition env s).2.withOverscroll o) := rfl

lemma resetFling_withOverscroll :
    resetFling (s.withOverscroll o) = (resetFling s).withOverscroll o := by
  simp only [resetFling, Proxy.issue, Proxy.withOverscroll]
  split_ifs <;> rfl

lemma handleGestureScrollEnd_withOverscroll (e : WebGestureEvent) :
    handleGestureScrollEnd (s.withOverscroll o) e =
      ((handleGestureScrollEnd s e).1, (handleGestureScrollEnd s e).2.withOverscroll o) := by
  simp only [handleGestureScrollEnd, handleScrollElasticityOverscroll, Proxy.shouldAnimate,
    Proxy.issue, Proxy.withOverscroll]
  split_ifs <;> rfl

lemma gesturePinchBegin_withOverscroll (e : WebGestureEvent) :
    gesturePinchBegin env (s.withOverscroll o) e =
      ((gesturePinchBegin env s e).1, (gesturePinchBegin env s e).2.withOverscroll o) := by
  simp only [gesturePinchBegin, pinchBeginOnImplThread, Proxy.query, Proxy.issue,
    Proxy.withOverscroll]
  split_ifs <;> rfl

lemma gesturePinchEnd_withOverscroll :
    gesturePinchEnd (s.withOverscroll o) =
      ((gesturePinchEnd s).1, (gesturePinchEnd s).2.withOverscroll o) := by
  simp only [gesturePinchEnd, Proxy.issue, Proxy.withOverscroll]
  split_ifs <;> rfl

lemma forwardPinchUpdate_withOverscroll (e : WebGestureEvent) :
    forwardPinchUpdate (s.withOverscroll o) e =
      ((forwardPinchUpdate s e).1, (forwardPinchUpdate s e).2.withOverscroll o) := by
  simp only [forwardPinchUpdate]
  split_ifs <;> rfl

lemma handleTouchEnd_withOverscroll (e : WebTouchEvent) :
    handleTouchEnd (s.withOverscroll o) e = (handleTouchEnd s e).withOverscroll o := by
  simp only [handleTouchEnd]
  split_ifs <;> rfl

lemma handleMouseEvent_withOverscroll (e : WebMouseEvent) :
    handleMouseEvent (s.withOverscroll o) e = (handleMouseEvent s e).withOverscroll o := by
  simp only [handleMouseEvent]
  split <;> (try split_ifs) <;> rfl

lemma runPostedTask_withOverscroll :
    runPostedTask (s.withOverscroll o) = (runPostedTask s).withOverscroll o := by
  unfold runPostedTask
  rw [withOverscroll_postedObservations]
  cases s.postedObservations <;> rfl

lemma handleOverscroll_withOverscroll (point : Point) (result : InputHandlerScrollResult) :
    handleOverscroll (s.withOverscroll o) point result true =
      (handleOverscroll s point result true).withOverscroll
        ((overscrollParams s point result).or o) := by
  simp only [handleOverscroll, overscrollParams, Proxy.withOverscroll]
  split_ifs <;> rfl

lemma forwardScrollUpdate_withOverscroll (e : WebGestureEvent) :
    forwardScrollUpdate env (s.withOverscroll o) e =
      ((forwardScrollUpdate env s e).1,
        (forwardScrollUpdate env s e).2.withOverscroll ((scrollByOverscroll env s e).or o)) := by
  simp only [forwardScrollUpdate, handleScrollElasticityOverscroll, Proxy.query]
  simp only [withOverscroll_stream_update]
  simp only [withOverscroll_issue, handleOverscroll_withOverscroll, scrollByOverscroll,
    withOverscroll_scrollElasticityController, withOverscroll_gestureScrollOnImplThread,
    withOverscroll_gesturePinchOnImplThread, withOverscroll_calls,
    withOverscroll_smoothScrollEnabled, withOverscroll_stream, Proxy.shouldAnimate]
  split_ifs <;> rfl

/-- **No handler reads the overscroll member, and only a scroll update's `ScrollBy` writes
it.** -/
lemma dispatchProxy_withOverscroll (e : WebInputEvent) :
    dispatchProxy env (s.withOverscroll o) e =
      ((dispatchProxy env s e).1,
        (dispatchProxy env s e).2.withOverscroll ((bundledOverscroll env s e).or o)) := by
  cases e with
  | Gesture e =>
    cases ht : e.type <;>
      simp only [dispatchProxy, bundledOverscroll, ht, if_false, if_true, Option.none_or,
        reduceCtorEq, withOverscroll_gestureScrollOnImplThread,
        withOverscroll_gesturePinchOnImplThread, resetFling_withOverscroll,
        handleGestureScrollEnd_withOverscroll, gesturePinchBegin_withOverscroll,
        gesturePinchEnd_withOverscroll, forwardPinchUpdate_withOverscroll]
    case GestureScrollBegin =>
      split_ifs
      · rfl
      all_goals exact scrollBeginAfterCancel_withOverscroll e
    case GestureScrollUpdate =>
      exact forwardScrollUpdate_withOverscroll
        (s := { s with stream.scrollCount := s.stream.scrollCount + 1 }) e
    case GesturePinchUpdate => split_ifs <;> rfl
  | Touch e =>
    cases ht : e.type <;> simp only [dispatchProxy, bundledOverscroll, ht, Option.none_or,
      handleTouchStart_withOverscroll, handleTouchEnd_withOverscroll]
    case TouchMove => rfl
  | Mouse e =>
    simp only [dispatchProxy, bundledOverscroll, Option.none_or, handleMouseEvent_withOverscroll]
  | MouseWheel e => exact mouseWheelDisposition_withOverscroll
  | Keyboard k => rfl

end Overscroll

section Reachable

variable {env : Env} {smooth elastic : Bool} {p : Process}

/-- **The compositor's entry point acts on a reachable process as `HandleInputEvent` does,
whatever overscroll the member holds, and acknowledges the event with the overscroll of its own
`ScrollBy`.**  The member is left empty, so the process stays a reachable one up to the member,
and the next call is covered again. -/
theorem handleInputEventWithLatencyInfo_eq (hp : Reachable env smooth elastic p)
    (o : Option DidOverscrollParams) (e : WebInputEvent) :
    handleInputEventWithLatencyInfo env { p with proxy := p.proxy.withOverscroll o } e =
      (handleInputEvent env p e).map fun (d, q) =>
        ((d, bundledOverscroll env p.proxy e),
          { q with proxy := q.proxy.withOverscroll none }) := by
  have hq : FlingIdle (p.proxy.withOverscroll none) := hp.flingIdle
  have h : handleInputEventWithLatencyInfo env { p with proxy := p.proxy.withOverscroll o } e =
      (handleInputEvent env { p with proxy := p.proxy.withOverscroll none } e).map fun (d, q) =>
        ((d, q.proxy.currentOverscrollParams), { q with proxy := q.proxy.withOverscroll none }) :=
    rfl
  rw [h, @handleInputEvent_of_idle env { p with proxy := p.proxy.withOverscroll none } hq,
    handleInputEvent_of_idle hp.flingIdle, Option.map_map, Option.map_map]
  simp only [dispatchProxy_withOverscroll, Option.or_none]
  rfl

/-- The entry points other than `HandleInputEvent` neither read nor write the member. -/
lemma step_withOverscroll (hp : Reachable env smooth elastic p) (o : Option DidOverscrollParams)
    {i : Input} (hi : ∀ e, i ≠ .HandleInputEvent e) :
    step env { p with proxy := p.proxy.withOverscroll o } i =
      (step env p i).map fun (x, q) => (x, { q with proxy := q.proxy.withOverscroll o }) := by
  have hs : stepProxy env (p.proxy.withOverscroll o) i =
      ((stepProxy env p.proxy i).1, (stepProxy env p.proxy i).2.withOverscroll o) := by
    cases i with
    | HandleInputEvent e => exact absurd rfl (hi e)
    | Animate time =>
      simp only [stepProxy, withOverscroll_scrollElasticityController]; split_ifs <;> rfl
    | RunPostedTask => simp only [stepProxy, runPostedTask_withOverscroll]
    | _ => rfl
  have hq : FlingIdle (p.proxy.withOverscroll o) := hp.flingIdle
  rw [@step_of_idle env { p with proxy := p.proxy.withOverscroll o } hq, hp.step_eq,
    Process.split, Process.split, Option.map_map, hs]
  rfl

lemma stepWithLatencyInfo_of_ne {q : Process} {i : Input} (hi : ∀ e, i ≠ .HandleInputEvent e) :
    stepWithLatencyInfo env q i = (step env q i).map fun (_, p) => (none, p) := by
  cases i with
  | HandleInputEvent e => exact absurd rfl (hi e)
  | _ => rfl

/-- **The compositor's runs are the model's runs, up to the overscroll member.**  Every process
the compositor reaches is a reachable process with some overscroll left in the member, and from
it every event is handled as `HandleInputEvent` handles it in that reachable process and
acknowledged with the overscroll of its own `ScrollBy`. -/
theorem compositorReachable_refines {q : Process} (hq : CompositorReachable env smooth elastic q) :
    ∃ p o, Reachable env smooth elastic p ∧ q = { p with proxy := p.proxy.withOverscroll o } ∧
      ∀ e, handleInputEventWithLatencyInfo env q e =
        (handleInputEvent env p e).map fun (d, p') =>
          ((d, bundledOverscroll env p.proxy e),
            { p' with proxy := p'.proxy.withOverscroll none }) := by
  suffices h : ∃ p o, Reachable env smooth elastic p ∧
      q = { p with proxy := p.proxy.withOverscroll o } by
    obtain ⟨p, o, hp, rfl⟩ := h
    exact ⟨p, o, hp, rfl, handleInputEventWithLatencyInfo_eq hp o⟩
  induction hq with
  | initial => exact ⟨_, none, .initial, rfl⟩
  | @step _ q' i _ _ h ih =>
    obtain ⟨p, o, hp, rfl⟩ := ih
    by_cases hi : ∃ e, i = .HandleInputEvent e
    · obtain ⟨e, rfl⟩ := hi
      rw [stepWithLatencyInfo, handleInputEventWithLatencyInfo_eq hp o, Option.map_map,
        Option.map_eq_some'] at h
      obtain ⟨⟨d, p'⟩, hd, he⟩ := h
      cases he
      exact ⟨p', none, hp.step (i := .HandleInputEvent e) (by rw [step, hd]; rfl), rfl⟩
    · push_neg at hi
      rw [stepWithLatencyInfo_of_ne hi, step_withOverscroll hp o hi, Option.map_map,
        Option.map_eq_some'] at h
      obtain ⟨⟨x, p'⟩, hx, he⟩ := h
      cases he
      exact ⟨p', o, hp.step hx, rfl⟩

theorem compositorReachable_refines_at_start :
    ∃ p o, Reachable implEnv true false p ∧
      Process.initial true false = { p with proxy := p.proxy.withOverscroll o } ∧
      ∀ e, handleInputEventWithLatencyInfo implEnv (Process.initial true false) e =
        (handleInputEvent implEnv p e).map fun (d, p') =>
          ((d, bundledOverscroll implEnv p.proxy e),
            { p' with proxy := p'.proxy.withOverscroll none }) :=
  compositorReachable_refines .initial

end Reachable

end EBrowser
