import EBrowser.System

/-!
# Reachable processes: no fling, and a step split in two

**No fling is ever reachable.**  Nothing in the reachable code installs a fling curve, defers a
cancellation or starts a fling on the main thread (`EBrowser.Dispatch` explains why), so every
reachable proxy keeps its fling members at their values on construction
(`Reachable.flingIdle`).  On such a proxy `CancelCurrentFling` issues no call, reports no fling
and never re-enters `HandleInputEvent`: it only leaves the impl-thread scroll.

**The step splits.**  On a proxy with no fling, a call acts on the proxy through `stepProxy`,
which never sees the governor's globals, and on the globals through `stepGovernor`, which reads
of the proxy only whether a pinch is on the impl thread (`step_of_idle`).  This is where the
governor's information flow is decided: the model text, the speed, the frame-rate hint and the
sleeps cannot reach a disposition or a call, because `stepProxy` is not given them.  The
governor's part fails (`none`) only where `predict` ends the process.

**What the proxy part leaves alone.**  The handlers `stepProxy` calls never write the fling
members, so the split step keeps a proxy idle (`stepProxy_flingIdle`), and by induction every
reachable proxy is idle.  A run from an idle process is then the proxy's part run on its own
paired with the governor's part (`run_of_idle`).
-/

namespace EBrowser

open Proxy

/-- No fling: the fling members hold their values on construction. -/
def FlingIdle (s : Proxy) : Prop := s.fling = {}

/-- Whether a scroll begin is at one of the two sentinel positions that carry a frame-rate hint. -/
def isSentinel (event : WebGestureEvent) : Prop :=
  (event.x = -1 ∧ event.y = -1) ∨ (event.x = 0 ∧ event.y = 0)

instance (event : WebGestureEvent) : Decidable (isSentinel event) :=
  inferInstanceAs (Decidable (_ ∨ _))

/-- What `HandleInputEvent` does to a proxy with no fling, where a cancellation is the reset. -/
def dispatchProxy (env : Env) (s : Proxy) : WebInputEvent → EventDisposition × Proxy
  | .MouseWheel _ => mouseWheelDisposition env s
  | .Gesture e =>
    match e.type with
    | .GestureScrollBegin =>
      if isSentinel e then (.DropEvent, s)
      else scrollBeginAfterCancel env (if s.gestureScrollOnImplThread then resetFling s else s) e
    | .GestureScrollUpdate =>
      forwardScrollUpdate env { s with stream.scrollCount := s.stream.scrollCount + 1 } e
    | .GestureScrollEnd => handleGestureScrollEnd s e
    | .GesturePinchBegin => gesturePinchBegin env s e
    | .GesturePinchEnd => gesturePinchEnd s
    | .GesturePinchUpdate =>
      if s.gesturePinchOnImplThread then forwardPinchUpdate s e else (.DidNotHandle, s)
    | .GestureFlingStart | .GestureFlingCancel => (.DropEvent, resetFling s)
    | _ => (.DidNotHandle, s)
  | .Touch e =>
    match e.type with
    | .TouchStart => handleTouchStart env s e
    | .TouchMove => (handleTouchMove s, s)
    | .TouchEnd => (.DidNotHandle, handleTouchEnd s e)
    | _ => (.DidNotHandle, s)
  | .Mouse e => (.DidNotHandle, handleMouseEvent s e)
  | .Keyboard _ => (.DidNotHandle, s)

/-- What `HandleInputEvent` does to the governor's globals: a sentinel scroll begin records its
hint, and the two update handlers throttle. -/
def dispatchGovernor (svm : Svm) (pinchOnImplThread : Bool) (g : Governor) :
    WebInputEvent → Option Governor
  | .Gesture e =>
    match e.type with
    | .GestureScrollBegin =>
      some (if isSentinel e then { g with fps := truncToInt (e.timeStampSeconds * 1000) } else g)
    | .GestureScrollUpdate => throttleScrollUpdate svm g
    | .GesturePinchUpdate => some (if pinchOnImplThread then throttlePinchUpdate g else g)
    | _ => some g
  | _ => some g

/-- What a call does to a proxy with no fling. -/
def stepProxy (env : Env) (s : Proxy) : Input → Option EventDisposition × Proxy
  | .HandleInputEvent e => ((dispatchProxy env s e).1, (dispatchProxy env s e).2)
  | .HandleInputModelMsg .. => (none, s)
  | .Animate time =>
    (none, if s.scrollElasticityController then s.issue (.ElasticityAnimate time) else s)
  | .MainThreadHasStoppedFlinging => (none, mainThreadHasStoppedFlinging s)
  | .SynchronouslyZoomBy magnifyDelta anchor => (none, synchronouslyZoomBy s magnifyDelta anchor)
  | .RunPostedTask => (none, runPostedTask s)

/-- What a call does to the governor's globals. -/
def stepGovernor (svm : Svm) (pinchOnImplThread : Bool) (g : Governor) : Input → Option Governor
  | .HandleInputEvent e => dispatchGovernor svm pinchOnImplThread g e
  | .HandleInputModelMsg msg routingId speed => some (handleInputModelMsg g msg routingId speed)
  | _ => some g

/-- The two parts of a step put back together. -/
def Process.split (env : Env) (p : Process) (i : Input) :
    Option (Option EventDisposition × Process) :=
  (stepGovernor env.svm p.proxy.gesturePinchOnImplThread p.governor i).map
    fun g => ((stepProxy env p.proxy i).1, ⟨(stepProxy env p.proxy i).2, g⟩)

section Idle

variable {env : Env} {p : Process} {s : Proxy}

/-- On an idle proxy the reset only leaves the impl-thread scroll. -/
lemma resetFling_of_idle (h : FlingIdle s) :
    resetFling s = { s with gestureScrollOnImplThread := false } := by
  cases s
  subst h
  rfl

lemma cancelCurrentFling_of_flingIdle (h : FlingIdle p.proxy) :
    cancelCurrentFling env p = some (false, { p with proxy := resetFling p.proxy }) :=
  cancelCurrentFling_of_idle (by rw [h]) (by rw [h])

lemma handleInputEvent_of_idle (h : FlingIdle p.proxy) (e : WebInputEvent) :
    handleInputEvent env p e =
      (dispatchGovernor env.svm p.proxy.gesturePinchOnImplThread p.governor e).map
        fun g => ((dispatchProxy env p.proxy e).1, ⟨(dispatchProxy env p.proxy e).2, g⟩) := by
  have hc : p.proxy.fling.flingCurve = false := by rw [h]
  have hm : (resetFling p.proxy).fling.flingMayBeActiveOnMainThread = false := by
    rw [resetFling_of_idle h]; show p.proxy.fling.flingMayBeActiveOnMainThread = false; rw [h]
  rw [handleInputEvent]
  unfold handleInputEventWith
  simp only [filterInputEventForFlingBoosting, Bool.false_eq_true, if_false]
  cases e with
  | MouseWheel e => simp [handleMouseWheelWith, hc]; rfl
  | Gesture e =>
    obtain ⟨type⟩ := e
    cases type
    case GestureScrollBegin =>
      simp only [handleGestureScrollBeginWith, cancelCurrentFling_of_flingIdle h, dispatchProxy,
        dispatchGovernor, isSentinel, Process.withProxy]
      split_ifs <;> first | rfl | omega
    case GesturePinchUpdate =>
      simp only [dispatchProxy, dispatchGovernor, gesturePinchUpdate]
      split <;> rfl
    case GestureFlingStart | GestureFlingCancel =>
      simp [dispatchProxy, dispatchGovernor, cancelCurrentFling_of_flingIdle h, hm]
    all_goals rfl
  | Touch e =>
    obtain ⟨type⟩ := e
    cases type <;> rfl
  | Mouse e => rfl
  | Keyboard k => simp [hc]; rfl

/-- With no fling curve, an animation frame only forwards the frame to the elasticity
controller. -/
lemma animate_of_idle (hc : p.proxy.fling.flingCurve = false) (time : ℚ) :
    animate env p time = some { p with proxy :=
      if p.proxy.scrollElasticityController then p.proxy.issue (.ElasticityAnimate time)
      else p.proxy } := by
  have hf : (if p.proxy.scrollElasticityController then p.proxy.issue (.ElasticityAnimate time)
      else p.proxy).fling.flingCurve = false := by
    split <;> exact hc
  unfold animate
  rw [if_pos (by rw [hf]; rfl)]

/-- **A step of an idle process is its two parts.** -/
theorem step_of_idle (h : FlingIdle p.proxy) (i : Input) : step env p i = p.split env i := by
  cases i with
  | HandleInputEvent e =>
    simp only [step, handleInputEvent_of_idle h, Process.split, stepGovernor, stepProxy,
      Option.map_map]
    rfl
  | Animate time =>
    simp only [step, animate_of_idle (show p.proxy.fling.flingCurve = false by rw [h]),
      Process.split, stepGovernor, stepProxy, Option.map_some']
  | _ => rfl

end Idle

/-! ## The proxy part never touches the fling members or the settings -/

/-- What no handler of an idle proxy writes: the fling members, and the two settings fixed at
construction. -/
def Proxy.frame (s : Proxy) : FlingState × Bool × Bool :=
  (s.fling, s.smoothScrollEnabled, s.scrollElasticityController)

section Frame

variable {env : Env} {s : Proxy}

@[simp] lemma issue_frame (c : Call) : (s.issue c).frame = s.frame := rfl

@[simp] lemma touchesBlockScroll_frame (ts : List WebTouchPoint) :
    (touchesBlockScroll env s ts).2.frame = s.frame := by
  induction ts generalizing s with
  | nil => rfl
  | cons t ts ih =>
    simp only [touchesBlockScroll, Proxy.query, apply_ite Prod.snd]
    split_ifs <;> first | rfl | exact ih

@[simp] lemma handleTouchStart_frame (e : WebTouchEvent) :
    (handleTouchStart env s e).2.frame = s.frame := by
  have h := @touchesBlockScroll_frame env s e.touches
  simp only [Proxy.frame, Prod.mk.injEq] at h ⊢
  simp only [handleTouchStart, touchStartDisposition, Proxy.query, Proxy.issue, apply_ite Prod.snd,
    apply_ite Proxy.fling, apply_ite Proxy.smoothScrollEnabled,
    apply_ite Proxy.scrollElasticityController, ite_self, h, and_self]

@[simp] lemma scrollBeginRoute_frame (e : WebGestureEvent) :
    (scrollBeginRoute env s e).2.frame = s.frame := by
  simp only [scrollBeginRoute, Proxy.query]; split_ifs <;> rfl

@[simp] lemma enterScroll_frame (thread : ScrollThread) :
    (enterScroll thread s).2.frame = s.frame := by
  cases thread <;> rfl

@[simp] lemma handleScrollElasticityOverscroll_frame (e : WebGestureEvent)
    (r : InputHandlerScrollResult) : (handleScrollElasticityOverscroll s e r).frame = s.frame := rfl

@[simp] lemma scrollBeginAfterCancel_frame (e : WebGestureEvent) :
    (scrollBeginAfterCancel env s e).2.frame = s.frame := by
  simp only [scrollBeginAfterCancel]
  split_ifs <;> simp only [handleScrollElasticityOverscroll_frame, enterScroll_frame,
    scrollBeginRoute_frame] <;> rfl

/-- `HandleOverscroll` writes the fling members only while a fling curve is installed. -/
lemma forwardScrollUpdate_frame (h : s.fling.flingCurve = false) (e : WebGestureEvent) :
    (forwardScrollUpdate env s e).2.frame = s.frame := by
  simp only [forwardScrollUpdate, handleOverscroll, handleScrollElasticityOverscroll, h,
    Bool.false_eq_true, if_false, Proxy.frame, Prod.mk.injEq, Proxy.query, Proxy.issue,
    apply_ite Prod.snd, apply_ite Proxy.fling, apply_ite Proxy.smoothScrollEnabled,
    apply_ite Proxy.scrollElasticityController, ite_self, and_self]

@[simp] lemma handleGestureScrollEnd_frame (e : WebGestureEvent) :
    (handleGestureScrollEnd s e).2.frame = s.frame := by
  simp only [handleGestureScrollEnd, handleScrollElasticityOverscroll, Proxy.frame, Prod.mk.injEq,
    Proxy.query, Proxy.issue, apply_ite Prod.snd, apply_ite Proxy.fling, apply_ite Proxy.smoothScrollEnabled,
    apply_ite Proxy.scrollElasticityController, ite_self, and_self]

@[simp] lemma gesturePinchBegin_frame (e : WebGestureEvent) :
    (gesturePinchBegin env s e).2.frame = s.frame := by
  simp only [gesturePinchBegin, pinchBeginOnImplThread, Proxy.frame, Prod.mk.injEq, Proxy.query,
    Proxy.issue, apply_ite Prod.snd, apply_ite Proxy.fling, apply_ite Proxy.smoothScrollEnabled,
    apply_ite Proxy.scrollElasticityController, ite_self, and_self]

@[simp] lemma gesturePinchEnd_frame : (gesturePinchEnd s).2.frame = s.frame := by
  simp only [gesturePinchEnd, Proxy.frame, Prod.mk.injEq, Proxy.query, Proxy.issue,
    apply_ite Prod.snd, apply_ite Proxy.fling, apply_ite Proxy.smoothScrollEnabled,
    apply_ite Proxy.scrollElasticityController, ite_self, and_self]

@[simp] lemma forwardPinchUpdate_frame (e : WebGestureEvent) :
    (forwardPinchUpdate s e).2.frame = s.frame := by
  simp only [forwardPinchUpdate, Proxy.frame, Prod.mk.injEq, Proxy.query, Proxy.issue,
    apply_ite Prod.snd, apply_ite Proxy.fling, apply_ite Proxy.smoothScrollEnabled,
    apply_ite Proxy.scrollElasticityController, ite_self, and_self]

@[simp] lemma handleTouchEnd_frame (e : WebTouchEvent) : (handleTouchEnd s e).frame = s.frame := by
  simp only [handleTouchEnd, Proxy.frame, Prod.mk.injEq, Proxy.query, Proxy.issue,
    apply_ite Prod.snd, apply_ite Proxy.fling, apply_ite Proxy.smoothScrollEnabled,
    apply_ite Proxy.scrollElasticityController, ite_self, and_self]

@[simp] lemma handleMouseEvent_frame (e : WebMouseEvent) :
    (handleMouseEvent s e).frame = s.frame := by
  simp only [handleMouseEvent]
  split <;> simp only [Proxy.frame, Prod.mk.injEq, Proxy.query, Proxy.issue, apply_ite Prod.snd,
    apply_ite Proxy.fling, apply_ite Proxy.smoothScrollEnabled,
    apply_ite Proxy.scrollElasticityController, ite_self, and_self]

@[simp] lemma runPostedTask_frame : (runPostedTask s).frame = s.frame := by
  unfold runPostedTask; split <;> rfl

/-- The proxy part of a step keeps the frame of an idle proxy. -/
lemma stepProxy_frame (h : FlingIdle s) (i : Input) : (stepProxy env s i).2.frame = s.frame := by
  have hc : s.fling.flingCurve = false := by rw [h]
  have hr : (resetFling s).frame = s.frame := by rw [resetFling_of_idle h]; rfl
  cases i with
  | HandleInputEvent e =>
    simp only [stepProxy]
    cases e with
    | Gesture e =>
      cases ht : e.type <;> simp only [dispatchProxy, ht] <;> try rfl
      case GestureScrollBegin =>
        split_ifs <;> simp only [scrollBeginAfterCancel_frame, hr]
      case GestureScrollUpdate => rw [forwardScrollUpdate_frame]; exacts [rfl, hc]
      case GesturePinchUpdate => split <;> simp only [forwardPinchUpdate_frame]
      all_goals simp only [handleGestureScrollEnd_frame, gesturePinchBegin_frame,
        gesturePinchEnd_frame, hr]
    | Touch e => cases ht : e.type <;> simp only [dispatchProxy, ht, handleTouchStart_frame,
        handleTouchEnd_frame]
    | Mouse e => exact handleMouseEvent_frame e
    | _ => rfl
  | Animate time => simp only [stepProxy]; split <;> rfl
  | MainThreadHasStoppedFlinging =>
    show (mainThreadHasStoppedFlinging s).frame = s.frame
    simp only [mainThreadHasStoppedFlinging, Proxy.frame, Proxy.issue]; rw [h]
  | RunPostedTask => exact runPostedTask_frame
  | _ => rfl

lemma stepProxy_flingIdle (h : FlingIdle s) (i : Input) : FlingIdle (stepProxy env s i).2 :=
  (congrArg Prod.fst (stepProxy_frame h i)).trans h

end Frame

/-! ## Runs from an idle process -/

/-- The proxy's part of a run on its own: each call's result and the last proxy. -/
def runProxy (env : Env) (s : Proxy) : List Input → List (Option EventDisposition) × Proxy
  | [] => ([], s)
  | i :: is =>
    ((stepProxy env s i).1 :: (runProxy env (stepProxy env s i).2 is).1,
      (runProxy env (stepProxy env s i).2 is).2)

/-- The governor's part of a run: the globals at its end, or `none` if a call ends the process.
Before each call it reads of the proxy only whether a pinch is on the impl thread. -/
def runGovernor (env : Env) (s : Proxy) (g : Governor) : List Input → Option Governor
  | [] => some g
  | i :: is => (stepGovernor env.svm s.gesturePinchOnImplThread g i).bind fun g' =>
    runGovernor env (stepProxy env s i).2 g' is

/-- A run from an idle process is its two parts run side by side. -/
lemma run_of_idle {env : Env} {p : Process} (hi : FlingIdle p.proxy) (is : List Input) :
    run env p is = (runGovernor env p.proxy p.governor is).map fun g =>
      ((runProxy env p.proxy is).1, ⟨(runProxy env p.proxy is).2, g⟩) := by
  induction is generalizing p with
  | nil => rfl
  | cons i is ih =>
    rw [run_cons, step_of_idle hi, Process.split, runGovernor]
    cases stepGovernor env.svm p.proxy.gesturePinchOnImplThread p.governor i with
    | none => rfl
    | some g =>
      simp only [Option.map_some', Option.some_bind]
      rw [@ih ⟨_, g⟩ (stepProxy_flingIdle hi i), Option.map_map]
      rfl

section Reachable

variable {env : Env} {smooth elastic : Bool} {p : Process}

/-- **No reachable proxy has a fling, and its settings are those it was built with.** -/
theorem Reachable.frame (hp : Reachable env smooth elastic p) :
    p.proxy.frame = ({}, smooth, elastic) := by
  induction hp with
  | initial => rfl
  | step _ hs ih =>
    have hi : FlingIdle _ := congrArg Prod.fst ih
    rw [step_of_idle hi, Process.split, Option.map_eq_some'] at hs
    obtain ⟨g, -, he⟩ := hs
    cases he
    exact (stepProxy_frame hi _).trans ih

lemma Reachable.flingIdle (hp : Reachable env smooth elastic p) : FlingIdle p.proxy :=
  congrArg Prod.fst hp.frame

lemma Reachable.smoothScrollEnabled (hp : Reachable env smooth elastic p) :
    p.proxy.smoothScrollEnabled = smooth :=
  congrArg (fun x => x.2.1) hp.frame

/-- Every step of a reachable process is its two parts. -/
lemma Reachable.step_eq (hp : Reachable env smooth elastic p) (i : Input) :
    EBrowser.step env p i = p.split env i :=
  step_of_idle hp.flingIdle i

/-- **Induction over reachable processes, for a property of the proxy.**  A property that holds
of the constructed proxy, and that the proxy part of every step keeps on a proxy with no fling and
the smooth-scroll setting it was built with, holds of every reachable proxy. -/
lemma Reachable.proxy_induction {P : Proxy → Prop} (h₀ : P (Proxy.initial smooth elastic))
    (hs : ∀ s i, FlingIdle s → s.smoothScrollEnabled = smooth → P s → P (stepProxy env s i).2)
    (hp : Reachable env smooth elastic p) : P p.proxy := by
  induction hp with
  | initial => exact h₀
  | step hq h ih =>
    rw [hq.step_eq, Process.split, Option.map_eq_some'] at h
    obtain ⟨g, -, he⟩ := h
    cases he
    exact hs _ _ hq.flingIdle hq.smoothScrollEnabled ih

end Reachable

end EBrowser
