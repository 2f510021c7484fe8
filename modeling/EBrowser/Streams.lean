import EBrowser.Idle

/-!
# Scroll and pinch streams: accumulators, fling starts and brackets

**The accumulators.**  eBrowser's stream tracker keeps four globals per scroll stream, the start
point and the summed delta (`start_point_x_`, `start_point_y_`, `accumulated_delta_x_`,
`accumulated_delta_y_`).  A forwarded scroll update adds to them and, on the `ScrollBy` path,
clears them again before it returns; a scroll end clears them unless the end is animated.  With
smooth scrolling off neither handler ever takes the animated path, so the accumulators are zero
between any two calls (`accumulators_zero_without_smooth_scroll`).  With smooth scrolling on, an
update in pixels is animated and a scroll end in pixels keeps what it added
(`accumulators_kept_with_smooth_scroll`).

**Fling starts.**  `HandleInputEvent` sends `GestureFlingStart` to the `GestureFlingCancel` case,
not to `HandleGestureFlingStart`: from every reachable process a fling start of any device and
velocity is dropped, issues no call and leaves the impl-thread scroll (`flingStart_dropped`).

**Brackets.**  The scroll is open after a record of calls when its last begin that the compositor
took on the impl thread comes after its last `ScrollEnd`; the pinch is open when its last
`PinchGestureBegin` comes after its last `PinchGestureEnd` (`scrollOpen`, `pinchOpen`, both
computed by replaying the record).  With smooth scrolling off, the impl-thread scroll flag is set
only inside an open scroll, and an open pinch is always one on the impl thread
(`brackets_respected`).  The converse directions fail: a fling start or a second scroll begin
leaves the flag without ending the scroll, and `SynchronouslyZoomBy` closes a pinch the flag still
holds open (`brackets_broken`).
-/

namespace EBrowser

open Proxy

/-! ## The accumulators -/

/-- The stream tracker's four accumulators. -/
def Proxy.accumulators (s : Proxy) : ℚ × ℚ × ℚ × ℚ :=
  (s.stream.startPointX_, s.stream.startPointY_, s.stream.accumulatedDeltaX_,
    s.stream.accumulatedDeltaY_)

section Accumulators

variable {env : Env} {s : Proxy}

lemma touchesBlockScroll_stream (ts : List WebTouchPoint) :
    (touchesBlockScroll env s ts).2.stream = s.stream := by
  induction ts generalizing s with
  | nil => rfl
  | cons t ts ih =>
    simp only [touchesBlockScroll, Proxy.query, apply_ite Prod.snd]
    split_ifs <;> first | rfl | exact ih

lemma handleTouchStart_stream (e : WebTouchEvent) :
    (handleTouchStart env s e).2.stream = s.stream := by
  have h := @touchesBlockScroll_stream env s e.touches
  simp only [handleTouchStart, touchStartDisposition, Proxy.query, Proxy.issue,
    apply_ite Prod.snd, apply_ite Proxy.stream, ite_self, h]

lemma handleMouseEvent_stream (e : WebMouseEvent) : (handleMouseEvent s e).stream = s.stream := by
  simp only [handleMouseEvent]; split <;> simp only [Proxy.issue, apply_ite Proxy.stream, ite_self]

lemma scrollBeginRoute_stream (e : WebGestureEvent) :
    (scrollBeginRoute env s e).2.stream = s.stream := by
  simp only [scrollBeginRoute, Proxy.query]; split_ifs <;> rfl

lemma enterScroll_stream (thread : ScrollThread) : (enterScroll thread s).2.stream = s.stream := by
  cases thread <;> rfl

/-- A scroll begin writes the start point of the stream, not its accumulators. -/
lemma scrollBeginAfterCancel_accumulators (e : WebGestureEvent) :
    (scrollBeginAfterCancel env s e).2.accumulators = s.accumulators := by
  simp only [scrollBeginAfterCancel, handleScrollElasticityOverscroll, Proxy.accumulators,
    Proxy.issue, apply_ite Prod.snd, apply_ite Proxy.stream, enterScroll_stream,
    scrollBeginRoute_stream, ite_self]

/-- With smooth scrolling off, a forwarded update leaves the accumulators zero; with no scroll
and no pinch on the impl thread it returns before touching them. -/
lemma forwardScrollUpdate_accumulators (h : s.smoothScrollEnabled = false) (e : WebGestureEvent) :
    (forwardScrollUpdate env s e).2.accumulators =
      if !s.gestureScrollOnImplThread && !s.gesturePinchOnImplThread then s.accumulators
      else (0, 0, 0, 0) := by
  simp only [forwardScrollUpdate, Proxy.shouldAnimate, apply_ite Proxy.smoothScrollEnabled,
    ite_self, h, Bool.false_and, Bool.false_eq_true, if_false, apply_ite Prod.snd]
  split_ifs <;> rfl

/-- With smooth scrolling off, a scroll end clears the accumulators. -/
lemma handleGestureScrollEnd_accumulators (h : s.smoothScrollEnabled = false)
    (e : WebGestureEvent) : (handleGestureScrollEnd s e).2.accumulators = (0, 0, 0, 0) := by
  simp only [handleGestureScrollEnd, Proxy.shouldAnimate, h, Bool.false_and, Bool.false_eq_true,
    if_false, Proxy.issue, apply_ite Prod.snd]
  split_ifs <;> rfl

lemma gesturePinchBegin_accumulators (e : WebGestureEvent) :
    (gesturePinchBegin env s e).2.accumulators = s.accumulators := by
  simp only [gesturePinchBegin, pinchBeginOnImplThread, Proxy.query, Proxy.issue,
    apply_ite Prod.snd]
  split_ifs <;> rfl

lemma gesturePinchEnd_accumulators : (gesturePinchEnd s).2.accumulators = s.accumulators := by
  simp only [gesturePinchEnd, apply_ite Prod.snd]; split_ifs <;> rfl

lemma forwardPinchUpdate_accumulators (e : WebGestureEvent) :
    (forwardPinchUpdate s e).2.accumulators = s.accumulators := by
  simp only [forwardPinchUpdate, apply_ite Prod.snd]; split_ifs <;> rfl

/-- **The step keeps the accumulators zero with smooth scrolling off.** -/
lemma stepProxy_accumulators (hi : FlingIdle s) (hs : s.smoothScrollEnabled = false)
    (h : s.accumulators = (0, 0, 0, 0)) (i : Input) :
    (stepProxy env s i).2.accumulators = (0, 0, 0, 0) := by
  have hr : (resetFling s).accumulators = s.accumulators := by rw [resetFling_of_idle hi]; rfl
  cases i with
  | HandleInputEvent e =>
    simp only [stepProxy]
    cases e with
    | Gesture e =>
      cases ht : e.type <;> simp only [dispatchProxy, ht] <;> try exact h
      case GestureScrollBegin =>
        split_ifs
        · exact h
        · rw [scrollBeginAfterCancel_accumulators, hr, h]
        · rw [scrollBeginAfterCancel_accumulators, h]
      case GestureScrollUpdate =>
        rw [forwardScrollUpdate_accumulators]
        · split_ifs
          · exact h
          · rfl
        · exact hs
      case GestureScrollEnd => exact handleGestureScrollEnd_accumulators hs e
      case GesturePinchBegin => rw [gesturePinchBegin_accumulators, h]
      case GesturePinchEnd => rw [gesturePinchEnd_accumulators, h]
      case GesturePinchUpdate => split <;> simp only [forwardPinchUpdate_accumulators, h]
      all_goals rw [hr, h]
    | Touch e =>
      cases ht : e.type <;> simp only [dispatchProxy, ht] <;> try exact h
      case TouchStart => rw [Proxy.accumulators, handleTouchStart_stream]; exact h
      case TouchEnd => simp only [handleTouchEnd]; split_ifs <;> exact h
    | Mouse e => rw [dispatchProxy, Proxy.accumulators, handleMouseEvent_stream]; exact h
    | MouseWheel e => exact h
    | Keyboard e => exact h
  | Animate time => simp only [stepProxy]; split <;> exact h
  | RunPostedTask => simp only [stepProxy, runPostedTask]; split <;> exact h
  | _ => exact h

end Accumulators

/-- **With smooth scrolling off, the accumulators are zero between calls.**  In every process a
run reaches from a proxy built without smooth scrolling, the start point and the summed delta of
the stream tracker are zero: every scroll begin starts from zeroed stream state, and after a
begin, any number of updates and an end, nothing is left over. -/
theorem accumulators_zero_without_smooth_scroll (env : Env) (elastic : Bool) (p : Process)
    (hp : Reachable env false elastic p) : p.proxy.accumulators = (0, 0, 0, 0) :=
  hp.proxy_induction (P := fun s => s.accumulators = (0, 0, 0, 0)) rfl
    fun _ _ hi hs h => stepProxy_accumulators hi hs h _

theorem accumulators_zero_without_smooth_scroll_after_update :
    ∃ p₁ p₂ o₁ o₂,
      step implEnv (Process.initial false false)
        (.HandleInputEvent (.Gesture { type := .GestureScrollBegin, x := 1, y := 1 })) =
          some (o₁, p₁) ∧
      step implEnv p₁ (.HandleInputEvent (.Gesture
        { type := .GestureScrollUpdate, x := 1, y := 1, scrollUpdate := { deltaX := 3 } })) =
          some (o₂, p₂) ∧
      p₂.proxy.accumulators = (0, 0, 0, 0) := by
  have h₁ := @Reachable.step_eq implEnv false false _ .initial
    (.HandleInputEvent (.Gesture { type := .GestureScrollBegin, x := 1, y := 1 }))
  have h₂ := @Reachable.step_eq implEnv false false _ (.step .initial h₁)
    (.HandleInputEvent (.Gesture
      { type := .GestureScrollUpdate, x := 1, y := 1, scrollUpdate := { deltaX := 3 } }))
  exact ⟨_, _, _, _, h₁, h₂,
    accumulators_zero_without_smooth_scroll implEnv false _ (.step (.step .initial h₁) h₂)⟩

/-- **With smooth scrolling on, a stream can end with its accumulators set.**  A scroll begin at
`(1, 1)`, an update of `3` pixels at `(1, 1)` and a scroll end in pixels leave the start point at
`(1, 1)` and `accumulated_delta_x_` at `3`. -/
theorem accumulators_kept_with_smooth_scroll :
    ∃ p₁ p₂ p₃ o₁ o₂ o₃,
      step implEnv (Process.initial true false)
        (.HandleInputEvent (.Gesture { type := .GestureScrollBegin, x := 1, y := 1 })) =
          some (o₁, p₁) ∧
      step implEnv p₁ (.HandleInputEvent (.Gesture
        { type := .GestureScrollUpdate, x := 1, y := 1,
          scrollUpdate := { deltaX := 3, deltaUnits := .Pixels } })) = some (o₂, p₂) ∧
      step implEnv p₂ (.HandleInputEvent (.Gesture
        { type := .GestureScrollEnd, scrollEnd := { deltaUnits := .Pixels } })) = some (o₃, p₃) ∧
      p₃.proxy.accumulators = (1, 1, 3, 0) := by
  have h₁ := @Reachable.step_eq implEnv true false _ .initial
    (.HandleInputEvent (.Gesture { type := .GestureScrollBegin, x := 1, y := 1 }))
  have h₂ := @Reachable.step_eq implEnv true false _ (.step .initial h₁)
    (.HandleInputEvent (.Gesture
      { type := .GestureScrollUpdate, x := 1, y := 1,
        scrollUpdate := { deltaX := 3, deltaUnits := .Pixels } }))
  have h₃ := @Reachable.step_eq implEnv true false _ (.step (.step .initial h₁) h₂)
    (.HandleInputEvent (.Gesture
      { type := .GestureScrollEnd, scrollEnd := { deltaUnits := .Pixels } }))
  refine ⟨_, _, _, _, _, _, h₁, h₂, h₃, ?_⟩
  simp +decide [Process.split, stepProxy, dispatchProxy, isSentinel, scrollBeginAfterCancel,
    forwardScrollUpdate, accumulateScrollUpdate, handleGestureScrollEnd, Proxy.accumulators,
    Proxy.query, Proxy.issue,
    Proxy.shouldAnimate, Process.initial, Proxy.initial, implEnv]

/-! ## Fling starts -/

/-- On a proxy with no fling, a fling start is the reset and nothing else. -/
lemma stepProxy_flingStart {env : Env} {s : Proxy} (hi : FlingIdle s) {e : WebGestureEvent}
    (he : e.type = .GestureFlingStart) :
    stepProxy env s (.HandleInputEvent (.Gesture e)) =
      (some .DropEvent, { s with gestureScrollOnImplThread := false }) := by
  simp only [stepProxy, dispatchProxy, he, resetFling_of_idle hi]

/-- **A fling start is dropped.**  From every reachable process, a `GestureFlingStart` of any
device and any velocity returns `DROP_EVENT`, issues no call (no `FlingScrollBegin`), starts no
fling, and leaves the impl-thread scroll; the governor's globals are untouched. -/
theorem flingStart_dropped (env : Env) (smooth elastic : Bool) (p : Process)
    (hp : Reachable env smooth elastic p) (e : WebGestureEvent) (he : e.type = .GestureFlingStart) :
    step env p (.HandleInputEvent (.Gesture e)) =
      some (some .DropEvent, { p with proxy.gestureScrollOnImplThread := false }) := by
  rw [hp.step_eq, Process.split, stepProxy_flingStart hp.flingIdle he]
  simp [stepGovernor, dispatchGovernor, he]

theorem flingStart_dropped_at_start :
    step implEnv (Process.initial false false)
        (.HandleInputEvent (.Gesture
          { type := .GestureFlingStart, sourceDevice := .Touchscreen,
            flingStart := { velocityX := 100 } })) =
      some (some .DropEvent, Process.initial false false) :=
  flingStart_dropped implEnv false false _ .initial _ rfl

/-- **A touchscreen fling during a scroll on the impl thread is dropped.**  After a touchscreen
scroll begin that the compositor takes on the impl thread, a touchscreen fling start with
velocity `(100, 0)` returns `DROP_EVENT`, issues no call and installs no fling curve. -/
theorem touchscreenFling_dropped :
    ∃ p p', Reachable implEnv false false p ∧ p.proxy.gestureScrollOnImplThread = true ∧
      step implEnv p (.HandleInputEvent (.Gesture
        { type := .GestureFlingStart, sourceDevice := .Touchscreen,
          flingStart := { velocityX := 100 } })) =
          some (some .DropEvent, p') ∧
      p'.proxy.calls = p.proxy.calls ∧ p'.proxy.fling.flingCurve = false := by
  have h₁ := @Reachable.step_eq implEnv false false _ .initial
    (.HandleInputEvent (.Gesture
      { type := .GestureScrollBegin, x := 1, y := 1, sourceDevice := .Touchscreen }))
  have hp : Reachable implEnv false false _ := .step .initial h₁
  exact ⟨_, _, hp, rfl, (hp.step_eq _).trans rfl, rfl, rfl⟩

/-! ## Brackets -/

/-- How one call moves the scroll's bracket, given the record that ends with it: a `ScrollBegin`
or `RootScrollBegin` that the compositor takes on the impl thread opens the scroll, `ScrollEnd`
closes it, and any other call, a begin it does not take included, leaves it as it was. -/
def scrollAfter (env : Env) (record : List Call) (isOpen : Bool) : Call → Bool
  | .ScrollBegin .. | .RootScrollBegin .. =>
    env.scrollStatus record = .ScrollOnImplThread || isOpen
  | .ScrollEnd _ => false
  | _ => isOpen

/-- Replay a record of calls after `done`, from a bracket state, each call seeing the record up to
itself. -/
def scrollReplay (env : Env) (done : List Call) (isOpen : Bool) : List Call → Bool
  | [] => isOpen
  | c :: cs => scrollReplay env (done ++ [c]) (scrollAfter env (done ++ [c]) isOpen c) cs

/-- Whether the scroll is open after a record of calls. -/
def scrollOpen (env : Env) (calls : List Call) : Bool := scrollReplay env [] false calls

/-- How one call moves the pinch's bracket. -/
def pinchAfter (isOpen : Bool) : Call → Bool
  | .PinchGestureBegin => true
  | .PinchGestureEnd => false
  | _ => isOpen

/-- Whether the pinch is open after a record of calls. -/
def pinchOpen (calls : List Call) : Bool := calls.foldl pinchAfter false

lemma scrollReplay_append (env : Env) (c : Call) (cs : List Call) :
    ∀ (done : List Call) (isOpen : Bool), scrollReplay env done isOpen (cs ++ [c]) =
      scrollAfter env (done ++ cs ++ [c]) (scrollReplay env done isOpen cs) c := by
  induction cs with
  | nil => intro done isOpen; simp [scrollReplay]
  | cons d cs ih =>
    intro done isOpen
    rw [List.cons_append, scrollReplay, ih]
    simp [scrollReplay]

@[simp] lemma scrollOpen_append (env : Env) (cs : List Call) (c : Call) :
    scrollOpen env (cs ++ [c]) = scrollAfter env (cs ++ [c]) (scrollOpen env cs) c :=
  scrollReplay_append env c cs [] false

@[simp] lemma pinchOpen_append (cs : List Call) (c : Call) :
    pinchOpen (cs ++ [c]) = pinchAfter (pinchOpen cs) c :=
  List.foldl_append ..

/-- The flags and the brackets of a proxy. -/
def Proxy.brackets (env : Env) (s : Proxy) : Bool × Bool × Bool × Bool :=
  (s.gestureScrollOnImplThread, scrollOpen env s.calls, s.gesturePinchOnImplThread, pinchOpen s.calls)

/-- Whether a call begins or ends the scroll or the pinch. -/
def Call.isBracket : Call → Bool
  | .ScrollBegin .. | .RootScrollBegin .. | .ScrollEnd _ | .PinchGestureBegin | .PinchGestureEnd =>
    true
  | _ => false

section BracketsOf

variable {env : Env} {s : Proxy}

lemma brackets_issue {c : Call} (h : c.isBracket = false) :
    (s.issue c).brackets env = s.brackets env := by
  simp only [Proxy.brackets, Proxy.issue, scrollOpen_append, pinchOpen_append]
  cases c <;> first | rfl | cases h

@[simp] lemma brackets_stream (t : StreamState) :
    ({ s with stream := t } : Proxy).brackets env = s.brackets env := rfl

@[simp] lemma brackets_overscroll (o : Option DidOverscrollParams) :
    ({ s with currentOverscrollParams := o } : Proxy).brackets env = s.brackets env := rfl

@[simp] lemma brackets_fling (f : FlingState) :
    ({ s with fling := f } : Proxy).brackets env = s.brackets env := rfl

@[simp] lemma brackets_touchStartResult (r : Option EventDisposition) :
    ({ s with touchStartResult := r } : Proxy).brackets env = s.brackets env := rfl

@[simp] lemma brackets_posted (q : List (WebGestureEvent × InputHandlerScrollResult)) :
    ({ s with postedObservations := q } : Proxy).brackets env = s.brackets env := rfl

@[simp] lemma handleScrollElasticityOverscroll_brackets (e : WebGestureEvent)
    (r : InputHandlerScrollResult) :
    (handleScrollElasticityOverscroll s e r).brackets env = s.brackets env := rfl

end BracketsOf

/-- **The brackets' invariant.**  The impl-thread scroll flag is set only while the scroll is
open, and the pinch is open only while the impl-thread pinch flag is set. -/
structure Bracketed (env : Env) (s : Proxy) : Prop where
  scroll : s.gestureScrollOnImplThread = true → scrollOpen env s.calls = true
  pinch : pinchOpen s.calls = true → s.gesturePinchOnImplThread = true

section Brackets

variable {env : Env} {s : Proxy}

lemma Bracketed.of_brackets {s' : Proxy} (hb : Bracketed env s)
    (h : s'.brackets env = s.brackets env) : Bracketed env s' := by
  simp only [Proxy.brackets, Prod.mk.injEq] at h
  obtain ⟨h₁, h₂, h₃, h₄⟩ := h
  exact ⟨by rw [h₁, h₂]; exact hb.scroll, by rw [h₃, h₄]; exact hb.pinch⟩

lemma touchesBlockScroll_brackets (ts : List WebTouchPoint) :
    (touchesBlockScroll env s ts).2.brackets env = s.brackets env := by
  induction ts generalizing s with
  | nil => rfl
  | cons t ts ih =>
    simp only [touchesBlockScroll, Proxy.query, apply_ite Prod.snd]
    split_ifs
    · exact ih
    · simp only [Proxy.brackets, Proxy.issue, scrollOpen_append, pinchOpen_append, scrollAfter,
        pinchAfter]
    · rw [ih]; simp only [Proxy.brackets, Proxy.issue, scrollOpen_append, pinchOpen_append,
        scrollAfter, pinchAfter]

lemma handleTouchStart_brackets (e : WebTouchEvent) :
    (handleTouchStart env s e).2.brackets env = s.brackets env := by
  have h := @touchesBlockScroll_brackets env s e.touches
  simp only [Proxy.brackets, Prod.mk.injEq] at h
  simp only [handleTouchStart, touchStartDisposition, Proxy.query, Proxy.issue, Proxy.brackets,
    apply_ite Prod.snd]
  split_ifs <;> simp only [scrollOpen_append, pinchOpen_append, scrollAfter, pinchAfter, h]

lemma handleTouchEnd_brackets (e : WebTouchEvent) :
    (handleTouchEnd s e).brackets env = s.brackets env := by
  simp only [handleTouchEnd]; split_ifs <;> rfl

lemma handleMouseEvent_brackets (e : WebMouseEvent) :
    (handleMouseEvent s e).brackets env = s.brackets env := by
  simp only [handleMouseEvent]
  split <;> (try split_ifs) <;> first | rfl | exact brackets_issue rfl

lemma mouseWheelDisposition_brackets :
    (mouseWheelDisposition env s).2.brackets env = s.brackets env :=
  brackets_issue rfl

lemma handleOverscroll_brackets (point : Point) (result : InputHandlerScrollResult) (b : Bool) :
    (handleOverscroll s point result b).brackets env = s.brackets env := by
  simp (disch := simp only [Call.isBracket]) only [handleOverscroll, brackets_issue,
    brackets_overscroll, brackets_fling, apply_ite (Proxy.brackets env), ite_self]

/-- A forwarded scroll update issues no begin or end, whatever path it takes. -/
lemma forwardScrollUpdate_brackets (e : WebGestureEvent) :
    (forwardScrollUpdate env s e).2.brackets env = s.brackets env := by
  simp only [forwardScrollUpdate, Proxy.query, apply_ite Prod.snd]
  split_ifs
  · rfl
  · exact brackets_issue rfl
  all_goals simp (disch := simp only [Call.isBracket]) only [brackets_stream, brackets_issue,
    handleScrollElasticityOverscroll_brackets, handleOverscroll_brackets]

lemma forwardPinchUpdate_brackets (e : WebGestureEvent) :
    (forwardPinchUpdate s e).2.brackets env = s.brackets env := by
  simp (disch := simp only [Call.isBracket]) only [forwardPinchUpdate, apply_ite Prod.snd,
    brackets_issue, brackets_stream, apply_ite (Proxy.brackets env), ite_self]

/-! ### Handlers that move a bracket -/

/-- The scroll side as it was, and the pinch left: the invariant holds after. -/
lemma Bracketed.of_scroll_of_pinch {s' : Proxy} (h : Bracketed env s)
    (hs : s'.gestureScrollOnImplThread = true → scrollOpen env s'.calls = true)
    (hp : pinchOpen s'.calls = true → pinchOpen s.calls = true ∨ s'.gesturePinchOnImplThread = true)
    (hf : s'.gesturePinchOnImplThread = s.gesturePinchOnImplThread) : Bracketed env s' :=
  ⟨hs, fun h' => (hp h').elim (fun h'' => hf ▸ h.pinch h'') id⟩

/-- With smooth scrolling off, a route the compositor takes on the impl thread ends in a
`ScrollBegin` or a `RootScrollBegin`, which opens the scroll. -/
lemma scrollBeginRoute_opens (hs : s.smoothScrollEnabled = false) (e : WebGestureEvent) :
    (scrollBeginRoute env s e).1 = .ScrollOnImplThread →
      scrollOpen env (scrollBeginRoute env s e).2.calls = true := by
  simp only [scrollBeginRoute, Proxy.shouldAnimate, hs, Bool.false_and, Bool.false_eq_true,
    if_false, Proxy.query]
  split_ifs <;> simp +contextual [scrollAfter]

lemma scrollBeginRoute_flags (e : WebGestureEvent) :
    (scrollBeginRoute env s e).2.gestureScrollOnImplThread = s.gestureScrollOnImplThread ∧
      (scrollBeginRoute env s e).2.gesturePinchOnImplThread = s.gesturePinchOnImplThread ∧
      pinchOpen (scrollBeginRoute env s e).2.calls = pinchOpen s.calls := by
  simp only [scrollBeginRoute, Proxy.query]; split_ifs <;> simp [Proxy.issue, pinchAfter]

lemma enterScroll_flags (thread : ScrollThread) :
    (enterScroll thread s).2.gestureScrollOnImplThread =
        (thread = .ScrollOnImplThread || s.gestureScrollOnImplThread) ∧
      (enterScroll thread s).2.gesturePinchOnImplThread = s.gesturePinchOnImplThread ∧
      (enterScroll thread s).2.calls = s.calls := by
  cases thread <;> simp [enterScroll]

/-- With smooth scrolling off, a scroll begin from outside the impl-thread scroll sets the flag
only when its begin opened the scroll. -/
lemma scrollBeginAfterCancel_bracketed (hs : s.smoothScrollEnabled = false)
    (hf : s.gestureScrollOnImplThread = false) (h : Bracketed env s) (e : WebGestureEvent) :
    Bracketed env (scrollBeginAfterCancel env s e).2 := by
  set s₁ : Proxy := { s with stream.startPointX := e.x, stream.startPointY := e.y }
  obtain ⟨hr₁, hr₂, hr₃⟩ := @scrollBeginRoute_flags env s₁ e
  have ho := @scrollBeginRoute_opens env s₁ hs e
  obtain ⟨he₁, he₂, he₃⟩ := enterScroll_flags (s := (scrollBeginRoute env s₁ e).2)
    (scrollBeginRoute env s₁ e).1
  have hb :
      Bracketed env (enterScroll (scrollBeginRoute env s₁ e).1 (scrollBeginRoute env s₁ e).2).2 :=
    h.of_scroll_of_pinch
      (fun h' => by
        rw [he₁, hr₁, show s₁.gestureScrollOnImplThread = false from hf, Bool.or_false,
          decide_eq_true_iff] at h'
        rw [he₃]; exact ho h')
      (fun h' => .inl (by rw [he₃, hr₃] at h'; exact h')) (he₂.trans hr₂)
  simp only [scrollBeginAfterCancel]
  split_ifs
  · exact hb.of_brackets rfl
  · exact hb

/-- With smooth scrolling off, a scroll end leaves the impl-thread scroll after ending it. -/
lemma handleGestureScrollEnd_bracketed (hs : s.smoothScrollEnabled = false) (h : Bracketed env s)
    (e : WebGestureEvent) : Bracketed env (handleGestureScrollEnd s e).2 := by
  have hf : (handleGestureScrollEnd s e).2.gestureScrollOnImplThread = false := by
    simp only [handleGestureScrollEnd, apply_ite Prod.snd]
    split_ifs with h₁ <;> simp_all [Proxy.issue, handleScrollElasticityOverscroll]
  have hp : (handleGestureScrollEnd s e).2.gesturePinchOnImplThread = s.gesturePinchOnImplThread ∧
      pinchOpen (handleGestureScrollEnd s e).2.calls = pinchOpen s.calls := by
    simp only [handleGestureScrollEnd, Proxy.shouldAnimate, hs, Bool.false_and, Bool.false_eq_true,
      if_false, handleScrollElasticityOverscroll, apply_ite Prod.snd]
    split_ifs <;> simp only [Proxy.issue, pinchOpen_append, pinchAfter, and_self]
  exact h.of_scroll_of_pinch (fun h' => absurd (hf ▸ h') Bool.false_ne_true)
    (fun h' => .inl (hp.2 ▸ h')) hp.1

lemma pinchBeginOnImplThread_bracketed (h : Bracketed env s) :
    Bracketed env (pinchBeginOnImplThread s).2 :=
  ⟨by simpa [pinchBeginOnImplThread, Proxy.issue, scrollAfter] using h.scroll, fun _ => rfl⟩

/-- A pinch begin either leaves everything to the main thread or opens the pinch and sets its
flag together. -/
lemma gesturePinchBegin_bracketed (h : Bracketed env s) (e : WebGestureEvent) :
    Bracketed env (gesturePinchBegin env s e).2 := by
  have h₁ : Bracketed env { s with stream.isPinch := true } := h.of_brackets rfl
  simp only [gesturePinchBegin, Proxy.query]
  split_ifs
  · exact h₁.of_brackets (brackets_issue rfl)
  · exact pinchBeginOnImplThread_bracketed (h₁.of_brackets (brackets_issue rfl))
  · exact pinchBeginOnImplThread_bracketed h₁

/-- A pinch end on the impl thread closes the pinch and clears its flag together. -/
lemma gesturePinchEnd_bracketed (h : Bracketed env s) : Bracketed env (gesturePinchEnd s).2 := by
  simp only [gesturePinchEnd]
  split_ifs
  · exact ⟨by simpa [Proxy.issue, scrollAfter] using h.scroll, by simp [Proxy.issue, pinchAfter]⟩
  · exact h.of_brackets rfl

/-- `SynchronouslyZoomBy` leaves the pinch closed. -/
lemma synchronouslyZoomBy_bracketed (h : Bracketed env s) (magnifyDelta : ℚ) (anchor : Point) :
    Bracketed env (synchronouslyZoomBy s magnifyDelta anchor) :=
  ⟨by simpa only [synchronouslyZoomBy, Proxy.issue, scrollOpen_append, scrollAfter] using h.scroll,
    fun h' => by
      simp only [synchronouslyZoomBy, Proxy.issue, pinchOpen_append, pinchAfter,
        Bool.false_eq_true] at h'⟩

/-- **The step keeps the brackets' invariant with smooth scrolling off.** -/
lemma stepProxy_bracketed (hi : FlingIdle s) (hs : s.smoothScrollEnabled = false)
    (h : Bracketed env s) (i : Input) : Bracketed env (stepProxy env s i).2 := by
  have hr : Bracketed env (resetFling s) := by
    rw [resetFling_of_idle hi]; exact ⟨(fun h' => by cases h'), h.pinch⟩
  cases i with
  | HandleInputEvent e =>
    simp only [stepProxy]
    cases e with
    | Gesture e =>
      cases ht : e.type <;> simp only [dispatchProxy, ht] <;> try exact h
      case GestureScrollBegin =>
        split_ifs with h₁ h₂
        · exact h
        · rw [resetFling_of_idle hi] at hr ⊢
          exact scrollBeginAfterCancel_bracketed
            (s := { s with gestureScrollOnImplThread := false }) hs rfl hr e
        · exact scrollBeginAfterCancel_bracketed hs (by simpa using h₂) h e
      case GestureScrollUpdate => exact h.of_brackets (forwardScrollUpdate_brackets e)
      case GestureScrollEnd => exact handleGestureScrollEnd_bracketed hs h e
      case GesturePinchBegin => exact gesturePinchBegin_bracketed h e
      case GesturePinchEnd => exact gesturePinchEnd_bracketed h
      case GesturePinchUpdate =>
        split
        · exact h.of_brackets (forwardPinchUpdate_brackets e)
        · exact h
      all_goals exact hr
    | Touch e =>
      cases ht : e.type <;> simp only [dispatchProxy, ht] <;> try exact h
      case TouchStart => exact h.of_brackets (handleTouchStart_brackets e)
      case TouchEnd => exact h.of_brackets (handleTouchEnd_brackets e)
    | Mouse e => exact h.of_brackets (handleMouseEvent_brackets e)
    | MouseWheel e => exact h.of_brackets mouseWheelDisposition_brackets
    | Keyboard e => exact h
  | Animate time =>
    simp only [stepProxy]
    split
    · exact h.of_brackets (brackets_issue rfl)
    · exact h
  | MainThreadHasStoppedFlinging => exact h.of_brackets (brackets_issue rfl)
  | SynchronouslyZoomBy magnifyDelta anchor =>
    exact synchronouslyZoomBy_bracketed h magnifyDelta anchor
  | HandleInputModelMsg msg routingId speed => exact h
  | RunPostedTask =>
    simp only [stepProxy, runPostedTask]
    split
    · exact h
    · exact h.of_brackets (by
        simp (disch := simp only [Call.isBracket]) only [brackets_issue, brackets_posted])

end Brackets

/-- **With smooth scrolling off, the flags are set only inside their brackets.**  In every process
a run reaches from a proxy built without smooth scrolling, `gesture_scroll_on_impl_thread_` is
set only while the scroll is open (its last begin the compositor took on the impl thread comes
after its last `ScrollEnd`), and the pinch is open only while `gesture_pinch_on_impl_thread_` is
set. -/
theorem brackets_respected (env : Env) (elastic : Bool) (p : Process)
    (hp : Reachable env false elastic p) : Bracketed env p.proxy :=
  hp.proxy_induction (P := Bracketed env) ⟨(fun h => by cases h), (fun h => by cases h)⟩
    fun _ _ hi hs h => stepProxy_bracketed hi hs h _

theorem brackets_respected_after_begin :
    ∃ o p, step implEnv (Process.initial false false)
        (.HandleInputEvent (.Gesture { type := .GestureScrollBegin, x := 1, y := 1 })) =
          some (o, p) ∧ Bracketed implEnv p.proxy := by
  have h₁ := @Reachable.step_eq implEnv false false _ .initial
    (.HandleInputEvent (.Gesture { type := .GestureScrollBegin, x := 1, y := 1 }))
  exact ⟨_, _, h₁, brackets_respected implEnv false _ (.step .initial h₁)⟩

/-- **The brackets are not respected the other way.**  With smooth scrolling off and a compositor
that takes every scroll on the impl thread: a second scroll begin issues `ScrollBegin` while the
scroll is open; a fling start clears `gesture_scroll_on_impl_thread_` and leaves the scroll open;
and `SynchronouslyZoomBy` during a pinch on the impl thread closes the pinch while
`gesture_pinch_on_impl_thread_` stays set. -/
theorem brackets_broken :
    (∃ p p', Reachable implEnv false false p ∧ scrollOpen implEnv p.proxy.calls = true ∧
      step implEnv p (.HandleInputEvent (.Gesture { type := .GestureScrollBegin, x := 1, y := 1 })) =
        some (some .DidHandle, p') ∧
      ∃ st t, p'.proxy.calls = p.proxy.calls ++ [.ScrollBegin st t]) ∧
    (∃ p p', Reachable implEnv false false p ∧
      step implEnv p (.HandleInputEvent (.Gesture { type := .GestureFlingStart })) =
        some (some .DropEvent, p') ∧
      scrollOpen implEnv p'.proxy.calls = true ∧ p'.proxy.gestureScrollOnImplThread = false) ∧
    (∃ p p', Reachable implEnv false false p ∧
      step implEnv p (.SynchronouslyZoomBy 2 ⟨0, 0⟩) = some (none, p') ∧
      pinchOpen p'.proxy.calls = false ∧ p'.proxy.gesturePinchOnImplThread = true) := by
  have h₁ := @Reachable.step_eq implEnv false false _ .initial
    (.HandleInputEvent (.Gesture { type := .GestureScrollBegin, x := 1, y := 1 }))
  have hp : Reachable implEnv false false _ := .step .initial h₁
  have h₂ := @Reachable.step_eq implEnv false false _ .initial
    (.HandleInputEvent (.Gesture { type := .GesturePinchBegin }))
  have hq : Reachable implEnv false false _ := .step .initial h₂
  exact ⟨⟨_, _, hp, rfl, (hp.step_eq _).trans rfl, _, _, rfl⟩,
    ⟨_, _, hp, (hp.step_eq _).trans rfl, rfl, rfl⟩,
    ⟨_, _, hq, (hq.step_eq _).trans rfl, rfl, rfl⟩⟩

end EBrowser
