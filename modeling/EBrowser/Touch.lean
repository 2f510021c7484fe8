import EBrowser.Idle

/-!
# The touch sequence

`touch_start_result_` remembers, across one touch sequence, the strongest disposition
`HandleTouchStart` computed for its touch starts, and every `TouchMove` returns it.

**The account.**  A call marks the sequence (`touchMark`): a `TouchStart` with the disposition
`HandleTouchStart` computes for it before the touch-end-listener adjustment, a `TouchEnd` with
one touch as its end, anything else not at all.  `touchHistory` folds the marks of a run: undefined
at the start of a sequence, then the highest of the computed dispositions in the order
`DROP_EVENT < DID_HANDLE_NON_BLOCKING < DID_NOT_HANDLE`.

**The code keeps it.**  The three-way condition of `HandleTouchStart` is that maximum on the
values it can see (`mergeTouchStartResult_eq_touchMax`): a touch start never computes
`DID_HANDLE`, so the stored result never holds it.  No other handler writes the member, so by
induction over a run the member is the account of the run's marks, and a `TouchMove` at the end
of the run returns it (`touchStartResult_tracks_sequence`).
-/

namespace EBrowser

open Proxy

/-! ## The account of a touch sequence -/

/-- The order the merge of `HandleTouchStart` keeps; `DID_HANDLE`, which a touch start never
computes, is put above the rest. -/
def touchRank : EventDisposition → Nat
  | .DropEvent => 0
  | .DidHandleNonBlocking => 1
  | .DidNotHandle => 2
  | .DidHandle => 3

/-- The higher of two dispositions in that order. -/
def touchMax (a b : EventDisposition) : EventDisposition :=
  if touchRank a ≤ touchRank b then b else a

/-- What one call contributes to the touch sequence. -/
inductive TouchMark
  /-- A `TouchStart`, with the disposition computed for it before the touch-end adjustment. -/
  | start (result : EventDisposition)
  /-- A `TouchEnd` with one touch. -/
  | finish
  | skip
  deriving DecidableEq, Repr

/-- The mark of one call on a proxy. -/
def touchMark (env : Env) (s : Proxy) : Input → TouchMark
  | .HandleInputEvent (.Touch e) =>
    match e.type with
    | .TouchStart => .start (touchStartDisposition env s e).1
    | .TouchEnd => if e.touches.length = 1 then .finish else .skip
    | _ => .skip
  | _ => .skip

/-- One mark on the account: a touch start raises it to its result, an end clears it. -/
def touchAccount (r : Option EventDisposition) : TouchMark → Option EventDisposition
  | .start d => some (match r with
    | none => d
    | some r => touchMax r d)
  | .finish => none
  | .skip => r

/-- The account after a list of marks, from an account `r`. -/
def touchHistory (r : Option EventDisposition) (marks : List TouchMark) : Option EventDisposition :=
  marks.foldl touchAccount r

/-! ## The code against the account -/

section Touch

variable {env : Env} {s : Proxy}

/-- The disposition a touch start computes for itself is one of the three of the order. -/
lemma touchStartDisposition_ne_didHandle (e : WebTouchEvent) :
    (touchStartDisposition env s e).1 ≠ .DidHandle := by
  simp only [touchStartDisposition, Proxy.query, apply_ite Prod.fst]
  split_ifs
  · nofun
  · split <;> nofun

/-- **The merge is the maximum.**  On results other than `DID_HANDLE`, the three-way condition of
`HandleTouchStart` keeps the higher of the stored and the new result. -/
lemma mergeTouchStartResult_eq_touchMax {r : Option EventDisposition} {d : EventDisposition}
    (hr : r ≠ some .DidHandle) (hd : d ≠ .DidHandle) :
    mergeTouchStartResult r d = touchAccount r (.start d) := by
  rcases r with _ | r
  · rfl
  · cases r <;> cases d <;> first | rfl | exact absurd rfl hr | exact absurd rfl hd

lemma touchesBlockScroll_touchStartResult (ts : List WebTouchPoint) :
    (touchesBlockScroll env s ts).2.touchStartResult = s.touchStartResult := by
  induction ts generalizing s with
  | nil => rfl
  | cons t ts ih =>
    simp only [touchesBlockScroll, Proxy.query, apply_ite Prod.snd]
    split_ifs <;> first | rfl | exact ih

lemma handleTouchStart_touchStartResult (e : WebTouchEvent) :
    (handleTouchStart env s e).2.touchStartResult =
      mergeTouchStartResult s.touchStartResult (touchStartDisposition env s e).1 := by
  have h : (touchStartDisposition env s e).2.touchStartResult = s.touchStartResult := by
    simp only [touchStartDisposition, Proxy.query, Proxy.issue, apply_ite Prod.snd,
      apply_ite Proxy.touchStartResult, touchesBlockScroll_touchStartResult, ite_self]
  simp only [handleTouchStart, Proxy.query, Proxy.issue, apply_ite Prod.snd, h]
  split_ifs <;> rfl

lemma scrollBeginAfterCancel_touchStartResult (e : WebGestureEvent) :
    (scrollBeginAfterCancel env s e).2.touchStartResult = s.touchStartResult := by
  have hr : ∀ s : Proxy, (scrollBeginRoute env s e).2.touchStartResult = s.touchStartResult :=
    fun _ => by simp only [scrollBeginRoute, Proxy.query]; split_ifs <;> rfl
  have he : ∀ thread (s : Proxy), (enterScroll thread s).2.touchStartResult = s.touchStartResult :=
    fun thread _ => by cases thread <;> rfl
  simp only [scrollBeginAfterCancel, handleScrollElasticityOverscroll, Proxy.issue,
    apply_ite Prod.snd, apply_ite Proxy.touchStartResult, he, hr, ite_self]

lemma handleOverscroll_touchStartResult (point : Point) (result : InputHandlerScrollResult)
    (b : Bool) : (handleOverscroll s point result b).touchStartResult = s.touchStartResult := by
  simp only [handleOverscroll]; split_ifs <;> rfl

lemma forwardScrollUpdate_touchStartResult (e : WebGestureEvent) :
    (forwardScrollUpdate env s e).2.touchStartResult = s.touchStartResult := by
  simp only [forwardScrollUpdate, Proxy.query, apply_ite Prod.snd]
  split_ifs <;> simp only [handleScrollElasticityOverscroll, Proxy.issue,
    handleOverscroll_touchStartResult]

lemma handleGestureScrollEnd_touchStartResult (e : WebGestureEvent) :
    (handleGestureScrollEnd s e).2.touchStartResult = s.touchStartResult := by
  simp only [handleGestureScrollEnd, handleScrollElasticityOverscroll, Proxy.issue,
    apply_ite Prod.snd]
  split_ifs <;> rfl

lemma gesturePinchBegin_touchStartResult (e : WebGestureEvent) :
    (gesturePinchBegin env s e).2.touchStartResult = s.touchStartResult := by
  simp only [gesturePinchBegin, pinchBeginOnImplThread, Proxy.query, Proxy.issue,
    apply_ite Prod.snd]
  split_ifs <;> rfl

lemma gesturePinchEnd_touchStartResult :
    (gesturePinchEnd s).2.touchStartResult = s.touchStartResult := by
  simp only [gesturePinchEnd, apply_ite Prod.snd]; split_ifs <;> rfl

lemma forwardPinchUpdate_touchStartResult (e : WebGestureEvent) :
    (forwardPinchUpdate s e).2.touchStartResult = s.touchStartResult := by
  simp only [forwardPinchUpdate, apply_ite Prod.snd]; split_ifs <;> rfl

lemma handleMouseEvent_touchStartResult (e : WebMouseEvent) :
    (handleMouseEvent s e).touchStartResult = s.touchStartResult := by
  simp only [handleMouseEvent]; split <;> (try split_ifs) <;> rfl

/-- **What a step does to `touch_start_result_`.**  On a proxy with no fling whose stored result
is not `DID_HANDLE`, the proxy part of a step moves the member as the call's mark moves the
account. -/
lemma stepProxy_touchStartResult (hi : FlingIdle s) (hs : s.touchStartResult ≠ some .DidHandle)
    (i : Input) :
    (stepProxy env s i).2.touchStartResult =
      touchAccount s.touchStartResult (touchMark env s i) := by
  have hr : (resetFling s).touchStartResult = s.touchStartResult := by
    rw [resetFling_of_idle hi]
  cases i with
  | HandleInputEvent e =>
    cases e with
    | Gesture e =>
      simp only [stepProxy, touchMark, touchAccount]
      cases ht : e.type <;> simp only [dispatchProxy, ht]
      case GestureScrollBegin =>
        split_ifs
        · rfl
        · rw [scrollBeginAfterCancel_touchStartResult, hr]
        · rw [scrollBeginAfterCancel_touchStartResult]
      case GestureScrollUpdate => exact forwardScrollUpdate_touchStartResult e
      case GestureScrollEnd => exact handleGestureScrollEnd_touchStartResult e
      case GesturePinchBegin => exact gesturePinchBegin_touchStartResult e
      case GesturePinchEnd => exact gesturePinchEnd_touchStartResult
      case GesturePinchUpdate =>
        split
        · exact forwardPinchUpdate_touchStartResult e
        · rfl
      case GestureFlingStart => exact hr
      case GestureFlingCancel => exact hr
    | Touch e =>
      simp only [stepProxy, touchMark]
      cases ht : e.type <;> simp only [dispatchProxy, touchAccount, ht]
      case TouchStart =>
        rw [handleTouchStart_touchStartResult,
          mergeTouchStartResult_eq_touchMax hs (touchStartDisposition_ne_didHandle e)]
        rfl
      case TouchEnd => simp only [handleTouchEnd]; split_ifs <;> rfl
    | Mouse e => exact handleMouseEvent_touchStartResult e
    | MouseWheel e => rfl
    | Keyboard e => rfl
  | Animate time => simp only [stepProxy]; split <;> rfl
  | RunPostedTask => simp only [stepProxy, runPostedTask]; split <;> rfl
  | _ => rfl

/-- The account never holds `DID_HANDLE` when the computed results do not. -/
lemma touchAccount_ne_didHandle {r : Option EventDisposition} (hr : r ≠ some .DidHandle)
    {m : TouchMark} (hm : ∀ d, m = .start d → d ≠ .DidHandle) :
    touchAccount r m ≠ some .DidHandle := by
  cases m with
  | start d =>
    have hd := hm d rfl
    rcases r with _ | r
    · simpa [touchAccount] using hd
    · cases r <;> cases d <;> simp_all [touchAccount, touchMax, touchRank]
  | finish => nofun
  | skip => exact hr

lemma touchMark_start {i : Input} {d : EventDisposition} (h : touchMark env s i = .start d) :
    d ≠ .DidHandle := by
  rcases i with (e | e | e | e | e) | _ | _ | _ | _ | _ <;> simp only [touchMark] at h <;>
    try cases h
  split at h
  · cases h; exact touchStartDisposition_ne_didHandle e
  · split at h <;> cases h
  · cases h

end Touch

/-! ## Over a run -/

section Run

variable {env : Env} {smooth elastic : Bool}

/-- **The member follows the account along a run.**  From a reachable process whose stored
result is not `DID_HANDLE`, a run ends with the member at the account of the run's marks, and the
stored result is still not `DID_HANDLE`. -/
lemma run_touchStartResult {p p' : Process} {is : List Input} {os : List (Option EventDisposition)}
    (hp : Reachable env smooth elastic p) (hs : p.proxy.touchStartResult ≠ some .DidHandle)
    (h : run env p is = some (os, p')) :
    p'.proxy.touchStartResult =
      touchHistory p.proxy.touchStartResult (observe (fun q => touchMark env q.proxy) env p is) ∧
    p'.proxy.touchStartResult ≠ some .DidHandle := by
  induction is generalizing p os with
  | nil => cases h; exact ⟨rfl, hs⟩
  | cons i is ih =>
    simp only [run_cons, Option.bind_eq_some, Option.map_eq_some'] at h
    obtain ⟨⟨o, q⟩, hq, ⟨os', q'⟩, hr, he⟩ := h
    cases he
    have hstep := hq
    rw [hp.step_eq, Process.split, Option.map_eq_some'] at hstep
    obtain ⟨g, -, hg⟩ := hstep
    cases hg
    have h₁ := @stepProxy_touchStartResult env p.proxy hp.flingIdle hs i
    have h₂ := touchAccount_ne_didHandle (m := touchMark env p.proxy i) hs
      fun d hd => touchMark_start hd
    rw [← h₁] at h₂
    obtain ⟨ih₁, ih₂⟩ := ih (hp.step hq) h₂ hr
    refine ⟨?_, ih₂⟩
    simp only [observe, hq, touchHistory, List.foldl_cons] at ih₁ ⊢
    rw [ih₁, h₁]

end Run

/-- **`touch_start_result_` is the running maximum of the touch sequence.**  After any run from
construction, `touch_start_result_` is undefined if no `TouchStart` was handled since
construction or since the last `TouchEnd` with one touch, and otherwise the highest, in the order
`DROP_EVENT < DID_HANDLE_NON_BLOCKING < DID_NOT_HANDLE`, of the dispositions `HandleTouchStart`
computed for those touch starts before its touch-end adjustment.  A `TouchMove` then returns that
value, `DID_NOT_HANDLE` when it is undefined, and changes nothing. -/
theorem touchStartResult_tracks_sequence (env : Env) (smooth elastic : Bool) (is : List Input)
    (os : List (Option EventDisposition)) (p : Process)
    (h : run env (Process.initial smooth elastic) is = some (os, p)) :
    p.proxy.touchStartResult =
      touchHistory none (observe (fun q => touchMark env q.proxy) env (Process.initial smooth elastic) is) ∧
    ∀ e : WebTouchEvent, e.type = .TouchMove →
      step env p (.HandleInputEvent (.Touch e)) =
        some (some ((touchHistory none (observe (fun q => touchMark env q.proxy) env
          (Process.initial smooth elastic) is)).getD .DidNotHandle), p) := by
  have h₁ : p.proxy.touchStartResult = touchHistory none
      (observe (fun q => touchMark env q.proxy) env (Process.initial smooth elastic) is) :=
    (run_touchStartResult .initial (fun h => by cases h) h).1
  refine ⟨h₁, fun e he => ?_⟩
  rw [(reachable_of_run .initial h).step_eq, ← h₁]
  simp [Process.split, stepGovernor, dispatchGovernor, stepProxy, dispatchProxy, he,
    handleTouchMove]

theorem touchStartResult_tracks_sequence_after_start :
    ∃ p₃ p,
      (∃ os, run { implEnv with listenerProperties := fun _ => .kPassive, touchBlocksScroll := fun _ => true }
        (Process.initial false false)
        [.HandleInputEvent (.Touch { type := .TouchStart, touches := [] }),
          .HandleInputEvent (.Touch { type := .TouchStart, touches := [⟨.StatePressed, 0, 0⟩] }),
          .HandleInputEvent (.Touch { type := .TouchStart, touches := [] })] = some (os, p₃)) ∧
      step { implEnv with listenerProperties := fun _ => .kPassive, touchBlocksScroll := fun _ => true } p₃
        (.HandleInputEvent (.Touch { type := .TouchMove, touches := [] })) = some (some .DidNotHandle, p₃) ∧
      (∃ os, run { implEnv with listenerProperties := fun _ => .kPassive, touchBlocksScroll := fun _ => true }
        (Process.initial false false)
        [.HandleInputEvent (.Touch { type := .TouchStart, touches := [] }),
          .HandleInputEvent (.Touch { type := .TouchStart, touches := [⟨.StatePressed, 0, 0⟩] }),
          .HandleInputEvent (.Touch { type := .TouchStart, touches := [] }),
          .HandleInputEvent (.Touch { type := .TouchEnd, touches := [⟨.StateReleased, 0, 0⟩] }),
          .HandleInputEvent (.Touch { type := .TouchStart, touches := [] })] = some (os, p)) ∧
      step { implEnv with listenerProperties := fun _ => .kPassive, touchBlocksScroll := fun _ => true } p
        (.HandleInputEvent (.Touch { type := .TouchMove, touches := [] })) =
          some (some .DidHandleNonBlocking, p) := by
  have r₃ := @run_of_idle
    { implEnv with listenerProperties := fun _ => .kPassive, touchBlocksScroll := fun _ => true }
    (Process.initial false false) rfl
    [.HandleInputEvent (.Touch { type := .TouchStart, touches := [] }),
      .HandleInputEvent (.Touch { type := .TouchStart, touches := [⟨.StatePressed, 0, 0⟩] }),
      .HandleInputEvent (.Touch { type := .TouchStart, touches := [] })]
  have r₅ := @run_of_idle
    { implEnv with listenerProperties := fun _ => .kPassive, touchBlocksScroll := fun _ => true }
    (Process.initial false false) rfl
    [.HandleInputEvent (.Touch { type := .TouchStart, touches := [] }),
      .HandleInputEvent (.Touch { type := .TouchStart, touches := [⟨.StatePressed, 0, 0⟩] }),
      .HandleInputEvent (.Touch { type := .TouchStart, touches := [] }),
      .HandleInputEvent (.Touch { type := .TouchEnd, touches := [⟨.StateReleased, 0, 0⟩] }),
      .HandleInputEvent (.Touch { type := .TouchStart, touches := [] })]
  obtain ⟨h₃, m₃⟩ := touchStartResult_tracks_sequence _ false false _ _ _ r₃
  obtain ⟨h₅, m₅⟩ := touchStartResult_tracks_sequence _ false false _ _ _ r₅
  exact ⟨_, _, ⟨_, r₃⟩, (m₃ _ rfl).trans (by rw [← h₃]; rfl), ⟨_, r₅⟩,
    (m₅ _ rfl).trans (by rw [← h₅]; rfl)⟩

end EBrowser
