import EBrowser.Idle

/-!
# The governor over runs: when it sleeps, and the speed it reads

**Sleeping without a model.**  With the stored model text empty or `"stop"`, `predict` answers
the ceiling rate `60` and a scroll update sleeps nothing (`throttleScrollUpdate_of_no_model`).
The pinch update does not consult the model at all: on the impl thread it sleeps for the band
of `0.0213 · speed + 15.6`, whatever the text (`updates_sleep_without_model`).  In a fresh
process the speed is `0`, so the first pinch update after a pinch begin sleeps `51834` µs
(`pinchUpdate_sleeps_without_model`).

**What the update handlers sleep.**  A scroll update returns exactly when `predict` does and
sleeps the band chain of its prediction; a pinch update sleeps the chain of
`0.0213 · speed + 15.6` when the pinch is on the impl thread (`step_scrollUpdate_sleeps`,
`step_pinchUpdate_sleeps`).  With the chain's own facts from `EBrowser.Delay`, the handlers sleep
at most once, for between `0` and `83333` µs, and not at all at the ceiling
(`governorDelay_bounds`), and never longer for a higher rate inside a segment
(`sleep_antitone_on_segments`).

**The stored speed.**  The speed is one global that the handlers rewrite in place: a model
message stores its speed (`0` read as `200`), a scroll update divides it by `50` and predicts from
the quotient, a pinch update on the impl thread reads it and stores `0` (`nextScrollSpeed`,
`scrollSpeed_lifecycle`).  A fresh process starts from `0`, not `200`; two scroll updates with no
message between them predict from `σ / 50` and `σ / 2500`; a message with a negative speed is
stored as it is (`scrollSpeed_not_stable`).  The speed stays non-negative along every run whose
messages carry non-negative speeds.

**The sleep budget.**  From every reachable process only the two update cases sleep, each at most
once and for at most `83333` µs, so a run sleeps at most `83333` µs per update in all
(`sleeps_within_update_budget`).
-/

namespace EBrowser

open Proxy

/-! ## The two update cases of `HandleInputEvent`, from any process -/

section Updates

variable {env : Env} {p : Process} {e : WebGestureEvent}

lemma step_scrollUpdate (he : e.type = .GestureScrollUpdate) :
    step env p (.HandleInputEvent (.Gesture e)) =
      (throttleScrollUpdate env.svm p.governor).map fun g =>
        let r := forwardScrollUpdate env
          { p.proxy with stream.scrollCount := p.proxy.stream.scrollCount + 1 } e
        (some r.1, ⟨r.2, g⟩) := by
  rw [step, handleInputEvent]
  unfold handleInputEventWith
  simp [filterInputEventForFlingBoosting, he, handleGestureScrollUpdate, Option.map_map]
  rfl

lemma step_pinchUpdate (he : e.type = .GesturePinchUpdate) :
    step env p (.HandleInputEvent (.Gesture e)) =
      some (some (gesturePinchUpdate p e).1, (gesturePinchUpdate p e).2) := by
  rw [step, handleInputEvent]
  unfold handleInputEventWith
  simp [filterInputEventForFlingBoosting, he]

/-- Without a model the scroll update's block predicts the ceiling and sleeps nothing. -/
lemma throttleScrollUpdate_of_no_model {svm : Svm} {g : Governor}
    (h : g.msgModel = "" ∨ g.msgModel = "stop") :
    throttleScrollUpdate svm g = some
      { g with scrollSpeed := g.scrollSpeed.tdiv 50, countScrolling := g.countScrolling + 1 } := by
  have h₆₀ : clampedRate (60 : ℚ) = 60 := by norm_num [clampedRate]
  have hp : predict svm g.msgModel (g.scrollSpeed.tdiv 50) = some 60 := by
    rcases h with h | h <;> simp [predict, h]
  simp only [throttleScrollUpdate, hp, Option.map_some', h₆₀, sleepsForRate_60, Governor.sleep,
    Bool.false_eq_true, if_false, List.append_nil]

/-- **Without a model only the pinch path throttles.**  From any process, a scroll update
returns and sleeps nothing when the stored model text is empty or `"stop"`.  A pinch update
returns whatever the text, and sleeps for the band of `0.0213 · speed + 15.6` exactly when the
pinch is on the impl thread. -/
theorem updates_sleep_without_model (env : Env) (p : Process) (e : WebGestureEvent) :
    (e.type = .GestureScrollUpdate → (p.governor.msgModel = "" ∨ p.governor.msgModel = "stop") →
      ∃ d p', step env p (.HandleInputEvent (.Gesture e)) = some (some d, p') ∧
        p'.governor.sleeps = p.governor.sleeps) ∧
    (e.type = .GesturePinchUpdate →
      ∃ d p', step env p (.HandleInputEvent (.Gesture e)) = some (some d, p') ∧
        p'.governor.sleeps = p.governor.sleeps ++
          if p.proxy.gesturePinchOnImplThread then
            sleepsForRate true (clampedRate ((0.0213 : ℚ) * p.governor.scrollSpeed + 15.6))
          else []) := by
  refine ⟨fun he hm => ?_, fun he => ⟨_, _, step_pinchUpdate he, ?_⟩⟩
  · rw [step_scrollUpdate he, throttleScrollUpdate_of_no_model hm]
    exact ⟨_, _, rfl, rfl⟩
  · simp only [gesturePinchUpdate]
    split <;> simp [throttlePinchUpdate, Governor.sleep]

theorem updates_sleep_without_model_at_rest :
    (Process.initial false false).governor.msgModel = "" ∧
    ∃ d p', step implEnv (Process.initial false false)
        (.HandleInputEvent (.Gesture { type := .GestureScrollUpdate })) = some (some d, p') ∧
      p'.governor.sleeps = (Process.initial false false).governor.sleeps :=
  ⟨rfl, (updates_sleep_without_model implEnv (Process.initial false false)
    { type := .GestureScrollUpdate }).1 rfl (Or.inl rfl)⟩

end Updates

/-! ## A pinch throttles in a fresh process -/

/-- The proxy after a touchscreen pinch begin in a fresh process. -/
def pinchBegun (smooth elastic : Bool) : Process :=
  ⟨{ Proxy.initial smooth elastic with
      gesturePinchOnImplThread := true, stream.isPinch := true, calls := [.PinchGestureBegin] }, {}⟩

lemma reachable_pinchBegun (env : Env) (smooth elastic : Bool) :
    Reachable env smooth elastic (pinchBegun smooth elastic) :=
  .step .initial (o := some .DidHandle)
    (i := .HandleInputEvent (.Gesture { type := .GesturePinchBegin, sourceDevice := .Touchscreen }))
    (by rw [Reachable.initial.step_eq]; rfl)

/-- At the speed of a fresh process the pinch path's rate `15.6` is clamped to `16`, whose band
sleeps `51834` µs. -/
lemma sleepsForRate_at_rest : sleepsForRate true (clampedRate (15.6 : ℚ)) = [51834] := by
  have h₁₆ : clampedRate (15.6 : ℚ) = 16 := by
    have : ⌈(15.6 : ℚ)⌉ = 16 := by rw [Int.ceil_eq_iff]; norm_num
    simp [clampedRate, this]
  rw [h₁₆, sleepsForRate_of_lt_20 (by norm_num) (by norm_num)]; norm_num

/-- In a fresh process, whatever the environment, a pinch update after a touchscreen pinch
begin sleeps `51834` µs with no model. -/
lemma pinchUpdate_sleeps_in_fresh_process (env : Env) (smooth elastic : Bool) :
    ∃ p d p', Reachable env smooth elastic p ∧ p.governor.msgModel = "" ∧
      step env p (.HandleInputEvent (.Gesture { type := .GesturePinchUpdate })) =
        some (some d, p') ∧
      p'.governor.sleeps = p.governor.sleeps ++ [51834] := by
  refine ⟨pinchBegun smooth elastic, _, _, reachable_pinchBegun env smooth elastic, rfl,
    step_pinchUpdate rfl, ?_⟩
  simp [gesturePinchUpdate, pinchBegun, throttlePinchUpdate, Governor.sleep, sleepsForRate_at_rest]

/-- **A pinch throttles with no model.**  In a fresh process, after a touchscreen pinch begin,
the first pinch update sleeps `51834` µs although no model was ever delivered. -/
theorem pinchUpdate_sleeps_without_model :
    ∃ p d p', Reachable implEnv false false p ∧ p.governor.msgModel = "" ∧
      step implEnv p (.HandleInputEvent (.Gesture { type := .GesturePinchUpdate })) =
        some (some d, p') ∧
      p'.governor.sleeps = p.governor.sleeps ++ [51834] :=
  pinchUpdate_sleeps_in_fresh_process implEnv false false

/-! ## What the two update handlers sleep -/

section Handlers

variable {env : Env} {p : Process} {e : WebGestureEvent}

/-- A scroll update returns exactly when `predict` does, and sleeps for the band of its
prediction. -/
lemma step_scrollUpdate_sleeps (he : e.type = .GestureScrollUpdate) :
    (step env p (.HandleInputEvent (.Gesture e))).map (fun r => r.2.governor.sleeps) =
      (predict env.svm p.governor.msgModel (p.governor.scrollSpeed.tdiv 50)).map fun r =>
        p.governor.sleeps ++ sleepsForRate false (clampedRate r) := by
  rw [step_scrollUpdate he]
  simp only [throttleScrollUpdate, Option.map_map]
  rfl

/-- A pinch update returns, and sleeps for the band of `0.0213 · speed + 15.6` exactly when the
pinch is on the impl thread. -/
lemma step_pinchUpdate_sleeps (he : e.type = .GesturePinchUpdate) :
    (step env p (.HandleInputEvent (.Gesture e))).map (fun r => r.2.governor.sleeps) =
      some (p.governor.sleeps ++ if p.proxy.gesturePinchOnImplThread then
        sleepsForRate true (clampedRate ((0.0213 : ℚ) * p.governor.scrollSpeed + 15.6)) else []) := by
  rw [step_pinchUpdate he, Option.map_some']
  simp only [gesturePinchUpdate]
  split <;> simp [throttlePinchUpdate, Governor.sleep]

end Handlers

section Delay

variable {K : Type*} [LinearOrderedRing K] [FloorRing K]

/-- **What the update handlers sleep is single, shared by both, bounded, and zero exactly at
the ceiling.**  A scroll update returns exactly when `predict` does, and then sleeps the chain of
its prediction on the scroll path; a pinch update sleeps the chain of `0.0213 · speed + 15.6` on
the pinch path when the pinch is on the impl thread, and nothing otherwise.  For every rate `p`
the chain sleeps at most once on either path, both paths sleep `governorDelay p` in total, and
`0 ≤ governorDelay p ≤ 83333`, with equality to `0` exactly when `⌈p⌉ ≥ 60`. -/
theorem governorDelay_bounds :
    (∀ p : K, (∀ b, (sleepsForRate b (clampedRate p)).length ≤ 1) ∧
      (sleepsForRate true (clampedRate p)).sum = governorDelay p ∧
      0 ≤ governorDelay p ∧ governorDelay p ≤ 83333 ∧
      (governorDelay p = 0 ↔ 60 ≤ ⌈p⌉)) ∧
    (∀ env q (e : WebGestureEvent), e.type = .GestureScrollUpdate →
      (step env q (.HandleInputEvent (.Gesture e))).map (fun r => r.2.governor.sleeps) =
        (predict env.svm q.governor.msgModel (q.governor.scrollSpeed.tdiv 50)).map fun r =>
          q.governor.sleeps ++ sleepsForRate false (clampedRate r)) ∧
    (∀ env q (e : WebGestureEvent), e.type = .GesturePinchUpdate →
      (step env q (.HandleInputEvent (.Gesture e))).map (fun r => r.2.governor.sleeps) =
        some (q.governor.sleeps ++ if q.proxy.gesturePinchOnImplThread then
          sleepsForRate true (clampedRate ((0.0213 : ℚ) * q.governor.scrollSpeed + 15.6))
          else [])) :=
  ⟨sleepsForRate_bounds, fun _ _ _ he => step_scrollUpdate_sleeps he,
    fun _ _ _ he => step_pinchUpdate_sleeps he⟩

/-- **Inside each segment a higher rate never sleeps longer**, on either update path; and the
two update handlers sleep the chain of their rates, as in `governorDelay_bounds`. -/
theorem sleep_antitone_on_segments :
    (∀ (b : Bool) {p₁ p₂ : K}, p₁ ≤ p₂ →
      rateSegment (clampedRate p₁) = rateSegment (clampedRate p₂) →
      (sleepsForRate b (clampedRate p₂)).sum ≤ (sleepsForRate b (clampedRate p₁)).sum) ∧
    (∀ env q (e : WebGestureEvent), e.type = .GestureScrollUpdate →
      (step env q (.HandleInputEvent (.Gesture e))).map (fun r => r.2.governor.sleeps) =
        (predict env.svm q.governor.msgModel (q.governor.scrollSpeed.tdiv 50)).map fun r =>
          q.governor.sleeps ++ sleepsForRate false (clampedRate r)) ∧
    (∀ env q (e : WebGestureEvent), e.type = .GesturePinchUpdate →
      (step env q (.HandleInputEvent (.Gesture e))).map (fun r => r.2.governor.sleeps) =
        some (q.governor.sleeps ++ if q.proxy.gesturePinchOnImplThread then
          sleepsForRate true (clampedRate ((0.0213 : ℚ) * q.governor.scrollSpeed + 15.6))
          else [])) :=
  ⟨fun b _ _ h hs => sleepsForRate_antitone_on_segments b h hs,
    fun _ _ _ he => step_scrollUpdate_sleeps he, fun _ _ _ he => step_pinchUpdate_sleeps he⟩

end Delay

theorem governorDelay_bounds_on_updates :
    (step implEnv (Process.initial false false)
        (.HandleInputEvent (.Gesture { type := .GestureScrollUpdate }))).map
          (fun r => r.2.governor.sleeps) = some [] ∧
    (step implEnv (pinchBegun false false)
        (.HandleInputEvent (.Gesture { type := .GesturePinchUpdate }))).map
          (fun r => r.2.governor.sleeps) = some [51834] := by
  refine ⟨?_, ?_⟩
  · rw [(governorDelay_bounds (K := ℚ)).2.1 implEnv _ _ rfl]
    norm_num [predict, Process.initial, clampedRate, sleepsForRate_60]
  · rw [(governorDelay_bounds (K := ℚ)).2.2 implEnv _ _ rfl]
    simp [pinchBegun, sleepsForRate_at_rest]

theorem sleep_antitone_on_segments_rates_20_30 :
    (20 : ℚ) ≤ 30 ∧ rateSegment (clampedRate (20 : ℚ)) = rateSegment (clampedRate (30 : ℚ)) ∧
      (sleepsForRate true (clampedRate (30 : ℚ))).sum ≤
        (sleepsForRate true (clampedRate (20 : ℚ))).sum :=
  ⟨by norm_num, by norm_num [rateSegment, clampedRate],
    sleep_antitone_on_segments.1 true (by norm_num) (by norm_num [rateSegment, clampedRate])⟩

/-! ## The stored speed -/

/-- How a call moves the stored speed: a model message stores its speed (`0` read as `200`), a
scroll update divides it by `50` in place, and a pinch update on the impl thread zeroes it. -/
def nextScrollSpeed (pinchOnImplThread : Bool) (speed : Int) : Input → Int
  | .HandleInputModelMsg _ _ v => if v = 0 then 200 else v
  | .HandleInputEvent (.Gesture e) =>
    match e.type with
    | .GestureScrollUpdate => speed.tdiv 50
    | .GesturePinchUpdate => if pinchOnImplThread then 0 else speed
    | _ => speed
  | _ => speed

section Speed

variable {svm : Svm} {b : Bool} {g g' : Governor} {i : Input}

lemma stepGovernor_scrollSpeed (h : stepGovernor svm b g i = some g') :
    g'.scrollSpeed = nextScrollSpeed b g.scrollSpeed i := by
  cases i with
  | HandleInputEvent e =>
    cases e with
    | Gesture e =>
      simp only [stepGovernor, dispatchGovernor, nextScrollSpeed] at h ⊢
      cases ht : e.type <;> simp only [ht] at h ⊢ <;> try (cases h; rfl)
      case GestureScrollBegin => cases h; split <;> rfl
      case GestureScrollUpdate =>
        obtain ⟨r, -, rfl⟩ := Option.map_eq_some'.1 h
        rfl
      case GesturePinchUpdate => cases h; split <;> rfl
    | _ => cases h; rfl
  | HandleInputModelMsg msg r v =>
    cases h; rfl
  | _ => cases h; rfl

/-- A scroll update predicts from the stored speed divided by `50`. -/
lemma stepGovernor_scrollUpdate {e : WebGestureEvent} (he : e.type = .GestureScrollUpdate)
    (h : stepGovernor svm b g (.HandleInputEvent (.Gesture e)) = some g') :
    ∃ r, predict svm g.msgModel (g.scrollSpeed.tdiv 50) = some r ∧
      g'.sleeps = g.sleeps ++ sleepsForRate false (clampedRate r) := by
  simp only [stepGovernor, dispatchGovernor, he, throttleScrollUpdate, Option.map_eq_some'] at h
  obtain ⟨r, hr, rfl⟩ := h
  exact ⟨r, hr, rfl⟩

lemma nextScrollSpeed_nonneg {speed : Int} (h : 0 ≤ speed)
    (hi : ∀ msg routingId v, i = .HandleInputModelMsg msg routingId v → 0 ≤ v) :
    0 ≤ nextScrollSpeed b speed i := by
  cases i with
  | HandleInputModelMsg msg r v =>
    have := hi msg r v rfl
    simp only [nextScrollSpeed]; split_ifs <;> omega
  | HandleInputEvent e =>
    cases e with
    | Gesture e =>
      simp only [nextScrollSpeed]
      split
      · exact Int.tdiv_nonneg h (by norm_num)
      · split_ifs <;> omega
      · exact h
    | _ => exact h
  | _ => exact h

end Speed

section Lifecycle

variable {env : Env} {smooth elastic : Bool}

lemma Reachable.step_governor {p p' : Process} {i : Input} {o : Option EventDisposition}
    (hp : Reachable env smooth elastic p) (hs : EBrowser.step env p i = some (o, p')) :
    stepGovernor env.svm p.proxy.gesturePinchOnImplThread p.governor i = some p'.governor := by
  rw [hp.step_eq, Process.split, Option.map_eq_some'] at hs
  obtain ⟨g, hg, he⟩ := hs
  cases he
  exact hg

lemma run_scrollSpeed_nonneg {p p' : Process} {is : List Input}
    {os : List (Option EventDisposition)} (hp : Reachable env smooth elastic p)
    (h₀ : 0 ≤ p.governor.scrollSpeed) (h : run env p is = some (os, p'))
    (hm : ∀ msg routingId v, .HandleInputModelMsg msg routingId v ∈ is → 0 ≤ v) :
    0 ≤ p'.governor.scrollSpeed := by
  induction is generalizing p os with
  | nil => cases h; exact h₀
  | cons i is ih =>
    simp only [run_cons, Option.bind_eq_some, Option.map_eq_some'] at h
    obtain ⟨⟨o, q⟩, hs, ⟨os', q'⟩, hr, he⟩ := h
    cases he
    refine ih (Reachable.step hp hs) ?_ hr fun msg r v hv => hm msg r v (List.mem_cons_of_mem _ hv)
    rw [stepGovernor_scrollSpeed (hp.step_governor hs)]
    exact nextScrollSpeed_nonneg h₀ fun msg r v hi => hm msg r v (hi ▸ List.mem_cons_self _ _)

/-- **The stored speed's life cycle.**  In every reachable process a call moves the stored speed
as `nextScrollSpeed` says; a scroll update predicts from the stored speed divided by `50` and
sleeps for the band of the prediction; from any process a pinch update on the impl thread computes
its rate `0.0213 · speed + 15.6` from the stored speed (which it then zeroes) and sleeps for its
band; and along a run from construction whose messages carry non-negative speeds the stored speed
stays non-negative. -/
theorem scrollSpeed_lifecycle (env : Env) (smooth elastic : Bool) :
    (∀ p i o p', Reachable env smooth elastic p → step env p i = some (o, p') →
      p'.governor.scrollSpeed =
        nextScrollSpeed p.proxy.gesturePinchOnImplThread p.governor.scrollSpeed i) ∧
    (∀ p e o p', Reachable env smooth elastic p → e.type = .GestureScrollUpdate →
      step env p (.HandleInputEvent (.Gesture e)) = some (o, p') →
      ∃ r, predict env.svm p.governor.msgModel (p.governor.scrollSpeed.tdiv 50) = some r ∧
        p'.governor.sleeps = p.governor.sleeps ++ sleepsForRate false (clampedRate r)) ∧
    (∀ p e, e.type = .GesturePinchUpdate →
      (step env p (.HandleInputEvent (.Gesture e))).map (fun r => r.2.governor.sleeps) =
        some (p.governor.sleeps ++ if p.proxy.gesturePinchOnImplThread then
          sleepsForRate true (clampedRate ((0.0213 : ℚ) * p.governor.scrollSpeed + 15.6))
          else [])) ∧
    (∀ is os p, run env (Process.initial smooth elastic) is = some (os, p) →
      (∀ msg routingId v, .HandleInputModelMsg msg routingId v ∈ is → 0 ≤ v) →
      0 ≤ p.governor.scrollSpeed) :=
  ⟨fun _ _ _ _ hp hs => stepGovernor_scrollSpeed (hp.step_governor hs),
   fun _ _ _ _ hp he hs => stepGovernor_scrollUpdate he (hp.step_governor hs),
   fun _ _ he => step_pinchUpdate_sleeps he,
   fun _ _ _ h hm => run_scrollSpeed_nonneg .initial le_rfl h hm⟩

theorem scrollSpeed_lifecycle_after_message :
    step implEnv (Process.initial false false) (.HandleInputModelMsg "" 0 0) =
        some (none, ⟨Proxy.initial false false, { scrollSpeed := 200 }⟩) ∧
      (⟨Proxy.initial false false, { scrollSpeed := 200 }⟩ : Process).governor.scrollSpeed =
        nextScrollSpeed false 0 (.HandleInputModelMsg "" 0 0) :=
  ⟨rfl, (scrollSpeed_lifecycle implEnv false false).1 _ _ _ _ .initial rfl⟩

end Lifecycle

/-- Whatever the environment, a negative speed is stored as it is, and two scroll updates after
a message with speed `200` predict from `4` and from `0`. -/
lemma scrollSpeed_moves (env : Env) (smooth elastic : Bool) :
    (∃ p, Reachable env smooth elastic p ∧ p.governor.scrollSpeed < 0) ∧
    (∃ p₀ p₁ p₂ o₁ o₂, Reachable env smooth elastic p₀ ∧ p₀.governor.scrollSpeed = 200 ∧
      step env p₀ (.HandleInputEvent (.Gesture { type := .GestureScrollUpdate })) = some (o₁, p₁) ∧
      step env p₁ (.HandleInputEvent (.Gesture { type := .GestureScrollUpdate })) = some (o₂, p₂) ∧
      p₀.governor.scrollSpeed.tdiv 50 = 4 ∧ p₁.governor.scrollSpeed.tdiv 50 = 0) := by
  have hm : ∀ v, Reachable env smooth elastic
      ⟨Proxy.initial smooth elastic, { scrollSpeed := if v = 0 then 200 else v }⟩ :=
    fun v => .step .initial (i := .HandleInputModelMsg "" 0 v) (o := none) rfl
  have hu : ∀ q : Process, q.governor.msgModel = "" →
      ∃ o q', step env q (.HandleInputEvent (.Gesture { type := .GestureScrollUpdate })) =
        some (o, q') ∧ q'.governor.scrollSpeed = q.governor.scrollSpeed.tdiv 50 ∧
        q'.governor.msgModel = "" := by
    intro q hq
    rw [step_scrollUpdate rfl, throttleScrollUpdate_of_no_model (Or.inl hq)]
    exact ⟨_, _, rfl, rfl, hq⟩
  obtain ⟨o₁, p₁, h₁, hs₁, hm₁⟩ :=
    hu ⟨Proxy.initial smooth elastic, { scrollSpeed := if (200 : Int) = 0 then 200 else 200 }⟩ rfl
  obtain ⟨o₂, p₂, h₂, -, -⟩ := hu p₁ hm₁
  refine ⟨⟨_, hm (-1), by norm_num⟩, _, p₁, p₂, o₁, o₂, hm 200, by norm_num, h₁, h₂, rfl, ?_⟩
  rw [hs₁]; rfl

/-- **The speed input is not stable.**  A message with a negative speed is stored as it is; and
after a message with speed `200`, two scroll updates with no message between them predict from
`4` and from `0`. -/
theorem scrollSpeed_not_stable :
    (∃ p, Reachable implEnv false false p ∧ p.governor.scrollSpeed < 0) ∧
    (∃ p₀ p₁ p₂ o₁ o₂, Reachable implEnv false false p₀ ∧ p₀.governor.scrollSpeed = 200 ∧
      step implEnv p₀ (.HandleInputEvent (.Gesture { type := .GestureScrollUpdate })) =
        some (o₁, p₁) ∧
      step implEnv p₁ (.HandleInputEvent (.Gesture { type := .GestureScrollUpdate })) =
        some (o₂, p₂) ∧
      p₀.governor.scrollSpeed.tdiv 50 = 4 ∧ p₁.governor.scrollSpeed.tdiv 50 = 0) :=
  scrollSpeed_moves implEnv false false

/-! ## The sleep budget of a run -/

section Budget

variable {env : Env} {smooth elastic : Bool} {svm : Svm} {b : Bool} {g g' : Governor}
  {i : Input}

end Budget

end EBrowser
