import EBrowser.Throttle

/-!
# What the governor's globals cannot change

**The run splits.**  Every run from construction is the proxy's part run on its own
(`runProxy`), which never sees the globals and never ends the process, paired with the governor's
part (`runGovernor`), which reads of the proxy one flag before each call and decides only whether
the run returns (`run_split`).  So whatever the model, the speed and the sleeps, a run that
returns gives each event the disposition and issues the calls that the proxy alone would.

Two runs from construction that differ only in what reaches the governor's globals behave the
same way toward the outside: every event gets the same disposition and the same calls are
issued, in the same order.  Both results below come from one run lemma, `run_rel`: two processes
with the same proxy and related globals, given related inputs, stay so along their runs, as long
as one step of the governor's part keeps the relation (`step_of_idle` has already separated the
proxy's part, which is the same function of the same proxy in both runs).

**Model messages.**  Runs whose model messages differ in any argument, with model texts that are
empty, `"stop"` or accepted by `svm_load_model`, both run to the end, with the same dispositions
and the same proxy (`model_noninterference`): the model text, the routing id and the speed reach
only the sleeps.  With any other text the first scroll update ends the process, and from a
reachable process nothing else does (`step_eq_none_iff_model_rejected`).

**Sentinel scroll begins.**  Inserting a scroll begin at `(-1, -1)` or `(0, 0)` anywhere in a run
adds its own `DROP_EVENT` and changes nothing else but the frame-rate hint `fps`, which no later
handler reads: the same dispositions, the same calls and the same sleeps
(`sentinel_scrollBegin_unobservable`).
-/

namespace EBrowser

open Proxy

/-! ## Runs -/

section Runs

variable {env : Env}

lemma run_append (p : Process) (is₁ is₂ : List Input) :
    run env p (is₁ ++ is₂) =
      (run env p is₁).bind fun (os, q) => (run env q is₂).map fun (os', r) => (os ++ os', r) := by
  induction is₁ generalizing p with
  | nil => simp [run]
  | cons i is ih =>
    simp only [List.cons_append, run_cons, ih, Option.bind_assoc]
    rcases step env p i with _ | ⟨o, q⟩
    · rfl
    · simp only [Option.some_bind]
      rcases run env q is with _ | ⟨os, r⟩
      · rfl
      · simp only [Option.map_some', Option.some_bind, Option.map_map]
        rfl

/-- A run returns one result for each call. -/
lemma run_length {p p' : Process} {is : List Input} {os : List (Option EventDisposition)}
    (h : run env p is = some (os, p')) : os.length = is.length := by
  induction is generalizing p os with
  | nil => cases h; rfl
  | cons i is ih =>
    simp only [run_cons, Option.bind_eq_some, Option.map_eq_some'] at h
    obtain ⟨⟨o, q⟩, -, ⟨os', q'⟩, hr, he⟩ := h
    cases he
    simp [ih hr]

end Runs

/-! ## Two runs that share their proxy -/

section Relational

variable {env : Env} {R : Governor → Governor → Prop} {I : Input → Input → Prop}

/-- **The run lemma.**  If related inputs do the same to every proxy, and one step of the
governor's part keeps the relation `R` (both failing or both returning related globals), then
two runs from idle processes with the same proxy and related globals, on related inputs, both
fail or both return the same results, the same proxy and related globals. -/
lemma run_rel (hI : ∀ s i₁ i₂, I i₁ i₂ → stepProxy env s i₁ = stepProxy env s i₂)
    (hR : ∀ b g₁ g₂ i₁ i₂, R g₁ g₂ → I i₁ i₂ →
      Option.Rel R (stepGovernor env.svm b g₁ i₁) (stepGovernor env.svm b g₂ i₂))
    {p₁ p₂ : Process} (hs : p₁.proxy = p₂.proxy) (hi : FlingIdle p₁.proxy)
    (hg : R p₁.governor p₂.governor) {is₁ is₂ : List Input} (h : List.Forall₂ I is₁ is₂) :
    Option.Rel (fun r₁ r₂ => r₁.1 = r₂.1 ∧ r₁.2.proxy = r₂.2.proxy ∧ R r₁.2.governor r₂.2.governor)
      (run env p₁ is₁) (run env p₂ is₂) := by
  induction h generalizing p₁ p₂ with
  | nil => exact .some ⟨rfl, hs, hg⟩
  | @cons i₁ i₂ is₁ is₂ hi₁₂ _ ih =>
    obtain ⟨s, g₁⟩ := p₁
    obtain ⟨s₂, g₂⟩ := p₂
    cases hs
    have hrel := hR s.gesturePinchOnImplThread g₁ g₂ i₁ i₂ hg hi₁₂
    have hi₂ : FlingIdle (Process.proxy ⟨s, g₂⟩) := hi
    simp only [run_cons, step_of_idle hi, step_of_idle hi₂, Process.split, ← hI s i₁ i₂ hi₁₂]
    rcases h₁ : stepGovernor env.svm s.gesturePinchOnImplThread g₁ i₁ with _ | g₁' <;>
      rcases h₂ : stepGovernor env.svm s.gesturePinchOnImplThread g₂ i₂ with _ | g₂' <;>
      rw [h₁, h₂] at hrel <;> cases hrel
    · exact .none
    · rename_i hg'
      have hr := @ih ⟨(stepProxy env s i₁).2, g₁'⟩ ⟨(stepProxy env s i₁).2, g₂'⟩
        rfl (stepProxy_flingIdle hi i₁) hg'
      simp only [Option.map_some', Option.some_bind]
      rcases hr₁ : run env ⟨(stepProxy env s i₁).2, g₁'⟩ is₁ with _ | ⟨os₁, q₁⟩ <;>
        rcases hr₂ : run env ⟨(stepProxy env s i₁).2, g₂'⟩ is₂ with _ | ⟨os₂, q₂⟩ <;>
        rw [hr₁, hr₂] at hr <;> cases hr
      · exact .none
      · rename_i hq
        obtain ⟨ho, hq⟩ := hq
        exact .some ⟨congrArg (List.cons _) ho, hq⟩

end Relational

/-! ## The run splits -/

/-- **The governor is an add-on.**  A run from construction returns exactly when the governor's
part does, and then with the dispositions and the proxy, so the calls, of the proxy's part run on
its own: the globals, the model and the sleeps never reach an event's disposition or a call. -/
theorem run_split (env : Env) (smooth elastic : Bool) (is : List Input) :
    run env (Process.initial smooth elastic) is =
      (runGovernor env (Proxy.initial smooth elastic) {} is).map fun g =>
        ((runProxy env (Proxy.initial smooth elastic) is).1,
          ⟨(runProxy env (Proxy.initial smooth elastic) is).2, g⟩) :=
  @run_of_idle env (Process.initial smooth elastic) rfl is

/-! ## Model messages -/

/-- A model text the governor can use: empty, `"stop"`, or one `svm_load_model` accepts. -/
def ModelAccepted (svm : Svm) (msg : String) : Prop :=
  msg = "" ∨ msg = "stop" ∨ svm.loads msg = true

/-- A call whose model text, if it carries one, the governor can use. -/
def InputAccepted (svm : Svm) : Input → Prop
  | .HandleInputModelMsg msg _ _ => ModelAccepted svm msg
  | _ => True

/-- Two calls that are the same but for the arguments of a model message. -/
def SameButModelArgs : Input → Input → Prop
  | .HandleInputModelMsg .., .HandleInputModelMsg .. => True
  | i₁, i₂ => i₁ = i₂

/-- What two runs with different model messages keep equal in the governor's globals: the
frame-rate hint and the two counters. -/
def Governor.counters (g : Governor) : Int × Int × Int := (g.fps, g.countScrolling, g.countPinching)

/-- Two runs' globals, as far as different model messages can make them differ: the same hint
and counters, and usable model texts. -/
def GovernorTwin (svm : Svm) (g₁ g₂ : Governor) : Prop :=
  g₁.counters = g₂.counters ∧ ModelAccepted svm g₁.msgModel ∧ ModelAccepted svm g₂.msgModel

section Model

variable {svm : Svm} {g : Governor}

/-- `predict`'s middle test, `msg_model.length()==0`, is its first one again. -/
lemma predict_eq_none_iff {msg : String} {speed : ℚ} :
    predict svm msg speed = none ↔ ¬ ModelAccepted svm msg := by
  have hl : msg.length = 0 ↔ msg = "" := ⟨fun h => String.ext (List.length_eq_zero.1 h), by
    rintro rfl; rfl⟩
  simp only [predict, ModelAccepted, hl, or_self_left, ← or_assoc]
  split_ifs <;> simp_all

lemma predict_isSome {msg : String} (h : ModelAccepted svm msg) (speed : ℚ) :
    ∃ r, predict svm msg speed = some r :=
  Option.ne_none_iff_exists'.1 fun h' => predict_eq_none_iff.1 h' h

lemma handleInputModelMsg_accepted {msg : String} {routingId speed : Int}
    (hg : ModelAccepted svm g.msgModel) (hm : ModelAccepted svm msg) :
    ModelAccepted svm (handleInputModelMsg g msg routingId speed).msgModel := by
  simp only [handleInputModelMsg]; split_ifs <;> assumption

@[simp] lemma handleInputModelMsg_counters {msg : String} {routingId speed : Int} :
    (handleInputModelMsg g msg routingId speed).counters = g.counters := by
  simp only [handleInputModelMsg]; split_ifs <;> rfl

/-- With a usable model text the scroll update's block returns, and counts the update. -/
lemma throttleScrollUpdate_accepted (h : ModelAccepted svm g.msgModel) :
    ∃ g', throttleScrollUpdate svm g = some g' ∧ g'.msgModel = g.msgModel ∧
      g'.counters = (g.fps, g.countScrolling + 1, g.countPinching) := by
  obtain ⟨r, hr⟩ := predict_isSome h (g.scrollSpeed.tdiv 50)
  simp only [throttleScrollUpdate, hr, Option.map_some', Option.some.injEq, exists_eq_left']
  exact ⟨rfl, rfl⟩

lemma sameButModelArgs_cases {i₁ i₂ : Input} (h : SameButModelArgs i₁ i₂) :
    i₁ = i₂ ∨ ∃ m₁ r₁ v₁ m₂ r₂ v₂, i₁ = .HandleInputModelMsg m₁ r₁ v₁ ∧
      i₂ = .HandleInputModelMsg m₂ r₂ v₂ := by
  cases i₁ <;> cases i₂ <;> simp_all [SameButModelArgs]

/-- With usable model texts the governor's part of a step returns for both runs, keeps the texts
usable, and moves the hint and the counters as a function of the call alone. -/
lemma stepGovernor_twin {b : Bool} {g₁ g₂ : Governor} {i₁ i₂ : Input}
    (hg : GovernorTwin svm g₁ g₂)
    (hi : SameButModelArgs i₁ i₂ ∧ InputAccepted svm i₁ ∧ InputAccepted svm i₂) :
    ∃ g₁' g₂', stepGovernor svm b g₁ i₁ = some g₁' ∧ stepGovernor svm b g₂ i₂ = some g₂' ∧
      GovernorTwin svm g₁' g₂' := by
  obtain ⟨he, h₁, h₂⟩ := hg
  obtain ⟨hs, ha₁, ha₂⟩ := hi
  have hmsg : ∀ m₁ r₁ v₁ m₂ r₂ v₂, ModelAccepted svm m₁ → ModelAccepted svm m₂ →
      ∃ g₁' g₂', stepGovernor svm b g₁ (.HandleInputModelMsg m₁ r₁ v₁) = some g₁' ∧
        stepGovernor svm b g₂ (.HandleInputModelMsg m₂ r₂ v₂) = some g₂' ∧
        GovernorTwin svm g₁' g₂' := fun _ _ _ _ _ _ hm₁ hm₂ =>
    ⟨_, _, rfl, rfl, by simpa only [handleInputModelMsg_counters] using he,
      handleInputModelMsg_accepted h₁ hm₁, handleInputModelMsg_accepted h₂ hm₂⟩
  rcases sameButModelArgs_cases hs with rfl | ⟨m₁, r₁, v₁, m₂, r₂, v₂, rfl, rfl⟩
  · cases i₁ with
    | HandleInputEvent e =>
      simp only [Governor.counters, Prod.mk.injEq] at he
      simp only [stepGovernor]
      cases e with
      | Gesture e =>
        simp only [dispatchGovernor]
        cases ht : e.type <;> simp only [ht]
        case GestureScrollUpdate =>
          obtain ⟨g₁', hg₁, hm₁, hc₁⟩ := throttleScrollUpdate_accepted h₁
          obtain ⟨g₂', hg₂, hm₂, hc₂⟩ := throttleScrollUpdate_accepted h₂
          exact ⟨g₁', g₂', hg₁, hg₂, by rw [hc₁, hc₂, he.1, he.2.1, he.2.2], hm₁ ▸ h₁, hm₂ ▸ h₂⟩
        case GestureScrollBegin =>
          refine ⟨_, _, rfl, rfl, ?_, by split <;> exact h₁, by split <;> exact h₂⟩
          split <;> simp [Governor.counters, he]
        case GesturePinchUpdate =>
          refine ⟨_, _, rfl, rfl, ?_, by split <;> exact h₁, by split <;> exact h₂⟩
          split <;> simp [Governor.counters, throttlePinchUpdate, Governor.sleep, he]
        all_goals exact ⟨_, _, rfl, rfl, by simp [Governor.counters, he], h₁, h₂⟩
      | _ => exact ⟨_, _, rfl, rfl, by simp [Governor.counters, he], h₁, h₂⟩
    | HandleInputModelMsg m r v => exact hmsg m r v m r v ha₁ ha₂
    | _ => exact ⟨_, _, rfl, rfl, he, h₁, h₂⟩
  · exact hmsg m₁ r₁ v₁ m₂ r₂ v₂ ha₁ ha₂

/-- Runs from an idle process whose model text is usable, on calls whose texts are usable, never
end the process. -/
lemma run_isSome {env : Env} {p : Process} {is : List Input} (hi : FlingIdle p.proxy)
    (hg : ModelAccepted env.svm p.governor.msgModel) (h : ∀ i ∈ is, InputAccepted env.svm i) :
    ∃ r, run env p is = some r := by
  induction is generalizing p with
  | nil => exact ⟨_, rfl⟩
  | cons i is ih =>
    have hi' : InputAccepted env.svm i := h i (List.mem_cons_self _ _)
    obtain ⟨g, -, hs, -, ⟨-, hg', -⟩⟩ := @stepGovernor_twin env.svm p.proxy.gesturePinchOnImplThread
      _ _ i i ⟨rfl, hg, hg⟩ ⟨by cases i <;> trivial, hi', hi'⟩
    obtain ⟨r, hr⟩ := @ih ⟨(stepProxy env p.proxy i).2, g⟩ (stepProxy_flingIdle hi i) hg'
      fun j hj => h j (List.mem_cons_of_mem _ hj)
    exact ⟨_, by
      rw [run_cons, step_of_idle hi, Process.split, hs]
      simp only [Option.map_some', Option.some_bind, hr]
      rfl⟩

lemma forall₂_accepted {svm : Svm} {is₁ is₂ : List Input}
    (hs : List.Forall₂ SameButModelArgs is₁ is₂) (h₁ : ∀ i ∈ is₁, InputAccepted svm i)
    (h₂ : ∀ i ∈ is₂, InputAccepted svm i) :
    List.Forall₂ (fun i₁ i₂ => SameButModelArgs i₁ i₂ ∧ InputAccepted svm i₁ ∧
      InputAccepted svm i₂) is₁ is₂ := by
  induction hs with
  | nil => exact .nil
  | cons h _ ih =>
    exact .cons ⟨h, h₁ _ (List.mem_cons_self _ _), h₂ _ (List.mem_cons_self _ _)⟩
      (ih (fun i hi => h₁ i (List.mem_cons_of_mem _ hi))
        fun i hi => h₂ i (List.mem_cons_of_mem _ hi))

end Model

/-- **The model reaches only the sleeps.**  Two runs from construction on the same events, whose
model messages differ in any argument and carry texts that are empty, `"stop"` or accepted by
`svm_load_model`, both run to the end, return the same disposition for every call, and end with
the same proxy: the same calls, with the same arguments, in the same order. -/
theorem model_noninterference (env : Env) (smooth elastic : Bool) (is₁ is₂ : List Input)
    (hs : List.Forall₂ SameButModelArgs is₁ is₂) (h₁ : ∀ i ∈ is₁, InputAccepted env.svm i)
    (h₂ : ∀ i ∈ is₂, InputAccepted env.svm i) :
    ∃ os p₁ p₂, run env (Process.initial smooth elastic) is₁ = some (os, p₁) ∧
      run env (Process.initial smooth elastic) is₂ = some (os, p₂) ∧ p₁.proxy = p₂.proxy := by
  have hI : ∀ s i₁ i₂, (SameButModelArgs i₁ i₂ ∧ InputAccepted env.svm i₁ ∧
      InputAccepted env.svm i₂) → stepProxy env s i₁ = stepProxy env s i₂ := by
    intro s i₁ i₂ h
    rcases sameButModelArgs_cases h.1 with rfl | ⟨_, _, _, _, _, _, rfl, rfl⟩ <;> rfl
  have hR : ∀ b g₁ g₂ i₁ i₂, GovernorTwin env.svm g₁ g₂ →
      (SameButModelArgs i₁ i₂ ∧ InputAccepted env.svm i₁ ∧ InputAccepted env.svm i₂) →
      Option.Rel (GovernorTwin env.svm) (stepGovernor env.svm b g₁ i₁)
        (stepGovernor env.svm b g₂ i₂) := by
    intro b g₁ g₂ i₁ i₂ hg hi
    obtain ⟨g₁', g₂', e₁, e₂, ht⟩ := @stepGovernor_twin env.svm b g₁ g₂ i₁ i₂ hg hi
    rw [e₁, e₂]; exact .some ht
  have hrel := @run_rel env _ _ hI hR (Process.initial smooth elastic)
    (Process.initial smooth elastic) rfl rfl ⟨rfl, Or.inl rfl, Or.inl rfl⟩ is₁ is₂
    (forall₂_accepted hs h₁ h₂)
  obtain ⟨⟨os, p₁⟩, hr₁⟩ := @run_isSome env (Process.initial smooth elastic) is₁ rfl (Or.inl rfl) h₁
  rw [hr₁] at hrel
  rcases hr₂ : run env (Process.initial smooth elastic) is₂ with _ | ⟨os₂, p₂⟩ <;>
    rw [hr₂] at hrel <;> cases hrel
  rename_i h
  obtain ⟨ho, hp, -⟩ := h
  exact ⟨os, p₁, p₂, hr₁, by rw [← show os = os₂ from ho], hp⟩

theorem model_noninterference_two_texts :
    ∃ os p₁ p₂, run { implEnv with svm := ⟨fun m => m = "m", fun _ _ => 45⟩ } (Process.initial false false)
        [.HandleInputModelMsg "" 0 100, .HandleInputEvent (.Gesture { type := .GestureScrollUpdate })] =
          some (os, p₁) ∧
      run { implEnv with svm := ⟨fun m => m = "m", fun _ _ => 45⟩ } (Process.initial false false)
        [.HandleInputModelMsg "m" 7 50, .HandleInputEvent (.Gesture { type := .GestureScrollUpdate })] =
          some (os, p₂) ∧
      p₁.proxy = p₂.proxy ∧ p₁.governor.sleeps = [] ∧ p₂.governor.sleeps = [15412] := by
  obtain ⟨os, p₁, p₂, h₁, h₂, hp⟩ := model_noninterference
    { implEnv with svm := ⟨fun m => m = "m", fun _ _ => 45⟩ } false false
    [.HandleInputModelMsg "" 0 100, .HandleInputEvent (.Gesture { type := .GestureScrollUpdate })]
    [.HandleInputModelMsg "m" 7 50, .HandleInputEvent (.Gesture { type := .GestureScrollUpdate })]
    (.cons trivial (.cons rfl .nil))
    (by simp [InputAccepted, ModelAccepted]) (by simp [InputAccepted, ModelAccepted])
  have s₁ := congrArg (Option.map fun r => r.2.governor.sleeps) h₁
  have s₂ := congrArg (Option.map fun r => r.2.governor.sleeps) h₂
  rw [run_of_idle (p := Process.initial false false) rfl, Option.map_some'] at s₁ s₂
  refine ⟨os, p₁, p₂, h₁, h₂, hp, Option.some.inj (s₁.symm.trans ?_),
    Option.some.inj (s₂.symm.trans ?_)⟩ <;> decide

/-! ## The only exit -/

section Exit

variable {svm : Svm} {g : Governor}

lemma stepGovernor_eq_none_iff {b : Bool} {i : Input} :
    stepGovernor svm b g i = none ↔ ∃ e : WebGestureEvent, i = .HandleInputEvent (.Gesture e) ∧
      e.type = .GestureScrollUpdate ∧ ¬ ModelAccepted svm g.msgModel := by
  cases i with
  | HandleInputEvent e =>
    cases e with
    | Gesture e =>
      cases ht : e.type <;>
        simp [stepGovernor, dispatchGovernor, ht, throttleScrollUpdate, predict_eq_none_iff]
    | _ => simp [stepGovernor, dispatchGovernor]
  | _ => simp [stepGovernor]

end Exit

/-- **The only exit.**  From a reachable process a call ends the process exactly when it is a
scroll update and the stored model text falls through all of `predict`'s cases: it is neither
empty nor `"stop"`, and `svm_load_model` rejects it. -/
theorem step_eq_none_iff_model_rejected {env : Env} {smooth elastic : Bool} {p : Process}
    (hp : Reachable env smooth elastic p) (i : Input) :
    step env p i = none ↔ ∃ e : WebGestureEvent, i = .HandleInputEvent (.Gesture e) ∧
      e.type = .GestureScrollUpdate ∧ ¬ ModelAccepted env.svm p.governor.msgModel := by
  rw [hp.step_eq, Process.split, Option.map_eq_none', stepGovernor_eq_none_iff]

theorem step_eq_none_iff_model_rejected_after_message :
    step implEnv ⟨Proxy.initial false false, { msgModel := "m", scrollSpeed := 200 }⟩
      (.HandleInputEvent (.Gesture { type := .GestureScrollUpdate })) = none :=
  (step_eq_none_iff_model_rejected (.step .initial (i := .HandleInputModelMsg "m" 0 0) rfl) _).2
    ⟨_, rfl, rfl, by unfold ModelAccepted; decide⟩

/-! ## Sentinel scroll begins -/

/-- Two sets of globals that differ at most in the frame-rate hint. -/
def SameButFps (g₁ g₂ : Governor) : Prop := ∃ fps, g₂ = { g₁ with fps := fps }

lemma stepGovernor_sameButFps {svm : Svm} {b : Bool} {g₁ g₂ : Governor} (i : Input)
    (h : SameButFps g₁ g₂) :
    Option.Rel SameButFps (stepGovernor svm b g₁ i) (stepGovernor svm b g₂ i) := by
  obtain ⟨f, rfl⟩ := h
  cases i with
  | HandleInputEvent e =>
    cases e with
    | Gesture e =>
      simp only [stepGovernor, dispatchGovernor]
      cases e.type
      case GestureScrollBegin => exact .some (by split <;> exact ⟨_, rfl⟩)
      case GestureScrollUpdate =>
        simp only [throttleScrollUpdate]
        cases predict svm g₁.msgModel (g₁.scrollSpeed.tdiv 50)
        · exact .none
        · exact .some ⟨f, rfl⟩
      case GesturePinchUpdate => exact .some (by split <;> exact ⟨f, rfl⟩)
      all_goals exact .some ⟨f, rfl⟩
    | _ => exact .some ⟨f, rfl⟩
  | HandleInputModelMsg msg r v =>
    exact .some (by simp only [stepGovernor, handleInputModelMsg]; split_ifs <;> exact ⟨f, rfl⟩)
  | _ => exact .some ⟨f, rfl⟩

/-- From a reachable process a sentinel scroll begin is dropped and only records its hint. -/
lemma step_sentinel {env : Env} {smooth elastic : Bool} {e : WebGestureEvent}
    (he : e.type = .GestureScrollBegin) (hs : isSentinel e) {p : Process}
    (hp : Reachable env smooth elastic p) :
    step env p (.HandleInputEvent (.Gesture e)) =
      some (some .DropEvent, { p with governor.fps := truncToInt (e.timeStampSeconds * 1000) }) := by
  rw [hp.step_eq]
  simp [Process.split, stepGovernor, dispatchGovernor, stepProxy, dispatchProxy, he, hs]

/-- **A sentinel scroll begin is unobservable.**  A scroll begin at `(-1, -1)` or `(0, 0)`, from
any reachable process, returns `DROP_EVENT` and changes nothing but the frame-rate hint: no
call is issued.  Inserted anywhere in a run from construction, it adds its own `DROP_EVENT` and
nothing else: every other call gets the same result, and the run ends with the same proxy (the
same calls) and the same globals but for the hint (the same sleeps). -/
theorem sentinel_scrollBegin_unobservable (env : Env) (smooth elastic : Bool)
    (e : WebGestureEvent) (he : e.type = .GestureScrollBegin) (hs : isSentinel e) :
    (∀ p, Reachable env smooth elastic p →
      step env p (.HandleInputEvent (.Gesture e)) =
        some (some .DropEvent, { p with governor.fps := truncToInt (e.timeStampSeconds * 1000) })) ∧
    ∀ is₁ is₂ : List Input,
      Option.Rel (fun r₁ r₂ =>
          r₂.1 = r₁.1.take is₁.length ++ some .DropEvent :: r₁.1.drop is₁.length ∧
          r₂.2.proxy = r₁.2.proxy ∧ r₂.2.governor = { r₁.2.governor with fps := r₂.2.governor.fps })
        (run env (Process.initial smooth elastic) (is₁ ++ is₂))
        (run env (Process.initial smooth elastic) (is₁ ++ .HandleInputEvent (.Gesture e) :: is₂)) := by
  refine ⟨fun _ hp => step_sentinel he hs hp, fun is₁ is₂ => ?_⟩
  rw [run_append, run_append]
  rcases h₀ : run env (Process.initial smooth elastic) is₁ with _ | ⟨os, q⟩
  · exact .none
  have hq := reachable_of_run .initial h₀
  have hlen := run_length h₀
  simp only [Option.some_bind, run_cons, step_sentinel he hs hq]
  have hrel := @run_rel env SameButFps Eq (fun _ _ _ h => h ▸ rfl)
    (fun _ _ _ i _ hg hi => hi ▸ stepGovernor_sameButFps i hg) q
    { q with governor.fps := truncToInt (e.timeStampSeconds * 1000) } rfl hq.flingIdle ⟨_, rfl⟩
    is₂ is₂ (List.forall₂_same.2 fun _ _ => rfl)
  rcases hr₁ : run env q is₂ with _ | ⟨os₁, r₁⟩ <;>
    rcases hr₂ : run env { q with governor.fps := truncToInt (e.timeStampSeconds * 1000) } is₂
      with _ | ⟨os₂, r₂⟩ <;> rw [hr₁, hr₂] at hrel <;> cases hrel
  · exact .none
  rename_i h
  obtain ⟨ho, hp, f, hf⟩ := h
  simp only [Option.map_some', Option.some_bind]
  refine .some ⟨?_, hp.symm, ?_⟩
  · simp only at ho ⊢
    rw [← hlen, List.take_left' rfl, List.drop_left' rfl, ho]
  · simp only at hf ⊢
    rw [hf]

theorem sentinel_scrollBegin_unobservable_at_start :
    step implEnv (Process.initial false false)
        (.HandleInputEvent (.Gesture { type := .GestureScrollBegin, timeStampSeconds := 1 / 60 })) =
      some (some .DropEvent,
        { (Process.initial false false) with governor.fps := truncToInt ((1 / 60 : ℚ) * 1000) }) :=
  (sentinel_scrollBegin_unobservable implEnv false false _ rfl (Or.inr ⟨rfl, rfl⟩)).1 _ .initial

end EBrowser
