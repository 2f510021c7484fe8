import EBrowser.Dispatch

/-!
# `HandleInputEvent` re-enters itself at most once

`HandleInputEvent` calls `CancelCurrentFling` on a fling event, on a keyboard event during a
fling, from `HandleGestureScrollBegin` during an impl-thread scroll and from `HandleMouseWheel`
during a fling; `CancelCurrentFlingWithoutNotifyingClient` calls `HandleInputEvent` again, with a
synthesized `GestureScrollBegin`, when a deferred cancellation is pending and the last boost
event was a scroll begin or update.  The model's `handleInputEvent` is total because the
deferred time is cleared before that call (its termination measure).

To see how deep the cycle goes, `handleInputEventWithin` runs the same dispatch
(`handleInputEventWith`) with a budget of re-entries, spent at the one call back into
`HandleInputEvent` and `none` when it would need one more: its own termination rests on the
budget alone.

**What is proved.**  From a process with no deferred cancellation the cycle never re-enters,
whatever the event (`handleInputEventWithin_of_not_deferred`); the re-entry itself is made from
such a process, since `CancelCurrentFlingWithoutNotifyingClient` clears the deferred time, with
the fling curve and the impl-thread scroll, before it replays the scroll begin.  So a budget of
one re-entry is never exhausted and gives the model's result, for every process and every event,
while a budget of none is exhausted by a fling cancel with a deferred cancellation pending
(`handleInputEvent_reenters_at_most_once`).
-/

namespace EBrowser

open Proxy

mutual

/-- `HandleInputEvent` with at most `budget` re-entries from
`CancelCurrentFlingWithoutNotifyingClient`: the model's dispatch with the budgeted cancellation.
The outer `none` says the budget ran out, the inner one that the process exited. -/
def handleInputEventWithin (budget : Nat) (env : Env) (p : Process) (event : WebInputEvent) :
    Option (Option (EventDisposition × Process)) :=
  handleInputEventWith (m := Option) env p (fun _ => cancelCurrentFlingWithin budget env p) event
termination_by (budget, 2)

/-- `CancelCurrentFling` within a budget of re-entries. -/
def cancelCurrentFlingWithin (budget : Nat) (env : Env) (p : Process) :
    Option (Option (Bool × Process)) :=
  cancelCurrentFlingWith (m := Option) (cancelCurrentFlingWithoutNotifyingClientWithin budget env p)
termination_by (budget, 1)

/-- `CancelCurrentFlingWithoutNotifyingClient` within a budget of re-entries: the replay of the
scroll begin spends one, and is refused when none is left, the one branch the model's function
does not have. -/
def cancelCurrentFlingWithoutNotifyingClientWithin (budget : Nat) (env : Env) (p : Process) :
    Option (Option (Bool × Process)) :=
  let hadFlingAnimation := p.proxy.fling.flingCurve
  let s := resetFling p.proxy
  if p.proxy.fling.deferredFlingCancelTimeSeconds = 0 then
    some (some (hadFlingAnimation, { p with proxy := s }))
  else
    let last := s.fling.lastFlingBoostEvent
    let s := { s with fling.deferredFlingCancelTimeSeconds := 0, fling.lastFlingBoostEvent := {} }
    if last.type = .GestureScrollBegin ∨ last.type = .GestureScrollUpdate then
      if budget = 0 then none
      else
        (handleInputEventWithin (budget - 1) env { p with proxy := s }
          (.Gesture (obtainGestureScrollBegin last))).map <| Option.map fun (_, p) =>
            (hadFlingAnimation, p)
    else some (some (hadFlingAnimation, { p with proxy := s }))
termination_by (budget, 0)

end

/-! ## The budget of re-entries the cycle needs -/

section Budget

variable {env : Env} {p : Process} {budget : Nat}

lemma cancelCurrentFlingWithin_of_without
    (h : cancelCurrentFlingWithoutNotifyingClientWithin budget env p =
      some (cancelCurrentFlingWithoutNotifyingClient env p)) :
    cancelCurrentFlingWithin budget env p = some (cancelCurrentFling env p) := by
  rw [cancelCurrentFlingWithin, cancelCurrentFling, h]
  rfl

/-- The dispatch with a cancellation that cannot run out is the model's dispatch. -/
lemma handleInputEventWith_some {c : Option (Bool × Process)} (event : WebInputEvent) :
    handleInputEventWith (m := Option) env p (fun _ => some c) event =
      some (handleInputEventWith (m := Id) env p (fun _ => c) event) := by
  unfold handleInputEventWith handleMouseWheelWith handleGestureScrollBeginWith
  cases event with
  | Gesture e => dsimp only; cases e.type <;> dsimp only <;> split_ifs <;> rfl
  | Touch e => dsimp only; cases e.type <;> rfl
  | _ => dsimp only; split_ifs <;> rfl

/-- Every path of `HandleInputEvent` that can re-enter goes through `CancelCurrentFling` on the
process it was given: where the budgeted cancel agrees with the model's, so does the call. -/
lemma handleInputEventWithin_of_cancel
    (h : cancelCurrentFlingWithin budget env p = some (cancelCurrentFling env p))
    (event : WebInputEvent) :
    handleInputEventWithin budget env p event = some (handleInputEvent env p event) := by
  rw [handleInputEventWithin, handleInputEvent, h]
  exact handleInputEventWith_some event

/-- With no deferred cancellation the budgeted `CancelCurrentFlingWithoutNotifyingClient` does not
re-enter. -/
lemma cancelCurrentFlingWithoutNotifyingClientWithin_of_not_deferred
    (hd : p.proxy.fling.deferredFlingCancelTimeSeconds = 0) :
    cancelCurrentFlingWithoutNotifyingClientWithin budget env p =
      some (cancelCurrentFlingWithoutNotifyingClient env p) := by
  unfold cancelCurrentFlingWithoutNotifyingClientWithin cancelCurrentFlingWithoutNotifyingClient
  simp [hd]

/-- From a process with no deferred cancellation the cycle never re-enters, whatever the event. -/
lemma handleInputEventWithin_of_not_deferred
    (hd : p.proxy.fling.deferredFlingCancelTimeSeconds = 0) (event : WebInputEvent) :
    handleInputEventWithin budget env p event = some (handleInputEvent env p event) :=
  handleInputEventWithin_of_cancel
    (cancelCurrentFlingWithin_of_without
      (cancelCurrentFlingWithoutNotifyingClientWithin_of_not_deferred hd)) event

/-- The replayed scroll begin is handled from a process whose deferred time was just cleared, so
it needs no further re-entry. -/
lemma cancelCurrentFlingWithoutNotifyingClientWithin_succ (n : Nat) (p : Process) :
    cancelCurrentFlingWithoutNotifyingClientWithin (n + 1) env p =
      some (cancelCurrentFlingWithoutNotifyingClient env p) := by
  by_cases hd : p.proxy.fling.deferredFlingCancelTimeSeconds = 0
  · exact cancelCurrentFlingWithoutNotifyingClientWithin_of_not_deferred hd
  unfold cancelCurrentFlingWithoutNotifyingClientWithin cancelCurrentFlingWithoutNotifyingClient
  simp only [hd, if_false, dif_neg]
  split
  · rw [handleInputEventWithin_of_not_deferred rfl]; rfl
  · rfl

lemma handleInputEventWithin_succ (n : Nat) (p : Process) (event : WebInputEvent) :
    handleInputEventWithin (n + 1) env p event = some (handleInputEvent env p event) :=
  handleInputEventWithin_of_cancel
    (cancelCurrentFlingWithin_of_without (cancelCurrentFlingWithoutNotifyingClientWithin_succ n p))
    event

/-- A fling cancel with a cancellation deferred after a scroll begin replays the begin. -/
lemma handleInputEventWithin_zero_of_deferred_begin :
    handleInputEventWithin 0 env
      ⟨{ fling := { deferredFlingCancelTimeSeconds := 1,
                    lastFlingBoostEvent := { type := .GestureScrollBegin } } }, {}⟩
      (.Gesture { type := .GestureFlingCancel }) = none := by
  rw [handleInputEventWithin.eq_def]
  simp [handleInputEventWith, filterInputEventForFlingBoosting, cancelCurrentFlingWithin,
    cancelCurrentFlingWith, cancelCurrentFlingWithoutNotifyingClientWithin, resetFling]

end Budget

/-- **`HandleInputEvent` returns, re-entering itself at most once.**  For every process and every
event a budget of one re-entry, or more, is never exhausted and gives the model's result.  From a
process with no deferred cancellation no re-entry happens at all, whatever the budget, which is
why one suffices: `CancelCurrentFlingWithoutNotifyingClient` clears the deferred time, with the
fling curve and the impl-thread scroll, before it replays the scroll begin.  A budget of none
does not suffice. -/
theorem handleInputEvent_reenters_at_most_once (env : Env) :
    (∀ n p event,
      handleInputEventWithin (n + 1) env p event = some (handleInputEvent env p event)) ∧
    (∀ n p event, p.proxy.fling.deferredFlingCancelTimeSeconds = 0 →
      handleInputEventWithin n env p event = some (handleInputEvent env p event)) ∧
    ∃ p event, handleInputEventWithin 0 env p event = none :=
  ⟨handleInputEventWithin_succ,
   fun _ _ event hd => handleInputEventWithin_of_not_deferred hd event,
   _, _, handleInputEventWithin_zero_of_deferred_begin⟩

end EBrowser
