import EBrowser.Animate

/-!
# Runs of the proxy

The proxy is driven from outside by five entry points: an input event, a model message from the
remote side, an animation frame, the main thread's report that its fling stopped, and a
synchronous zoom; and the compositor thread runs, whenever its message loop gets to them, the
tasks the proxy posted.  A run is a list of such calls, in any interleaving; `run` returns each
event's disposition and the final process, or `none` if the process exited on the way.

**Reachable states.**  `Reachable` is the set of processes some run from construction reaches,
and `reachable_of_run` connects it to `run`.  `observe` reads a quantity off every call of a run
together with the process the call is made in; the touch sequence's account is stated with
it.

`EBrowser.Idle` shows that no reachable process has a fling, and what a call does to such a
process.
-/

namespace EBrowser

open Proxy

/-- The calls into the proxy's code on the compositor thread, with their arguments: the entry
points of `InputHandlerProxy`, and the running of the oldest task it posted. -/
inductive Input
  | HandleInputEvent (event : WebInputEvent)
  | HandleInputModelMsg (msg : String) (routingId speed : Int)
  | Animate (time : ℚ)
  | MainThreadHasStoppedFlinging
  | SynchronouslyZoomBy (magnifyDelta : ℚ) (anchor : Point)
  | RunPostedTask

/-- One call into the proxy; an event returns its disposition. -/
def step (env : Env) (p : Process) : Input → Option (Option EventDisposition × Process)
  | .HandleInputEvent e => (handleInputEvent env p e).map fun (d, p) => (some d, p)
  | .HandleInputModelMsg msg routingId speed =>
    some (none, { p with governor := handleInputModelMsg p.governor msg routingId speed })
  | .Animate time => (animate env p time).map fun p => (none, p)
  | .MainThreadHasStoppedFlinging =>
    some (none, { p with proxy := mainThreadHasStoppedFlinging p.proxy })
  | .SynchronouslyZoomBy magnifyDelta anchor =>
    some (none, { p with proxy := synchronouslyZoomBy p.proxy magnifyDelta anchor })
  | .RunPostedTask => some (none, { p with proxy := runPostedTask p.proxy })

/-- A run of calls, in order. -/
def run (env : Env) (p : Process) : List Input → Option (List (Option EventDisposition) × Process)
  | [] => some ([], p)
  | i :: is => (step env p i).bind fun (o, p) => (run env p is).map fun (os, p) => (o :: os, p)

/-- What `f` reads off each call of a run, in the process the call is made in, up to the end of
the run or the exit of the process. -/
def observe {β : Type} (f : Process → Input → β) (env : Env) (p : Process) : List Input → List β
  | [] => []
  | i :: is =>
    match step env p i with
    | some (_, p') => f p i :: observe f env p' is
    | none => []

/-- The processes a run reaches from a proxy constructed with the given settings. -/
inductive Reachable (env : Env) (smoothScrollEnabled scrollElasticityController : Bool) :
    Process → Prop
  | initial : Reachable env smoothScrollEnabled scrollElasticityController
      (Process.initial smoothScrollEnabled scrollElasticityController)
  | step {p p' : Process} {i : Input} {o : Option EventDisposition} :
      Reachable env smoothScrollEnabled scrollElasticityController p →
      EBrowser.step env p i = some (o, p') →
      Reachable env smoothScrollEnabled scrollElasticityController p'

/-- A compositor that takes every scroll on the impl thread and scrolls by every delta, with no
listeners and no model: the environment of the concrete runs below. -/
def implEnv : Env where
  scrollStatus _ := .ScrollOnImplThread
  scrollResult _ := { didScroll := true }
  listenerProperties _ := .kNone
  touchBlocksScroll _ := false
  scrollingViewport _ := false
  flingCurveScroll _ := none
  flingCurveActive _ _ := false
  svm := ⟨fun _ => false, fun _ _ => 0⟩

section Runs

variable {env : Env} {smooth elastic : Bool}

lemma run_cons {p : Process} {i : Input} {is : List Input} :
    run env p (i :: is) =
      (step env p i).bind fun (o, p) => (run env p is).map fun (os, p) => (o :: os, p) := rfl

/-- A run ends in a state reached from where it started. -/
lemma reachable_of_run {p p' : Process} {is : List Input} {os : List (Option EventDisposition)}
    (hp : Reachable env smooth elastic p) (h : run env p is = some (os, p')) :
    Reachable env smooth elastic p' := by
  induction is generalizing p os with
  | nil => cases h; exact hp
  | cons i is ih =>
    simp only [run_cons, Option.bind_eq_some, Option.map_eq_some'] at h
    obtain ⟨⟨o, q⟩, hs, ⟨os', q'⟩, hr, he⟩ := h
    cases he
    exact ih (hp.step hs) hr

end Runs

end EBrowser
