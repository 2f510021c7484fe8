import Mathlib.Data.Rat.Floor

/-!
# Input events, as `InputHandlerProxy` reads them

The Blink event classes that `InputHandlerProxy::HandleInputEvent` dispatches on
(`ui/events/blink/input_handler_proxy.cc`), with the fields its handlers read and nothing else.

**Numbers.**  `float` and `double` fields are exact rationals, `int` fields are `Int`.  The
handlers only compare, add and scale them, and the governor's rate bounds hold over any floor
ring, real rates included, so rounding is not modelled; `truncToInt` is where a floating value is
converted, and it truncates toward zero as C++ does.

**The gesture union.**  `WebGestureEvent::data` is a C union of per-type views.  A handler reads
the view of the event's own type, except `ObtainGestureScrollBegin`, which relabels a stored
`GestureScrollUpdate` as a `GestureScrollBegin` and so reads the update's storage through the
begin view.  Each view is an independent record here: the begin view of a relabelled update is
then an arbitrary value, which over-approximates the bit reinterpretation.

**The class hierarchy.**  `WebInputEvent` has one constructor per class; the class's own type
enum is a field, so an event whose type does not match its class cannot be built.
-/

namespace EBrowser

/-- C++ conversion of a floating value to an integer: truncation toward zero. -/
def truncToInt (q : ℚ) : Int := if 0 ≤ q then ⌊q⌋ else ⌈q⌉

/-- `gfx::Point`. -/
structure Point where
  x : Int
  y : Int
  deriving DecidableEq, Repr

/-- `gfx::Vector2dF`; the default is the zero vector. -/
structure Vector2dF where
  x : ℚ := 0
  y : ℚ := 0
  deriving DecidableEq, Repr

/-! ## Gesture events -/

inductive WebGestureDevice
  | Uninitialized | Touchpad | Touchscreen
  deriving DecidableEq, Repr

/-- `WebGestureEvent::ScrollUnits`; the zero value is `PrecisePixels`. -/
inductive ScrollUnits
  | PrecisePixels | Pixels | Page
  deriving DecidableEq, Repr

inductive InertialPhaseState
  | UnknownMomentumPhase | NonMomentumPhase | MomentumPhase
  deriving DecidableEq, Repr

/-- The `WebInputEvent::Type` values a `WebGestureEvent` carries; `Undefined` is the type of a
default-constructed event. -/
inductive GestureType
  | Undefined
  | GestureScrollBegin | GestureScrollEnd | GestureScrollUpdate
  | GestureFlingStart | GestureFlingCancel
  | GestureShowPress | GestureTap | GestureTapUnconfirmed | GestureTapDown | GestureTapCancel
  | GestureDoubleTap | GestureTwoFingerTap | GestureLongPress | GestureLongTap
  | GesturePinchBegin | GesturePinchEnd | GesturePinchUpdate
  deriving DecidableEq, Repr

/-- `data.scrollBegin`. -/
structure ScrollBeginData where
  deltaXHint : ℚ := 0
  deltaYHint : ℚ := 0
  deltaHintUnits : ScrollUnits := .PrecisePixels
  targetViewport : Bool := false
  inertialPhase : InertialPhaseState := .UnknownMomentumPhase
  deriving DecidableEq, Repr

/-- `data.scrollUpdate`. -/
structure ScrollUpdateData where
  deltaX : ℚ := 0
  deltaY : ℚ := 0
  velocityX : ℚ := 0
  velocityY : ℚ := 0
  inertialPhase : InertialPhaseState := .UnknownMomentumPhase
  deltaUnits : ScrollUnits := .PrecisePixels
  deriving DecidableEq, Repr

/-- `data.scrollEnd`. -/
structure ScrollEndData where
  deltaUnits : ScrollUnits := .PrecisePixels
  deriving DecidableEq, Repr

/-- `data.pinchUpdate`. -/
structure PinchUpdateData where
  scale : ℚ := 0
  zoomDisabled : Bool := false
  deriving DecidableEq, Repr

/-- `data.flingStart`. -/
structure FlingStartData where
  velocityX : ℚ := 0
  velocityY : ℚ := 0
  deriving DecidableEq, Repr

/-- `blink::WebGestureEvent`.  The default value is `WebGestureEvent()`: type `Undefined`,
every field zero. -/
structure WebGestureEvent where
  type : GestureType := .Undefined
  x : Int := 0
  y : Int := 0
  sourceDevice : WebGestureDevice := .Uninitialized
  timeStampSeconds : ℚ := 0
  scrollBegin : ScrollBeginData := {}
  scrollUpdate : ScrollUpdateData := {}
  scrollEnd : ScrollEndData := {}
  pinchUpdate : PinchUpdateData := {}
  flingStart : FlingStartData := {}
  deriving DecidableEq, Repr

/-- `ObtainGestureScrollBegin`: the same event relabelled as a `GestureScrollBegin`, with
zero delta hints. -/
def obtainGestureScrollBegin (event : WebGestureEvent) : WebGestureEvent :=
  { event with
    type := .GestureScrollBegin
    scrollBegin := { event.scrollBegin with deltaXHint := 0, deltaYHint := 0 } }

/-! ## Touch, mouse, wheel and keyboard events -/

inductive TouchPointState
  | StateUndefined | StateReleased | StatePressed | StateMoved | StateStationary
  | StateCancelled
  deriving DecidableEq, Repr

/-- `blink::WebTouchPoint`: its state and its (floating) position. -/
structure WebTouchPoint where
  state : TouchPointState
  positionX : ℚ
  positionY : ℚ
  deriving DecidableEq, Repr

inductive TouchType
  | TouchStart | TouchMove | TouchEnd | TouchCancel | TouchScrollStarted
  deriving DecidableEq, Repr

/-- `blink::WebTouchEvent`; `touchesLength` is the length of `touches`. -/
structure WebTouchEvent where
  type : TouchType
  touches : List WebTouchPoint
  deriving DecidableEq, Repr

inductive MouseType
  | MouseDown | MouseUp | MouseMove | MouseEnter | MouseLeave | ContextMenu
  deriving DecidableEq, Repr

/-- `blink::WebMouseEvent::Button`. -/
inductive Button
  | NoButton | Left | Middle | Right
  deriving DecidableEq, Repr

/-- `blink::WebMouseEvent`. -/
structure WebMouseEvent where
  type : MouseType
  button : Button
  x : Int
  y : Int
  deriving DecidableEq, Repr

inductive RailsMode
  | RailsModeFree | RailsModeHorizontal | RailsModeVertical
  deriving DecidableEq, Repr

/-- `blink::WebMouseWheelEvent`. -/
structure WebMouseWheelEvent where
  deltaX : ℚ := 0
  deltaY : ℚ := 0
  hasPreciseScrollingDeltas : Bool := false
  railsMode : RailsMode := .RailsModeFree
  scrollByPage : Bool := false
  x : Int := 0
  y : Int := 0
  deriving DecidableEq, Repr

/-- The keyboard types, those for which `WebInputEvent::isKeyboardEventType` holds. -/
inductive KeyboardType
  | RawKeyDown | KeyDown | KeyUp | Char
  deriving DecidableEq, Repr

/-- `blink::WebInputEvent`, one constructor per event class. -/
inductive WebInputEvent
  | Mouse (event : WebMouseEvent)
  | MouseWheel (event : WebMouseWheelEvent)
  | Keyboard (type : KeyboardType)
  | Touch (event : WebTouchEvent)
  | Gesture (event : WebGestureEvent)
  deriving DecidableEq, Repr

end EBrowser
