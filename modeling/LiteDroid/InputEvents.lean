import LiteDroid.BoundedQueue
import Mathlib.Data.List.Nodup

/-!
# Input events on their way to the guest

The user interface injects events into one queue, and the device model takes
them out of it. An injection does not say whether its event got in: an event
that finds the queue full is lost. The calls of all threads take effect in one
order, at the moment each of them sends or receives.
-/

namespace LiteDroid.InputEvents

open BoundedQueue

/-- A mouse button. -/
inductive MouseButton where
  | left
  | right
  | middle
  deriving DecidableEq,Repr

/-- A hardware button of the device. -/
inductive AndroidButton where
  | back
  | home
  | recent
  | power
  | volumeUp
  | volumeDown
  deriving DecidableEq,Repr

/-- An event that is forwarded to the guest. -/
inductive InputEvent where
  /-- A mouse button goes down. -/
  | mouseDown (button : MouseButton) (x y : Int32)
  /-- A mouse button goes up. -/
  | mouseUp (button : MouseButton) (x y : Int32)
  /-- The mouse moves. -/
  | mouseMove (x y : Int32)
  /-- A key goes down. -/
  | keyDown (keycode : UInt32)
  /-- A key goes up. -/
  | keyUp (keycode : UInt32)
  /-- A finger touches the screen. -/
  | touchStart (slot : UInt32) (x y : Int32)
  /-- A finger moves. -/
  | touchMove (slot : UInt32) (x y : Int32)
  /-- A finger leaves the screen. -/
  | touchEnd (slot : UInt32)
  /-- A hardware button is pressed. -/
  | androidButton (button : AndroidButton)
  deriving DecidableEq

/-- The key codes of the window system, each with the code that Linux gives the key. -/
def keycodeMap : List (UInt32×UInt32) :=
  [(9,1),(10,2),(11,3),(12,4),(13,5),(14,6),(15,7),(16,8),(17,9),(18,10),(19,11),(24,16),
    (25,17),(26,18),(27,19),(28,20),(29,21),(30,22),(31,23),(32,24),(33,25),(38,30),(39,31),
    (40,32),(41,33),(42,34),(43,35),(44,36),(45,37),(46,38),(52,44),(53,45),(54,46),(55,47),
    (56,48),(57,49),(58,50),(23,15),(36,28),(22,14),(65,57),(50,42),(37,29),(64,56),(67,59),
    (68,60),(69,61),(70,62),(71,63),(72,64),(73,65),(74,66),(75,67),(76,68),(77,87),(78,88),
    (110,102),(115,107),(113,105),(111,103),(114,106),(116,108)]

/-- Map a key code of the window system to the one of Linux; zero for an unmapped one. -/
def x11ToLinuxKeycode (x11Keycode : UInt32) : UInt32 :=
  ((keycodeMap.find? fun entry => entry.1==x11Keycode).map Prod.snd).getD 0

/-- A code that is mapped stands in the table. -/
theorem keycode_entry {x11Keycode : UInt32} (h : x11ToLinuxKeycode x11Keycode≠0) :
    (x11Keycode,x11ToLinuxKeycode x11Keycode)∈keycodeMap := by
  rw [x11ToLinuxKeycode] at h ⊢
  cases hfind : keycodeMap.find? fun entry => entry.1==x11Keycode with
  | none =>
    rw [hfind] at h
    exact absurd rfl h
  | some entry =>
    obtain ⟨hkey,-⟩ := List.find?_eq_some_iff_append.mp hfind
    rw [beq_iff_eq] at hkey
    rw [← hkey]
    exact List.mem_of_find?_eq_some hfind

/-- Different keys have different codes, and each one is the code of the window
system less eight, with the exception of the last two function keys. -/
theorem keycodes_apart {x11Keycode : UInt32} (h : x11ToLinuxKeycode x11Keycode≠0) :
    (∀ other, x11ToLinuxKeycode other=x11ToLinuxKeycode x11Keycode → other=x11Keycode) ∧
      (x11ToLinuxKeycode x11Keycode+8=x11Keycode ↔ x11Keycode≠77 ∧ x11Keycode≠78) := by
  have hcodes : (keycodeMap.map Prod.snd).Nodup := by decide +kernel
  have hoffsets : keycodeMap.all (fun entry => decide (entry.2+8=entry.1)==
      (decide (entry.1≠77) && decide (entry.1≠78)))=true := by decide +kernel
  refine ⟨fun other hother => ?_,?_⟩
  · have hentry := keycode_entry (hother ▸ h)
    exact congrArg Prod.fst (List.inj_on_of_nodup_map hcodes hentry (keycode_entry h) hother)
  · have hoffset := List.all_eq_true.mp hoffsets _ (keycode_entry h)
    rw [beq_iff_eq,Bool.eq_iff_iff,Bool.and_eq_true,decide_eq_true_eq,decide_eq_true_eq,
      decide_eq_true_eq] at hoffset
    exact hoffset

/-- The error value of a wait that took too long. -/
structure InputError where
  /-- What went wrong. -/
  message : String
  deriving DecidableEq

/-- The number of events that wait at most. -/
def channelCapacity : ℕ := 1024

/-- The queue of events, with the size of the display. -/
structure InputManager where
  /-- The channel between both sides. -/
  channel : Queue channelCapacity InputEvent
  /-- Width of the display. -/
  displayWidth : UInt32
  /-- Height of the display. -/
  displayHeight : UInt32

/-- A manager without events. -/
def InputManager.new (displayWidth displayHeight : UInt32) : InputManager :=
  ⟨.empty,displayWidth,displayHeight⟩

/-- Send an event without waiting for room. The result is not looked at. -/
def InputManager.trySend (manager : InputManager) (event : InputEvent) : Bool×InputManager :=
  let sent := manager.channel.offer event
  (sent.1,{ manager with channel := sent.2 })

/-- A mouse button goes down. -/
def InputManager.injectMouseDown (manager : InputManager) (x y : Int32) (button : MouseButton) :
    InputManager := (manager.trySend (.mouseDown button x y)).2

/-- A mouse button goes up. -/
def InputManager.injectMouseUp (manager : InputManager) (x y : Int32) (button : MouseButton) :
    InputManager := (manager.trySend (.mouseUp button x y)).2

/-- The mouse moves. -/
def InputManager.injectMouseMove (manager : InputManager) (x y : Int32) : InputManager :=
  (manager.trySend (.mouseMove x y)).2

/-- A key goes down. -/
def InputManager.injectKeyDown (manager : InputManager) (keycode : UInt32) : InputManager :=
  (manager.trySend (.keyDown keycode)).2

/-- A key goes up. -/
def InputManager.injectKeyUp (manager : InputManager) (keycode : UInt32) : InputManager :=
  (manager.trySend (.keyUp keycode)).2

/-- A finger touches the screen. -/
def InputManager.injectTouchStart (manager : InputManager) (trackingId : UInt32) (x y : Int32) :
    InputManager := (manager.trySend (.touchStart trackingId x y)).2

/-- A finger moves. -/
def InputManager.injectTouchMove (manager : InputManager) (trackingId : UInt32) (x y : Int32) :
    InputManager := (manager.trySend (.touchMove trackingId x y)).2

/-- A finger leaves the screen. -/
def InputManager.injectTouchEnd (manager : InputManager) (trackingId : UInt32) : InputManager :=
  (manager.trySend (.touchEnd trackingId)).2

/-- A hardware button is pressed. -/
def InputManager.injectAndroidButton (manager : InputManager) (button : AndroidButton) :
    InputManager := (manager.trySend (.androidButton button)).2

/-- Receive an event without waiting. -/
def InputManager.tryRecv (manager : InputManager) : Option InputEvent×InputManager :=
  let out := manager.channel.take
  (out.1,{ manager with channel := out.2 })

/-- Receive an event with a timeout, at the moment the wait ends: an event is
handed out as soon as there is one, so the wait is in vain only while there is none. -/
def InputManager.recvTimeout (manager : InputManager) : Except InputError InputEvent×InputManager :=
  let out := manager.channel.take
  (match out.1 with
    | some event => .ok event
    | none => .error ⟨"channel recv timeout"⟩,{ manager with channel := out.2 })

/-- A call of one of the methods. -/
inductive Call where
  | injectMouseDown (x y : Int32) (button : MouseButton)
  | injectMouseUp (x y : Int32) (button : MouseButton)
  | injectMouseMove (x y : Int32)
  | injectKeyDown (keycode : UInt32)
  | injectKeyUp (keycode : UInt32)
  | injectTouchStart (trackingId : UInt32) (x y : Int32)
  | injectTouchMove (trackingId : UInt32) (x y : Int32)
  | injectTouchEnd (trackingId : UInt32)
  | injectAndroidButton (button : AndroidButton)
  | tryRecv
  | recvTimeout
  deriving DecidableEq

/-- What a call returns. -/
inductive Reply where
  /-- An injection returns nothing. -/
  | injected
  /-- The event that was received at once, if any. -/
  | received (event : Option InputEvent)
  /-- The event that was waited for, or the error. -/
  | waited (result : Except InputError InputEvent)

/-- What a call returns, and the manager behind it. -/
def InputManager.call (manager : InputManager) : Call → Reply×InputManager
  | .injectMouseDown x y button => (.injected,manager.injectMouseDown x y button)
  | .injectMouseUp x y button => (.injected,manager.injectMouseUp x y button)
  | .injectMouseMove x y => (.injected,manager.injectMouseMove x y)
  | .injectKeyDown keycode => (.injected,manager.injectKeyDown keycode)
  | .injectKeyUp keycode => (.injected,manager.injectKeyUp keycode)
  | .injectTouchStart trackingId x y => (.injected,manager.injectTouchStart trackingId x y)
  | .injectTouchMove trackingId x y => (.injected,manager.injectTouchMove trackingId x y)
  | .injectTouchEnd trackingId => (.injected,manager.injectTouchEnd trackingId)
  | .injectAndroidButton button => (.injected,manager.injectAndroidButton button)
  | .tryRecv =>
    let out := manager.tryRecv
    (.received out.1,out.2)
  | .recvTimeout =>
    let out := manager.recvTimeout
    (.waited out.1,out.2)

/-- The event that a call injects. -/
def Call.event : Call → Option InputEvent
  | .injectMouseDown x y button => some (.mouseDown button x y)
  | .injectMouseUp x y button => some (.mouseUp button x y)
  | .injectMouseMove x y => some (.mouseMove x y)
  | .injectKeyDown keycode => some (.keyDown keycode)
  | .injectKeyUp keycode => some (.keyUp keycode)
  | .injectTouchStart trackingId x y => some (.touchStart trackingId x y)
  | .injectTouchMove trackingId x y => some (.touchMove trackingId x y)
  | .injectTouchEnd trackingId => some (.touchEnd trackingId)
  | .injectAndroidButton button => some (.androidButton button)
  | .tryRecv => none
  | .recvTimeout => none

/-- The event that a reply hands out. -/
def Reply.event : Reply → Option InputEvent
  | .injected => none
  | .received event => event
  | .waited (.ok event) => some event
  | .waited (.error _) => none

/-- The replies to calls, and the manager behind them. -/
def InputManager.calls (manager : InputManager) : List Call → List Reply×InputManager
  | [] => ([],manager)
  | call::rest =>
    let done := manager.call call
    let later := done.2.calls rest
    (done.1::later.1,later.2)

/-- The events that calls inject, in order. -/
def injected (calls : List Call) : List InputEvent := calls.filterMap Call.event

/-- The operation on the channel that a call is. -/
def Call.op (call : Call) : Op InputEvent :=
  match call.event with
  | some event => .offer event
  | none => .take

/-- The injected events that got into the channel, in order. -/
def InputManager.accepted (manager : InputManager) : List Call → List InputEvent
  | [] => []
  | call::rest =>
    (call.event.filter fun event => (manager.trySend event).1).toList++
      (manager.call call).2.accepted rest

end LiteDroid.InputEvents
