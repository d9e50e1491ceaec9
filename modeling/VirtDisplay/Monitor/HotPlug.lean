/-
# The hot-plug thread of the user-mode driver

`hpd_event_create` announces a default monitor and then waits. Each wake-up asks the
kernel which screens are present, compares the answer with what it recorded at the last
one, and creates monitors or lets them depart until the two agree. It keeps a count of
its monitors and publishes it in shared memory. When the device leaves D0 the thread is
told to terminate; it lets its monitors depart and returns, and a new one starts when the
device is back.

Four things say which monitors there are: the list of monitor objects, the recorded
statuses, the flags of the last query and the count. They are separate variables of the
source, written on different branches, and the flags are the only ones that the last loop
looks at.

Beside them stands what is not in the source: which objects were created and departed,
whether the latest attempt to create a monitor for a connector succeeded, and whether the
last move was a wake-up.
-/

import VirtDisplay.Foundation.Registry
import VirtDisplay.Foundation.Transition
import VirtDisplay.Monitor.Records

namespace VirtDisplay

open Transition

/-- `monitor_info`. -/
structure MonitorInfo where
  status : Bool
  edidBlock : Edid

/-- The zero-filled entry. -/
def MonitorInfo.zero : MonitorInfo := ⟨false, fun _ => 0⟩

/-- The hot-plug thread and the globals it works on. -/
structure HotPlug where
  /-- `hpd_event_create` has not returned. -/
  running : Bool
  /-- `g_monitorobject_list`. -/
  monitorObjects : Registry ScreenId
  /-- `g_monitors`. -/
  monitors : ScreenId → IndirectSampleMonitor
  minfo : ScreenId → MonitorInfo
  /-- `dinfo.disp_count`. -/
  dispCount : Int
  /-- `hdata.screen_present`. -/
  screenPresent : ScreenId → Bool
  dEdid : Bool
  doSetEvent : Bool
  /-- `pSharedMem->disp_count`. -/
  published : Int
  /-- Whether the latest attempt to create a monitor for a connector succeeded. -/
  creation : ScreenId → Bool
  /-- The last move was a wake-up. -/
  handled : Bool

/-- What the environment answers during one wake-up. -/
structure WakeAnswers where
  /-- The flags of `get_hpd_data`, or nothing where it fails. -/
  hpd : Option (ScreenId → Bool)
  edid : ScreenId → EdidAnswer
  /-- `IddCxMonitorCreate` succeeds for a connector. -/
  creates : ScreenId → Bool

/-- `intelvirtdisplay_monitor_count`: the kernel never answers zero, and
`IntelVirtDisplayUMDDeviceAdd` accepts no more than `MAX_MONITOR_SUPPORTED`. -/
structure MonitorCount where
  val : Nat
  pos : 0 < val
  le : val ≤ maxScanOut

namespace HotPlug

/-- `PRIMARY_IDD_INDEX`. -/
abbrev primaryIddIndex : ScreenId := 0

/-- The device as it was added: nothing created, every record zero. -/
def start : HotPlug where
  running := false
  monitorObjects := .empty
  monitors := fun _ => .zero
  minfo := fun _ => .zero
  dispCount := 0
  screenPresent := fun _ => false
  dEdid := true
  doSetEvent := false
  published := 0
  creation := fun _ => false
  handled := false

/-- `IndirectDeviceContext::FinishInit`. -/
def finishInit (creates : Bool) (i : ScreenId) (s : HotPlug) : HotPlug :=
  { s with
    creation := Function.update s.creation i creates
    monitorObjects := if creates then s.monitorObjects.put i else s.monitorObjects }

/-- `IddCxMonitorDeparture` of a list entry, and the entry set to `NULL`. -/
def depart (i : ScreenId) (s : HotPlug) : HotPlug :=
  { s with monitorObjects := s.monitorObjects.drop i }

/-- A record after `get_edid_data`, called again for the default EDID where it fails. -/
def queried (monitor : IndirectSampleMonitor) (dEdid : Bool) (answer : EdidAnswer) :
    IndirectSampleMonitor :=
  match monitor.getEdidData dEdid answer with
  | some filled => filled
  | none => (monitor.getEdidData true answer).getD monitor

/-- The query of a connector's EDID in the loop. -/
def queryEdid (w : WakeAnswers) (i : ScreenId) (s : HotPlug) : HotPlug :=
  { s with
    monitors := Function.update s.monitors i (queried (s.monitors i) s.dEdid (w.edid i)) }

/-- `minfo[i]` written. -/
def setInfo (i : ScreenId) (info : MonitorInfo) (s : HotPlug) : HotPlug :=
  { s with minfo := Function.update s.minfo i info }

/-- One round of the loop over the connectors. -/
def serve (w : WakeAnswers) (s : HotPlug) (i : ScreenId) : HotPlug :=
  if (s.minfo i).status ≠ s.screenPresent i then
    if s.screenPresent i = false ∧ (s.monitorObjects.slots i).isSome then
      let s := (s.setInfo i ⟨s.screenPresent i, fun _ => 0⟩).depart i
      { s with dispCount := s.dispCount - 1, doSetEvent := true }
    else
      -- this branch is also taken for an absent screen without a monitor object
      let s := s.queryEdid w i
      let s :=
        (s.setInfo i ⟨s.screenPresent i, (s.monitors i).edidBlock⟩).finishInit (w.creates i) i
      { s with dispCount := s.dispCount + 1, doSetEvent := true }
  else if s.screenPresent i then
    let s := s.queryEdid w i
    if (s.minfo i).edidBlock ≠ (s.monitors i).edidBlock then
      let s := s.setInfo i ⟨(s.minfo i).status, (s.monitors i).edidBlock⟩
      { (s.depart i).finishInit (w.creates i) i with doSetEvent := true }
    else s
  else s

/-- The connectors of the loop. -/
def connectors (monitorCount : MonitorCount) : List ScreenId :=
  (List.finRange maxScanOut).filter fun i => i.val < monitorCount.val

/-- A wake-up up to its query: the default monitor departs, one flag is cleared. -/
def beginWake (s : HotPlug) : HotPlug :=
  let s := if s.dEdid then { s.depart primaryIddIndex with dEdid := false } else s
  { s with screenPresent := Function.update s.screenPresent 3 false }

/-- The flags of the query are taken over. -/
def present (flags : ScreenId → Bool) (s : HotPlug) : HotPlug := { s with screenPresent := flags }

/-- The end of a wake-up: the count is published if something changed. -/
def publish (s : HotPlug) : HotPlug :=
  { s with
    published := if s.doSetEvent then s.dispCount else s.published
    doSetEvent := false }

/-- A wake-up by `hp_event`. -/
def wakeUp (monitorCount : MonitorCount) (w : WakeAnswers) (s : HotPlug) : HotPlug :=
  let s := s.beginWake
  let s := match w.hpd with
    | none => s
    | some flags => ((connectors monitorCount).foldl (serve w) (s.present flags)).publish
  { s with handled := true }

/-- `hpd_event_create` up to its loop, with fresh local variables. -/
def enter (isWin11 : Bool) (answer : EdidAnswer) (creates : Bool) (s : HotPlug) : HotPlug :=
  let i := primaryIddIndex
  let filled := ((s.monitors i).getEdidData (!isWin11) answer).getD (s.monitors i)
  let s : HotPlug :=
    { running := true
      monitorObjects := s.monitorObjects
      monitors := Function.update s.monitors i filled
      minfo := fun _ => .zero
      dispCount := 0
      screenPresent := fun _ => false
      dEdid := true
      doSetEvent := false
      published := 1
      creation := fun _ => false
      handled := false }
  s.finishInit creates i

/-- One round of the loop behind the terminate event. -/
def sweep (s : HotPlug) (i : ScreenId) : HotPlug :=
  if s.screenPresent i then (s.setInfo i { s.minfo i with status := false }).depart i else s

/-- The terminate event, and the return. -/
def terminate (s : HotPlug) : HotPlug :=
  { (List.finRange maxScanOut).foldl sweep s with running := false, handled := false }

/-- What can happen, with the environment's answers. -/
inductive Label
  | enter (isWin11 : Bool) (answer : EdidAnswer) (creates : Bool)
  | wakeUp (w : WakeAnswers)
  | terminate

/-- One move. -/
def step (monitorCount : MonitorCount) (s : HotPlug) : Label → Option HotPlug
  | .enter isWin11 answer creates =>
      if s.running then none else some (s.enter isWin11 answer creates)
  | .wakeUp w => if s.running then some (s.wakeUp monitorCount w) else none
  | .terminate => if s.running then some s.terminate else none

/-- The thread as a system, over one life after the other. -/
def system (monitorCount : MonitorCount) : System HotPlug Label := ⟨step monitorCount⟩

end HotPlug

end VirtDisplay
