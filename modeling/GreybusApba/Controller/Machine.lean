import GreybusApba.Sysfs.Requests
import GreybusApba.Flash.Store
import GreybusApba.Controller.Probe

/-!
# Controller/Machine — the driver as a state machine over its entry points

After `apba_ctrl_probe` the driver is driven from outside: sysfs reads and writes, the slave-control
core's notification, the transport registering itself and delivering frames, the interrupt, the
deferred works, the asynchronous firmware callback, and the exported `apba_enable`,
`apba_disable` and `apba_wake_assert`. Each is an `Op` carrying every answer its collaborators
give, and `step` runs it to completion; a request that blocks is split at its wait (`waitEnd`).
`Reachable` is every state some sequence of operations leads to from some successful probe.
-/

namespace GreybusApba

variable (c : Consts)

/-! ## The remaining entry points -/

/-- `flash_enable_store`: `apba_flash_on(g_ctrl, val)` for a write of `0` or `1`; `created` is
whether `populate_transports_node` creates the SPI flash device. -/
def flashEnableStore (s : State) (val : Option Nat) (created : Bool) (count : Nat) : State × Int :=
  match val with
  | some v => if v = 0 ∨ v = 1 then (apbaFlashOn s (v ≠ 0) created, count) else (s, -einval)
  | none => (s, -einval)

/-- `apba_enable_store`: `apba_enable()` for a write of `1`, `apba_disable()` for `0`. -/
def apbaEnableStore (s : State) (val : Option Nat) (clkRet : Int) (count : Nat) : State × Int :=
  match val with
  | some v =>
    if v = 0 ∨ v = 1 then ((if v ≠ 0 then (apbaEnable s clkRet).1 else apbaDisable c s), count)
    else (s, -einval)
  | none => (s, -einval)

/-- `schedule_delayed_work(&apba_disable_work, HZ)`: a work already pending stays pending once. -/
def scheduleDisableWork (s : State) : State :=
  { s.emit [.scheduleDelayedWork] with disableWorkPending := true }

/-- `apba_slave_notify` (with `g_ctrl` set): for the APBE, record the master interface, then
defer `apba_disable` when it is disabled and `apba_enable` when it is enabled. -/
def apbaSlaveNotify (s : State) (masterIntf : UInt8) (slaveMask slaveState : Nat) (clkRet : Int) :
    State :=
  if slaveMask ≠ c.slaveMaskApbe then s
  else
    let s := { s with masterIntf := masterIntf }
    if slaveState = c.slaveStateDisabled then scheduleDisableWork s
    else if slaveState = c.slaveStateEnabled then (apbaEnable s clkRet).1
    else s

/-- `apba_disable_work_func`, run by the workqueue when the delayed work is pending. -/
def apbaDisableWorkFunc (s : State) : State :=
  if s.disableWorkPending then apbaDisable c { s with disableWorkPending := false } else s

/-- `apba_firmware_callback` for the request of `apba_ctrl_probe`, with the image if there is one:
leave flash mode without one, flash `apba` with one; then let the MUC core finish its probe. -/
def apbaFirmwareCallback (s : State) (fw : Option Firmware) (out : MtdOutcome) : State :=
  match fw with
  | none => (flashExit s).emit [.mucEnableDet]
  | some fw =>
    (apbaFlashPartition c s apbaFirmwarePartition fw out).1.emit [.releaseFirmware, .mucEnableDet]

/-- `apba_uart_register` (with `g_ctrl` set). -/
def apbaUartRegister (s : State) (uart : Nat) : State := { s with modsUart := uart }

/-- `apba_apbe_attach_work_func` for the `i`-th pending attach work. -/
def apbaApbeAttachWorkFunc (s : State) (i : Nat) : State :=
  match s.attachWork[i]? with
  | none => s
  | some present =>
    let s := { s with attachWork := s.attachWork.eraseIdx i }
    if s.modsUart ≠ 0 then s.emit [.modAttach s.modsUart present] else s

/-- `apba_isr`: a wake interrupt goes to the transport's power management, unless the APBA is not
desired on or no transport is registered. -/
def apbaIsr (s : State) : State :=
  if s.desiredOn = 0 ∨ s.modsUart = 0 then s
  else s.emit [.modsUartPmHandleWakeInterrupt s.modsUart]

/-- `apba_wake_assert` (with `g_ctrl` set). -/
def apbaWakeAssert (s : State) (assert : Bool) : State :=
  s.emit (apbaSeq s.gpios (if assert then s.wakeAssertSeq else s.wakeDeassertSeq))

/-! ## Operations and runs -/

/-- A stack buffer of `n` bytes, with whatever it held before. -/
def StackBuf (n : Nat) : Type := { l : List UInt8 // l.length = n }

/-- An entry point of the driver with the answers of its collaborators. -/
inductive Op where
  | enable (clkRet : Int)
  | disable
  | disableWork
  | erasePartitionStore (buf : List UInt8) (partition : StackBuf partitionBufSize) (out : MtdOutcome)
  | flashPartitionStore (buf : List UInt8) (partition : StackBuf partitionBufSize)
      (fwName : StackBuf fwNameBufSize) (request : List UInt8 → Except Int Firmware)
      (out : MtdOutcome)
  | firmwareCallback (fw : Option Firmware) (out : MtdOutcome)
  | flashEnableStore (val : Option Nat) (created : Bool) (count : Nat)
  | apbaEnableStore (val : Option Nat) (clkRet : Int) (count : Nat)
  | modeStore (val : Option Nat) (sendRet : Int) (count : Nat)
  | baudStore (val : Option Nat) (sendRet : Int) (count : Nat)
  | logShow (sendRet : Int)
  | waitEnd (i : Nat)
  | baudShow
  | apbePowerStore (val : Option Nat) (count : Nat)
  | slaveNotify (masterIntf : UInt8) (slaveMask slaveState : Nat) (clkRet : Int)
  | uartRegister (uart : Nat)
  | handleMessage (payload : Nat → UInt8) (len : Nat) (allocOk : Bool)
  | attachWork (i : Nat)
  | isr
  | wakeAssert (assert : Bool)

/-- One operation, run to completion (or to its wait). A partition store whose copies left its
stack buffers would have no defined result; with the buffers' sizes fixed none does
(`partitionStores_spec`). -/
def step (s : State) : Op → State
  | .enable clkRet => (apbaEnable s clkRet).1
  | .disable => apbaDisable c s
  | .disableWork => apbaDisableWorkFunc c s
  | .erasePartitionStore buf partition out =>
    ((erasePartitionStore s buf partition.1 out).map Prod.fst).getD s
  | .flashPartitionStore buf partition fwName request out =>
    ((flashPartitionStore c s buf partition.1 fwName.1 request out).map Prod.fst).getD s
  | .firmwareCallback fw out => apbaFirmwareCallback c s fw out
  | .flashEnableStore val created count => (flashEnableStore s val created count).1
  | .apbaEnableStore val clkRet count => (apbaEnableStore c s val clkRet count).1
  | .modeStore val sendRet count => (apbaModeStore c s val sendRet count).1
  | .baudStore val sendRet count => (apbaBaudStore c s val sendRet count).1
  | .logShow sendRet => (apbaLogShow c s sendRet).1
  | .waitEnd i => (waitEnd c s i).1
  | .baudShow => apbaBaudShow s
  | .apbePowerStore val count => (apbePowerStore c s val count).1
  | .slaveNotify masterIntf slaveMask slaveState clkRet =>
    apbaSlaveNotify c s masterIntf slaveMask slaveState clkRet
  | .uartRegister uart => apbaUartRegister s uart
  | .handleMessage payload len allocOk => apbaHandleMessage c s payload len allocOk
  | .attachWork i => apbaApbeAttachWorkFunc s i
  | .isr => apbaIsr s
  | .wakeAssert assert => apbaWakeAssert s assert

/-- A sequence of operations, one after another. -/
def run (s : State) (ops : List Op) : State := ops.foldl (step c) s

@[simp] theorem run_nil (s : State) : run c s [] = s := rfl

@[simp] theorem run_cons (s : State) (op : Op) (ops : List Op) :
    run c s (op :: ops) = run c (step c s op) ops := rfl

theorem run_append (s : State) (ops ops' : List Op) :
    run c s (ops ++ ops') = run c (run c s ops) ops' := List.foldl_append _ _ _ _

/-- The states some sequence of operations leads to from a successful probe. -/
inductive Reachable : State → Prop
  | probe {dt : DeviceTree} {s : State} : apbaCtrlProbe dt = .ok s → Reachable s
  | step {s : State} (op : Op) : Reachable s → Reachable (step c s op)

theorem reachable_run {s : State} (h : Reachable c s) (ops : List Op) : Reachable c (run c s ops) := by
  induction ops generalizing s with
  | nil => exact h
  | cons op ops ih => exact ih (.step op h)

/-- **Invariants of every reachable state**: a property that holds after every successful probe
and that every operation keeps holds in every reachable state. -/
theorem reachable_induct {P : State → Prop}
    (hprobe : ∀ dt s, apbaCtrlProbe dt = .ok s → P s) (hstep : ∀ s op, P s → P (step c s op))
    {s : State} (h : Reachable c s) : P s := by
  induction h with
  | probe h => exact hprobe _ _ h
  | step op _ ih => exact hstep _ op ih

end GreybusApba
