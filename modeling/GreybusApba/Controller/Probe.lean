import GreybusApba.Power.OnOff

/-!
# Controller/Probe — `apba_ctrl_probe`: the state every run starts from

The probe checks its collaborators, reads the GPIOs, the interrupt index and the six sequences
from the device tree into the controller `devm_kzalloc` zeroed, looks up the pin states, creates
the sysfs attributes, turns the APBA off, publishes `g_ctrl`, registers with the slave-control
core and requests the APBA image asynchronously. Any failure ends it with the error.

On success the controller is the zeroed one with its device-tree fields filled, after
`apba_on(ctrl, false)` (`apbaCtrlProbe_ok`): nothing is desired on, no transport and no master
interface are known, no clock is held, and the only power call made is that `apba_on(off)`.
-/

namespace GreybusApba

/-- What `apba_ctrl_probe` finds in its platform device and device tree, and what the
collaborators it calls answer. An `Int` answer is `0` for success or the error returned. -/
structure DeviceTree where
  /-- `muc_core_probed()`. -/
  mucCoreProbed : Bool
  /-- `pdev->dev.of_node` is set. -/
  hasOfNode : Bool
  /-- `devm_kzalloc` of the controller succeeds. -/
  kzallocOk : Bool
  /-- `devm_clk_get(.., "apba_mclk")`. -/
  clk : Int
  gpios : List DtGpio
  /-- `of_property_count_strings(.., "mmi,gpio-labels")`. -/
  labelCnt : Int
  /-- `of_property_read_u32(.., "mmi,int-index")`: the cell, or the error. -/
  intIndex : Except Int UInt32
  /-- `devm_request_threaded_irq`. -/
  irqRet : Int
  /-- The properties `mmi,enable-seq`, …, `mmi,flash-end-seq`. -/
  enableSeq : Option (List UInt8)
  disableSeq : Option (List UInt8)
  wakeAssertSeq : Option (List UInt8)
  wakeDeassertSeq : Option (List UInt8)
  flashStartSeq : Option (List UInt8)
  flashEndSeq : Option (List UInt8)
  /-- `devm_pinctrl_get`. -/
  pinctrl : Int
  /-- `pinctrl_lookup_state(.., PINCTRL_STATE_DEFAULT)`. -/
  pinctrlDefault : Int
  /-- `pinctrl_lookup_state(.., "spi_active")` finds the optional state. -/
  spiActive : Bool
  /-- `sysfs_create_groups`. -/
  sysfsRet : Int
  /-- `mods_register_slave_ctrl_driver`. -/
  slaveDrvRet : Int
  /-- `request_firmware_nowait`. -/
  firmwareRet : Int
  /-- The MTD devices. -/
  mtd : Nat → Option MtdInfo

/-- `apba_int_setup` for a controller with `gpio_cnt` GPIOs: read `int_index` into an `int` and
check it against `gpio_cnt`, then request the interrupt. Returns `int_index`. -/
def apbaIntSetup (gpioCnt : Nat) (intIndex : Except Int UInt32) (irqRet : Int) : Except Int Int := do
  let idx ← intIndex.map fun v => int32OfNat v.toNat
  if idx < 0 ∨ gpioCnt ≤ idx then throw (-einval)
  if irqRet ≠ 0 then throw irqRet
  pure idx

/-- The part of `apba_ctrl_probe` that fills the zeroed controller from the device tree, from
`apba_gpio_setup` to the lookup of the pin states. -/
def apbaCtrlFill (dt : DeviceTree) : Except Int State := do
  let (gpioCnt, gpios) ← apbaGpioSetup dt.gpios dt.labelCnt
  let _ ← apbaIntSetup gpioCnt dt.intIndex dt.irqRet
  let enableSeq ← apbaParseSeq dt.enableSeq .zero
  let disableSeq ← apbaParseSeq dt.disableSeq .zero
  let wakeAssertSeq ← apbaParseSeq dt.wakeAssertSeq .zero
  let wakeDeassertSeq ← apbaParseSeq dt.wakeDeassertSeq .zero
  let flashStartSeq ← apbaParseSeq dt.flashStartSeq .zero
  let flashEndSeq ← apbaParseSeq dt.flashEndSeq .zero
  if dt.pinctrl ≠ 0 then throw dt.pinctrl
  if dt.pinctrlDefault ≠ 0 then throw dt.pinctrlDefault
  pure { State.kzalloc dt.mtd with
    gpioCnt, gpios, enableSeq, disableSeq, wakeAssertSeq, wakeDeassertSeq, flashStartSeq,
    flashEndSeq, pinctrlActive := dt.spiActive }

/-- `apba_ctrl_probe`: the controller `g_ctrl` points to when the probe returns `0`, or its
error. -/
def apbaCtrlProbe (dt : DeviceTree) : Except Int State := do
  if !dt.mucCoreProbed then throw (-eprobeDefer)
  if !dt.hasOfNode then throw (-einval)
  if !dt.kzallocOk then throw (-enomem)
  if dt.clk ≠ 0 then throw dt.clk
  let ctrl ← apbaCtrlFill dt
  if dt.sysfsRet ≠ 0 then throw dt.sysfsRet
  let ctrl := apbaOn ctrl false
  if dt.slaveDrvRet ≠ 0 then throw dt.slaveDrvRet
  if dt.firmwareRet ≠ 0 then throw dt.firmwareRet
  pure ctrl

/-- What the fill leaves as `devm_kzalloc` zeroed it. -/
structure Zeroed (s : State) : Prop where
  calls : s.calls = []
  modsUart : s.modsUart = 0
  desiredOn : s.desiredOn = 0
  masterIntf : s.masterIntf = 0
  comp : s.comp = 0
  baudComp : s.baudComp = 0
  modeComp : s.modeComp = 0
  flashDevPopulated : s.flashDevPopulated = false
  logFifo : s.logFifo.buf = []
  disableWorkPending : s.disableWorkPending = false
  attachWork : s.attachWork = []
  waiters : s.waiters = []

theorem apbaCtrlFill_zeroed {dt : DeviceTree} {s : State} (h : apbaCtrlFill dt = .ok s) :
    Zeroed s ∧ s.mtd = dt.mtd := by
  simp only [apbaCtrlFill, bind, pure, Except.pure] at h
  iterate 8 obtain ⟨_, -, h⟩ := bind_eq_ok h
  cases Except.ok.inj (guard_eq_ok (guard_eq_ok h).2).2
  exact ⟨⟨rfl, rfl, rfl, rfl, rfl, rfl, rfl, rfl, rfl, rfl, rfl, rfl⟩, rfl⟩

/-- **The state of a successful probe**: the filled, otherwise zeroed controller after
`apba_on(ctrl, false)`. -/
theorem apbaCtrlProbe_ok {dt : DeviceTree} {s : State} (h : apbaCtrlProbe dt = .ok s) :
    ∃ s₀, Zeroed s₀ ∧ s₀.mtd = dt.mtd ∧ s = apbaOn s₀ false := by
  simp only [apbaCtrlProbe, bind, Except.bind, pure, Except.pure] at h
  iterate 4 obtain ⟨-, h⟩ := guard_eq_ok h
  obtain ⟨s₀, hfill, h⟩ := bind_eq_ok h
  iterate 3 obtain ⟨-, h⟩ := guard_eq_ok h
  obtain ⟨hz, hmtd⟩ := apbaCtrlFill_zeroed hfill
  exact ⟨s₀, hz, hmtd, (Except.ok.inj h).symm⟩

/-- A device tree on which the probe succeeds: one GPIO, number `5`, which is also the interrupt;
every sequence one triple that drives it, and no MTD device. -/
def DeviceTree.sample : DeviceTree where
  mucCoreProbed := true
  hasOfNode := true
  kzallocOk := true
  clk := 0
  gpios := [⟨5, 0⟩]
  labelCnt := 1
  intIndex := .ok 0
  irqRet := 0
  enableSeq := some [0, 0, 0, 0, 0, 0, 0, 1, 0, 0, 0, 0]
  disableSeq := some [0, 0, 0, 0, 0, 0, 0, 0, 0, 0, 0, 0]
  wakeAssertSeq := some [0, 0, 0, 0, 0, 0, 0, 1, 0, 0, 0, 0]
  wakeDeassertSeq := some [0, 0, 0, 0, 0, 0, 0, 0, 0, 0, 0, 0]
  flashStartSeq := some [0, 0, 0, 0, 0, 0, 0, 1, 0, 0, 0, 0]
  flashEndSeq := some [0, 0, 0, 0, 0, 0, 0, 0, 0, 0, 0, 0]
  pinctrl := 0
  pinctrlDefault := 0
  spiActive := false
  sysfsRet := 0
  slaveDrvRet := 0
  firmwareRet := 0
  mtd := fun _ => none

example : ∃ s, apbaCtrlProbe DeviceTree.sample = .ok s := ⟨_, rfl⟩

end GreybusApba
