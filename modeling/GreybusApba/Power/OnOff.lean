import GreybusApba.Driver.State

/-!
# Power/OnOff — `apba_on`, `apba_flash_on`, `apba_enable` and `apba_disable`

`apba_on` and `apba_flash_on` are the only functions that move the power state; each logs itself
first, and everything else it calls is a GPIO write, a sleep, or a call into the transport, the
pin controller or the MUC. So each moves the power state by exactly its own step
(`power_apbaOn`, `power_apbaFlashOn`).

`apba_enable` runs `apba_on(ctrl, true)` whenever the clock starts, whatever the power state:
nothing in it asks whether the APBA is already on.
-/

namespace GreybusApba

variable (c : Consts)

/-! ## `apba_on` and `apba_flash_on` -/

/-- `apba_on`: vote the external bus; to turn on, open the transport, run the enable sequence and
turn transport power management on; to turn off, clear `mode`, run the disable sequence, and turn
power management off and close the transport. The transport calls are made only when `mods_uart`
is set. -/
@[simps]
def apbaOn (s : State) (enable : Bool) : State :=
  { s with
    mode := if enable then s.mode else 0
    calls := s.calls ++ .apbaOn enable :: .modsExtBusVote enable ::
      if enable then
        s.withUart [.modsUartOpen s.modsUart] ++ apbaSeq s.gpios s.enableSeq ++
          s.withUart [.modsUartPmOn s.modsUart true]
      else
        apbaSeq s.gpios s.disableSeq ++
          s.withUart [.modsUartPmOn s.modsUart false, .modsUartClose s.modsUart] }

/-- `apba_flash_on`. To turn on: select the `spi_active` pin state if there is one, run the
flash-start sequence, register the SPI flash transport, and `populate_transports_node`, which
sets `flash_dev_populated` when the SPI transport device is `created`. To turn off: depopulate
the device if it was populated, run the flash-end sequence, deregister the transport and select
the default pin state. -/
@[simps]
def apbaFlashOn (s : State) (enable created : Bool) : State :=
  { s with
    flashDevPopulated := if enable then s.flashDevPopulated || created else false
    calls := s.calls ++ .apbaFlashOn enable ::
      if enable then
        (if s.pinctrlActive then [.pinctrlSelectState true] else []) ++
          apbaSeq s.gpios s.flashStartSeq ++ [.mucRegisterSpiFlash]
      else
        (if s.flashDevPopulated then [.ofPlatformDepopulate] else []) ++
          apbaSeq s.gpios s.flashEndSeq ++ [.mucDeregisterSpiFlash, .pinctrlSelectState false] }

@[simp] theorem apbaOn_mtd_eq (s : State) (enable : Bool) : (apbaOn s enable).mtd = s.mtd := rfl

@[simp] theorem apbaFlashOn_mtd_eq (s : State) (enable created : Bool) :
    (apbaFlashOn s enable created).mtd = s.mtd := rfl

theorem power_apbaOn (s : State) (enable : Bool) :
    power (apbaOn s enable).calls = (power s.calls).step (.apbaOn enable) := by
  rw [apbaOn_calls, power_append, List.foldl_cons, List.foldl_cons,
    Power.step_of_not_isPower (c := .modsExtBusVote enable) rfl, foldl_step_of_all]
  cases enable <;>
    simp only [if_true, if_false, Bool.false_eq_true, List.all_append, List.all_cons, List.all_nil,
      all_apbaSeq, State.withUart] <;> split_ifs <;> rfl

theorem power_apbaFlashOn (s : State) (enable created : Bool) :
    power (apbaFlashOn s enable created).calls = (power s.calls).step (.apbaFlashOn enable) := by
  rw [apbaFlashOn_calls, power_append, List.foldl_cons, foldl_step_of_all]
  cases enable <;>
    simp only [if_true, if_false, Bool.false_eq_true, List.all_append, List.all_cons, List.all_nil,
      all_apbaSeq] <;> split_ifs <;> rfl

@[simp] theorem hwOn_apbaOn (s : State) (enable : Bool) : (apbaOn s enable).hwOn = enable := by
  rw [State.hwOn, power_apbaOn]; rfl

@[simp] theorem flashOn_apbaOn (s : State) (enable : Bool) :
    (apbaOn s enable).flashOn = s.flashOn := by
  rw [State.flashOn, power_apbaOn]; rfl

@[simp] theorem hwOn_apbaFlashOn (s : State) (enable created : Bool) :
    (apbaFlashOn s enable created).hwOn = s.hwOn := by
  rw [State.hwOn, power_apbaFlashOn]; rfl

@[simp] theorem flashOn_apbaFlashOn (s : State) (enable created : Bool) :
    (apbaFlashOn s enable created).flashOn = enable := by
  rw [State.flashOn, power_apbaFlashOn]; rfl

theorem apbaOn_calls_noMtd (s : State) (enable : Bool) :
    ∃ l, (apbaOn s enable).calls = s.calls ++ l ∧ l.all (fun c => !c.isMtd) = true := by
  refine ⟨_, apbaOn_calls s enable, ?_⟩
  cases enable <;>
    simp only [if_true, if_false, Bool.false_eq_true, List.all_append, List.all_cons, List.all_nil,
      all_apbaSeq_not_isMtd, State.withUart] <;> split_ifs <;> rfl

theorem apbaFlashOn_calls_noMtd (s : State) (enable created : Bool) :
    ∃ l, (apbaFlashOn s enable created).calls = s.calls ++ l ∧
      l.all (fun c => !c.isMtd) = true := by
  refine ⟨_, apbaFlashOn_calls s enable created, ?_⟩
  cases enable <;>
    simp only [if_true, if_false, Bool.false_eq_true, List.all_append, List.all_cons, List.all_nil,
      all_apbaSeq_not_isMtd] <;> split_ifs <;> rfl

/-! ## `apba_enable` and `apba_disable` -/

/-- `apba_enable` (with `g_ctrl` set): start the clock, and if it started set `desired_on` and
turn the APBA on. -/
def apbaEnable (s : State) (clkRet : Int) : State × Int :=
  let s := s.emit [.clkPrepareEnable clkRet]
  if clkRet ≠ 0 then (s, clkRet) else (apbaOn { s with desiredOn := 1 } true, 0)

/-- `apba_disable` (with `g_ctrl` set): unless `desired_on` is already clear, power the APBE off,
clear `desired_on`, detach the mod from the transport, stop the clock and turn the APBA off. -/
def apbaDisable (s : State) : State :=
  if s.desiredOn = 0 then s
  else
    let s := { s.emit [.modsSlaveCtrlPower s.masterIntf c.slavePowerOff c.slaveMaskApbe] with
      desiredOn := 0 }
    apbaOn (s.emit (s.withUart [.modAttach s.modsUart 0] ++ [.clkDisableUnprepare])) false

end GreybusApba
