import GreybusApba.Controller.Power

/-!
# Controller/Frame — what only the handler and the end of a wait touch

The log FIFO and the `done` counts of the three completions are written in two places only:
`apba_handle_message`, where a `LOG_IND` frame appends to the FIFO and an answer completes its
completion, and the end of a wait, where a successful wait takes a completion and
`apba_log_show` drains the FIFO. Every other operation leaves them as they are (`step_ctl`).
-/

namespace GreybusApba

variable (c : Consts)

/-- The log FIFO and the `done` counts of `comp`, `baud_comp` and `mode_comp`. -/
def State.ctl (s : State) : LogFifo × Nat × Nat × Nat :=
  (s.logFifo, s.comp, s.baudComp, s.modeComp)

@[simp] theorem ctl_emit (s : State) (cs : List Call) : (s.emit cs).ctl = s.ctl := rfl

@[simp] theorem ctl_apbaOn (s : State) (enable : Bool) : (apbaOn s enable).ctl = s.ctl := rfl

@[simp] theorem ctl_apbaFlashOn (s : State) (enable created : Bool) :
    (apbaFlashOn s enable created).ctl = s.ctl := rfl

@[simp] theorem ctl_flashExit (s : State) : (flashExit s).ctl = s.ctl := by
  simp only [flashExit]; split <;> rfl

/-- A step of the MTD layer touches neither the FIFO nor the completions. -/
theorem MtdStep.ctl_eq {p : Call → Bool} {s s' : State} (h : MtdStep p s s') : s'.ctl = s.ctl := by
  obtain ⟨_, _, rfl, _⟩ := h; rfl

@[simp] theorem ctl_apbaErasePartition (s : State) (partition : List UInt8) (out : MtdOutcome) :
    (apbaErasePartition s partition out).1.ctl = s.ctl := by
  simp only [apbaErasePartition, ctl_flashExit]
  exact (withPartition_frame (fun s num _ => mtdStep_apbaMtdErase s num out.eraseRet) _ _).ctl_eq

@[simp] theorem ctl_apbaFlashPartition (s : State) (partition : List UInt8) (fw : Firmware)
    (out : MtdOutcome) : (apbaFlashPartition c s partition fw out).1.ctl = s.ctl := by
  simp only [apbaFlashPartition, ctl_flashExit]
  exact (withPartition_frame (fun s num info => mtdStep_flashFound c s num info fw out) _ _).ctl_eq

/-- `apba_enable` touches neither the FIFO nor the completions. -/
theorem ctl_apbaEnable (s : State) (clkRet : Int) : (apbaEnable s clkRet).1.ctl = s.ctl := by
  simp only [apbaEnable]; split <;> rfl

/-- `apba_disable` touches neither the FIFO nor the completions. -/
theorem ctl_apbaDisable (s : State) : (apbaDisable c s).ctl = s.ctl := by
  simp only [apbaDisable]; split <;> rfl

@[simp] theorem ctl_apbaNotifyAbpeAttach (s : State) (present : Int) (allocOk : Bool) :
    (apbaNotifyAbpeAttach s present allocOk).ctl = s.ctl := by
  unfold apbaNotifyAbpeAttach; split <;> rfl

/-- Acting on an interrupt reason touches neither the FIFO nor the completions. -/
theorem ctl_apbaActionOnIntReason (s : State) (reason : Nat) (allocOk : Bool) :
    (apbaActionOnIntReason c s reason allocOk).ctl = s.ctl := by
  obtain ⟨cs, -, e | ⟨present, e⟩⟩ := apbaActionOnIntReason_cases c s reason allocOk <;>
    simp only [e, ctl_emit, ctl_apbaNotifyAbpeAttach]

/-- A frame delivered to the handler, or the end of a wait. -/
def Op.touchesCtl : Op → Bool
  | .handleMessage .. | .waitEnd _ => true
  | _ => false

/-- **Only the handler and the end of a wait touch the log and the completions.** -/
theorem step_ctl (s : State) (op : Op) (h : op.touchesCtl = false) : (step c s op).ctl = s.ctl := by
  cases op with
  | handleMessage => cases h
  | waitEnd => cases h
  | erasePartitionStore buf partition out =>
    simp only [step]
    cases h : erasePartitionStore s buf partition.1 out with
    | none => rfl
    | some r =>
      rcases erasePartitionStore_cases h with e | ⟨part, e⟩ <;>
        simp only [Option.map_some', Option.getD_some, e, ctl_apbaErasePartition]
  | flashPartitionStore buf partition fwName request out =>
    simp only [step]
    cases h : flashPartitionStore c s buf partition.1 fwName.1 request out with
    | none => rfl
    | some r =>
      simp only [Option.map_some', Option.getD_some]
      rcases flashPartitionStore_cases c h with e | ⟨cs, -, e | ⟨part, fw, count, e⟩⟩
      · rw [e]
      · rw [e, ctl_emit]
      · rw [e]
        rcases flashPartitionStoreWith_cases c (s.emit cs) part fw out count with e' | e' <;>
          simp only [e', ctl_emit, ctl_apbaFlashPartition]
  | enable clkRet => exact ctl_apbaEnable s clkRet
  | disable => exact ctl_apbaDisable c s
  | disableWork => simp only [step, apbaDisableWorkFunc]; split <;> simp only [ctl_apbaDisable]; rfl
  | firmwareCallback fw out =>
    simp only [step, apbaFirmwareCallback]; split <;> simp only [ctl_emit, ctl_flashExit,
      ctl_apbaFlashPartition]
  | apbaEnableStore val clkRet count =>
    simp only [step, apbaEnableStore]
    repeat' split
    all_goals first | rfl | exact ctl_apbaEnable s clkRet | exact ctl_apbaDisable c s
  | slaveNotify masterIntf slaveMask slaveState clkRet =>
    simp only [step, apbaSlaveNotify]
    repeat' split
    all_goals first | rfl | exact ctl_apbaEnable _ clkRet
  | flashEnableStore val created count =>
    simp only [step, flashEnableStore]
    repeat' split
    all_goals rfl
  | _ =>
    simp only [step, apbaModeStore, apbaBaudStore, apbaLogShow, apbaBaudShow, apbePowerStore,
      apbaUartRegister, apbaApbeAttachWorkFunc, apbaIsr, apbaWakeAssert]
    repeat' split
    all_goals dsimp only [State.ctl, State.emit]

end GreybusApba
