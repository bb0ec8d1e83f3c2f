import GreybusApba.Sequencer.Seq

/-!
# Driver/State — the driver's state, and what its call log says

`State` is `struct apba_ctrl` (the fields some function reads or writes), the statics of `apba.c`
(`apba_log_fifo`, the pending deferred works), the callers blocked in a completion wait, the MTD
devices, and the log of calls made so far.

The source keeps no power flag: the APBA runs on the GPIO sequence `apba_on` last drove,
`enable_seq` for `on = true` and `disable_seq` otherwise, and the flash interface on the one
`apba_flash_on` last drove, `flash_start_seq` or `flash_end_seq`. So the power state is read off the
log: the APBA is on when the last `apba_on` call had `on = true`, the flash interface active when
the last `apba_flash_on` call did.
`power` folds the log through `Power.step`, which also records whether some call left both on —
so "never both on, at any point of a run" is `(power s.calls).clash = false`.
-/

namespace GreybusApba

/-! ## The state -/

/-- `apba_log_fifo` (`DEFINE_KFIFO(apba_log_fifo, char, APBA_LOG_SIZE)`), oldest byte first. -/
structure LogFifo where
  buf : List UInt8
  length_le : buf.length ≤ apbaLogSize

/-- An MTD device as `get_mtd_device` hands it out: its name, whether its type is `MTD_ABSENT`,
and its bytes (`size` is their number). -/
structure MtdInfo where
  name : List UInt8
  absent : Bool
  data : List UInt8

/-- A caller blocked in `wait_for_completion_timeout`: `apba_log_show`, `apba_baud_store`, or
`apba_mode_store` with the value it will store; a store also keeps the size `count` of its write,
which it returns. -/
inductive Waiter where
  | log
  | baud (count : Nat)
  | mode (val count : Nat)
  deriving DecidableEq, Repr

/-- The driver's state. -/
structure State where
  /-- `gpio_cnt`. -/
  gpioCnt : Nat
  gpios : Fin apbaNumGpios → Int
  enableSeq : ApbaSeq
  disableSeq : ApbaSeq
  wakeAssertSeq : ApbaSeq
  wakeDeassertSeq : ApbaSeq
  flashStartSeq : ApbaSeq
  flashEndSeq : ApbaSeq
  /-- `!IS_ERR(pinctrl_state_active)`: the optional `spi_active` pin state exists. -/
  pinctrlActive : Bool
  /-- The handle `apba_uart_register` stored; `0` is `NULL`. -/
  modsUart : Nat
  desiredOn : Int
  /-- The `done` counts of `comp` (log), `baud_comp` and `mode_comp`. -/
  comp : Nat
  baudComp : Nat
  modeComp : Nat
  masterIntf : UInt8
  mode : UInt8
  flashDevPopulated : Bool
  logFifo : LogFifo
  /-- `apba_disable_work` is scheduled and has not run. -/
  disableWorkPending : Bool
  /-- The `present` of each `apbe_attach_work_struct` scheduled and not yet run. -/
  attachWork : List Int
  waiters : List Waiter
  /-- `get_mtd_device(NULL, num)`: `none` is an `ERR_PTR`. -/
  mtd : Nat → Option MtdInfo
  calls : List Call

/-- The controller fresh from `devm_kzalloc`, every field zero and each sequence sized to its
array, with the statics of `apba.c` as the module loads them (an empty log FIFO, no work pending,
no caller waiting), over the MTD devices `mtd`, before any call. -/
def State.kzalloc (mtd : Nat → Option MtdInfo) : State where
  gpioCnt := 0
  gpios := fun _ => 0
  enableSeq := .zero
  disableSeq := .zero
  wakeAssertSeq := .zero
  wakeDeassertSeq := .zero
  flashStartSeq := .zero
  flashEndSeq := .zero
  pinctrlActive := false
  modsUart := 0
  desiredOn := 0
  comp := 0
  baudComp := 0
  modeComp := 0
  masterIntf := 0
  mode := 0
  flashDevPopulated := false
  logFifo := ⟨[], Nat.zero_le _⟩
  disableWorkPending := false
  attachWork := []
  waiters := []
  mtd := mtd
  calls := []

/-- `s` after the calls `cs`. -/
@[simps]
def State.emit (s : State) (cs : List Call) : State := { s with calls := s.calls ++ cs }

@[simp] theorem State.emit_nil (s : State) : s.emit [] = s := by simp [State.emit]

@[simp] theorem State.emit_emit (s : State) (cs cs' : List Call) :
    (s.emit cs).emit cs' = s.emit (cs ++ cs') := by simp [State.emit]

/-- The calls `cs` when `mods_uart` is set (`if (ctrl->mods_uart)`), none otherwise. -/
def State.withUart (s : State) (cs : List Call) : List Call := if s.modsUart ≠ 0 then cs else []

/-! ## The power state of a call log -/

/-- The `on` of the last `apba_on` and of the last `apba_flash_on` call, and whether some call left
both on. -/
structure Power where
  hw : Bool
  flash : Bool
  clash : Bool
  deriving DecidableEq, Repr

/-- How one call moves the power state. -/
def Power.step (p : Power) : Call → Power
  | .apbaOn b => { p with hw := b, clash := p.clash || (b && p.flash) }
  | .apbaFlashOn b => { p with flash := b, clash := p.clash || (b && p.hw) }
  | _ => p

/-- The power state after a call log; both off before the first call. -/
def power (l : List Call) : Power := l.foldl Power.step ⟨false, false, false⟩

theorem power_append (l l' : List Call) : power (l ++ l') = l'.foldl Power.step (power l) :=
  List.foldl_append _ _ _ _

theorem Power.step_of_not_isPower {c : Call} (h : c.isPower = false) (p : Power) :
    p.step c = p := by
  cases c <;> first | rfl | cases h

theorem foldl_step_of_all {l : List Call} (h : l.all (fun c => !c.isPower) = true) (p : Power) :
    l.foldl Power.step p = p := by
  induction l generalizing p with
  | nil => rfl
  | cons c l ih =>
    simp only [List.all_cons, Bool.and_eq_true, Bool.not_eq_true'] at h
    rw [List.foldl_cons, Power.step_of_not_isPower h.1, ih h.2]

/-- A log that makes no `apba_on` or `apba_flash_on` call leaves the power state alone. -/
theorem power_append_of_all {l l' : List Call} (h : l'.all (fun c => !c.isPower) = true) :
    power (l ++ l') = power l := by
  rw [power_append, foldl_step_of_all h]

/-- A test every GPIO write and sleep passes holds of every call of a sequence run. -/
theorem all_apbaSeq_of {p : Call → Bool} (hg : ∀ gpio value, p (.gpioSetValue gpio value) = true)
    (hu : ∀ lo hi, p (.usleepRange lo hi) = true) (gpios : Fin apbaNumGpios → Int)
    (seq : ApbaSeq) : (apbaSeq gpios seq).all p = true := by
  rw [List.all_eq_true]
  intro x hx
  rcases mem_apbaSeq hx with ⟨_, _, rfl⟩ | ⟨_, _, rfl⟩
  exacts [hg _ _, hu _ _]

@[simp] theorem all_apbaSeq (gpios : Fin apbaNumGpios → Int) (seq : ApbaSeq) :
    (apbaSeq gpios seq).all (fun c => !c.isPower) = true :=
  all_apbaSeq_of (fun _ _ => rfl) (fun _ _ => rfl) gpios seq

/-- The APBA is on: the last `apba_on` call had `on = true`. -/
def State.hwOn (s : State) : Bool := (power s.calls).hw

/-- The flash interface is active: the last `apba_flash_on` call had `on = true`. -/
def State.flashOn (s : State) : Bool := (power s.calls).flash

/-! ## Counts of a call log -/

/-- The clock enables in force: successful `clk_prepare_enable` calls less
`clk_disable_unprepare` calls. -/
def clkEnables (l : List Call) : Int :=
  (l.count (.clkPrepareEnable 0) : Int) - l.count .clkDisableUnprepare

/-- The references to MTD device `num` the log holds: `get_mtd_device` calls that returned it less
`put_mtd_device` calls. -/
def mtdRefs (l : List Call) (num : Nat) : Int :=
  (l.count (.getMtdDevice num) : Int) - l.count (.putMtdDevice num)

/-- A call of the MTD layer. -/
def Call.isMtd : Call → Bool
  | .getMtdDevice _ | .putMtdDevice _ | .mtdErase _ | .mtdRead _ | .mtdWrite _ => true
  | _ => false

@[simp] theorem all_apbaSeq_not_isMtd (gpios : Fin apbaNumGpios → Int) (seq : ApbaSeq) :
    (apbaSeq gpios seq).all (fun c => !c.isMtd) = true :=
  all_apbaSeq_of (fun _ _ => rfl) (fun _ _ => rfl) gpios seq

/-- A log with no MTD call takes and puts back no device. -/
theorem count_mtd_of_all {l : List Call} (h : l.all (fun c => !c.isMtd) = true) (num : Nat) :
    l.count (.getMtdDevice num) = 0 ∧ l.count (.putMtdDevice num) = 0 := by
  rw [List.all_eq_true] at h
  exact ⟨List.count_eq_zero.mpr fun hx => by simpa [Call.isMtd] using h _ hx,
    List.count_eq_zero.mpr fun hx => by simpa [Call.isMtd] using h _ hx⟩

theorem mtdRefs_append (l l' : List Call) (num : Nat) :
    mtdRefs (l ++ l') num = mtdRefs l num + mtdRefs l' num := by
  simp only [mtdRefs, List.count_append]; omega

theorem mtdRefs_of_all {l : List Call} (h : l.all (fun c => !c.isMtd) = true) (num : Nat) :
    mtdRefs l num = 0 := by
  rw [mtdRefs, (count_mtd_of_all h num).1, (count_mtd_of_all h num).2]; rfl

/-- A call that moves no power state and does not reach the MTD layer. -/
def Call.isQuiet (c : Call) : Bool := !c.isPower && !c.isMtd

theorem all_isQuiet_iff {l : List Call} :
    l.all Call.isQuiet = true ↔
      l.all (fun c => !c.isPower) = true ∧ l.all (fun c => !c.isMtd) = true := by
  simp only [List.all_eq_true, Call.isQuiet, Bool.and_eq_true]
  exact ⟨fun h => ⟨fun x hx => (h x hx).1, fun x hx => (h x hx).2⟩,
    fun h x hx => ⟨h.1 x hx, h.2 x hx⟩⟩

@[simp] theorem all_apbaSeq_isQuiet (gpios : Fin apbaNumGpios → Int) (seq : ApbaSeq) :
    (apbaSeq gpios seq).all Call.isQuiet = true :=
  all_apbaSeq_of (fun _ _ => rfl) (fun _ _ => rfl) gpios seq

end GreybusApba
