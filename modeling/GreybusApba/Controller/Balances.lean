import GreybusApba.Controller.Power

/-!
# Controller/Balances — the reference clock and the transmitter lock

Two resources of the driver are taken and given back. `apba_enable` takes a reference on the
APBA's reference clock (`clk_prepare_enable`) whenever it is called and the clock starts, and
`apba_disable` gives one back (`clk_disable_unprepare`) only while `desired_on` is set, clearing it.
`apba_baud_store` locks the transport's transmitter after sending its request and unlocks it when
its wait ends, whether the acknowledgement came or the wait timed out.

No other operation touches either (`step_steady`); `step_counts` says once how a step moves
the four counts the invariants read. Over every run from a successful probe:

* `reachable_clkEnables` — the clock references in force are at least `desired_on`: the clock is
  never disabled more often than it was enabled, and the APBA is on only while the clock runs.
* `reachable_txLocks` — the transmitter locks in force are the `apba_baud_store` callers still
  waiting. The unlock goes to the handle registered when the wait ends, so the count is over every
  handle.
* `reachable_enable_twice_leaks` — the references beyond `desired_on` never go back
  (`Balanced.clkExcess_run`), and a second `apba_enable` while `desired_on` is set adds one: the
  clock then runs for good, also while the APBA is off.
-/

namespace GreybusApba

variable (c : Consts)

/-! ## The counts -/

/-- A call on the reference clock or on the transmitter lock. -/
def Call.isClkOrLock : Call → Bool
  | .clkPrepareEnable _ | .clkDisableUnprepare | .modsUartLockTx _ _ => true
  | _ => false

/-- The transmitter locks in force: `mods_uart_lock_tx(…, true)` calls less
`mods_uart_lock_tx(…, false)` calls, on whatever handle. -/
def txLocks (l : List Call) : Int :=
  (l.countP (fun x => x matches .modsUartLockTx _ true) : Int) -
    l.countP (fun x => x matches .modsUartLockTx _ false)

/-- A caller of `apba_baud_store`. -/
def Waiter.isBaud : Waiter → Bool
  | .baud _ => true
  | _ => false

/-- The callers of `apba_baud_store` blocked in their wait. -/
def baudWaits (s : State) : Nat := s.waiters.countP Waiter.isBaud

theorem txLocks_append (l l' : List Call) : txLocks (l ++ l') = txLocks l + txLocks l' := by
  simp only [txLocks, List.countP_append]
  push_cast
  omega

theorem clkEnables_of_all {l : List Call} (h : l.all (fun x => !x.isClkOrLock) = true) :
    clkEnables l = 0 := by
  rw [List.all_eq_true] at h
  rw [clkEnables, List.count_eq_zero.2 fun hx => absurd (h _ hx) (by decide),
    List.count_eq_zero.2 fun hx => absurd (h _ hx) (by decide)]
  rfl

/-- A log with no call on the clock or the lock has none that a count of either picks out. -/
theorem countP_of_all {l : List Call} (h : l.all (fun x => !x.isClkOrLock) = true)
    {q : Call → Bool} (hq : ∀ x, q x = true → x.isClkOrLock = true) : l.countP q = 0 :=
  List.countP_eq_zero.2 fun x hx hqx => by simpa [hq x hqx] using List.all_eq_true.1 h x hx

theorem txLocks_of_all {l : List Call} (h : l.all (fun x => !x.isClkOrLock) = true) :
    txLocks l = 0 := by
  rw [txLocks, countP_of_all h ?_, countP_of_all h ?_]
  · rfl
  all_goals intro x hx; cases x <;> first | rfl | cases hx

theorem clkEnables_singleton {x : Call} (hx : x.isClkOrLock = false) : clkEnables [x] = 0 :=
  clkEnables_of_all (by rw [List.all_cons, hx]; rfl)

theorem txLocks_singleton {x : Call} (hx : x.isClkOrLock = false) : txLocks [x] = 0 :=
  txLocks_of_all (by rw [List.all_cons, hx]; rfl)

@[simp] theorem clkEnables_lockTx (uart : Nat) (lock : Bool) :
    clkEnables [Call.modsUartLockTx uart lock] = 0 := rfl

@[simp] theorem txLocks_lockTx (uart : Nat) (lock : Bool) :
    txLocks [Call.modsUartLockTx uart lock] = if lock then 1 else -1 := by
  cases lock <;> rfl

/-- Dropping the `i`-th element of a list takes it from every count. -/
theorem countP_eraseIdx_add {α} (p : α → Bool) :
    ∀ {l : List α} {i : Nat} {w : α}, l[i]? = some w →
      (l.eraseIdx i).countP p + (if p w then 1 else 0) = l.countP p
  | a :: _, 0, _, h => by
    rw [List.getElem?_cons_zero, Option.some.injEq] at h
    subst h
    rw [List.eraseIdx_cons_zero, List.countP_cons]
  | a :: l, i + 1, w, h => by
    rw [List.getElem?_cons_succ] at h
    rw [List.eraseIdx_cons_succ, List.countP_cons, List.countP_cons,
      ← countP_eraseIdx_add p (l := l) h]
    omega

/-- The end of the `i`-th wait takes its caller from the baud callers waiting, if it is one. -/
theorem baudWaits_eraseIdx {s : State} {i : Nat} {w : Waiter} (hw : s.waiters[i]? = some w) :
    baudWaits { s with waiters := s.waiters.eraseIdx i } + (if w.isBaud then 1 else 0) =
      baudWaits s :=
  countP_eraseIdx_add Waiter.isBaud hw

/-! ## Steps that touch neither -/

/-- `s'` follows `s` with no call on the clock or the transmitter lock, the same `desired_on` and
the same `apba_baud_store` callers waiting. -/
def Steady (s s' : State) : Prop :=
  s'.desiredOn = s.desiredOn ∧ baudWaits s' = baudWaits s ∧
    ∃ l, s'.calls = s.calls ++ l ∧ l.all (fun x => !x.isClkOrLock) = true

namespace Steady

variable {s s₁ s₂ : State}

theorem refl (s : State) : Steady s s := ⟨rfl, rfl, [], (List.append_nil _).symm, rfl⟩

theorem trans (h₁ : Steady s s₁) (h₂ : Steady s₁ s₂) : Steady s s₂ := by
  obtain ⟨d₁, w₁, l₁, e₁, a₁⟩ := h₁
  obtain ⟨d₂, w₂, l₂, e₂, a₂⟩ := h₂
  exact ⟨d₂.trans d₁, w₂.trans w₁, l₁ ++ l₂, by rw [e₂, e₁, List.append_assoc],
    by simp [a₁, a₂]⟩

theorem of_eq (hc : s₁.calls = s.calls) (hd : s₁.desiredOn = s.desiredOn)
    (hw : s₁.waiters = s.waiters) : Steady s s₁ :=
  ⟨hd, by rw [baudWaits, hw]; rfl, [], by rw [hc, List.append_nil], rfl⟩

theorem clkEnables_eq (h : Steady s s₁) : clkEnables s₁.calls = clkEnables s.calls := by
  obtain ⟨-, -, l, e, a⟩ := h
  rw [e, clkEnables_append, clkEnables_of_all a, add_zero]

theorem txLocks_eq (h : Steady s s₁) : txLocks s₁.calls = txLocks s.calls := by
  obtain ⟨-, -, l, e, a⟩ := h
  rw [e, txLocks_append, txLocks_of_all a, add_zero]

end Steady

/-- Calls none of which is on the clock or the lock make a steady step. -/
theorem steady_emit (s : State) (cs : List Call) (h : cs.all (fun x => !x.isClkOrLock) = true) :
    Steady s (s.emit cs) :=
  ⟨rfl, rfl, cs, rfl, h⟩

/-- `apba_on` runs sequences and votes, and takes no clock reference. -/
theorem steady_apbaOn (s : State) (enable : Bool) : Steady s (apbaOn s enable) := by
  refine ⟨rfl, rfl, _, apbaOn_calls s enable, ?_⟩
  cases enable <;>
    simp only [if_true, if_false, Bool.false_eq_true, List.all_append, List.all_cons, List.all_nil,
      all_apbaSeq_of (p := fun x => !x.isClkOrLock) (fun _ _ => rfl) (fun _ _ => rfl),
      State.withUart] <;> split_ifs <;> rfl

/-- `apba_flash_on` switches the flash interface, and takes no clock reference. -/
theorem steady_apbaFlashOn (s : State) (enable created : Bool) :
    Steady s (apbaFlashOn s enable created) := by
  refine ⟨rfl, rfl, _, apbaFlashOn_calls s enable created, ?_⟩
  cases enable <;>
    simp only [if_true, if_false, Bool.false_eq_true, List.all_append, List.all_cons, List.all_nil,
      all_apbaSeq_of (p := fun x => !x.isClkOrLock) (fun _ _ => rfl) (fun _ _ => rfl)] <;>
    split_ifs <;> rfl

/-- The `no_mtd:` tail is steady. -/
theorem steady_flashExit (s : State) : Steady s (flashExit s) := by
  simp only [flashExit]
  split
  · exact (steady_apbaFlashOn s false false).trans (steady_apbaOn _ true)
  · exact steady_apbaFlashOn s false false

/-- A step of the MTD layer is steady. -/
theorem MtdStep.steady {s s' : State} (h : MtdStep Call.isMtd s s') : Steady s s' := by
  obtain ⟨m, l, rfl, hl⟩ := h
  refine ⟨rfl, rfl, l, rfl, List.all_eq_true.2 fun x hx => ?_⟩
  have := List.all_eq_true.1 hl x hx
  cases x <;> first | rfl | cases this

/-- The erase pipeline is steady. -/
theorem steady_apbaErasePartition (s : State) (partition : List UInt8) (out : MtdOutcome) :
    Steady s (apbaErasePartition s partition out).1 :=
  (((steady_apbaOn s false).trans (steady_apbaFlashOn _ true out.created)).trans
    (withPartition_frame (fun s num _ => mtdStep_apbaMtdErase s num out.eraseRet) _
      partition).steady).trans (steady_flashExit _)

/-- The flash pipeline is steady. -/
theorem steady_apbaFlashPartition (s : State) (partition : List UInt8) (fw : Firmware)
    (out : MtdOutcome) : Steady s (apbaFlashPartition c s partition fw out).1 :=
  (((steady_apbaOn s false).trans (steady_apbaFlashOn _ true out.created)).trans
    (withPartition_frame (fun s num info => mtdStep_flashFound c s num info fw out) _
      partition).steady).trans (steady_flashExit _)

/-- The tail of `flash_partition_store` is steady. -/
theorem steady_flashPartitionStoreWith (s : State) (partition : List UInt8) (fw : Firmware)
    (out : MtdOutcome) (count : Nat) :
    Steady s (flashPartitionStoreWith c s partition fw out count).1 := by
  rcases flashPartitionStoreWith_cases c s partition fw out count with e | e <;> rw [e]
  · exact .refl s
  · exact (steady_apbaFlashPartition c s partition fw out).trans (steady_emit _ _ (by rfl))

/-- `erase_partition_store` is steady. -/
theorem steady_erasePartitionStore {s : State} {buf partition : List UInt8} {out : MtdOutcome}
    {r : State × Int} (h : erasePartitionStore s buf partition out = some r) : Steady s r.1 := by
  rcases erasePartitionStore_cases h with e | ⟨part, e⟩ <;> rw [e]
  · exact .refl s
  · exact steady_apbaErasePartition s part out

/-- `flash_partition_store` is steady. -/
theorem steady_flashPartitionStore {s : State} {buf partition fwName : List UInt8}
    {request : List UInt8 → Except Int Firmware} {out : MtdOutcome} {r : State × Int}
    (h : flashPartitionStore c s buf partition fwName request out = some r) : Steady s r.1 := by
  simp only [flashPartitionStore] at h
  split at h
  · cases h; exact .refl s
  · simp only [Option.bind_eq_bind, Option.bind_eq_some] at h
    obtain ⟨_, -, _, -, part, -, h⟩ := h
    split at h
    · cases h
      exact (steady_emit s _ (by rfl)).trans (steady_flashPartitionStoreWith c _ part _ out _)
    · simp only [Option.bind_eq_some] at h
      obtain ⟨_, -, h⟩ := h
      split at h <;> cases h <;> rw [State.emit_emit]
      · exact (steady_emit s _ (by rfl)).trans (steady_flashPartitionStoreWith c _ part _ out _)
      · exact steady_emit s _ (by rfl)

/-- `apba_notify_abpe_attach` is steady. -/
theorem steady_apbaNotifyAbpeAttach (s : State) (present : Int) (allocOk : Bool) :
    Steady s (apbaNotifyAbpeAttach s present allocOk) := by
  unfold apbaNotifyAbpeAttach
  split
  · exact ⟨rfl, rfl, _, rfl, rfl⟩
  · exact .refl s

/-- Acting on an interrupt reason is steady. -/
theorem steady_apbaActionOnIntReason (s : State) (reason : Nat) (allocOk : Bool) :
    Steady s (apbaActionOnIntReason c s reason allocOk) := by
  unfold apbaActionOnIntReason
  repeat' split
  all_goals first
    | exact .refl s
    | exact steady_emit s _ (by rfl)
    | exact steady_apbaNotifyAbpeAttach _ _ _
    | exact (steady_emit s _ (by rfl)).trans (steady_apbaNotifyAbpeAttach _ _ _)

/-- Every frame the handler gets is steady: an answer completes a wait and leaves its caller waiting. -/
theorem steady_apbaHandleMessage (s : State) (payload : Nat → UInt8) (len : Nat) (allocOk : Bool) :
    Steady s (apbaHandleMessage c s payload len allocOk) := by
  unfold apbaHandleMessage
  split
  · exact .refl s
  · split
    · split
      · exact steady_apbaActionOnIntReason c _ _ _
      · exact .refl s
    · exact steady_emit _ _ (by rfl)
    · exact .of_eq rfl rfl rfl
    · exact .of_eq rfl rfl rfl
    · dsimp only
      split
      · exact (steady_emit s _ (by rfl)).trans (.of_eq rfl rfl rfl)
      · exact .of_eq rfl rfl rfl
    · exact .of_eq rfl rfl rfl
    · exact .refl s

/-- A caller that is not `apba_baud_store` starts waiting after the calls `cs`. -/
theorem steady_wait (s : State) (cs : List Call) (h : cs.all (fun x => !x.isClkOrLock) = true)
    {w : Waiter} (hw : w.isBaud = false) :
    Steady s { s.emit cs with waiters := s.waiters ++ [w] } :=
  ⟨rfl, by simp [baudWaits, List.countP_append, hw], cs, rfl, h⟩

/-- `apba_mode_store` up to its wait is steady. -/
theorem steady_apbaModeStore (s : State) (val : Option Nat) (sendRet : Int) (count : Nat) :
    Steady s (apbaModeStore c s val sendRet count).1 := by
  unfold apbaModeStore
  repeat' split
  all_goals first
    | exact .refl s
    | exact steady_emit _ _ (by rfl)
    | exact steady_wait _ _ (by rfl) rfl

/-- `apba_log_show` up to its wait is steady. -/
theorem steady_apbaLogShow (s : State) (sendRet : Int) : Steady s (apbaLogShow c s sendRet).1 := by
  unfold apbaLogShow
  split
  · exact steady_emit _ _ (by rfl)
  · exact steady_wait _ _ (by rfl) rfl

/-- `apbe_power_store` is steady. -/
theorem steady_apbePowerStore (s : State) (val : Option Nat) (count : Nat) :
    Steady s (apbePowerStore c s val count).1 := by
  unfold apbePowerStore
  repeat' split
  all_goals first | exact .refl s | exact steady_emit _ _ (by rfl)

/-- An attach work is steady. -/
theorem steady_apbaApbeAttachWorkFunc (s : State) (i : Nat) :
    Steady s (apbaApbeAttachWorkFunc s i) := by
  simp only [apbaApbeAttachWorkFunc]
  repeat' split
  all_goals first
    | exact .refl s
    | exact .of_eq rfl rfl rfl
    | exact (Steady.of_eq rfl rfl rfl).trans (steady_emit _ _ (by rfl))

/-- Scheduling the disable work is steady: the work has not run yet. -/
theorem steady_scheduleDisableWork (s : State) : Steady s (scheduleDisableWork s) :=
  (steady_emit s _ (by rfl)).trans (.of_eq rfl rfl rfl)

/-- The firmware callback is steady. -/
theorem steady_apbaFirmwareCallback (s : State) (fw : Option Firmware) (out : MtdOutcome) :
    Steady s (apbaFirmwareCallback c s fw out) := by
  unfold apbaFirmwareCallback
  split
  · exact (steady_flashExit s).trans (steady_emit _ _ (by rfl))
  · exact (steady_apbaFlashPartition c s _ _ out).trans (steady_emit _ _ (by rfl))

/-- `apba_slave_notify` is steady up to the `apba_enable` it makes for an enabled APBE. -/
theorem steady_apbaSlaveNotify (s : State) (masterIntf : UInt8) (slaveMask slaveState : Nat)
    (clkRet : Int) :
    Steady s (apbaSlaveNotify c s masterIntf slaveMask slaveState clkRet) ∨
      ∃ s₁, Steady s s₁ ∧
        apbaSlaveNotify c s masterIntf slaveMask slaveState clkRet = (apbaEnable s₁ clkRet).1 := by
  unfold apbaSlaveNotify
  split
  · exact .inl (.refl s)
  · split
    · exact .inl ((Steady.of_eq rfl rfl rfl).trans (steady_scheduleDisableWork _))
    · split
      · exact .inr ⟨{ s with masterIntf := masterIntf }, .of_eq rfl rfl rfl, rfl⟩
      · exact .inl (.of_eq rfl rfl rfl)

/-! ## The operations that touch the clock or the lock -/

/-- **The operations that touch the clock or the lock**: every other one is steady; the paths to
`apba_enable` and `apba_disable` are steady up to the call; and `apba_baud_store`'s send and the
end of a wait are what they are. -/
theorem step_steady (s : State) (op : Op) :
    Steady s (step c s op) ∨
    (∃ s₁ clkRet, Steady s s₁ ∧ step c s op = (apbaEnable s₁ clkRet).1) ∨
    (∃ s₁, Steady s s₁ ∧ step c s op = apbaDisable c s₁) ∨
    (∃ val sendRet count, step c s op = (apbaBaudStore c s val sendRet count).1) ∨
    ∃ i, step c s op = (waitEnd c s i).1 := by
  cases op with
  | enable clkRet => exact .inr (.inl ⟨s, clkRet, .refl s, rfl⟩)
  | disable => exact .inr (.inr (.inl ⟨s, .refl s, rfl⟩))
  | disableWork =>
    simp only [step, apbaDisableWorkFunc]
    split
    · exact .inr (.inr (.inl ⟨{ s with disableWorkPending := false }, .of_eq rfl rfl rfl, rfl⟩))
    · exact .inl (.refl s)
  | baudStore val sendRet count => exact .inr (.inr (.inr (.inl ⟨val, sendRet, count, rfl⟩)))
  | waitEnd i => exact .inr (.inr (.inr (.inr ⟨i, rfl⟩)))
  | apbaEnableStore val clkRet count =>
    simp only [step, apbaEnableStore]
    split
    · split
      · split
        · exact .inr (.inl ⟨s, clkRet, .refl s, rfl⟩)
        · exact .inr (.inr (.inl ⟨s, .refl s, rfl⟩))
      · exact .inl (.refl s)
    · exact .inl (.refl s)
  | slaveNotify masterIntf slaveMask slaveState clkRet =>
    exact (steady_apbaSlaveNotify c s masterIntf slaveMask slaveState clkRet).imp_right
      fun ⟨s₁, h, e⟩ => .inl ⟨s₁, clkRet, h, e⟩
  | erasePartitionStore buf partition out =>
    refine .inl ?_
    simp only [step]
    cases h : erasePartitionStore s buf partition.1 out with
    | none => exact .refl s
    | some r => exact steady_erasePartitionStore h
  | flashPartitionStore buf partition fwName request out =>
    refine .inl ?_
    simp only [step]
    cases h : flashPartitionStore c s buf partition.1 fwName.1 request out with
    | none => exact .refl s
    | some r => exact steady_flashPartitionStore c h
  | firmwareCallback fw out => exact .inl (steady_apbaFirmwareCallback c s fw out)
  | flashEnableStore val created count =>
    refine .inl ?_
    simp only [step, flashEnableStore]
    repeat' split
    all_goals first | exact .refl s | exact steady_apbaFlashOn s _ created
  | modeStore val sendRet count => exact .inl (steady_apbaModeStore c s val sendRet count)
  | logShow sendRet => exact .inl (steady_apbaLogShow c s sendRet)
  | baudShow =>
    refine .inl ?_
    simp only [step, apbaBaudShow]
    split
    · exact .refl s
    · exact steady_emit _ _ (by rfl)
  | apbePowerStore val count => exact .inl (steady_apbePowerStore c s val count)
  | uartRegister uart => exact .inl (.of_eq rfl rfl rfl)
  | handleMessage payload len allocOk => exact .inl (steady_apbaHandleMessage c s payload len allocOk)
  | attachWork i => exact .inl (steady_apbaApbeAttachWorkFunc s i)
  | isr =>
    refine .inl ?_
    simp only [step, apbaIsr]
    split
    · exact .refl s
    · exact steady_emit _ _ (by rfl)
  | wakeAssert assert =>
    exact .inl (steady_emit _ _
      (all_apbaSeq_of (p := fun x => !x.isClkOrLock) (fun _ _ => rfl) (fun _ _ => rfl) _ _))

/-! ## What each operation does to the counts -/

/-- What the invariants read of a state: `desired_on`, the clock references in force, the
transmitter locks in force, and the `apba_baud_store` callers waiting. -/
def State.counts (s : State) : Int × Int × Int × Nat :=
  (s.desiredOn, clkEnables s.calls, txLocks s.calls, baudWaits s)

/-- A steady step leaves the four counts as they are. -/
theorem Steady.counts_eq {s s' : State} (h : Steady s s') : s'.counts = s.counts := by
  rw [State.counts, State.counts, h.1, h.clkEnables_eq, h.txLocks_eq, h.2.1]

/-- `apba_enable` with the clock started takes a reference and sets `desired_on`. -/
theorem counts_apbaEnable (s : State) :
    (apbaEnable s 0).1.counts = (1, clkEnables s.calls + 1, txLocks s.calls, baudWaits s) := by
  have hc : clkEnables [Call.clkPrepareEnable 0] = 1 := rfl
  have hl : txLocks [Call.clkPrepareEnable 0] = 0 := rfl
  unfold apbaEnable
  rw [if_neg (not_not_intro rfl), (steady_apbaOn _ true).counts_eq]
  show (1, clkEnables (s.calls ++ _), txLocks (s.calls ++ _), baudWaits s) = _
  rw [clkEnables_append, txLocks_append, hc, hl, add_zero]

/-- `apba_enable` with the clock failing changes no count. -/
theorem counts_apbaEnable_of_ne (s : State) {clkRet : Int} (hr : clkRet ≠ 0) :
    (apbaEnable s clkRet).1.counts = s.counts := by
  have hc : clkEnables [Call.clkPrepareEnable clkRet] = 0 := by
    simp [clkEnables, List.count_cons, hr]
  have hl : txLocks [Call.clkPrepareEnable clkRet] = 0 := rfl
  unfold apbaEnable
  rw [if_pos hr]
  show (s.desiredOn, clkEnables (s.calls ++ _), txLocks (s.calls ++ _), baudWaits s) = _
  rw [clkEnables_append, txLocks_append, hc, hl, add_zero, add_zero]
  rfl

/-- `apba_disable` with `desired_on` set gives a reference back and clears it. -/
theorem counts_apbaDisable (s : State) (hd : s.desiredOn ≠ 0) :
    (apbaDisable c s).counts = (0, clkEnables s.calls - 1, txLocks s.calls, baudWaits s) := by
  have hu : (s.withUart [Call.modAttach s.modsUart 0]).all (fun x => !x.isClkOrLock) = true := by
    unfold State.withUart; split <;> rfl
  have hc : clkEnables [Call.clkDisableUnprepare] = -1 := rfl
  have hl : txLocks [Call.clkDisableUnprepare] = 0 := rfl
  unfold apbaDisable
  rw [if_neg hd, (steady_apbaOn _ false).counts_eq]
  show (0, clkEnables (s.calls ++ [Call.modsSlaveCtrlPower s.masterIntf c.slavePowerOff c.slaveMaskApbe] ++
      (s.withUart [Call.modAttach s.modsUart 0] ++ [Call.clkDisableUnprepare])),
    txLocks (s.calls ++ [Call.modsSlaveCtrlPower s.masterIntf c.slavePowerOff c.slaveMaskApbe] ++
      (s.withUart [Call.modAttach s.modsUart 0] ++ [Call.clkDisableUnprepare])), baudWaits s) = _
  simp only [clkEnables_append, txLocks_append, clkEnables_singleton, txLocks_singleton,
    Call.isClkOrLock, clkEnables_of_all hu, txLocks_of_all hu, hc, hl, add_zero, zero_add,
    Int.add_neg_one]

/-- `apba_baud_store` changes no count, or locks the transmitter and leaves its caller waiting. -/
theorem counts_apbaBaudStore (s : State) (val : Option Nat) (sendRet : Int) (count : Nat) :
    (apbaBaudStore c s val sendRet count).1.counts = s.counts ∨
      (apbaBaudStore c s val sendRet count).1.counts =
        (s.desiredOn, clkEnables s.calls, txLocks s.calls + 1, baudWaits s + 1) := by
  unfold apbaBaudStore
  split
  · exact .inl rfl
  split
  · exact .inl rfl
  · next v =>
    dsimp only
    split
    · exact .inl (steady_emit s _ (by rfl)).counts_eq
    · refine .inr ?_
      show (s.desiredOn,
        clkEnables (s.calls ++ [Call.modsUartApbaSend s.modsUart (baudReqMsg c v)] ++
          [Call.modsUartLockTx s.modsUart true]),
        txLocks (s.calls ++ [Call.modsUartApbaSend s.modsUart (baudReqMsg c v)] ++
          [Call.modsUartLockTx s.modsUart true]),
        (s.waiters ++ [Waiter.baud count]).countP Waiter.isBaud) = _
      simp only [clkEnables_append, txLocks_append, clkEnables_singleton, txLocks_singleton,
        Call.isClkOrLock, clkEnables_lockTx, txLocks_lockTx, if_true, add_zero,
        List.countP_append, List.countP_singleton, Waiter.isBaud, baudWaits]

/-- The end of a wait changes no count, or, for a caller of `apba_baud_store`, unlocks the
transmitter and takes the caller from those waiting. -/
theorem counts_waitEnd (s : State) (i : Nat) :
    (waitEnd c s i).1.counts = s.counts ∨
      0 < baudWaits s ∧ (waitEnd c s i).1.counts =
        (s.desiredOn, clkEnables s.calls, txLocks s.calls - 1, baudWaits s - 1) := by
  simp only [waitEnd]
  split
  · exact .inl rfl
  · next w hw =>
    have hb := baudWaits_eraseIdx hw
    cases w with
    | baud count =>
      simp only [Waiter.isBaud, if_true] at hb
      refine .inr ⟨by omega, ?_⟩
      dsimp only
      split
      all_goals
        show (s.desiredOn, clkEnables (s.calls ++ [Call.modsUartLockTx s.modsUart false]),
          txLocks (s.calls ++ [Call.modsUartLockTx s.modsUart false]),
          baudWaits { s with waiters := s.waiters.eraseIdx i }) = _
        rw [clkEnables_append, txLocks_append, clkEnables_lockTx, txLocks_lockTx, ← hb,
          Nat.add_sub_cancel, add_zero]
        rfl
    | mode val count | log =>
      simp only [Waiter.isBaud, Bool.false_eq_true, if_false, add_zero] at hb
      refine .inl ?_
      dsimp only
      split
      all_goals
        show (s.desiredOn, clkEnables s.calls, txLocks s.calls,
          baudWaits { s with waiters := s.waiters.eraseIdx i }) = _
        rw [hb]
        rfl

/-- **What a step does to the counts**: nothing; `apba_enable`'s start of the clock; a
`apba_disable` with `desired_on` set; `apba_baud_store`'s lock with its caller waiting; or the end
of a baud caller's wait. -/
theorem step_counts (s : State) (op : Op) :
    (step c s op).counts = s.counts ∨
    (step c s op).counts = (1, clkEnables s.calls + 1, txLocks s.calls, baudWaits s) ∨
    (s.desiredOn ≠ 0 ∧
      (step c s op).counts = (0, clkEnables s.calls - 1, txLocks s.calls, baudWaits s)) ∨
    (step c s op).counts = (s.desiredOn, clkEnables s.calls, txLocks s.calls + 1, baudWaits s + 1) ∨
    (0 < baudWaits s ∧ (step c s op).counts =
      (s.desiredOn, clkEnables s.calls, txLocks s.calls - 1, baudWaits s - 1)) := by
  rcases step_steady c s op with hs | ⟨s₁, r, hs, e⟩ | ⟨s₁, hs, e⟩ | ⟨v, r, n, e⟩ | ⟨i, e⟩
  · exact .inl hs.counts_eq
  all_goals rw [e]
  · by_cases hr : r = 0
    · subst hr
      rw [counts_apbaEnable, hs.clkEnables_eq, hs.txLocks_eq, hs.2.1]
      exact .inr (.inl rfl)
    · exact .inl ((counts_apbaEnable_of_ne s₁ hr).trans hs.counts_eq)
  · by_cases hd : s₁.desiredOn = 0
    · refine .inl ?_
      rw [apbaDisable, if_pos hd]
      exact hs.counts_eq
    · rw [counts_apbaDisable c s₁ hd, hs.clkEnables_eq, hs.txLocks_eq, hs.2.1]
      exact .inr (.inr (.inl ⟨hs.1 ▸ hd, rfl⟩))
  · exact (counts_apbaBaudStore c s v r n).imp_right (.inr ∘ .inr ∘ .inl)
  · exact (counts_waitEnd c s i).imp_right (.inr ∘ .inr ∘ .inr)

/-! ## The invariant -/

/-- The counts agree: `desired_on` is at least `0` and at most the clock references in force, and
the transmitter locks in force are the `apba_baud_store` callers waiting. -/
structure Balanced (s : State) : Prop where
  desiredOn_nonneg : 0 ≤ s.desiredOn
  desiredOn_le : s.desiredOn ≤ clkEnables s.calls
  txLocks_eq : txLocks s.calls = baudWaits s

namespace Balanced

variable {s : State}

/-- A steady step keeps the counts balanced. -/
theorem of_steady (h : Balanced s) {s' : State} (hs : Steady s s') : Balanced s' :=
  ⟨hs.1 ▸ h.1, by rw [hs.1, hs.clkEnables_eq]; exact h.2, by rw [hs.txLocks_eq, hs.2.1]; exact h.3⟩

/-- **Every operation keeps the counts balanced.** -/
theorem step (h : Balanced s) (op : Op) : Balanced (step c s op) := by
  obtain ⟨h₁, h₂, h₃⟩ := h
  rcases step_counts c s op with e | e | ⟨hd, e⟩ | e | ⟨hb, e⟩ <;>
    simp only [State.counts, Prod.mk.injEq] at e <;> exact ⟨by omega, by omega, by omega⟩

end Balanced

/-- Every reachable state has its counts balanced. -/
theorem reachable_balanced {s : State} (hs : Reachable c s) : Balanced s :=
  reachable_induct c
    (fun _ _ hp => by
      obtain ⟨s₀, hz, -, rfl⟩ := apbaCtrlProbe_ok hp
      refine Balanced.of_steady ⟨?_, ?_, ?_⟩ (steady_apbaOn s₀ false)
      · rw [hz.desiredOn]
      · rw [hz.desiredOn, hz.calls]; rfl
      · rw [hz.calls, baudWaits, hz.waiters]; rfl)
    (fun _ op h => h.step c op) hs

/-! ## Over every run -/

/-- **The clock is never given back more often than it was taken**: in every state reachable from
a successful probe, by any operations with any answers of the collaborators, the clock
references in force (successful `clk_prepare_enable` calls less `clk_disable_unprepare` calls)
are at least `desired_on`, which is not negative; so the APBA is on only while the clock runs. -/
theorem reachable_clkEnables {s : State} (hs : Reachable c s) :
    0 ≤ s.desiredOn ∧ s.desiredOn ≤ clkEnables s.calls ∧
      (s.hwOn = true → 0 < clkEnables s.calls) := by
  have h := reachable_balanced c hs
  obtain ⟨-, hw⟩ := reachable_powerMatches c hs
  refine ⟨h.1, h.2, fun hon => ?_⟩
  have h1 : s.desiredOn = 1 := of_decide_eq_true (hw.symm.trans hon)
  have := h.2
  omega

/-- After the sample probe, `apba_enable_store(1)` with the clock starting. -/
theorem reachable_clkEnables_after_enable :
    ∃ s₀, apbaCtrlProbe DeviceTree.sample = .ok s₀ ∧
      0 ≤ (step Consts.sample s₀ (.apbaEnableStore (some 1) 0 2)).desiredOn ∧
      (step Consts.sample s₀ (.apbaEnableStore (some 1) 0 2)).desiredOn ≤
        clkEnables (step Consts.sample s₀ (.apbaEnableStore (some 1) 0 2)).calls ∧
      ((step Consts.sample s₀ (.apbaEnableStore (some 1) 0 2)).hwOn = true →
        0 < clkEnables (step Consts.sample s₀ (.apbaEnableStore (some 1) 0 2)).calls) := by
  obtain ⟨s₀, h⟩ : ∃ s₀, apbaCtrlProbe DeviceTree.sample = .ok s₀ := ⟨_, rfl⟩
  exact ⟨s₀, h, reachable_clkEnables Consts.sample (.step _ (.probe h))⟩

/-- **The transmitter is locked exactly while a baud change waits**: in every reachable state the
`mods_uart_lock_tx(…, true)` calls less the `mods_uart_lock_tx(…, false)` calls are the callers
of `apba_baud_store` still waiting; each end of a wait, acknowledged or timed out, unlocks once. -/
theorem reachable_txLocks {s : State} (hs : Reachable c s) : txLocks s.calls = baudWaits s :=
  (reachable_balanced c hs).3

/-- After the sample probe, a transport registered and `apba_baud_store` sent, its caller waiting. -/
theorem reachable_txLocks_baud_waiting :
    ∃ s₀, apbaCtrlProbe DeviceTree.sample = .ok s₀ ∧
      txLocks (run Consts.sample s₀ [.uartRegister 1, .baudStore (some 115200) 0 7]).calls =
        baudWaits (run Consts.sample s₀ [.uartRegister 1, .baudStore (some 115200) 0 7]) := by
  obtain ⟨s₀, h⟩ : ∃ s₀, apbaCtrlProbe DeviceTree.sample = .ok s₀ := ⟨_, rfl⟩
  exact ⟨s₀, h, reachable_txLocks Consts.sample (reachable_run Consts.sample (.probe h) _)⟩

/-! ## The references beyond `desired_on` -/

/-- The clock references in force beyond `desired_on`: those that no `apba_disable` gives back. -/
def clkExcess (s : State) : Int := clkEnables s.calls - s.desiredOn

namespace Balanced

variable {s : State}

/-- No operation lowers the excess: `apba_disable` gives back the one reference `desired_on` stands
for, and `apba_enable` adds the old `desired_on` to it. -/
theorem clkExcess_step (h : Balanced s) (op : Op) :
    clkExcess s ≤ clkExcess (GreybusApba.step c s op) := by
  have := h.1
  rcases step_counts c s op with e | e | ⟨hd, e⟩ | e | ⟨-, e⟩ <;>
    simp only [State.counts, Prod.mk.injEq] at e <;> simp only [clkExcess] <;> omega

/-- No run lowers the clock references beyond `desired_on`. -/
theorem clkExcess_run (h : Balanced s) (ops : List Op) : clkExcess s ≤ clkExcess (run c s ops) := by
  induction ops generalizing s with
  | nil => exact le_refl _
  | cons op ops ih => exact (h.clkExcess_step c op).trans (ih (h.step c op))

end Balanced

/-- A write of `1` to `apba_enable` is `apba_enable`. -/
theorem step_apbaEnableStore_one (s : State) (clkRet : Int) (count : Nat) :
    step c s (.apbaEnableStore (some 1) clkRet count) = (apbaEnable s clkRet).1 := rfl

/-- A write of `0` to `apba_enable` is `apba_disable`. -/
theorem step_apbaEnableStore_zero (s : State) (clkRet : Int) (count : Nat) :
    step c s (.apbaEnableStore (some 0) clkRet count) = apbaDisable c s := rfl

/-- **A second `apba_enable` leaks a clock reference**: from every reachable state, writing `1` to
`apba_enable` twice with the clock starting, then `0`, leaves more clock references in force than
`desired_on` in every later state, whatever operations follow. `apba_enable` takes a reference
even when `desired_on` is already set, and `apba_disable` gives back only one; so the clock keeps
running while the APBA is off. -/
theorem reachable_enable_twice_leaks {s : State} (hs : Reachable c s) (n₁ n₂ n₃ : Nat)
    (clkRet : Int) (ops : List Op) :
    0 < clkExcess (run c s (.apbaEnableStore (some 1) 0 n₁ :: .apbaEnableStore (some 1) 0 n₂ ::
      .apbaEnableStore (some 0) clkRet n₃ :: ops)) := by
  have h := reachable_balanced c hs
  have e₁ := counts_apbaEnable s
  have e₂ := counts_apbaEnable (apbaEnable s 0).1
  simp only [State.counts, Prod.mk.injEq] at e₁ e₂
  have e₃ := counts_apbaDisable c (apbaEnable (apbaEnable s 0).1 0).1 (by omega)
  simp only [State.counts, Prod.mk.injEq] at e₃
  have h₃ : Balanced (apbaDisable c (apbaEnable (apbaEnable s 0).1 0).1) :=
    ((h.step c (.enable 0)).step c (.enable 0)).step c .disable
  rw [run_cons, run_cons, run_cons, step_apbaEnableStore_one, step_apbaEnableStore_one,
    step_apbaEnableStore_zero]
  calc 0 < clkExcess (apbaDisable c (apbaEnable (apbaEnable s 0).1 0).1) := by
        have := h.1; have := h.2
        simp only [clkExcess]
        omega
    _ ≤ _ := h₃.clkExcess_run c ops

/-- After the sample probe, `apba_enable` written `1`, `1`, then `0`, with the clock starting. -/
theorem reachable_enable_twice_leaks_sample :
    ∃ s₀, apbaCtrlProbe DeviceTree.sample = .ok s₀ ∧
      0 < clkExcess (run Consts.sample s₀ [.apbaEnableStore (some 1) 0 2,
        .apbaEnableStore (some 1) 0 2, .apbaEnableStore (some 0) 0 2]) := by
  obtain ⟨s₀, h⟩ : ∃ s₀, apbaCtrlProbe DeviceTree.sample = .ok s₀ := ⟨_, rfl⟩
  exact ⟨s₀, h, reachable_enable_twice_leaks Consts.sample (.probe h) 2 2 2 0 []⟩

end GreybusApba
