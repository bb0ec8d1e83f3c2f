import GreybusApba.Controller.Machine

/-!
# Controller/Power — what the operations do to the power state

Only `apba_on` and `apba_flash_on` move the power state, and `desired_on` is written only by
`apba_enable` and `apba_disable`. Most operations do neither, and make no MTD call: they are
`Quiet`. The others reach
`apba_on` and `apba_flash_on` in five ways (`step_power`):

    quiet ─ enable: apba_on(on), desired_on = 1 ─ disable: apba_on(off), desired_on = 0
          ─ a flash pipeline or the image-less callback, ending in the no_mtd: tail (flashExit)
          ─ flash_enable_store: apba_flash_on(val) and nothing else

Every invariant of the power state is then one case analysis over these five
(`reachable_hwOn_iff_desired`, `run_never_both_on`). The last breaks the second invariant: unlike
both flash pipelines, `flash_enable_store(1)` turns the flash interface on without first turning
the APBA off (`flashEnableStore_while_on`). The clock is another matter: `apba_enable`
takes a clock reference and runs `apba_on(ctrl, true)` whatever the power state, and so does the
image-less firmware callback's `apba_on` (`apbaOn_while_on`).
-/

namespace GreybusApba

variable (c : Consts)

/-! ## Quiet operations -/

/-- `s'` follows `s` with `desired_on` unchanged and calls that move no power state and do not
reach the MTD layer. -/
def Quiet (s s' : State) : Prop :=
  s'.desiredOn = s.desiredOn ∧ ∃ l, s'.calls = s.calls ++ l ∧ l.all Call.isQuiet = true

namespace Quiet

variable {s s₁ s₂ : State}

theorem refl (s : State) : Quiet s s := ⟨rfl, [], (List.append_nil _).symm, rfl⟩

theorem of_calls (hc : s₁.calls = s.calls) (hd : s₁.desiredOn = s.desiredOn) : Quiet s s₁ :=
  ⟨hd, [], by rw [hc, List.append_nil], rfl⟩

theorem trans (h₁ : Quiet s s₁) (h₂ : Quiet s₁ s₂) : Quiet s s₂ := by
  obtain ⟨d₁, l₁, e₁, a₁⟩ := h₁
  obtain ⟨d₂, l₂, e₂, a₂⟩ := h₂
  exact ⟨d₂.trans d₁, l₁ ++ l₂, by rw [e₂, e₁, List.append_assoc], by simp [a₁, a₂]⟩

/-- A quiet step leaves the power state as it was. -/
theorem power_eq (h : Quiet s s₁) : power s₁.calls = power s.calls := by
  obtain ⟨-, l, e, a⟩ := h
  rw [e, power_append_of_all (all_isQuiet_iff.1 a).1]

theorem hwOn_eq (h : Quiet s s₁) : s₁.hwOn = s.hwOn := congrArg Power.hw h.power_eq

theorem flashOn_eq (h : Quiet s s₁) : s₁.flashOn = s.flashOn := congrArg Power.flash h.power_eq

end Quiet

/-- Calls that are all quiet make a quiet step. -/
theorem quiet_emit (s : State) (cs : List Call) (h : cs.all Call.isQuiet = true) :
    Quiet s (s.emit cs) :=
  ⟨rfl, cs, rfl, h⟩

/-- `apba_notify_abpe_attach` only schedules the attach work. -/
theorem quiet_apbaNotifyAbpeAttach (s : State) (present : Int) (allocOk : Bool) :
    Quiet s (apbaNotifyAbpeAttach s present allocOk) := by
  unfold apbaNotifyAbpeAttach
  split
  · exact ⟨rfl, _, rfl, rfl⟩
  · exact .refl s

/-- Acting on an interrupt reason powers or resets the APBE or schedules an attach, never more. -/
theorem quiet_apbaActionOnIntReason (s : State) (reason : Nat) (allocOk : Bool) :
    Quiet s (apbaActionOnIntReason c s reason allocOk) := by
  obtain ⟨cs, hcs, e | ⟨present, e⟩⟩ := apbaActionOnIntReason_cases c s reason allocOk <;> rw [e]
  · exact quiet_emit s cs hcs
  · exact (quiet_emit s cs hcs).trans (quiet_apbaNotifyAbpeAttach _ _ _)

/-- No frame from the APBA moves its power state or reaches the MTD layer. -/
theorem quiet_apbaHandleMessage (s : State) (payload : Nat → UInt8) (len : Nat) (allocOk : Bool) :
    Quiet s (apbaHandleMessage c s payload len allocOk) := by
  unfold apbaHandleMessage
  split
  · exact .refl s
  · split
    · split
      · exact quiet_apbaActionOnIntReason c _ _ _
      · exact .refl s
    · exact quiet_emit _ _ (by rfl)
    · exact .of_calls rfl rfl
    · exact .of_calls rfl rfl
    · split
      · exact ⟨rfl, _, rfl, rfl⟩
      · exact .of_calls rfl rfl
    · exact .of_calls rfl rfl
    · exact .refl s

/-- `apba_mode_store` up to its wait only sends its request. -/
theorem quiet_apbaModeStore (s : State) (val : Option Nat) (sendRet : Int) (count : Nat) :
    Quiet s (apbaModeStore c s val sendRet count).1 := by
  unfold apbaModeStore
  repeat' split
  all_goals first | exact .refl s | exact ⟨rfl, _, rfl, rfl⟩

/-- `apba_baud_store` up to its wait only sends its request and locks transmission. -/
theorem quiet_apbaBaudStore (s : State) (val : Option Nat) (sendRet : Int) (count : Nat) :
    Quiet s (apbaBaudStore c s val sendRet count).1 := by
  unfold apbaBaudStore
  split
  · exact .refl s
  split
  · exact .refl s
  · dsimp only
    split
    · exact quiet_emit _ _ (by rfl)
    · exact ⟨rfl, _, List.append_assoc _ _ _, by rfl⟩

/-- `apba_log_show` up to its wait only sends its request. -/
theorem quiet_apbaLogShow (s : State) (sendRet : Int) : Quiet s (apbaLogShow c s sendRet).1 := by
  unfold apbaLogShow
  split
  · exact ⟨rfl, _, rfl, rfl⟩
  · exact ⟨rfl, _, rfl, rfl⟩

/-- The end of a wait at most unlocks transmission. -/
theorem quiet_waitEnd (s : State) (i : Nat) : Quiet s (waitEnd c s i).1 := by
  simp only [waitEnd]
  repeat' split
  all_goals first
    | exact .refl s
    | exact .of_calls rfl rfl
    | exact ⟨rfl, _, rfl, rfl⟩

/-- `apbe_power_store` powers the APBE, not the APBA. -/
theorem quiet_apbePowerStore (s : State) (val : Option Nat) (count : Nat) :
    Quiet s (apbePowerStore c s val count).1 := by
  unfold apbePowerStore
  repeat' split
  all_goals first | exact .refl s | exact ⟨rfl, _, rfl, rfl⟩

/-- An attach work only tells the transport whether the mod is present. -/
theorem quiet_apbaApbeAttachWorkFunc (s : State) (i : Nat) :
    Quiet s (apbaApbeAttachWorkFunc s i) := by
  simp only [apbaApbeAttachWorkFunc]
  repeat' split
  all_goals first | exact .refl s | exact .of_calls rfl rfl | exact ⟨rfl, _, rfl, rfl⟩

/-! ## The functions that reach `apba_on` and `apba_flash_on` -/

theorem apbaEnable_cases (s : State) (clkRet : Int) :
    Quiet s (apbaEnable s clkRet).1 ∨
      ∃ s₁, Quiet s s₁ ∧ (apbaEnable s clkRet).1 = apbaOn { s₁ with desiredOn := 1 } true := by
  unfold apbaEnable
  split
  · exact .inl (quiet_emit _ _ (by rfl))
  · exact .inr ⟨_, quiet_emit _ _ (by rfl), rfl⟩

theorem apbaDisable_cases (s : State) :
    Quiet s (apbaDisable c s) ∨
      ∃ s₁, Quiet s s₁ ∧ apbaDisable c s = apbaOn { s₁ with desiredOn := 0 } false := by
  unfold apbaDisable
  split
  · exact .inl (.refl s)
  · exact .inr ⟨_, (quiet_emit _ _ (by rfl)).trans (quiet_emit _ _ (by unfold State.withUart; split <;> rfl)),
      rfl⟩

theorem apbaDisableWorkFunc_cases (s : State) :
    Quiet s (apbaDisableWorkFunc c s) ∨
      ∃ s₁, Quiet s s₁ ∧ apbaDisableWorkFunc c s = apbaOn { s₁ with desiredOn := 0 } false := by
  unfold apbaDisableWorkFunc
  split
  · exact (apbaDisable_cases c _).imp (Quiet.of_calls rfl rfl).trans
      fun ⟨s₁, h₁, e⟩ => ⟨s₁, (Quiet.of_calls rfl rfl).trans h₁, e⟩
  · exact .inl (.refl s)

theorem apbaEnableStore_cases (s : State) (val : Option Nat) (clkRet : Int) (count : Nat) :
    Quiet s (apbaEnableStore c s val clkRet count).1 ∨
      (∃ s₁, Quiet s s₁ ∧ (apbaEnableStore c s val clkRet count).1 = apbaOn { s₁ with desiredOn := 1 } true) ∨
      ∃ s₁, Quiet s s₁ ∧ (apbaEnableStore c s val clkRet count).1 = apbaOn { s₁ with desiredOn := 0 } false := by
  unfold apbaEnableStore
  split
  · split
    · split
      · exact (apbaEnable_cases s clkRet).imp_right .inl
      · exact (apbaDisable_cases c s).imp_right .inr
    · exact .inl (.refl s)
  · exact .inl (.refl s)

theorem apbaSlaveNotify_cases (s : State) (masterIntf : UInt8) (slaveMask slaveState : Nat)
    (clkRet : Int) :
    Quiet s (apbaSlaveNotify c s masterIntf slaveMask slaveState clkRet) ∨
      ∃ s₁, Quiet s s₁ ∧
        apbaSlaveNotify c s masterIntf slaveMask slaveState clkRet = apbaOn { s₁ with desiredOn := 1 } true := by
  unfold apbaSlaveNotify
  split
  · exact .inl (.refl s)
  · dsimp only
    split
    · exact .inl ⟨rfl, _, rfl, rfl⟩
    · split
      · exact (apbaEnable_cases _ clkRet).imp (Quiet.of_calls rfl rfl).trans
          fun ⟨s₁, h₁, e⟩ => ⟨s₁, (Quiet.of_calls rfl rfl).trans h₁, e⟩
      · exact .inl (.of_calls rfl rfl)

theorem erasePartitionStore_cases {s : State} {buf partition : List UInt8} {out : MtdOutcome}
    {r : State × Int} (h : erasePartitionStore s buf partition out = some r) :
    r.1 = s ∨ ∃ part, r.1 = (apbaErasePartition s part out).1 := by
  simp only [erasePartitionStore] at h
  split at h
  · cases h; exact .inl rfl
  · simp only [Option.bind_eq_bind, Option.bind_eq_some, Option.pure_def, Option.some.injEq] at h
    obtain ⟨part, -, rfl⟩ := h
    exact .inr ⟨part, rfl⟩

theorem flashPartitionStoreWith_cases (s : State) (partition : List UInt8) (fw : Firmware)
    (out : MtdOutcome) (count : Nat) :
    (flashPartitionStoreWith c s partition fw out count).1 = s ∨
      (flashPartitionStoreWith c s partition fw out count).1 =
        (apbaFlashPartition c s partition fw out).1.emit [.releaseFirmware] := by
  unfold flashPartitionStoreWith
  split
  · exact .inl rfl
  · exact .inr rfl

theorem flashPartitionStore_cases {s : State} {buf partition fwName : List UInt8}
    {request : List UInt8 → Except Int Firmware} {out : MtdOutcome} {r : State × Int}
    (h : flashPartitionStore c s buf partition fwName request out = some r) :
    r.1 = s ∨ ∃ cs, cs.all Call.isQuiet = true ∧
      (r.1 = s.emit cs ∨ ∃ part fw count, r = flashPartitionStoreWith c (s.emit cs) part fw out count) := by
  simp only [flashPartitionStore] at h
  split at h
  · cases h; exact .inl rfl
  · simp only [Option.bind_eq_bind, Option.bind_eq_some] at h
    obtain ⟨_, -, _, -, part, -, h⟩ := h
    split at h
    · cases h; exact .inr ⟨_, by rfl, .inr ⟨part, _, _, rfl⟩⟩
    · simp only [Option.bind_eq_some] at h
      obtain ⟨_, -, h⟩ := h
      split at h
      · cases h
        rw [State.emit_emit]
        exact .inr ⟨_, by rfl, .inr ⟨part, _, _, rfl⟩⟩
      · cases h
        rw [State.emit_emit]
        exact .inr ⟨_, by rfl, .inl rfl⟩

/-! ## The five things a step can do -/

/-- The `no_mtd:` tail after the first half of a pipeline, or on its own. The first half turns
the APBA off, enters flash mode and works on the MTD devices, putting back every reference it
takes. -/
def ExitFrom (s₁ s₂ : State) : Prop :=
  s₂ = s₁ ∨ ∃ created, MtdStep Call.isMtd (apbaFlashOn (apbaOn s₁ false) true created) s₂ ∧
    ∀ n, mtdRefs s₂.calls n = mtdRefs s₁.calls n

theorem exitFrom_pipeline (s : State) (partition : List UInt8) (created : Bool)
    {work : State → Nat → MtdInfo → State × Int}
    (hwork : ∀ s num info, MtdStep Call.isMtdIo s (work s num info).1) :
    ExitFrom s (withPartition (apbaFlashOn (apbaOn s false) true created) partition work).1 := by
  obtain ⟨l₁, h₁, m₁⟩ := apbaOn_calls_noMtd s false
  obtain ⟨l₂, h₂, m₂⟩ := apbaFlashOn_calls_noMtd (apbaOn s false) true created
  obtain ⟨l, h, hl⟩ := withPartition_refs hwork (apbaFlashOn (apbaOn s false) true created)
    partition
  refine .inr ⟨created, withPartition_frame hwork _ partition, fun n => ?_⟩
  rw [h, h₂, h₁, mtdRefs_append, mtdRefs_append, mtdRefs_append, mtdRefs_of_all m₁,
    mtdRefs_of_all m₂, (hl n).2]
  omega

/-- **What one operation does to the power state**: nothing; `apba_enable`'s `apba_on(on)` with
`desired_on = 1`; `apba_disable`'s `apba_on(off)` with `desired_on = 0`; the `no_mtd:` tail after a
flash pipeline (or, for the image-less firmware callback, on its own); or `flash_enable_store`'s
`apba_flash_on`. Each is framed by quiet calls. -/
theorem step_power (s : State) (op : Op) :
    Quiet s (step c s op) ∨
    (∃ s₁, Quiet s s₁ ∧ step c s op = apbaOn { s₁ with desiredOn := 1 } true) ∨
    (∃ s₁, Quiet s s₁ ∧ step c s op = apbaOn { s₁ with desiredOn := 0 } false) ∨
    (∃ s₁ s₂, Quiet s s₁ ∧ ExitFrom s₁ s₂ ∧ Quiet (flashExit s₂) (step c s op)) ∨
    (∃ v created count, op = .flashEnableStore (some v) created count ∧ (v = 0 ∨ v = 1) ∧
      step c s op = apbaFlashOn s (v ≠ 0) created) := by
  cases op with
  | enable clkRet => exact (apbaEnable_cases s clkRet).elim .inl (.inr ∘ .inl)
  | disable => exact (apbaDisable_cases c s).elim .inl (.inr ∘ .inr ∘ .inl)
  | disableWork => exact (apbaDisableWorkFunc_cases c s).elim .inl (.inr ∘ .inr ∘ .inl)
  | erasePartitionStore buf partition out =>
    simp only [step]
    cases h : erasePartitionStore s buf partition.1 out with
    | none => exact .inl (.refl s)
    | some r =>
      rcases erasePartitionStore_cases h with e | ⟨part, e⟩
      · exact .inl (by simp only [Option.map_some', Option.getD_some, e]; exact .refl s)
      · refine .inr (.inr (.inr (.inl ⟨s, _, .refl s, exitFrom_pipeline s part out.created
          fun s num _ => mtdStep_apbaMtdErase s num out.eraseRet, ?_⟩)))
        simp only [Option.map_some', Option.getD_some, e]
        exact .refl _
  | flashPartitionStore buf partition fwName request out =>
    simp only [step]
    cases h : flashPartitionStore c s buf partition.1 fwName.1 request out with
    | none => exact .inl (.refl s)
    | some r =>
      simp only [Option.map_some', Option.getD_some]
      rcases flashPartitionStore_cases c h with e | ⟨cs, hcs, e | ⟨part, fw, count, e⟩⟩
      · exact .inl (e ▸ .refl s)
      · exact .inl (e ▸ quiet_emit s cs hcs)
      · rw [e]
        rcases flashPartitionStoreWith_cases c (s.emit cs) part fw out count with e' | e'
        · rw [e']
          exact .inl (quiet_emit s cs hcs)
        · refine .inr (.inr (.inr (.inl ⟨s.emit cs, _, quiet_emit s cs hcs,
            exitFrom_pipeline _ part out.created
              fun s num info => mtdStep_flashFound c s num info fw out, ?_⟩)))
          rw [e']
          exact quiet_emit _ _ (by rfl)
  | firmwareCallback fw out =>
    simp only [step, apbaFirmwareCallback]
    split
    · exact .inr (.inr (.inr (.inl ⟨s, s, .refl s, .inl rfl, quiet_emit _ _ (by rfl)⟩)))
    · next fw =>
      exact .inr (.inr (.inr (.inl ⟨s, _, .refl s, exitFrom_pipeline s _ out.created
        fun s num info => mtdStep_flashFound c s num info fw out, quiet_emit _ _ (by rfl)⟩)))
  | flashEnableStore val created count =>
    simp only [step, flashEnableStore]
    split
    · next v =>
      split
      · next hv => exact .inr (.inr (.inr (.inr ⟨v, created, count, rfl, hv, rfl⟩)))
      · exact .inl (.refl s)
    · exact .inl (.refl s)
  | apbaEnableStore val clkRet count =>
    rcases apbaEnableStore_cases c s val clkRet count with h | h | h
    exacts [.inl h, .inr (.inl h), .inr (.inr (.inl h))]
  | modeStore val sendRet count => exact .inl (quiet_apbaModeStore c s val sendRet count)
  | baudStore val sendRet count => exact .inl (quiet_apbaBaudStore c s val sendRet count)
  | logShow sendRet => exact .inl (quiet_apbaLogShow c s sendRet)
  | waitEnd i => exact .inl (quiet_waitEnd c s i)
  | baudShow =>
    simp only [step, apbaBaudShow]
    split
    · exact .inl (.refl s)
    · exact .inl (quiet_emit _ _ (by rfl))
  | apbePowerStore val count => exact .inl (quiet_apbePowerStore c s val count)
  | slaveNotify masterIntf slaveMask slaveState clkRet =>
    exact (apbaSlaveNotify_cases c s masterIntf slaveMask slaveState clkRet).elim .inl (.inr ∘ .inl)
  | uartRegister uart => exact .inl (.of_calls rfl rfl)
  | handleMessage payload len allocOk => exact .inl (quiet_apbaHandleMessage c s payload len allocOk)
  | attachWork i => exact .inl (quiet_apbaApbeAttachWorkFunc s i)
  | isr =>
    simp only [step, apbaIsr]
    split
    · exact .inl (.refl s)
    · exact .inl (quiet_emit _ _ (by rfl))
  | wakeAssert assert => exact .inl (quiet_emit _ _ (all_apbaSeq_isQuiet _ _))

/-! ## The `no_mtd:` tail -/

theorem hwOn_flashExit (t : State) : (flashExit t).hwOn = (decide (t.desiredOn ≠ 0) || t.hwOn) := by
  rw [State.hwOn, power_flashExit, State.hwOn]
  by_cases h : t.desiredOn ≠ 0 <;> simp [h, Power.step]

@[simp] theorem flashOn_flashExit (t : State) : (flashExit t).flashOn = false := by
  rw [State.flashOn, power_flashExit]
  split <;> rfl

theorem clash_flashExit (t : State) :
    (power (flashExit t).calls).clash = (power t.calls).clash := by
  rw [power_flashExit]
  split <;> simp [Power.step]

namespace ExitFrom

variable {s₁ s₂ : State}

theorem desiredOn (h : ExitFrom s₁ s₂) : s₂.desiredOn = s₁.desiredOn := by
  rcases h with rfl | ⟨_, ⟨_, _, rfl, _⟩, -⟩ <;> rfl

theorem hwOn (h : ExitFrom s₁ s₂) : s₂.hwOn = s₁.hwOn ∨ s₂.hwOn = false := by
  rcases h with rfl | ⟨_, h, -⟩
  · exact .inl rfl
  · exact .inr (by rw [State.hwOn, h.power_eq, power_apbaFlashOn, power_apbaOn]; rfl)

theorem clash (h : ExitFrom s₁ s₂) : (power s₂.calls).clash = (power s₁.calls).clash := by
  rcases h with rfl | ⟨_, h, -⟩
  · rfl
  · rw [h.power_eq, power_apbaFlashOn, power_apbaOn]; simp [Power.step]

end ExitFrom

/-! ## `desired_on` and the APBA power -/

theorem probe_power {dt : DeviceTree} {s : State} (h : apbaCtrlProbe dt = .ok s) :
    s.desiredOn = 0 ∧ power s.calls = ⟨false, false, false⟩ := by
  obtain ⟨s₀, hz, -, rfl⟩ := apbaCtrlProbe_ok h
  refine ⟨hz.desiredOn, ?_⟩
  rw [power_apbaOn, hz.calls]
  rfl

/-- `desired_on` is `0` or `1`, and the APBA is on exactly when it is `1`. -/
def PowerMatches (s : State) : Prop :=
  (s.desiredOn = 0 ∨ s.desiredOn = 1) ∧ s.hwOn = decide (s.desiredOn = 1)

/-- The `no_mtd:` tail after a pipeline's body restores the power its caller desires. -/
theorem powerMatches_flashExit {s₁ s₂ : State} (hx : ExitFrom s₁ s₂) (h : PowerMatches s₁) :
    PowerMatches (flashExit s₂) := by
  rw [PowerMatches, flashExit_desiredOn, hwOn_flashExit, hx.desiredOn]
  refine ⟨h.1, ?_⟩
  rcases h.1 with h0 | h1
  · rcases hx.hwOn with e | e <;> simp [e, h0, h.2]
  · simp [h1]

/-- Every step keeps the APBA on exactly when it is desired on. -/
theorem powerMatches_step (s : State) (op : Op) (h : PowerMatches s) :
    PowerMatches (step c s op) := by
  rcases step_power c s op with
    hq | ⟨s₁, -, e⟩ | ⟨s₁, -, e⟩ | ⟨s₁, s₂, hq, hx, hq'⟩ | ⟨v, created, count, -, -, e⟩
  · exact ⟨hq.1 ▸ h.1, by rw [hq.hwOn_eq, hq.1]; exact h.2⟩
  · rw [e]; exact ⟨.inr rfl, by simp⟩
  · rw [e]; exact ⟨.inl rfl, by simp⟩
  · have h₂ := powerMatches_flashExit hx
      ⟨hq.1 ▸ h.1, by rw [hq.hwOn_eq, hq.1]; exact h.2⟩
    exact ⟨hq'.1 ▸ h₂.1, by rw [hq'.hwOn_eq, hq'.1]; exact h₂.2⟩
  · rw [e]; exact ⟨h.1, by rw [hwOn_apbaFlashOn]; exact h.2⟩

/-- Every reachable state has the APBA on exactly when it is desired on. -/
theorem reachable_powerMatches {s : State} (hs : Reachable c s) : PowerMatches s :=
  reachable_induct c
    (fun _ _ hp => ⟨.inl (probe_power hp).1, by
      rw [State.hwOn, (probe_power hp).2, (probe_power hp).1]; rfl⟩)
    (powerMatches_step c) hs

/-- **The APBA is on exactly when it is desired on**, in every reachable state, and each flash
pipeline, from any state and for every answer of the collaborators, restores the power state its
caller desires, leaves flash mode, puts back every MTD reference it takes, and fails exactly when
the partition is absent or an erase (or, flashing, a write) failed. -/
theorem reachable_hwOn_iff_desired :
    (∀ s, Reachable c s → (s.desiredOn = 0 ∨ s.desiredOn = 1) ∧ (s.hwOn = true ↔ s.desiredOn = 1)) ∧
    (∀ s partition out,
      let r := apbaErasePartition s partition out
      r.1.desiredOn = s.desiredOn ∧ r.1.hwOn = decide (s.desiredOn ≠ 0) ∧ r.1.flashOn = false ∧
        r.1.flashDevPopulated = false ∧ (power r.1.calls).clash = (power s.calls).clash ∧
        (∃ l, r.1.calls = s.calls ++ l ∧ ∀ n, l.count (.getMtdDevice n) ≤ 1 ∧ mtdRefs l n = 0) ∧
        (r.2 < 0 ↔ PartitionAbsent s.mtd partition ∨ out.eraseRet < 0)) ∧
    (∀ s partition fw out,
      let r := apbaFlashPartition c s partition fw out
      r.1.desiredOn = s.desiredOn ∧ r.1.hwOn = decide (s.desiredOn ≠ 0) ∧ r.1.flashOn = false ∧
        r.1.flashDevPopulated = false ∧ (power r.1.calls).clash = (power s.calls).clash ∧
        (∃ l, r.1.calls = s.calls ++ l ∧ ∀ n, l.count (.getMtdDevice n) ≤ 1 ∧ mtdRefs l n = 0) ∧
        (r.2 < 0 ↔ PartitionAbsent s.mtd partition ∨
          ∃ num info, (apbaInitMtdModule s.mtd partition).2 = some (num, info) ∧
            apbaComparePartition c info fw out ≠ 0 ∧ (out.eraseRet < 0 ∨ out.writeRet < 0))) := by
  refine ⟨fun s hs => ?_, apbaErasePartition_spec, apbaFlashPartition_spec c⟩
  have h := reachable_powerMatches c hs
  exact ⟨h.1, by rw [h.2, decide_eq_true_iff]⟩

theorem reachable_hwOn_iff_desired_after_enable :
    ∃ s₀, apbaCtrlProbe DeviceTree.sample = .ok s₀ ∧
      let s := step Consts.sample s₀ (.apbaEnableStore (some 1) 0 2)
      (s.desiredOn = 0 ∨ s.desiredOn = 1) ∧ (s.hwOn = true ↔ s.desiredOn = 1) := by
  obtain ⟨s₀, h⟩ : ∃ s₀, apbaCtrlProbe DeviceTree.sample = .ok s₀ := ⟨_, rfl⟩
  exact ⟨s₀, h, (reachable_hwOn_iff_desired Consts.sample).1 _ (.step _ (.probe h))⟩

/-! ## The APBA and the flash interface -/

/-- The flash interface is off and no call so far left it and the APBA both on. -/
def NeverBothOn (s : State) : Prop := s.flashOn = false ∧ (power s.calls).clash = false

/-- Every step but a write of `1` to `flash_enable` keeps the flash interface off and leaves the
APBA and the flash interface never on together. -/
theorem neverBothOn_step (s : State) (op : Op)
    (hop : ∀ created count, op ≠ .flashEnableStore (some 1) created count) (h : NeverBothOn s) :
    NeverBothOn (step c s op) := by
  have hpow : ∀ s₁, Quiet s s₁ → NeverBothOn s₁ := fun s₁ hq =>
    ⟨by rw [hq.flashOn_eq]; exact h.1, by rw [hq.power_eq]; exact h.2⟩
  rcases step_power c s op with
    hq | ⟨s₁, hq, e⟩ | ⟨s₁, hq, e⟩ | ⟨s₁, s₂, hq, hx, hq'⟩ | ⟨v, created, count, rfl, hv, e⟩
  · exact hpow _ hq
  · have h₁ := hpow s₁ hq
    rw [e]
    exact ⟨by simpa using h₁.1, by
      rw [power_apbaOn]; simp [Power.step, h₁.2, show (power s₁.calls).flash = false from h₁.1]⟩
  · have h₁ := hpow s₁ hq
    rw [e]
    exact ⟨by simpa using h₁.1, by rw [power_apbaOn]; simp [Power.step, h₁.2]⟩
  · have h₁ := hpow s₁ hq
    exact ⟨by rw [hq'.flashOn_eq, flashOn_flashExit],
      by rw [hq'.power_eq, clash_flashExit, hx.clash]; exact h₁.2⟩
  · have hv0 : v = 0 := by
      rcases hv with h0 | h1
      · exact h0
      · exact absurd (congrArg (fun v => Op.flashEnableStore (some v) created count) h1)
          (hop created count)
    subst hv0
    rw [e]
    exact ⟨by simp, by rw [power_apbaFlashOn]; simp [Power.step, h.2]⟩

/-- **Without `flash_enable_store(1)` the APBA and the flash interface are never on together**:
in every run from a successful probe that never writes `1` to `flash_enable`, no call of the run
leaves both on, and between operations the flash interface is off. -/
theorem run_never_both_on {dt : DeviceTree} {s₀ : State} (h : apbaCtrlProbe dt = .ok s₀)
    (ops : List Op) (hops : ∀ op ∈ ops, ∀ created count, op ≠ .flashEnableStore (some 1) created count) :
    (run c s₀ ops).flashOn = false ∧ (power (run c s₀ ops).calls).clash = false := by
  suffices ∀ s, NeverBothOn s → NeverBothOn (run c s ops) from
    this s₀ ⟨by rw [State.flashOn, (probe_power h).2], by rw [(probe_power h).2]⟩
  induction ops with
  | nil => exact fun s hs => hs
  | cons op ops ih =>
    intro s hs
    exact ih (fun op' h' => hops op' (List.mem_cons_of_mem _ h'))
      _ (neverBothOn_step c s op (hops op (List.mem_cons_self _ _)) hs)

theorem run_never_both_on_enable_flash_off :
    ∃ s₀, apbaCtrlProbe DeviceTree.sample = .ok s₀ ∧
      let s := run Consts.sample s₀ [.apbaEnableStore (some 1) 0 2,
        .flashEnableStore (some 0) false 2, .firmwareCallback none ⟨false, 0, false, 0, 0⟩]
      s.flashOn = false ∧ (power s.calls).clash = false := by
  obtain ⟨s₀, h⟩ : ∃ s₀, apbaCtrlProbe DeviceTree.sample = .ok s₀ := ⟨_, rfl⟩
  exact ⟨s₀, h, run_never_both_on Consts.sample h _ (by simp)⟩

/-- **`flash_enable_store(1)` turns the flash interface on under a running APBA**: from every
reachable state where the APBA is desired on, a write of `1` to `flash_enable` runs
`apba_flash_on(g_ctrl, true)` with no `apba_on(ctrl, false)` before it, which both flash pipelines
make, so the APBA stays on, the flash interface comes on, and the call leaves the two on together. -/
theorem flashEnableStore_while_on {s : State} (hs : Reachable c s) (hon : s.desiredOn = 1)
    (created : Bool) (count : Nat) :
    let s' := step c s (.flashEnableStore (some 1) created count)
    s'.hwOn = true ∧ s'.flashOn = true ∧ (power s'.calls).clash = true := by
  have hw : (power s.calls).hw = true := by
    rw [← State.hwOn, (reachable_powerMatches c hs).2, hon]; rfl
  show (apbaFlashOn s true created).hwOn = true ∧ (apbaFlashOn s true created).flashOn = true ∧
    (power (apbaFlashOn s true created).calls).clash = true
  rw [hwOn_apbaFlashOn, flashOn_apbaFlashOn, power_apbaFlashOn]
  exact ⟨hw, rfl, by simp [Power.step, hw]⟩

/-- A write of `1` to `flash_enable` after one to `apba_enable`. -/
theorem flashEnableStore_while_on_after_enable :
    ∃ s₀, apbaCtrlProbe DeviceTree.sample = .ok s₀ ∧
      let s := step Consts.sample s₀ (.apbaEnableStore (some 1) 0 2)
      s.desiredOn = 1 ∧
      let s' := step Consts.sample s (.flashEnableStore (some 1) false 2)
      s'.hwOn = true ∧ s'.flashOn = true ∧ (power s'.calls).clash = true := by
  obtain ⟨s₀, h⟩ : ∃ s₀, apbaCtrlProbe DeviceTree.sample = .ok s₀ := ⟨_, rfl⟩
  exact ⟨s₀, h, rfl,
    flashEnableStore_while_on Consts.sample (.step (.apbaEnableStore (some 1) 0 2) (.probe h)) rfl
      false 2⟩

/-! ## The clock -/

theorem clkEnables_append (l l' : List Call) :
    clkEnables (l ++ l') = clkEnables l + clkEnables l' := by
  simp only [clkEnables, List.count_append]
  push_cast
  omega

/-- A call that is no GPIO write and no sleep is not made by a sequence run. -/
@[simp] theorem not_mem_apbaSeq {x : Call} (hg : ∀ gpio value, x ≠ .gpioSetValue gpio value)
    (hu : ∀ lo hi, x ≠ .usleepRange lo hi) (gpios : Fin apbaNumGpios → Int) (seq : ApbaSeq) :
    x ∉ apbaSeq gpios seq := fun h => by
  rcases mem_apbaSeq h with ⟨_, _, e⟩ | ⟨_, _, e⟩
  exacts [hg _ _ e, hu _ _ e]

@[simp] theorem count_apbaSeq {x : Call} (hg : ∀ gpio value, x ≠ .gpioSetValue gpio value)
    (hu : ∀ lo hi, x ≠ .usleepRange lo hi) (gpios : Fin apbaNumGpios → Int) (seq : ApbaSeq) :
    (apbaSeq gpios seq).count x = 0 :=
  List.count_eq_zero.mpr (not_mem_apbaSeq hg hu gpios seq)

theorem clkEnables_apbaOn (s : State) (enable : Bool) :
    clkEnables (apbaOn s enable).calls = clkEnables s.calls := by
  rw [apbaOn_calls, clkEnables_append]
  cases enable <;> simp [clkEnables, State.withUart, List.count_cons] <;> split_ifs <;> simp

/-- `s'` follows `s` with calls that run `apba_on(ctrl, true)` and never turn the APBA off. -/
def RunsApbaOnWhileOn (s s' : State) : Prop :=
  ∃ l, s'.calls = s.calls ++ l ∧ .apbaOn true ∈ l ∧ .apbaOn false ∉ l

theorem apbaOn_true_runsApbaOnWhileOn (s : State) : RunsApbaOnWhileOn s (apbaOn s true) :=
  ⟨_, apbaOn_calls s true, by simp, by simp [State.withUart]⟩

namespace RunsApbaOnWhileOn

variable {s t s' : State}

theorem of_lead {m : List Call} (hm : t.calls = s.calls ++ m) (hoff : .apbaOn false ∉ m)
    (h : RunsApbaOnWhileOn t s') : RunsApbaOnWhileOn s s' :=
  let ⟨l, e, hon, hl⟩ := h
  ⟨m ++ l, by rw [e, hm, List.append_assoc], List.mem_append_right _ hon, by simp [hoff, hl]⟩

theorem emit (h : RunsApbaOnWhileOn s s') {cs : List Call} (hoff : .apbaOn false ∉ cs) :
    RunsApbaOnWhileOn s (s'.emit cs) :=
  let ⟨l, e, hon, hl⟩ := h
  ⟨l ++ cs, by rw [State.emit_calls, e, List.append_assoc], List.mem_append_left _ hon,
    by simp [hoff, hl]⟩

end RunsApbaOnWhileOn

/-- A successful `apba_enable` takes a clock reference and runs `apba_on(ctrl, true)`, whatever the
power state. -/
theorem apbaEnable_zero (s : State) :
    let s' := (apbaEnable s 0).1
    s'.desiredOn = 1 ∧ clkEnables s'.calls = clkEnables s.calls + 1 ∧ RunsApbaOnWhileOn s s' := by
  refine ⟨rfl, ?_, .of_lead rfl (by decide) (apbaOn_true_runsApbaOnWhileOn _)⟩
  show clkEnables (apbaOn _ true).calls = _
  rw [clkEnables_apbaOn, State.emit_calls, clkEnables_append]
  rfl

/-- The image-less firmware callback of a controller desired on runs `apba_on(ctrl, true)` after
leaving flash mode, which does not turn the APBA off. -/
theorem flashExit_runsApbaOnWhileOn {s : State} (hon : s.desiredOn ≠ 0) :
    RunsApbaOnWhileOn s (flashExit s) := by
  rw [flashExit, if_pos (show (apbaFlashOn s false false).desiredOn ≠ 0 from hon)]
  exact .of_lead (apbaFlashOn_calls s false false) (by simp)
    (apbaOn_true_runsApbaOnWhileOn _)

/-- **`apba_on(ctrl, true)` runs while the APBA is on**: in every reachable state desired on (so
on), `apba_enable`, `apba_enable_store(1)` and an `SLAVE_STATE_ENABLED` notification each take one
more clock reference and run `apba_on(ctrl, true)` again, with `desired_on` still `1`; the
image-less firmware callback runs it again too. -/
theorem apbaOn_while_on {s : State} (hs : Reachable c s) (hon : s.desiredOn = 1)
    (hst : c.slaveStateEnabled ≠ c.slaveStateDisabled) (count : Nat) (masterIntf : UInt8)
    (out : MtdOutcome) :
    s.hwOn = true ∧
    (∀ op ∈ [Op.enable 0, .apbaEnableStore (some 1) 0 count,
        .slaveNotify masterIntf c.slaveMaskApbe c.slaveStateEnabled 0],
      (step c s op).desiredOn = 1 ∧ clkEnables (step c s op).calls = clkEnables s.calls + 1 ∧
        RunsApbaOnWhileOn s (step c s op)) ∧
    RunsApbaOnWhileOn s (step c s (.firmwareCallback none out)) := by
  refine ⟨by rw [(reachable_powerMatches c hs).2, hon]; rfl, ?_, ?_⟩
  · simp only [List.mem_cons, List.mem_singleton, List.not_mem_nil, or_false]
    rintro op (rfl | rfl | rfl)
    · exact apbaEnable_zero s
    · exact apbaEnable_zero s
    · simp only [step, apbaSlaveNotify, if_neg hst, if_true, ne_eq, not_true_eq_false, if_false]
      exact apbaEnable_zero { s with masterIntf }
  · exact (flashExit_runsApbaOnWhileOn (by omega)).emit (by decide)

theorem apbaOn_while_on_second_enable :
    ∃ s₀, apbaCtrlProbe DeviceTree.sample = .ok s₀ ∧
      let s := step Consts.sample s₀ (.apbaEnableStore (some 1) 0 2)
      s.hwOn = true ∧
      (∀ op ∈ [Op.enable 0, .apbaEnableStore (some 1) 0 2,
          .slaveNotify 1 Consts.sample.slaveMaskApbe Consts.sample.slaveStateEnabled 0],
        (step Consts.sample s op).desiredOn = 1 ∧
          clkEnables (step Consts.sample s op).calls = clkEnables s.calls + 1 ∧
          RunsApbaOnWhileOn s (step Consts.sample s op)) ∧
      RunsApbaOnWhileOn s (step Consts.sample s (.firmwareCallback none ⟨false, 0, false, 0, 0⟩)) := by
  obtain ⟨s₀, h⟩ : ∃ s₀, apbaCtrlProbe DeviceTree.sample = .ok s₀ := ⟨_, rfl⟩
  exact ⟨s₀, h, apbaOn_while_on Consts.sample (.step (.apbaEnableStore (some 1) 0 2) (.probe h)) rfl
    (by decide) 2 1 _⟩

end GreybusApba
