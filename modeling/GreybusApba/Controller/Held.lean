import GreybusApba.Controller.Power

/-!
# Controller/Held — MTD devices are read, erased and written only while held

`apba_init_mtd_module` returns the partition's device with a reference taken by
`get_mtd_device`, and the pipelines' `cleanup:` label puts it back with `put_mtd_device` after the
work. The work reads, erases and writes that device and no other (`mtdStep_flashFound_on`), so
each of its calls sits between the get and the put of the device it names. No other operation
reaches the MTD layer.

`ioHeld` walks a call log with the references held and checks each read, erase and write
(`ioHeld_sound` says what it checks). Every operation appends calls that pass the walk from any
references held (`step_ioStep`), so over every run from a successful probe:

* `reachable_io_held` — each read, erase or write in the log comes after more `get_mtd_device`
  than `put_mtd_device` calls of its device: no device is used before it is taken or after it is
  put back.
-/

namespace GreybusApba

variable (c : Consts)

/-! ## Walking the log -/

/-- The log `l` read from the references `refs` held before it: every read, erase or write names
a device held at that point. -/
def ioHeld (refs : Nat → Int) : List Call → Bool
  | [] => true
  | x :: l => x.ioDev?.all (fun n => decide (0 < refs n)) &&
      ioHeld (fun n => refs n + mtdRefs [x] n) l

theorem ioHeld_append (refs : Nat → Int) : ∀ l₁ l₂ : List Call,
    ioHeld refs (l₁ ++ l₂) = (ioHeld refs l₁ && ioHeld (fun n => refs n + mtdRefs l₁ n) l₂)
  | [], l₂ => by simp [ioHeld, mtdRefs]
  | x :: l₁, l₂ => by
    have e : (fun n => refs n + mtdRefs [x] n + mtdRefs l₁ n) =
        fun n => refs n + mtdRefs (x :: l₁) n :=
      funext fun n => by rw [show x :: l₁ = [x] ++ l₁ from rfl, mtdRefs_append, add_assoc]
    rw [List.cons_append, ioHeld, ioHeld, ioHeld_append _ l₁ l₂, e, Bool.and_assoc]

/-- **What the walk checks**: in a log that passes, each read, erase or write comes after more
`get_mtd_device` than `put_mtd_device` calls of the device it names, counting `refs` as held. -/
theorem ioHeld_sound {refs : Nat → Int} {l pre post : List Call} {x : Call} {n : Nat}
    (h : ioHeld refs l = true) (hl : l = pre ++ x :: post) (hx : x.ioDev? = some n) :
    0 < refs n + mtdRefs pre n := by
  subst hl
  rw [ioHeld_append, Bool.and_eq_true, ioHeld, hx, Option.all_some, Bool.and_eq_true,
    decide_eq_true_eq] at h
  exact h.2.1

/-- More references held only helps. -/
theorem ioHeld_mono : ∀ {l : List Call} {r r' : Nat → Int}, (∀ n, r n ≤ r' n) →
    ioHeld r l = true → ioHeld r' l = true
  | [], _, _, _, _ => rfl
  | x :: l, r, r', hr, h => by
    rw [ioHeld, Bool.and_eq_true] at h ⊢
    refine ⟨?_, ioHeld_mono (fun n => by have := hr n; omega) h.2⟩
    cases hx : x.ioDev? with
    | none => rfl
    | some n =>
      rw [hx, Option.all_some, decide_eq_true_eq] at h
      rw [Option.all_some, decide_eq_true_eq]
      exact lt_of_lt_of_le h.1 (hr n)

theorem Call.ioDev?_eq_none {x : Call} (h : x.isMtdIo = false) : x.ioDev? = none := by
  cases x <;> first | rfl | cases h

/-- A log with no read, erase or write passes from any references. -/
theorem ioHeld_of_all {l : List Call} (h : l.all (fun x => !x.isMtdIo) = true) (refs : Nat → Int) :
    ioHeld refs l = true := by
  induction l generalizing refs with
  | nil => rfl
  | cons x l ih =>
    rw [List.all_cons, Bool.and_eq_true, Bool.not_eq_true'] at h
    rw [ioHeld, Call.ioDev?_eq_none h.1, ih h.2]
    rfl

theorem all_not_isMtdIo {l : List Call} (h : l.all (fun x => !x.isMtd) = true) :
    l.all (fun x => !x.isMtdIo) = true :=
  List.all_eq_true.2 fun x hx => by
    have := List.all_eq_true.1 h x hx
    cases x <;> first | rfl | cases this

/-- Reads, erases and writes of one device pass while it is held. -/
theorem ioHeld_of_ioOn {num : Nat} : ∀ {l : List Call}, l.all (Call.isIoOn num) = true →
    ∀ {refs : Nat → Int}, 0 < refs num → ioHeld refs l = true
  | [], _, _, _ => rfl
  | x :: l, h, refs, hr => by
    rw [List.all_cons, Bool.and_eq_true] at h
    have hx : x.ioDev? = some num := by simpa [Call.isIoOn] using h.1
    have h0 : mtdRefs [x] num = 0 := by
      have hg : x ≠ .getMtdDevice num := by rintro rfl; cases hx
      have hp : x ≠ .putMtdDevice num := by rintro rfl; cases hx
      simp [mtdRefs, List.count_singleton', hg, hp]
    have hr' : 0 < (fun n => refs n + mtdRefs [x] n) num := by
      show 0 < refs num + mtdRefs [x] num
      rw [h0, add_zero]
      exact hr
    rw [ioHeld, hx, Option.all_some, decide_eq_true hr, ioHeld_of_ioOn h.2 hr']
    rfl

theorem initMtdLoop_noIo (mtd : Nat → Option MtdInfo) (partition : List UInt8) :
    ∀ num k, (initMtdLoop mtd partition num k).1.all (fun x => !x.isMtdIo) = true
  | _, 0 => rfl
  | num, k + 1 => by
    have ih := initMtdLoop_noIo mtd partition (num + 1) k
    simp only [initMtdLoop]
    split
    · exact ih
    · split
      · rfl
      · rw [List.all_cons, List.all_cons, ih]; rfl

/-! ## Steps that use only what they hold -/

/-- `s'` follows `s` with calls that put back no more than they take, and use only devices they
hold. -/
def IoStep (s s' : State) : Prop :=
  ∃ l, s'.calls = s.calls ++ l ∧ (∀ n, 0 ≤ mtdRefs l n) ∧ ioHeld (fun _ => 0) l = true

namespace IoStep

variable {s s₁ s₂ : State}

theorem trans (h₁ : IoStep s s₁) (h₂ : IoStep s₁ s₂) : IoStep s s₂ := by
  obtain ⟨l₁, e₁, r₁, h₁⟩ := h₁
  obtain ⟨l₂, e₂, r₂, h₂⟩ := h₂
  refine ⟨l₁ ++ l₂, by rw [e₂, e₁, List.append_assoc], fun n => ?_, ?_⟩
  · rw [mtdRefs_append]; have := r₁ n; have := r₂ n; omega
  · rw [ioHeld_append, h₁, ioHeld_mono (fun n => by simpa using r₁ n) h₂]; rfl

theorem of_noMtd {l : List Call} (e : s₁.calls = s.calls ++ l)
    (h : l.all (fun x => !x.isMtd) = true) : IoStep s s₁ :=
  ⟨l, e, fun n => (mtdRefs_of_all h n).ge, ioHeld_of_all (all_not_isMtdIo h) _⟩

theorem refl (s : State) : IoStep s s := of_noMtd (List.append_nil _).symm rfl

theorem of_calls (e : s₁.calls = s.calls) : IoStep s s₁ :=
  of_noMtd (l := []) (by rw [e, List.append_nil]) rfl

end IoStep

theorem Quiet.ioStep {s s' : State} (h : Quiet s s') : IoStep s s' := by
  obtain ⟨-, l, e, a⟩ := h
  exact .of_noMtd e (all_isQuiet_iff.1 a).2

theorem ioStep_apbaOn (s : State) (enable : Bool) : IoStep s (apbaOn s enable) :=
  let ⟨_, e, h⟩ := apbaOn_calls_noMtd s enable; .of_noMtd e h

theorem ioStep_apbaFlashOn (s : State) (enable created : Bool) :
    IoStep s (apbaFlashOn s enable created) :=
  let ⟨_, e, h⟩ := apbaFlashOn_calls_noMtd s enable created; .of_noMtd e h

theorem ioStep_flashExit (s : State) : IoStep s (flashExit s) :=
  let ⟨_, e, h⟩ := flashExit_calls_noMtd s; .of_noMtd e h

/-- The `apba_on` that `apba_enable` and `apba_disable` end with, after quiet calls. -/
theorem IoStep.of_power {s s' : State} {d : Int} {e : Bool}
    (h : Quiet s s' ∨ ∃ s₁, Quiet s s₁ ∧ s' = apbaOn { s₁ with desiredOn := d } e) :
    IoStep s s' := by
  rcases h with h | ⟨s₁, h, rfl⟩
  · exact h.ioStep
  · exact h.ioStep.trans ((IoStep.of_calls rfl).trans (ioStep_apbaOn _ e))

section withPartition

variable {work : State → Nat → MtdInfo → State × Int}
  (hwork : ∀ s num info, MtdStep (Call.isIoOn num) s (work s num info).1)
include hwork

/-- **The lookup, the work and the `cleanup:` label**: the work's reads, erases and writes come
after the get of their device and before its put. -/
theorem ioStep_withPartition (s : State) (partition : List UInt8) :
    IoStep s (withPartition s partition work).1 := by
  have hwork' := fun s num info => (hwork s num info).mono fun _ => Call.isMtdIo_of_isIoOn
  obtain ⟨l, e, hl⟩ := withPartition_refs hwork' s partition
  refine ⟨l, e, fun n => (hl n).2.ge, ?_⟩
  have hr := fun n => mtdRefs_initMtdLoop s.mtd partition n 0 16
  have hi := initMtdLoop_noIo s.mtd partition 0 16
  revert e
  unfold withPartition
  split
  · next cs heq =>
    intro e
    rw [State.emit_calls, List.append_cancel_left_eq] at e
    subst e
    rw [show initMtdLoop s.mtd partition 0 16 = apbaInitMtdModule s.mtd partition from rfl,
      heq] at hi
    exact ioHeld_of_all hi _
  · next cs num info heq =>
    intro e
    rw [show initMtdLoop s.mtd partition 0 16 = apbaInitMtdModule s.mtd partition from rfl,
      heq] at hi hr
    obtain ⟨m, lw, hw, hlw⟩ := hwork (s.emit cs) num info
    rw [State.emit_calls, hw, State.emit_calls, List.append_assoc, List.append_assoc,
      List.append_cancel_left_eq] at e
    subst e
    have h1 : mtdRefs cs num = 1 := by simpa using (hr num).2
    rw [ioHeld_append, ioHeld_append, ioHeld_of_all hi, ioHeld_of_ioOn hlw (by simp [h1]),
      ioHeld_of_all (l := [Call.putMtdDevice num]) rfl]
    rfl

/-- **A pipeline uses only the partition it holds**: turn the APBA off, enter flash mode, work on
the partition between its get and its put, leave flash mode. -/
theorem ioStep_pipeline (s : State) (partition : List UInt8) (created : Bool) :
    IoStep s (flashExit (withPartition (apbaFlashOn (apbaOn s false) true created) partition
      work).1) :=
  (((ioStep_apbaOn s false).trans (ioStep_apbaFlashOn _ true created)).trans
    (ioStep_withPartition hwork _ partition)).trans (ioStep_flashExit _)

end withPartition

/-- **Every operation uses only the MTD devices it holds**, from any state and whatever the
collaborators answer. -/
theorem step_ioStep (s : State) (op : Op) : IoStep s (step c s op) := by
  cases op with
  | enable clkRet => exact .of_power (apbaEnable_cases s clkRet)
  | disable => exact .of_power (apbaDisable_cases c s)
  | disableWork => exact .of_power (apbaDisableWorkFunc_cases c s)
  | apbaEnableStore val clkRet count =>
    rcases apbaEnableStore_cases c s val clkRet count with h | h | h
    exacts [h.ioStep, .of_power (.inr h), .of_power (.inr h)]
  | slaveNotify masterIntf slaveMask slaveState clkRet =>
    exact .of_power (apbaSlaveNotify_cases c s masterIntf slaveMask slaveState clkRet)
  | erasePartitionStore buf partition out =>
    simp only [step]
    cases h : erasePartitionStore s buf partition.1 out with
    | none => exact .refl s
    | some r =>
      simp only [Option.map_some', Option.getD_some]
      rcases erasePartitionStore_cases h with e | ⟨part, e⟩ <;> rw [e]
      · exact .refl s
      · exact ioStep_pipeline (fun s num _ => mtdStep_apbaMtdErase_on s num out.eraseRet) s part _
  | flashPartitionStore buf partition fwName request out =>
    simp only [step]
    cases h : flashPartitionStore c s buf partition.1 fwName.1 request out with
    | none => exact .refl s
    | some r =>
      simp only [Option.map_some', Option.getD_some]
      rcases flashPartitionStore_cases c h with e | ⟨cs, hcs, e | ⟨part, fw, count, e⟩⟩
      · exact e ▸ .refl s
      · exact e ▸ (quiet_emit s cs hcs).ioStep
      · rw [e]
        rcases flashPartitionStoreWith_cases c (s.emit cs) part fw out count with e' | e' <;> rw [e']
        · exact (quiet_emit s cs hcs).ioStep
        · exact ((quiet_emit s cs hcs).ioStep.trans (ioStep_pipeline
            (fun s num info => mtdStep_flashFound_on c s num info fw out) _ part _)).trans
            (quiet_emit _ _ (by rfl)).ioStep
  | firmwareCallback fw out =>
    simp only [step, apbaFirmwareCallback]
    split
    · exact (ioStep_flashExit s).trans (quiet_emit _ _ (by rfl)).ioStep
    · next fw =>
      exact (ioStep_pipeline (fun s num info => mtdStep_flashFound_on c s num info fw out) s _
        _).trans (quiet_emit _ _ (by rfl)).ioStep
  | flashEnableStore val created count =>
    simp only [step, flashEnableStore]
    split
    · split
      · exact ioStep_apbaFlashOn s _ created
      · exact .refl s
    · exact .refl s
  | modeStore val sendRet count => exact (quiet_apbaModeStore c s val sendRet count).ioStep
  | baudStore val sendRet count => exact (quiet_apbaBaudStore c s val sendRet count).ioStep
  | logShow sendRet => exact (quiet_apbaLogShow c s sendRet).ioStep
  | waitEnd i => exact (quiet_waitEnd c s i).ioStep
  | baudShow =>
    simp only [step, apbaBaudShow]
    split
    · exact .refl s
    · exact (quiet_emit _ _ (by rfl)).ioStep
  | apbePowerStore val count => exact (quiet_apbePowerStore c s val count).ioStep
  | uartRegister uart => exact .of_calls rfl
  | handleMessage payload len allocOk => exact (quiet_apbaHandleMessage c s payload len allocOk).ioStep
  | attachWork i => exact (quiet_apbaApbeAttachWorkFunc s i).ioStep
  | isr =>
    simp only [step, apbaIsr]
    split
    · exact .refl s
    · exact (quiet_emit _ _ (by rfl)).ioStep
  | wakeAssert assert => exact (quiet_emit _ _ (all_apbaSeq_isQuiet _ _)).ioStep

/-! ## Over every run -/

/-- The log from the probe on: no device put back more often than taken, and every read, erase
and write on a device held. -/
structure IoSafe (s : State) : Prop where
  refs_nonneg : ∀ n, 0 ≤ mtdRefs s.calls n
  io_held : ioHeld (fun _ => 0) s.calls = true

theorem IoSafe.of_ioStep {s s' : State} (h : IoSafe s) (hs : IoStep s s') : IoSafe s' := by
  obtain ⟨l, e, r, hl⟩ := hs
  refine ⟨fun n => ?_, ?_⟩
  · rw [e, mtdRefs_append]; have := h.1 n; have := r n; omega
  · rw [e, ioHeld_append, h.2, ioHeld_mono (fun n => by simpa using h.1 n) hl]; rfl

theorem reachable_ioSafe {s : State} (hs : Reachable c s) : IoSafe s :=
  reachable_induct c
    (fun _ _ hp => by
      obtain ⟨s₀, hz, -, rfl⟩ := apbaCtrlProbe_ok hp
      exact IoSafe.of_ioStep ⟨fun n => by rw [hz.calls]; exact le_refl 0, by rw [hz.calls]; rfl⟩
        (ioStep_apbaOn s₀ false))
    (fun s op h => h.of_ioStep (step_ioStep c s op)) hs

/-- **No MTD device is used unless held**: in every state reachable from a successful probe, by
any operations with any answers of the collaborators, each read, erase or write in the log comes
after more `get_mtd_device` than `put_mtd_device` calls of the device it names. -/
theorem reachable_io_held {s : State} (hs : Reachable c s) {pre post : List Call} {x : Call}
    {n : Nat} (hl : s.calls = pre ++ x :: post) (hx : x.ioDev? = some n) : 0 < mtdRefs pre n := by
  simpa using ioHeld_sound (reachable_ioSafe c hs).2 hl hx

/-- The device tree of `DeviceTree.sample` with an `apba` partition of eight bytes as MTD device 0,
and an image flashed into it by the firmware callback: the erase of device 0 comes after its
get. -/
theorem reachable_io_held_after_flash :
    ∃ s₀, apbaCtrlProbe { DeviceTree.sample with
        mtd := fun n => if n = 0 then some ⟨apbaFirmwarePartition, false, List.replicate 8 0⟩
          else none } = .ok s₀ ∧
      ∃ pre post, (step Consts.sample s₀ (.firmwareCallback (some ⟨4, fun _ => 0xAA⟩)
        ⟨false, 0, true, 0, 0⟩)).calls = pre ++ Call.mtdErase 0 :: post ∧ 0 < mtdRefs pre 0 := by
  obtain ⟨s₀, h⟩ : ∃ s₀, apbaCtrlProbe { DeviceTree.sample with
      mtd := fun n => if n = 0 then some ⟨apbaFirmwarePartition, false, List.replicate 8 0⟩
        else none } = .ok s₀ := ⟨_, rfl⟩
  have hr := fun {pre post : List Call} => @reachable_io_held Consts.sample _
    (.step (.firmwareCallback (some ⟨4, fun _ => 0xAA⟩) ⟨false, 0, true, 0, 0⟩) (.probe h)) pre post
    (Call.mtdErase 0) 0
  refine ⟨s₀, h, ?_⟩
  cases h
  exact (List.append_of_mem (by decide)).imp fun pre ⟨post, e⟩ => ⟨post, e, hr e rfl⟩

end GreybusApba
