import GreybusApba.Power.OnOff

/-!
# Flash/Pipeline — `apba_erase_partition` and `apba_flash_partition`

Both pipelines have one shape:

    apba_on(off) ─▸ apba_flash_on(on) ─▸ withPartition (lookup, work, put) ─▸ no_mtd: flash off,
                                                                            apba_on(on) if desired

The MTD work touches only the MTD devices and logs only MTD calls (`withPartition_frame`), so the
power state across a pipeline is the bracket's alone (`bracket_spec`), and every reference
`apba_init_mtd_module` takes is put back exactly once (`withPartition_refs`).
-/

namespace GreybusApba

variable (c : Consts)

/-! ## The MTD layer -/

/-- A firmware image as `request_firmware` hands it out: `size` bytes at `data`. `data` goes on
past `size`: the bytes there are whatever memory follows the image. -/
structure Firmware where
  size : Nat
  data : Nat → UInt8

/-- The characters of a NUL-terminated string, as `strcmp` compares them. -/
def cstr (l : List UInt8) : List UInt8 := l.takeWhile (· != 0)

/-- What the collaborators answer during one flash operation: whether `populate_transports_node`
creates the SPI flash device, and the results of `mtd_info->_erase`, `kmalloc(PAGE_SIZE)`,
`mtd_info->_read` and `mtd_info->_write`. -/
structure MtdOutcome where
  created : Bool
  eraseRet : Int
  kmallocOk : Bool
  readRet : Int
  writeRet : Int

/-- A device after a successful erase: every byte `0xFF`. -/
def MtdInfo.erased (info : MtdInfo) : MtdInfo :=
  { info with data := List.replicate info.data.length 0xFF }

/-- A device after a successful write of the image at offset 0. -/
def MtdInfo.written (info : MtdInfo) (fw : Firmware) : MtdInfo :=
  let image := (List.range fw.size).map fw.data
  { info with data := (image ++ info.data.drop fw.size).take info.data.length }

/-- `s` with MTD device `num` changed by `f`. -/
def State.updMtd (s : State) (num : Nat) (f : MtdInfo → MtdInfo) : State :=
  { s with mtd := fun n => if n = num then (s.mtd n).map f else s.mtd n }

/-- The device `apba_init_mtd_module` looks for: not `MTD_ABSENT`, and named `partition`. -/
def MtdInfo.matches (info : MtdInfo) (partition : List UInt8) : Bool :=
  !info.absent && cstr info.name == cstr partition

/-- The loop of `apba_init_mtd_module` over `k` device numbers from `num`: the calls it makes and
the device it returns. A device it does not want is put back at once. -/
def initMtdLoop (mtd : Nat → Option MtdInfo) (partition : List UInt8) :
    Nat → Nat → List Call × Option (Nat × MtdInfo)
  | _, 0 => ([], none)
  | num, k + 1 =>
    match mtd num with
    | none => initMtdLoop mtd partition (num + 1) k
    | some info =>
      if info.matches partition then ([.getMtdDevice num], some (num, info))
      else
        let r := initMtdLoop mtd partition (num + 1) k
        (.getMtdDevice num :: .putMtdDevice num :: r.1, r.2)

/-- `apba_init_mtd_module`: the first of the devices `0 .. 15` that is present and named
`partition`, held. -/
def apbaInitMtdModule (mtd : Nat → Option MtdInfo) (partition : List UInt8) :
    List Call × Option (Nat × MtdInfo) :=
  initMtdLoop mtd partition 0 16

/-- `apba_mtd_erase` over the whole device `num`: `_erase` returns `ret`. -/
def apbaMtdErase (s : State) (num : Nat) (ret : Int) : State × Int :=
  (((s.emit [.mtdErase num]).updMtd num fun info => if ret = 0 then info.erased else info), ret)

/-- `memcmp(buf, mem + off, buf.length)`: the difference of the first bytes that differ, `0` if
none do. -/
def memcmp : List UInt8 → (Nat → UInt8) → Nat → Int
  | [], _, _ => 0
  | b :: bs, mem, off => if b = mem off then memcmp bs mem (off + 1) else b.toNat - (mem off).toNat

/-- `apba_compare_partition`: "different" (`1`) unless the page buffer is allocated and the first
`PAGE_SIZE` bytes of the partition are read in full; then `memcmp` of that page against the
`PAGE_SIZE` bytes at `fw->data`. -/
def apbaComparePartition (info : MtdInfo) (fw : Firmware) (out : MtdOutcome) : Int :=
  if !out.kmallocOk then 1
  else if out.readRet < 0 then 1
  else if info.data.length < c.pageSize then 1
  else memcmp (info.data.take c.pageSize) fw.data 0

/-! ## The pipelines -/

/-- The `no_mtd:` tail of both pipelines, also the no-image branch of `apba_firmware_callback`:
leave flash mode, and turn the APBA back on if it is desired on. -/
def flashExit (s : State) : State :=
  let s := apbaFlashOn s false false
  if s.desiredOn ≠ 0 then apbaOn s true else s

/-- The lookup and the `cleanup:` label both pipelines share: find the partition; if it is there,
run `work` on it and put it back; if not, `-ENODEV`. -/
def withPartition (s : State) (partition : List UInt8)
    (work : State → Nat → MtdInfo → State × Int) : State × Int :=
  match apbaInitMtdModule s.mtd partition with
  | (cs, none) => (s.emit cs, -enodev)
  | (cs, some (num, info)) =>
    let r := work (s.emit cs) num info
    (r.1.emit [.putMtdDevice num], r.2)

/-- `apba_erase_partition` (with `ctrl` set): turn the APBA off and enter flash mode, erase the
partition, then leave flash mode and restore the APBA. -/
def apbaErasePartition (s : State) (partition : List UInt8) (out : MtdOutcome) : State × Int :=
  let r := withPartition (apbaFlashOn (apbaOn s false) true out.created) partition
    fun s num _ => apbaMtdErase s num out.eraseRet
  (flashExit r.1, r.2)

/-- What `apba_flash_partition` does with the partition it found: unless its first page already
holds the image's, erase it and, if that worked, write the image. -/
def flashFound (s : State) (num : Nat) (info : MtdInfo) (fw : Firmware) (out : MtdOutcome) :
    State × Int :=
  let s := s.emit (if out.kmallocOk then [.mtdRead num] else [])
  if apbaComparePartition c info fw out = 0 then (s, 0)
  else
    let e := apbaMtdErase s num out.eraseRet
    if e.2 < 0 then e
    else ((e.1.emit [.mtdWrite num]).updMtd num
      (fun info => if out.writeRet = 0 then info.written fw else info), out.writeRet)

/-- `apba_flash_partition` (with `ctrl` and `fw` set). -/
def apbaFlashPartition (s : State) (partition : List UInt8) (fw : Firmware) (out : MtdOutcome) :
    State × Int :=
  let r := withPartition (apbaFlashOn (apbaOn s false) true out.created) partition
    fun s num info => flashFound c s num info fw out
  (flashExit r.1, r.2)

/-! ## `apba_init_mtd_module` -/

theorem initMtdLoop_all (mtd : Nat → Option MtdInfo) (partition : List UInt8) :
    ∀ num k, (initMtdLoop mtd partition num k).1.all Call.isMtd = true
  | _, 0 => rfl
  | num, k + 1 => by
    have ih := initMtdLoop_all mtd partition (num + 1) k
    simp only [initMtdLoop]
    split
    · exact ih
    · split
      · rfl
      · rw [List.all_cons, List.all_cons, ih]; rfl

theorem initMtdLoop_found {mtd : Nat → Option MtdInfo} {partition : List UInt8} :
    ∀ {num k n info}, (initMtdLoop mtd partition num k).2 = some (n, info) →
      num ≤ n ∧ n < num + k ∧ mtd n = some info ∧ info.matches partition = true
  | _, 0, _, _, h => by simp [initMtdLoop] at h
  | num, k + 1, n, info, h => by
    simp only [initMtdLoop] at h
    split at h
    · have := initMtdLoop_found h; exact ⟨by omega, by omega, this.2.2⟩
    · next info' hinfo =>
      split at h
      · next hm =>
        simp only [Option.some.injEq, Prod.mk.injEq] at h
        obtain ⟨rfl, rfl⟩ := h
        exact ⟨le_refl _, by omega, hinfo, hm⟩
      · have := initMtdLoop_found h; exact ⟨by omega, by omega, this.2.2⟩

theorem initMtdLoop_eq_none {mtd : Nat → Option MtdInfo} {partition : List UInt8} :
    ∀ {num k}, (initMtdLoop mtd partition num k).2 = none ↔
      ∀ n info, num ≤ n → n < num + k → mtd n = some info → info.matches partition = false
  | _, 0 => ⟨fun _ _ _ _ h => absurd h (by omega), fun _ => rfl⟩
  | num, k + 1 => by
    simp only [initMtdLoop]
    split
    · rename_i hnone
      rw [initMtdLoop_eq_none]
      constructor
      · intro h n info h1 h2 h3
        rcases Nat.lt_or_ge num n with hlt | hge
        · exact h n info (by omega) (by omega) h3
        · rw [show n = num by omega, hnone] at h3; cases h3
      · exact fun h n info h1 h2 h3 => h n info (by omega) (by omega) h3
    · next info' hinfo =>
      split
      · simp only [reduceCtorEq, false_iff, not_forall]
        exact ⟨num, info', le_refl _, by omega, hinfo, by simpa⟩
      · next hm =>
        rw [initMtdLoop_eq_none]
        constructor
        · intro h n info h1 h2 h3
          rcases Nat.lt_or_ge num n with hlt | hge
          · exact h n info (by omega) (by omega) h3
          · rw [show n = num by omega, hinfo] at h3
            cases h3; simpa using hm
        · exact fun h n info h1 h2 h3 => h n info (by omega) (by omega) h3

/-- The partition is absent: none of the devices `0 .. 15` is present and named `partition`. -/
def PartitionAbsent (mtd : Nat → Option MtdInfo) (partition : List UInt8) : Prop :=
  ∀ n info, n < 16 → mtd n = some info → info.matches partition = false

theorem apbaInitMtdModule_eq_none_iff (mtd : Nat → Option MtdInfo) (partition : List UInt8) :
    (apbaInitMtdModule mtd partition).2 = none ↔ PartitionAbsent mtd partition := by
  rw [apbaInitMtdModule, initMtdLoop_eq_none]
  exact ⟨fun h n info h2 h3 => h n info (Nat.zero_le _) h2 h3,
    fun h n info _ h2 h3 => h n info h2 h3⟩

theorem count_initMtdLoop_of_lt (mtd : Nat → Option MtdInfo) (partition : List UInt8) {n : Nat} :
    ∀ {num k}, n < num → (initMtdLoop mtd partition num k).1.count (.getMtdDevice n) = 0 ∧
      (initMtdLoop mtd partition num k).1.count (.putMtdDevice n) = 0
  | _, 0, _ => by simp [initMtdLoop]
  | num, k + 1, h => by
    have ih := count_initMtdLoop_of_lt mtd partition (k := k) (show n < num + 1 by omega)
    simp only [initMtdLoop]
    split
    · exact ih
    · split
      · simp [List.count_cons]; omega
      · simp [List.count_cons, ih]; omega

/-- A device taken and put back at once adds one to the count of takes. -/
theorem count_getMtdDevice_get_put (num n : Nat) (l : List Call) :
    (Call.getMtdDevice num :: .putMtdDevice num :: l).count (.getMtdDevice n) =
      l.count (.getMtdDevice n) + if num = n then 1 else 0 := by
  simp only [List.count_cons, beq_iff_eq, Call.getMtdDevice.injEq, reduceCtorEq, if_false]
  omega

/-- A device taken and put back at once adds nothing to the references held. -/
theorem mtdRefs_get_put (num n : Nat) (l : List Call) :
    mtdRefs (.getMtdDevice num :: .putMtdDevice num :: l) n = mtdRefs l n := by
  simp only [mtdRefs, List.count_cons, beq_iff_eq, Call.getMtdDevice.injEq, Call.putMtdDevice.injEq,
    reduceCtorEq, if_false]
  split_ifs <;> omega

theorem mtdRefs_getMtdDevice (num n : Nat) :
    mtdRefs [.getMtdDevice num] n = if num = n then 1 else 0 := by
  simp only [mtdRefs, List.count_singleton', Call.getMtdDevice.injEq, reduceCtorEq, if_false]
  split_ifs <;> rfl

/-- **The loop's references**: it takes each device at most once, and holds on to the one it
returns and no other. -/
theorem mtdRefs_initMtdLoop (mtd : Nat → Option MtdInfo) (partition : List UInt8) (n : Nat) :
    ∀ num k, (initMtdLoop mtd partition num k).1.count (.getMtdDevice n) ≤ 1 ∧
      mtdRefs (initMtdLoop mtd partition num k).1 n =
        if ((initMtdLoop mtd partition num k).2.map Prod.fst) = some n then 1 else 0
  | _, 0 => ⟨Nat.zero_le _, rfl⟩
  | num, k + 1 => by
    obtain ⟨ih1, ih2⟩ := mtdRefs_initMtdLoop mtd partition n (num + 1) k
    simp only [initMtdLoop]
    split
    · exact ⟨ih1, ih2⟩
    · split
      · simp only [mtdRefs_getMtdDevice, List.count_singleton', Option.map_some', Option.some.injEq,
          Call.getMtdDevice.injEq, and_true]
        split <;> omega
      · rw [mtdRefs_get_put, count_getMtdDevice_get_put]
        by_cases hn : num = n
        · subst hn
          have h0 := count_initMtdLoop_of_lt mtd partition (k := k) (Nat.lt_succ_self num)
          have hne : (initMtdLoop mtd partition (num + 1) k).2.map Prod.fst ≠ some num := by
            intro h
            obtain ⟨⟨n', info'⟩, h1, h2⟩ := Option.map_eq_some'.mp h
            have := (initMtdLoop_found h1).1
            simp only at h2
            omega
          rw [h0.1, if_pos rfl, if_neg hne, mtdRefs, h0.1, h0.2]
          exact ⟨le_refl _, rfl⟩
        · rw [if_neg hn, Nat.add_zero]
          exact ⟨ih1, ih2⟩

/-! ## The MTD work is framed

What a pipeline does between entering and leaving flash mode changes the MTD devices and logs MTD
calls, nothing else; the work on the partition found logs only reads, erases and writes. -/

/-- A read, erase or write of an MTD device. -/
def Call.isMtdIo : Call → Bool
  | .mtdErase _ | .mtdRead _ | .mtdWrite _ => true
  | _ => false

/-- The device a read, erase or write names. -/
def Call.ioDev? : Call → Option Nat
  | .mtdErase n | .mtdRead n | .mtdWrite n => some n
  | _ => none

/-- A read, erase or write of device `num`. -/
def Call.isIoOn (num : Nat) (x : Call) : Bool := x.ioDev? == some num

/-- `s'` is `s` with other MTD devices and more calls, each passing `p`. -/
def MtdStep (p : Call → Bool) (s s' : State) : Prop :=
  ∃ mtd l, s' = { s with mtd := mtd, calls := s.calls ++ l } ∧ l.all p = true

theorem MtdStep.refl (p : Call → Bool) (s : State) : MtdStep p s s := ⟨s.mtd, [], by simp, rfl⟩

theorem MtdStep.trans {p : Call → Bool} {s s' s'' : State} (h : MtdStep p s s')
    (h' : MtdStep p s' s'') : MtdStep p s s'' := by
  obtain ⟨m, l, rfl, hl⟩ := h
  obtain ⟨m', l', rfl, hl'⟩ := h'
  exact ⟨m', l ++ l', by simp, by simp [hl, hl']⟩

theorem Call.isMtd_of_isMtdIo {c : Call} (h : c.isMtdIo = true) : c.isMtd = true := by
  cases c <;> first | rfl | cases h

theorem Call.isMtdIo_of_isIoOn {num : Nat} {c : Call} (h : c.isIoOn num = true) :
    c.isMtdIo = true := by
  cases c <;> first | rfl | cases h

theorem MtdStep.mono {p q : Call → Bool} {s s' : State} (h : MtdStep p s s')
    (hpq : ∀ x, p x = true → q x = true) : MtdStep q s s' := by
  obtain ⟨m, l, rfl, hl⟩ := h
  exact ⟨m, l, rfl, List.all_eq_true.mpr fun x hx => hpq x (List.all_eq_true.mp hl x hx)⟩

theorem MtdStep.io {s s' : State} (h : MtdStep Call.isMtdIo s s') : MtdStep Call.isMtd s s' := by
  obtain ⟨m, l, rfl, hl⟩ := h
  exact ⟨m, l, rfl, List.all_eq_true.mpr fun x hx => Call.isMtd_of_isMtdIo (List.all_eq_true.mp hl x hx)⟩

theorem mtdStep_emit (p : Call → Bool) (s : State) (cs : List Call) (h : cs.all p = true) :
    MtdStep p s (s.emit cs) :=
  ⟨s.mtd, cs, rfl, h⟩

theorem mtdStep_updMtd (p : Call → Bool) (s : State) (num : Nat) (f : MtdInfo → MtdInfo) :
    MtdStep p s (s.updMtd num f) :=
  ⟨fun n => if n = num then (s.mtd n).map f else s.mtd n, [], by simp [State.updMtd], rfl⟩

@[simp] theorem apbaMtdErase_snd (s : State) (num : Nat) (ret : Int) :
    (apbaMtdErase s num ret).2 = ret := rfl

@[simp] theorem Call.isIoOn_self (num : Nat) :
    (Call.mtdErase num).isIoOn num = true ∧ (Call.mtdRead num).isIoOn num = true ∧
      (Call.mtdWrite num).isIoOn num = true := by
  simp [Call.isIoOn, Call.ioDev?]

/-- `apba_mtd_erase` erases the device it is given and no other. -/
theorem mtdStep_apbaMtdErase_on (s : State) (num : Nat) (ret : Int) :
    MtdStep (Call.isIoOn num) s (apbaMtdErase s num ret).1 :=
  (mtdStep_emit _ s [.mtdErase num] (by simp)).trans (mtdStep_updMtd _ _ _ _)

/-- The work on the partition found reads, erases and writes that device and no other. -/
theorem mtdStep_flashFound_on (s : State) (num : Nat) (info : MtdInfo) (fw : Firmware)
    (out : MtdOutcome) : MtdStep (Call.isIoOn num) s (flashFound c s num info fw out).1 := by
  refine (mtdStep_emit _ s (if out.kmallocOk then [.mtdRead num] else [])
    (by split <;> simp)).trans ?_
  simp only [flashFound]
  by_cases hc : apbaComparePartition c info fw out = 0
  · simp only [hc, if_true]; exact MtdStep.refl _ _
  · by_cases he : out.eraseRet < 0
    · simp only [hc, if_false, apbaMtdErase_snd, he, if_true]
      exact mtdStep_apbaMtdErase_on _ _ _
    · simp only [hc, if_false, apbaMtdErase_snd, he]
      exact ((mtdStep_apbaMtdErase_on _ _ _).trans (mtdStep_emit _ _ [.mtdWrite num] (by simp))).trans
        (mtdStep_updMtd _ _ _ _)

theorem mtdStep_apbaMtdErase (s : State) (num : Nat) (ret : Int) :
    MtdStep Call.isMtdIo s (apbaMtdErase s num ret).1 :=
  (mtdStep_apbaMtdErase_on s num ret).mono fun _ => Call.isMtdIo_of_isIoOn

theorem mtdStep_flashFound (s : State) (num : Nat) (info : MtdInfo) (fw : Firmware)
    (out : MtdOutcome) : MtdStep Call.isMtdIo s (flashFound c s num info fw out).1 :=
  (mtdStep_flashFound_on c s num info fw out).mono fun _ => Call.isMtdIo_of_isIoOn

theorem apbaInitMtdModule_all (mtd : Nat → Option MtdInfo) (partition : List UInt8) :
    (apbaInitMtdModule mtd partition).1.all Call.isMtd = true :=
  initMtdLoop_all _ _ _ _

theorem count_of_all_isMtdIo {l : List Call} (h : l.all Call.isMtdIo = true) (num : Nat) :
    l.count (.getMtdDevice num) = 0 ∧ l.count (.putMtdDevice num) = 0 := by
  rw [List.all_eq_true] at h
  exact ⟨List.count_eq_zero.mpr (fun hx => nomatch h _ hx),
    List.count_eq_zero.mpr (fun hx => nomatch h _ hx)⟩

section withPartition

variable {work : State → Nat → MtdInfo → State × Int}
  (hwork : ∀ s num info, MtdStep Call.isMtdIo s (work s num info).1)
include hwork

theorem withPartition_frame (s : State) (partition : List UInt8) :
    MtdStep Call.isMtd s (withPartition s partition work).1 := by
  have hall := apbaInitMtdModule_all s.mtd partition
  unfold withPartition
  split
  · next cs heq => rw [heq] at hall; exact mtdStep_emit Call.isMtd s cs hall
  · next cs num info heq =>
    rw [heq] at hall
    exact ((mtdStep_emit Call.isMtd s cs hall).trans (hwork _ num info).io).trans
      (mtdStep_emit Call.isMtd _ [.putMtdDevice num] rfl)

/-- **Every reference is put back once**: the calls `withPartition` logs take each MTD device at
most once and put back every one they take. -/
theorem withPartition_refs (s : State) (partition : List UInt8) :
    ∃ l, (withPartition s partition work).1.calls = s.calls ++ l ∧
      ∀ n, l.count (.getMtdDevice n) ≤ 1 ∧ mtdRefs l n = 0 := by
  have hr := fun n => mtdRefs_initMtdLoop s.mtd partition n 0 16
  unfold withPartition
  split
  · next cs heq =>
    refine ⟨cs, rfl, fun n => ?_⟩
    have := hr n
    rw [show initMtdLoop s.mtd partition 0 16 = apbaInitMtdModule s.mtd partition from rfl,
      heq] at this
    simpa using this
  · next cs num info heq =>
    obtain ⟨m, l, hl, hio⟩ := hwork (s.emit cs) num info
    refine ⟨cs ++ l ++ [.putMtdDevice num], by simp [hl], fun n => ?_⟩
    have := hr n
    rw [show initMtdLoop s.mtd partition 0 16 = apbaInitMtdModule s.mtd partition from rfl,
      heq] at this
    have hl0 := count_of_all_isMtdIo hio n
    simp only [Option.map_some', Option.some.injEq, mtdRefs, List.count_append, hl0,
      List.count_singleton', Call.putMtdDevice.injEq, reduceCtorEq, if_false] at this ⊢
    split_ifs at this ⊢ <;> omega

end withPartition

theorem Call.isPower_of_isMtd {c : Call} (h : c.isMtd = true) : c.isPower = false := by
  cases c <;> first | rfl | cases h

theorem all_not_isPower_of_all_isMtd {l : List Call} (h : l.all Call.isMtd = true) :
    l.all (fun c => !c.isPower) = true :=
  List.all_eq_true.mpr fun x hx => by
    simp only [Call.isPower_of_isMtd (List.all_eq_true.mp h x hx), Bool.not_false]

theorem MtdStep.power_eq {s s' : State} (h : MtdStep Call.isMtd s s') :
    power s'.calls = power s.calls := by
  obtain ⟨_, l, rfl, hl⟩ := h
  exact power_append_of_all (all_not_isPower_of_all_isMtd hl)

/-! ## The bracket

Whatever the MTD work does, a pipeline leaves the power state as its bracket sets it: the APBA on
exactly when `desired_on` is set, the flash interface left, and no point where both were on. -/

@[simp] theorem flashExit_desiredOn (s : State) : (flashExit s).desiredOn = s.desiredOn := by
  simp only [flashExit]; split <;> rfl

@[simp] theorem flashExit_flashDevPopulated (s : State) :
    (flashExit s).flashDevPopulated = false := by
  simp only [flashExit]; split <;> rfl

@[simp] theorem flashExit_mtd (s : State) : (flashExit s).mtd = s.mtd := by
  simp only [flashExit]; split <;> rfl

theorem power_flashExit (s : State) :
    power (flashExit s).calls =
      let p := (power s.calls).step (.apbaFlashOn false)
      if s.desiredOn ≠ 0 then p.step (.apbaOn true) else p := by
  simp only [flashExit, apbaFlashOn_desiredOn]
  split_ifs <;> simp only [power_apbaOn, power_apbaFlashOn]

/-- **The bracket of a pipeline**: after `apba_on(off)`, `apba_flash_on(on)`, any MTD work and the
`no_mtd:` tail, `desired_on` is what it was, the APBA is on exactly when it is set, the flash
interface is left with `flash_dev_populated` clear, and no call in between left both on. -/
theorem bracket_spec (s s' : State) (created : Bool)
    (h : MtdStep Call.isMtd (apbaFlashOn (apbaOn s false) true created) s') :
    (flashExit s').desiredOn = s.desiredOn ∧ (flashExit s').hwOn = decide (s.desiredOn ≠ 0) ∧
      (flashExit s').flashOn = false ∧ (flashExit s').flashDevPopulated = false ∧
      (power (flashExit s').calls).clash = (power s.calls).clash ∧ (flashExit s').mtd = s'.mtd := by
  have hp := h.power_eq
  obtain ⟨_, _, rfl, _⟩ := h
  simp only [power_apbaFlashOn, power_apbaOn] at hp
  simp only [flashExit_desiredOn, apbaFlashOn_desiredOn, apbaOn_desiredOn,
    flashExit_flashDevPopulated, flashExit_mtd, State.hwOn, State.flashOn, power_flashExit, hp,
    true_and, and_true]
  split <;> simp_all [Power.step]

theorem flashExit_calls_noMtd (s : State) :
    ∃ l, (flashExit s).calls = s.calls ++ l ∧ l.all (fun c => !c.isMtd) = true := by
  obtain ⟨l, hl, hm⟩ := apbaFlashOn_calls_noMtd s false false
  simp only [flashExit]
  split
  · obtain ⟨l', hl', hm'⟩ := apbaOn_calls_noMtd (apbaFlashOn s false false) true
    exact ⟨l ++ l', by rw [hl', hl, List.append_assoc], by simp [hm, hm']⟩
  · exact ⟨l, hl, hm⟩

/-! ## Results and references of the pipelines -/

theorem withPartition_neg_iff (s : State) (partition : List UInt8)
    (work : State → Nat → MtdInfo → State × Int) :
    (withPartition s partition work).2 < 0 ↔ PartitionAbsent s.mtd partition ∨
      ∃ num info, (apbaInitMtdModule s.mtd partition).2 = some (num, info) ∧
        (work (s.emit (apbaInitMtdModule s.mtd partition).1) num info).2 < 0 := by
  rw [← apbaInitMtdModule_eq_none_iff]
  unfold withPartition
  split
  · next heq => simp [heq, enodev]
  · next cs num info heq =>
    simp only [heq, reduceCtorEq, false_or, Option.some.injEq, Prod.mk.injEq]
    exact ⟨fun h => ⟨num, info, ⟨rfl, rfl⟩, h⟩, fun ⟨_, _, ⟨h1, h2⟩, h⟩ => h1 ▸ h2 ▸ h⟩

theorem flashFound_neg_iff (s : State) (num : Nat) (info : MtdInfo) (fw : Firmware)
    (out : MtdOutcome) :
    (flashFound c s num info fw out).2 < 0 ↔
      apbaComparePartition c info fw out ≠ 0 ∧ (out.eraseRet < 0 ∨ out.writeRet < 0) := by
  dsimp only [flashFound]
  by_cases hc : apbaComparePartition c info fw out = 0
  · rw [if_pos hc]
    exact ⟨fun h => absurd h (lt_irrefl 0), fun h => absurd hc h.1⟩
  · rw [if_neg hc, apbaMtdErase_snd]
    by_cases he : out.eraseRet < 0
    · rw [if_pos he]; exact ⟨fun _ => ⟨hc, .inl he⟩, fun _ => he⟩
    · rw [if_neg he]; exact ⟨fun h => ⟨hc, .inr h⟩, fun h => h.2.resolve_left he⟩

/-- A pipeline takes each MTD device at most once and puts back every one it takes. -/
theorem pipeline_refs (s : State) (partition : List UInt8) (created : Bool)
    {work : State → Nat → MtdInfo → State × Int}
    (hwork : ∀ s num info, MtdStep Call.isMtdIo s (work s num info).1) :
    ∃ l, (flashExit (withPartition (apbaFlashOn (apbaOn s false) true created) partition
      work).1).calls = s.calls ++ l ∧ ∀ n, l.count (.getMtdDevice n) ≤ 1 ∧ mtdRefs l n = 0 := by
  obtain ⟨l₁, h₁, m₁⟩ := apbaOn_calls_noMtd s false
  obtain ⟨l₂, h₂, m₂⟩ := apbaFlashOn_calls_noMtd (apbaOn s false) true created
  obtain ⟨l, h, hl⟩ := withPartition_refs hwork (apbaFlashOn (apbaOn s false) true created)
    partition
  obtain ⟨l₃, h₃, m₃⟩ := flashExit_calls_noMtd
    (withPartition (apbaFlashOn (apbaOn s false) true created) partition work).1
  refine ⟨l₁ ++ l₂ ++ l ++ l₃, by rw [h₃, h, h₂, h₁]; simp, fun n => ?_⟩
  have c₁ := count_mtd_of_all m₁ n
  have c₂ := count_mtd_of_all m₂ n
  have c₃ := count_mtd_of_all m₃ n
  have := hl n
  simp only [mtdRefs, List.count_append] at this ⊢
  omega

/-- **`apba_erase_partition`, from any state and for every answer of the collaborators**:
`desired_on` unchanged, the APBA on exactly when it is set, the flash interface left with
`flash_dev_populated` clear, no point where both were on that was not one before, every MTD
reference put back exactly once, and a negative result exactly when the partition is absent or
the erase failed. -/
theorem apbaErasePartition_spec (s : State) (partition : List UInt8) (out : MtdOutcome) :
    let r := apbaErasePartition s partition out
    r.1.desiredOn = s.desiredOn ∧ r.1.hwOn = decide (s.desiredOn ≠ 0) ∧ r.1.flashOn = false ∧
      r.1.flashDevPopulated = false ∧ (power r.1.calls).clash = (power s.calls).clash ∧
      (∃ l, r.1.calls = s.calls ++ l ∧ ∀ n, l.count (.getMtdDevice n) ≤ 1 ∧ mtdRefs l n = 0) ∧
      (r.2 < 0 ↔ PartitionAbsent s.mtd partition ∨ out.eraseRet < 0) := by
  have hw : ∀ s num (info : MtdInfo), MtdStep Call.isMtdIo s (apbaMtdErase s num out.eraseRet).1 :=
    fun s num _ => mtdStep_apbaMtdErase s num out.eraseRet
  obtain ⟨h₁, h₂, h₃, h₄, h₅, -⟩ := bracket_spec s _ out.created (withPartition_frame hw _ partition)
  refine ⟨h₁, h₂, h₃, h₄, h₅, pipeline_refs s partition out.created hw, ?_⟩
  simp only [apbaErasePartition, withPartition_neg_iff, apbaFlashOn_mtd_eq, apbaOn_mtd_eq,
    apbaMtdErase_snd]
  constructor
  · rintro (h | ⟨_, _, -, h⟩) <;> simp [h]
  · rintro (h | h)
    · exact .inl h
    · by_cases ha : PartitionAbsent s.mtd partition
      · exact .inl ha
      · obtain ⟨⟨num, info⟩, he⟩ := Option.ne_none_iff_exists'.mp
          (mt (apbaInitMtdModule_eq_none_iff _ _).mp ha)
        exact .inr ⟨num, info, he, h⟩

/-- **`apba_flash_partition`, from any state and for every answer of the collaborators**: as
`apbaErasePartition_spec`, with a negative result exactly when the partition is absent, or its
first page differs from the image's (or could not be compared) and the erase or the write failed. -/
theorem apbaFlashPartition_spec (s : State) (partition : List UInt8) (fw : Firmware)
    (out : MtdOutcome) :
    let r := apbaFlashPartition c s partition fw out
    r.1.desiredOn = s.desiredOn ∧ r.1.hwOn = decide (s.desiredOn ≠ 0) ∧ r.1.flashOn = false ∧
      r.1.flashDevPopulated = false ∧ (power r.1.calls).clash = (power s.calls).clash ∧
      (∃ l, r.1.calls = s.calls ++ l ∧ ∀ n, l.count (.getMtdDevice n) ≤ 1 ∧ mtdRefs l n = 0) ∧
      (r.2 < 0 ↔ PartitionAbsent s.mtd partition ∨
        ∃ num info, (apbaInitMtdModule s.mtd partition).2 = some (num, info) ∧
          apbaComparePartition c info fw out ≠ 0 ∧ (out.eraseRet < 0 ∨ out.writeRet < 0)) := by
  have hw : ∀ s num info, MtdStep Call.isMtdIo s (flashFound c s num info fw out).1 :=
    fun s num info => mtdStep_flashFound c s num info fw out
  obtain ⟨h₁, h₂, h₃, h₄, h₅, -⟩ := bracket_spec s _ out.created (withPartition_frame hw _ partition)
  refine ⟨h₁, h₂, h₃, h₄, h₅, pipeline_refs s partition out.created hw, ?_⟩
  simp only [apbaFlashPartition, withPartition_neg_iff, apbaFlashOn_mtd_eq, apbaOn_mtd_eq,
    flashFound_neg_iff]

end GreybusApba
