import GreybusApba.Flash.Pipeline

/-!
# Flash/Compare — what `apba_compare_partition` reads, and flashing one image twice

`apba_compare_partition` compares the first `PAGE_SIZE` bytes of the partition with the
`PAGE_SIZE` bytes at `fw->data`, whatever the image's `size`. After a flash the partition holds
the image and then the `0xFF`s of the erase, so for an image shorter than a page the comparison
reads the memory that follows the image and holds it against `0xFF`s
(`apbaComparePartition_erased_written`): a second flash of the same image skips the erase only when
that memory happens to read `0xFF` (`apbaFlashPartition_reflashes`).
-/

namespace GreybusApba

variable (c : Consts)

/-! ## `memcmp` -/

/-- `memcmp` passes over a prefix that agrees with memory. -/
theorem memcmp_map_range'_append (mem : Nat → UInt8) (l : List UInt8) :
    ∀ n off, memcmp ((List.range' off n).map mem ++ l) mem off = memcmp l mem (off + n)
  | 0, off => rfl
  | n + 1, off => by
    rw [List.range'_succ, List.map_cons, List.cons_append, memcmp, if_pos rfl,
      memcmp_map_range'_append mem l n (off + 1), Nat.add_right_comm, Nat.add_assoc]

/-- A page of `0xFF`s differs from memory whose first byte is not `0xFF`. -/
theorem memcmp_replicate_ne_zero {mem : Nat → UInt8} {off k : Nat} (hk : 0 < k)
    (h : mem off ≠ 0xFF) : memcmp (List.replicate k 0xFF) mem off ≠ 0 := by
  obtain ⟨k, rfl⟩ := Nat.exists_eq_add_of_lt hk
  rw [Nat.zero_add, List.replicate_succ, memcmp, if_neg (Ne.symm h)]
  have h255 : (0xFF : UInt8).toNat = 255 := rfl
  intro h0
  exact h (UInt8.toNat.inj (by rw [h255] at h0 ⊢; omega))

/-! ## The partition after a flash -/

/-- After an erase and a write of the image, the device holds the image and then `0xFF`s. -/
theorem erased_written_data (info : MtdInfo) (fw : Firmware) (h : fw.size ≤ info.data.length) :
    (info.erased.written fw).data =
      (List.range fw.size).map fw.data ++ List.replicate (info.data.length - fw.size) 0xFF := by
  simp only [MtdInfo.written, MtdInfo.erased, List.length_replicate, List.drop_replicate]
  exact List.take_of_length_le (by simp; omega)

/-- **The comparison after a flash reads past the image**: when the page buffer is allocated and
read in full, an image of `s < PAGE_SIZE` bytes is compared, after its own `s` bytes, by the
`PAGE_SIZE - s` bytes of memory that follow it against the erase's `0xFF`s. -/
theorem apbaComparePartition_erased_written (info : MtdInfo) (fw : Firmware) (out : MtdOutcome)
    (halloc : out.kmallocOk = true) (hread : 0 ≤ out.readRet) (hsize : fw.size < c.pageSize)
    (hlen : c.pageSize ≤ info.data.length) :
    apbaComparePartition c (info.erased.written fw) fw out =
      memcmp (List.replicate (c.pageSize - fw.size) 0xFF) fw.data fw.size := by
  have hdata := erased_written_data info fw (by omega)
  have hpage : (info.erased.written fw).data.take c.pageSize =
      (List.range' 0 fw.size).map fw.data ++ List.replicate (c.pageSize - fw.size) 0xFF := by
    rw [hdata, List.take_append_eq_append_take, List.take_of_length_le (by simp; omega),
      List.take_replicate, List.length_map, List.length_range, List.range_eq_range']
    congr 2
    omega
  have hlen' : ¬ (info.erased.written fw).data.length < c.pageSize := by
    rw [hdata]; simp; omega
  rw [apbaComparePartition, halloc, if_neg (by decide), if_neg (by omega), if_neg hlen', hpage,
    memcmp_map_range'_append, Nat.zero_add]

/-! ## What a successful flash leaves -/

/-- When the partition differs from the image and the erase and the write succeed, the device the
lookup found holds the erased-then-written data and the others are untouched. -/
theorem flashFound_mtd (s : State) (num : Nat) (info : MtdInfo) (fw : Firmware) (out : MtdOutcome)
    (hc : apbaComparePartition c info fw out ≠ 0) (herase : out.eraseRet = 0)
    (hwrite : out.writeRet = 0) (n : Nat) :
    (flashFound c s num info fw out).1.mtd n =
      if n = num then (s.mtd n).map (fun i => i.erased.written fw) else s.mtd n := by
  simp only [flashFound, hc, if_false, apbaMtdErase, herase, if_true, hwrite, State.updMtd,
    State.emit, lt_self_iff_false]
  by_cases hn : n = num <;> simp [hn, Option.map_map, Function.comp_def]

/-- When the partition differs from the image, the work on it erases it. -/
theorem flashFound_calls_of_ne (s : State) (num : Nat) (info : MtdInfo) (fw : Firmware)
    (out : MtdOutcome) (hc : apbaComparePartition c info fw out ≠ 0) :
    ∃ l, (flashFound c s num info fw out).1.calls = s.calls ++ l ∧ .mtdErase num ∈ l := by
  simp only [flashFound, hc, if_false, apbaMtdErase]
  split
  · exact ⟨(if out.kmallocOk then [.mtdRead num] else []) ++ [.mtdErase num], by simp [State.updMtd],
      by simp⟩
  · exact ⟨(if out.kmallocOk then [.mtdRead num] else []) ++ [.mtdErase num, .mtdWrite num],
      by simp [State.updMtd], by simp⟩

/-- The lookup and the cleanup around the work on the partition found. -/
theorem withPartition_of_found {s : State} {partition : List UInt8} {num : Nat} {info : MtdInfo}
    (work : State → Nat → MtdInfo → State × Int)
    (h : (apbaInitMtdModule s.mtd partition).2 = some (num, info)) :
    withPartition s partition work =
      (((work (s.emit (apbaInitMtdModule s.mtd partition).1) num info).1.emit [.putMtdDevice num]),
        (work (s.emit (apbaInitMtdModule s.mtd partition).1) num info).2) := by
  unfold withPartition
  split
  · next heq => rw [heq] at h; cases h
  · next cs num' info' heq => rw [heq] at h ⊢; cases h; rfl

/-- The lookup sees through a change to one device that keeps its name and type. -/
theorem initMtdLoop_update (mtd : Nat → Option MtdInfo) (partition : List UInt8) (num : Nat)
    (g : MtdInfo → MtdInfo) (hg : ∀ i, (g i).matches partition = i.matches partition) :
    ∀ n k, initMtdLoop (fun m => if m = num then (mtd m).map g else mtd m) partition n k =
      ((initMtdLoop mtd partition n k).1,
        (initMtdLoop mtd partition n k).2.map fun q => (q.1, if q.1 = num then g q.2 else q.2))
  | _, 0 => rfl
  | n, k + 1 => by
    have ih := initMtdLoop_update mtd partition num g hg (n + 1) k
    by_cases hn : n = num
    · subst hn
      cases h : mtd n with
      | none => simp only [initMtdLoop, if_true, h, Option.map_none', ih]
      | some i =>
        simp only [initMtdLoop, if_true, h, Option.map_some', hg]
        split
        · simp
        · simp only [ih]
    · cases h : mtd n with
      | none => simp only [initMtdLoop, hn, if_false, h, ih]
      | some i =>
        simp only [initMtdLoop, hn, if_false, h]
        split
        · simp [hn]
        · simp only [ih]

/-- The device a successful flash of `fw` leaves is found again by the next lookup, now holding
the image. -/
theorem apbaFlashPartition_found_again (s : State) (partition : List UInt8) (fw : Firmware)
    (out : MtdOutcome) {num : Nat} {info : MtdInfo}
    (hfound : (apbaInitMtdModule s.mtd partition).2 = some (num, info))
    (hc : apbaComparePartition c info fw out ≠ 0) (herase : out.eraseRet = 0)
    (hwrite : out.writeRet = 0) :
    (apbaInitMtdModule (apbaFlashPartition c s partition fw out).1.mtd partition).2 =
      some (num, info.erased.written fw) := by
  have hfound' : (apbaInitMtdModule (apbaFlashOn (apbaOn s false) true out.created).mtd
      partition).2 = some (num, info) := hfound
  have hmtd : (apbaFlashPartition c s partition fw out).1.mtd =
      fun m => if m = num then (s.mtd m).map (fun i => i.erased.written fw) else s.mtd m := by
    funext m
    rw [apbaFlashPartition, flashExit_mtd, withPartition_of_found _ hfound', State.emit_mtd,
      flashFound_mtd c _ _ _ _ _ hc herase hwrite]
    rfl
  rw [hmtd, apbaInitMtdModule,
    initMtdLoop_update s.mtd partition num (fun i => i.erased.written fw) (fun _ => rfl)]
  rw [show initMtdLoop s.mtd partition 0 16 = apbaInitMtdModule s.mtd partition from rfl, hfound]
  simp

/-- **Flashing a short image twice erases twice**: if a call of `apba_flash_partition` finds the
partition different from an image of `s < PAGE_SIZE` bytes and erases and writes it
successfully, then a second call with the same image, its page buffer allocated and read in full,
erases the partition again whenever the byte of memory just past the image is not `0xFF`. -/
theorem apbaFlashPartition_reflashes (s : State) (partition : List UInt8) (fw : Firmware)
    (out out' : MtdOutcome) {num : Nat} {info : MtdInfo}
    (hfound : (apbaInitMtdModule s.mtd partition).2 = some (num, info))
    (hsize : fw.size < c.pageSize) (hlen : c.pageSize ≤ info.data.length)
    (hpast : fw.data fw.size ≠ 0xFF) (hc : apbaComparePartition c info fw out ≠ 0)
    (herase : out.eraseRet = 0) (hwrite : out.writeRet = 0) (halloc : out'.kmallocOk = true)
    (hread : 0 ≤ out'.readRet) :
    let r := (apbaFlashPartition c s partition fw out).1
    ∃ l, (apbaFlashPartition c r partition fw out').1.calls = r.calls ++ l ∧ .mtdErase num ∈ l := by
  intro r
  have hfound₂ : (apbaInitMtdModule (apbaFlashOn (apbaOn r false) true out'.created).mtd
      partition).2 = some (num, info.erased.written fw) := by
    rw [apbaFlashOn_mtd_eq, apbaOn_mtd_eq]
    exact apbaFlashPartition_found_again c s partition fw out hfound hc herase hwrite
  have hc₂ : apbaComparePartition c (info.erased.written fw) fw out' ≠ 0 := by
    rw [apbaComparePartition_erased_written c info fw out' halloc hread hsize hlen]
    exact memcmp_replicate_ne_zero (by omega) hpast
  obtain ⟨l₁, h₁, -⟩ := apbaOn_calls_noMtd r false
  obtain ⟨l₂, h₂, -⟩ := apbaFlashOn_calls_noMtd (apbaOn r false) true out'.created
  obtain ⟨l₃, h₃, hm⟩ := flashFound_calls_of_ne c
    ((apbaFlashOn (apbaOn r false) true out'.created).emit
      (apbaInitMtdModule (apbaFlashOn (apbaOn r false) true out'.created).mtd partition).1)
    num _ fw out' hc₂
  obtain ⟨l₄, h₄, -⟩ := flashExit_calls_noMtd
    (withPartition (apbaFlashOn (apbaOn r false) true out'.created) partition
      fun s num info => flashFound c s num info fw out').1
  refine ⟨l₁ ++ l₂ ++ (apbaInitMtdModule (apbaFlashOn (apbaOn r false) true out'.created).mtd
    partition).1 ++ l₃ ++ [.putMtdDevice num] ++ l₄, ?_, by simp [hm]⟩
  rw [apbaFlashPartition, h₄, withPartition_of_found _ hfound₂, State.emit_calls, h₃,
    State.emit_calls, h₂, h₁]
  simp only [List.append_assoc]

/-- A 4-byte image, followed in memory by `0x00`, flashed twice into a 4 KiB `apba` partition: the
first flash finds no page buffer and so writes the image, and the second, its buffer allocated and
read, erases again. -/
theorem apbaFlashPartition_reflashes_four_byte_image :
    let fw : Firmware := ⟨4, fun i => if i < 4 then 0xAA else 0⟩
    let r := (apbaFlashPartition Consts.sample (State.kzalloc fun n =>
      if n = 0 then some ⟨apbaFirmwarePartition, false, List.replicate 4096 0⟩ else none)
      apbaFirmwarePartition fw ⟨false, 0, false, 0, 0⟩).1
    ∃ l, (apbaFlashPartition Consts.sample r apbaFirmwarePartition fw ⟨false, 0, true, 0, 0⟩).1.calls =
      r.calls ++ l ∧ .mtdErase 0 ∈ l :=
  apbaFlashPartition_reflashes Consts.sample _ _ _ _ _ rfl (by decide)
    (Nat.le_of_eq (List.length_replicate _ _).symm) (by decide) (by decide) rfl rfl rfl (by decide)

end GreybusApba
