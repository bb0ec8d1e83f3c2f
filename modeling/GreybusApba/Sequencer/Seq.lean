import GreybusApba.Driver.Basic

/-!
# Sequencer/Seq — GPIO sequences: `apba_parse_seq`, `apba_gpio_setup` and `apba_seq`

A sequence is a device-tree array of `u32` cells read three at a time as (pin index, value, delay).
`apba_seq` walks it with `for (i = 0; i < seq->len; i += 3)`; a pin is driven when its index is
inside `gpios[]` and the slot holds a valid GPIO, and a non-zero delay sleeps `delay` ms.

* `apbaSeq_congr` — a run reads only the cells `val[0, len)`: the loop's last pass reads
  `val[len - 1]`, because every sequence the driver builds has `len` a multiple of three.
* `apbaGpioSetup_table` — the table `apba_gpio_setup` builds: the configured GPIOs first, all valid,
  and the zero of `devm_kzalloc` in every other slot.
* `apbaSeq_drives_gpio_zero` — since `gpio_is_valid(0)` holds, a pin index between `gpio_cnt` and
  `APBA_NUM_GPIOS` drives GPIO 0, a pin the device tree never configured.
-/

namespace GreybusApba

/-! ## Sequences -/

/-- `gpio_is_valid` of gpiolib: every non-negative number names a GPIO. -/
def gpioIsValid (gpio : Int) : Bool := 0 ≤ gpio

/-- `struct apba_seq`: the `APBA_MAX_SEQ` cells and the count `len` in use. Every value the driver
builds keeps `len` a multiple of three within the array: `apba_ctrl_probe` sets it to
`APBA_MAX_SEQ` and `apba_parse_seq` only replaces it by an accepted count. -/
structure ApbaSeq where
  val : List UInt32
  len : Nat
  val_length : val.length = apbaMaxSeq
  len_le : len ≤ apbaMaxSeq
  len_mod : len % 3 = 0

/-- A sequence as `devm_kzalloc` leaves it and `apba_ctrl_probe` sizes it before parsing: every
cell zero and `len = ARRAY_SIZE(val)`. -/
def ApbaSeq.zero : ApbaSeq :=
  ⟨List.replicate apbaMaxSeq 0, apbaMaxSeq, List.length_replicate _ _, le_refl _, rfl⟩

/-- One pass of the loop of `apba_seq` on the triple `(index, value, delay)`: drive `gpios[index]`
to `(int)value` if the index is inside the array and the slot holds a valid GPIO, then sleep
`delay * 1000` µs (an `unsigned long` product, 64 bits on the driver's targets) if `delay ≠ 0`. -/
def seqStep (gpios : Fin apbaNumGpios → Int) (index value delay : UInt32) : List Call :=
  (if h : index.toNat < apbaNumGpios then
      if gpioIsValid (gpios ⟨index.toNat, h⟩) then
        [.gpioSetValue (gpios ⟨index.toNat, h⟩) (int32OfNat value.toNat)]
      else []
    else []) ++
  (if delay ≠ 0 then
      [.usleepRange (delay.toNat * 1000 % 2 ^ 64) (delay.toNat * 1000 % 2 ^ 64)]
    else [])

/-- The loop of `apba_seq` from cell `i` on, with `k` passes left. -/
def seqLoop (gpios : Fin apbaNumGpios → Int) (val : List UInt32) : Nat → Nat → List Call
  | _, 0 => []
  | i, k + 1 =>
    seqStep gpios (val.getD i 0) (val.getD (i + 1) 0) (val.getD (i + 2) 0) ++
      seqLoop gpios val (i + 3) k

/-- `apba_seq`: the calls running `seq` makes. `i` takes the values `0, 3, …` below `len`, that is
`⌈len / 3⌉` passes. -/
def apbaSeq (gpios : Fin apbaNumGpios → Int) (seq : ApbaSeq) : List Call :=
  seqLoop gpios seq.val 0 ((seq.len + 2) / 3)

/-- The loop reads only the cells `[i, i + 3k)` it walks over. -/
theorem seqLoop_congr (gpios : Fin apbaNumGpios → Int) {val val' : List UInt32} :
    ∀ i k, (∀ j, i ≤ j → j < i + 3 * k → val.getD j 0 = val'.getD j 0) →
      seqLoop gpios val i k = seqLoop gpios val' i k
  | _, 0, _ => rfl
  | i, k + 1, h => by
    simp only [seqLoop, h i (by omega) (by omega), h (i + 1) (by omega) (by omega),
      h (i + 2) (by omega) (by omega),
      seqLoop_congr gpios (i + 3) k fun j hj hj' => h j (by omega) (by omega)]

/-- **`apba_seq` reads only `val[0, len)`**: two sequences of one length that agree there make the
same calls. -/
theorem apbaSeq_congr (gpios : Fin apbaNumGpios → Int) {seq seq' : ApbaSeq}
    (hlen : seq.len = seq'.len) (hval : ∀ j < seq.len, seq.val.getD j 0 = seq'.val.getD j 0) :
    apbaSeq gpios seq = apbaSeq gpios seq' := by
  have h3 : 3 * ((seq.len + 2) / 3) = seq.len := by have := seq.len_mod; omega
  rw [apbaSeq, apbaSeq, ← hlen]
  exact seqLoop_congr gpios 0 _ fun j _ hj => hval j (by omega)

/-- One triple in use: whatever the 45 cells past it hold, the run is the same. -/
theorem apbaSeq_congr_one_triple :
    apbaSeq (fun _ => 0) ⟨[1, 1, 0] ++ List.replicate 45 0, 3, by decide, by decide, rfl⟩ =
      apbaSeq (fun _ => 0) ⟨[1, 1, 0] ++ List.replicate 45 7, 3, by decide, by decide, rfl⟩ :=
  apbaSeq_congr _ rfl (by decide)

/-- Pass `j` of the loop from cell `i` is part of the run, for every `j` below the pass count. -/
theorem seqStep_subset_seqLoop (gpios : Fin apbaNumGpios → Int) (val : List UInt32) :
    ∀ i k j, j < k → seqStep gpios (val.getD (i + 3 * j) 0) (val.getD (i + 3 * j + 1) 0)
      (val.getD (i + 3 * j + 2) 0) ⊆ seqLoop gpios val i k
  | _, 0, _, h => absurd h (Nat.not_lt_zero _)
  | _, _ + 1, 0, _ => List.subset_append_left _ _
  | i, k + 1, j + 1, h => by
    rw [show i + 3 * (j + 1) = i + 3 + 3 * j by omega, seqLoop]
    exact List.Subset.trans (seqStep_subset_seqLoop gpios val (i + 3) k j (by omega))
      (List.subset_append_right _ _)

/-- A pass of the loop makes at most one GPIO write and one sleep. -/
theorem mem_seqStep {gpios : Fin apbaNumGpios → Int} {index value delay : UInt32} {c : Call}
    (h : c ∈ seqStep gpios index value delay) :
    (∃ gpio value, c = .gpioSetValue gpio value) ∨ ∃ lo hi, c = .usleepRange lo hi := by
  rw [seqStep, List.mem_append] at h
  rcases h with h | h
  · split at h
    · split at h
      · exact .inl ⟨_, _, List.mem_singleton.1 h⟩
      · cases h
    · cases h
  · split at h
    · exact .inr ⟨_, _, List.mem_singleton.1 h⟩
    · cases h

/-- A run of `apba_seq` makes only GPIO writes and sleeps. -/
theorem mem_apbaSeq {gpios : Fin apbaNumGpios → Int} {seq : ApbaSeq} {c : Call}
    (h : c ∈ apbaSeq gpios seq) :
    (∃ gpio value, c = .gpioSetValue gpio value) ∨ ∃ lo hi, c = .usleepRange lo hi := by
  suffices ∀ i k, c ∈ seqLoop gpios seq.val i k →
      (∃ gpio value, c = .gpioSetValue gpio value) ∨ ∃ lo hi, c = .usleepRange lo hi from
    this _ _ h
  intro i k
  induction k generalizing i with
  | zero => intro h; cases h
  | succ k ih =>
    rw [seqLoop, List.mem_append]
    rintro (h | h)
    · exact mem_seqStep h
    · exact ih _ h

/-! ## `apba_parse_seq` -/

/-- The first `cnt` cells of the property bytes `b`. -/
def dtCells (b : List UInt8) (cnt : Nat) : List UInt32 := (List.range cnt).map fun i => be32 b (4 * i)

/-- `seq` after `of_property_read_u32_array` filled its first `cnt` cells from `b` and
`seq->len = cnt`. -/
def ApbaSeq.load (seq : ApbaSeq) (b : List UInt8) (cnt : Nat) (hle : cnt ≤ seq.len)
    (hmod : cnt % 3 = 0) : ApbaSeq where
  val := dtCells b cnt ++ seq.val.drop cnt
  len := cnt
  val_length := by
    have := seq.val_length; have := seq.len_le
    simp only [List.length_append, dtCells, List.length_map, List.length_range, List.length_drop]
    omega
  len_le := le_trans hle seq.len_le
  len_mod := hmod

/-- `apba_parse_seq` of the property `prop` (its bytes; `none` when `of_find_property` finds none):
`cnt` is its byte length over `sizeof(u32)`, accepted when `0 < cnt ≤ seq->len` and `cnt % 3 = 0`. -/
def apbaParseSeq (prop : Option (List UInt8)) (seq : ApbaSeq) : Except Int ApbaSeq :=
  match prop with
  | none => .error (-einval)
  | some b =>
    if h : b.length / 4 = 0 ∨ seq.len < b.length / 4 ∨ b.length / 4 % 3 ≠ 0 then .error (-einval)
    else .ok (seq.load b (b.length / 4) (by omega) (by omega))

/-! ## `apba_gpio_setup` -/

/-- What the device tree says of one GPIO: the number `of_get_gpio_flags` returns, and the result
of reading its label, requesting, exporting and linking it (`0`, or the first failure's). -/
structure DtGpio where
  gpio : Int
  ret : Int

/-- `gpios` with slot `i` set to `v`. -/
def setSlot (gpios : Fin apbaNumGpios → Int) (i : Nat) (v : Int) : Fin apbaNumGpios → Int :=
  fun j => if j.val = i then v else gpios j

/-- The loop of `apba_gpio_setup` from slot `i` on. -/
def gpioSetupLoop : List DtGpio → Nat → (Fin apbaNumGpios → Int) → Except Int (Fin apbaNumGpios → Int)
  | [], _, gpios => .ok gpios
  | d :: ds, i, gpios =>
    if !gpioIsValid d.gpio then .error (-einval)
    else if d.ret ≠ 0 then .error d.ret
    else gpioSetupLoop ds (i + 1) (setSlot gpios i d.gpio)

/-- `apba_gpio_setup` on the GPIOs of the device tree and the count of `mmi,gpio-labels`: it
checks the count against `APBA_NUM_GPIOS` and the labels, then configures each GPIO in turn into
the table `devm_kzalloc` zeroed. On success `gpio_cnt` is the number of GPIOs. -/
def apbaGpioSetup (gpios : List DtGpio) (labelCnt : Int) :
    Except Int (Nat × (Fin apbaNumGpios → Int)) :=
  if gpios.length = 0 then .error (-einval)
  else if apbaNumGpios < gpios.length then .error (-einval)
  else if labelCnt ≠ gpios.length then .error (-einval)
  else (gpioSetupLoop gpios 0 fun _ => 0).map fun table => (gpios.length, table)

theorem gpioSetupLoop_table :
    ∀ (ds : List DtGpio) (i : Nat) (g g' : Fin apbaNumGpios → Int), gpioSetupLoop ds i g = .ok g' →
      ∀ j : Fin apbaNumGpios,
        (i ≤ j.val → j.val < i + ds.length →
          g' j = (ds.getD (j.val - i) ⟨0, 0⟩).gpio ∧ gpioIsValid (g' j)) ∧
        (j.val < i ∨ i + ds.length ≤ j.val → g' j = g j)
  | [], i, g, g', h, j => by
    cases h; exact ⟨fun hi hj => by simp at hj; omega, fun _ => rfl⟩
  | d :: ds, i, g, g', h, j => by
    simp only [gpioSetupLoop] at h
    obtain ⟨hv, h⟩ := guard_eq_ok h
    obtain ⟨-, h⟩ := guard_eq_ok h
    have ih := gpioSetupLoop_table ds (i + 1) _ g' h j
    simp only [List.length_cons] at ih ⊢
    refine ⟨fun hi hj => ?_, fun hj => ?_⟩
    · rcases Nat.lt_or_ge i j.val with hlt | hge
      · obtain ⟨e, v⟩ := ih.1 (by omega) (by omega)
        refine ⟨?_, v⟩
        rw [e, show j.val - i = (j.val - (i + 1)) + 1 by omega]
        rfl
      · have hji : j.val = i := by omega
        rw [ih.2 (by omega), setSlot, if_pos hji, hji, Nat.sub_self]
        exact ⟨rfl, Bool.not_not_eq.1 hv⟩
    · rw [ih.2 (by omega), setSlot, if_neg (by omega)]

/-- **The table `apba_gpio_setup` builds**: `gpio_cnt` between `1` and `APBA_NUM_GPIOS`, the
configured GPIOs in order in the first `gpio_cnt` slots, each valid, and zero in the others. -/
theorem apbaGpioSetup_table {ds : List DtGpio} {labelCnt : Int} {cnt : Nat}
    {gpios : Fin apbaNumGpios → Int} (h : apbaGpioSetup ds labelCnt = .ok (cnt, gpios)) :
    cnt = ds.length ∧ 0 < cnt ∧ cnt ≤ apbaNumGpios ∧
      ∀ j : Fin apbaNumGpios, (j.val < cnt → gpios j = (ds.getD j.val ⟨0, 0⟩).gpio ∧
        gpioIsValid (gpios j)) ∧ (cnt ≤ j.val → gpios j = 0) := by
  simp only [apbaGpioSetup] at h
  obtain ⟨h0, h⟩ := guard_eq_ok h
  obtain ⟨hmax, h⟩ := guard_eq_ok h
  obtain ⟨-, h⟩ := guard_eq_ok h
  cases hl : gpioSetupLoop ds 0 (fun _ => 0) with
  | error e => rw [hl] at h; cases h
  | ok g =>
    rw [hl] at h; cases h
    refine ⟨rfl, by omega, by omega, fun j => ?_⟩
    have t := gpioSetupLoop_table ds 0 _ _ hl j
    exact ⟨fun hj => by simpa using t.1 (Nat.zero_le _) (by omega),
      fun hj => t.2 (Or.inr (by omega))⟩

/-! ## Pin indices past `gpio_cnt`

`apba_seq` bounds a pin index by `ARRAY_SIZE(ctrl->gpios)`, where `apba_int_setup` bounds
`int_index` by `gpio_cnt`. The slots past `gpio_cnt` hold the zero of `devm_kzalloc`, and
`gpio_is_valid(0)` holds. -/

/-- **A pin index between `gpio_cnt` and `APBA_NUM_GPIOS` drives GPIO 0**: for every table
`apba_gpio_setup` builds and every sequence, a triple whose index lies past the configured pins
writes its value to GPIO 0. -/
theorem apbaSeq_drives_gpio_zero {ds : List DtGpio} {labelCnt : Int} {cnt : Nat}
    {gpios : Fin apbaNumGpios → Int} (hg : apbaGpioSetup ds labelCnt = .ok (cnt, gpios))
    (seq : ApbaSeq) (j : Nat) (hj : 3 * j < seq.len) (hidx : cnt ≤ (seq.val.getD (3 * j) 0).toNat)
    (hlt : (seq.val.getD (3 * j) 0).toNat < apbaNumGpios) :
    Call.gpioSetValue 0 (int32OfNat (seq.val.getD (3 * j + 1) 0).toNat) ∈ apbaSeq gpios seq := by
  have hzero : gpios ⟨_, hlt⟩ = 0 := ((apbaGpioSetup_table hg).2.2.2 ⟨_, hlt⟩).2 hidx
  have hpass : j < (seq.len + 2) / 3 := by have := seq.len_mod; omega
  refine seqStep_subset_seqLoop gpios seq.val 0 _ j hpass ?_
  rw [Nat.zero_add, seqStep, dif_pos hlt, hzero]
  simp [gpioIsValid]

/-- One GPIO in the device tree, and a sequence whose one triple names pin index 1: GPIO 0 is
driven high. -/
theorem apbaSeq_one_gpio_drives_gpio_zero :
    Call.gpioSetValue 0 1 ∈ apbaSeq (setSlot (fun _ => 0) 0 5)
      ⟨[1, 1, 0] ++ List.replicate 45 0, 3, by decide, by decide, rfl⟩ :=
  @apbaSeq_drives_gpio_zero [⟨5, 0⟩] 1 1 _ rfl _ 0 (by decide) (by decide) (by decide)

end GreybusApba
