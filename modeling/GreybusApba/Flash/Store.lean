import GreybusApba.Flash.Pipeline

/-!
# Flash/Store — `erase_partition_store` and `flash_partition_store`

A write to either attribute names a partition: its bytes less a trailing newline. A name of
`1 ..= MAX_PARTITION_NAME` bytes is copied with a NUL into `partition[MAX_PARTITION_NAME + 1]`;
`flash_partition_store` also builds the firmware name in
`fw_name[MAX_PARTITION_NAME + max(sizeof(FFFF_EXT), sizeof(BIN_EXT))]`, requesting `<name>.ffff`
first and `<name>.bin` only if that request fails.

The stack buffers are lists of their sizes, with whatever they held before, and every write into
them is a `memcpyAt`, which fails (`none`) on a write past the end: a store whose result is `some`
stayed in bounds (`partitionStores_spec`). A callee that is passed a buffer is passed all of it,
as a pointer is.
-/

namespace GreybusApba

variable (c : Consts)

/-! ## Bounded copies -/

/-- `memcpy(dst + off, src, src.length)` into a buffer of `dst.length` bytes; `none` when the
write would leave it. -/
def memcpyAt (dst : List UInt8) (off : Nat) (src : List UInt8) : Option (List UInt8) :=
  if off + src.length ≤ dst.length then some (dst.take off ++ src ++ dst.drop (off + src.length))
  else none

/-- A copy that fits keeps the buffer's size and puts `src` after the first `off` bytes. -/
theorem memcpyAt_of_le (dst : List UInt8) (off : Nat) (src : List UInt8)
    (h : off + src.length ≤ dst.length) :
    ∃ d, memcpyAt dst off src = some d ∧ d.length = dst.length ∧
      d.take (off + src.length) = dst.take off ++ src := by
  refine ⟨_, if_pos h, by simp only [List.length_append, List.length_take, List.length_drop]; omega, ?_⟩
  rw [List.append_assoc, List.take_append_eq_append_take,
    List.take_of_length_le (by simp only [List.length_take]; omega),
    List.length_take, Nat.min_eq_left (by omega), Nat.add_sub_cancel_left,
    List.take_append_of_le_length (le_refl _), List.take_of_length_le (le_refl _)]

/-! ## The stores -/

/-- `sizeof(partition)`. -/
def partitionBufSize : Nat := maxPartitionName + 1

/-- `sizeof(fw_name)`: `MAX_PARTITION_NAME + max(sizeof(FFFF_EXT), sizeof(BIN_EXT))`, the
extensions with their NULs. -/
def fwNameBufSize : Nat := maxPartitionName + max (ffffExt.length + 1) (binExt.length + 1)

/-- `partition_name_sz`: the size of the write less a trailing `'\n'`. -/
def partitionNameSz (buf : List UInt8) : Nat :=
  if buf.length ≠ 0 ∧ buf.getD (buf.length - 1) 0 = 0x0a then buf.length - 1 else buf.length

theorem partitionNameSz_le (buf : List UInt8) : partitionNameSz buf ≤ buf.length := by
  unfold partitionNameSz; split <;> omega

/-- The size is the write's less its last byte exactly when that byte is `'\n'`. -/
theorem partitionNameSz_eq (buf : List UInt8) :
    partitionNameSz buf = if buf.getLast? = some 0x0a then buf.length - 1 else buf.length := by
  induction buf using List.reverseRecOn with
  | nil => rfl
  | append_singleton l x _ =>
    simp only [partitionNameSz, List.length_append, List.length_singleton, Nat.add_sub_cancel,
      List.getLast?_concat, Option.some.injEq, List.getD_eq_getElem?_getD,
      List.getElem?_concat_length, Option.getD_some, ne_eq, Nat.add_one_ne_zero, not_false_eq_true,
      true_and]

/-- `memcpy(partition, buf, n); partition[n] = 0;` -/
def copyPartitionName (partition buf : List UInt8) (n : Nat) : Option (List UInt8) := do
  let partition ← memcpyAt partition 0 (buf.take n)
  memcpyAt partition n [0]

/-- `erase_partition_store` of the write `buf` (its `count` is `buf.length`), `partition` holding
what the stack buffer held before. -/
def erasePartitionStore (s : State) (buf partition : List UInt8) (out : MtdOutcome) :
    Option (State × Int) :=
  let n := partitionNameSz buf
  if n = 0 ∨ partitionBufSize ≤ n then some (s, -einval)
  else do
    let partition ← copyPartitionName partition buf n
    let r := apbaErasePartition s partition out
    pure (r.1, if r.2 ≠ 0 then r.2 else buf.length)

/-- The tail of `flash_partition_store` once `request_firmware` has handed out `fw`: an empty
image is refused, any other is flashed and released. -/
def flashPartitionStoreWith (s : State) (partition : List UInt8) (fw : Firmware)
    (out : MtdOutcome) (count : Nat) : State × Int :=
  if fw.size = 0 then (s, -einval)
  else
    let r := apbaFlashPartition c s partition fw out
    (r.1.emit [.releaseFirmware], if r.2 ≠ 0 then r.2 else count)

/-- `flash_partition_store` of the write `buf`, `partition` and `fwName` holding what the stack
buffers held before, and `request` the firmware loader: the image it finds for the name buffer it
is passed, or its (negative) error. -/
def flashPartitionStore (s : State) (buf partition fwName : List UInt8)
    (request : List UInt8 → Except Int Firmware) (out : MtdOutcome) : Option (State × Int) :=
  let n := partitionNameSz buf
  if n = 0 ∨ partitionBufSize ≤ n then some (s, -einval)
  else do
    let fwName ← memcpyAt fwName 0 (buf.take n)
    let fwName ← memcpyAt fwName n (ffffExt ++ [0])
    let partition ← copyPartitionName partition buf n
    let s := s.emit [.requestFirmware fwName]
    match request fwName with
    | .ok fw => pure (flashPartitionStoreWith c s partition fw out buf.length)
    | .error _ =>
      let fwName ← memcpyAt fwName n (binExt ++ [0])
      let s := s.emit [.requestFirmware fwName]
      match request fwName with
      | .ok fw => pure (flashPartitionStoreWith c s partition fw out buf.length)
      | .error e => pure (s, e)

/-! ## Bounds and contents -/

/-- The name fits `partition` with its NUL, which ends it. -/
theorem copyPartitionName_spec {partition buf : List UInt8} {n : Nat} (hn : n ≤ buf.length)
    (hp : n + 1 ≤ partition.length) :
    ∃ p, copyPartitionName partition buf n = some p ∧ p.length = partition.length ∧
      p.take (n + 1) = buf.take n ++ [0] := by
  have hb : (buf.take n).length = n := by simp; omega
  obtain ⟨p₁, h₁, l₁, t₁⟩ := memcpyAt_of_le partition 0 (buf.take n) (by omega)
  obtain ⟨p₂, h₂, l₂, t₂⟩ := memcpyAt_of_le p₁ n [0] (by simp; omega)
  have t₁' : p₁.take n = buf.take n := by
    rwa [hb, Nat.zero_add, List.take_zero, List.nil_append] at t₁
  refine ⟨p₂, by simp only [copyPartitionName, h₁, Option.bind_eq_bind, Option.some_bind, h₂],
    l₂.trans l₁, ?_⟩
  rw [show n + 1 = n + [(0 : UInt8)].length from rfl, t₂, t₁']

/-- A pipeline logs at least its first `apba_on(off)`. -/
theorem pipeline_calls_length_lt (s : State) (partition : List UInt8) (created : Bool)
    {work : State → Nat → MtdInfo → State × Int}
    (hwork : ∀ s num info, MtdStep Call.isMtdIo s (work s num info).1) :
    s.calls.length < (flashExit (withPartition (apbaFlashOn (apbaOn s false) true created)
      partition work).1).calls.length := by
  obtain ⟨_, l, hl, -⟩ := withPartition_frame hwork (apbaFlashOn (apbaOn s false) true created)
    partition
  obtain ⟨l₃, h₃, -⟩ := flashExit_calls_noMtd
    (withPartition (apbaFlashOn (apbaOn s false) true created) partition work).1
  rw [h₃, hl]
  simp only [apbaFlashOn_calls, apbaOn_calls, List.length_append, List.length_cons]
  omega

theorem apbaErasePartition_ne (s : State) (partition : List UInt8) (out : MtdOutcome) :
    (apbaErasePartition s partition out).1 ≠ s := fun h =>
  absurd (congrArg (fun s : State => s.calls.length) h)
    (Nat.ne_of_gt (pipeline_calls_length_lt s partition out.created
      fun s num _ => mtdStep_apbaMtdErase s num out.eraseRet))

/-- A store that has requested an image has changed the state, whatever it returns. -/
theorem flashPartitionStoreWith_ne (s : State) (partition : List UInt8) (fw : Firmware)
    (out : MtdOutcome) (count : Nat) (cs : List Call) (hcs : cs ≠ []) :
    (flashPartitionStoreWith c (s.emit cs) partition fw out count).1 ≠ s := by
  intro h
  have hlen := congrArg (fun s : State => s.calls.length) h
  have hcs' : 0 < cs.length := List.length_pos.mpr hcs
  simp only [flashPartitionStoreWith] at hlen
  split at hlen
  · simp only [State.emit_calls, List.length_append] at hlen; omega
  · have := pipeline_calls_length_lt (s.emit cs) partition out.created
      fun s num info => mtdStep_flashFound c s num info fw out
    simp only [State.emit_calls, List.length_append] at hlen this
    simp only [apbaFlashPartition] at hlen
    omega

/-- The firmware-name buffer after each of its copies: the name, then `.ffff` and a NUL, then
`.bin` and a NUL over the extension. -/
theorem fwName_spec {fwName buf : List UInt8} {n : Nat} (hn : n ≤ buf.length)
    (hf : fwName.length = fwNameBufSize) (hmax : n ≤ maxPartitionName) :
    ∃ f₁ f₂ f₃, memcpyAt fwName 0 (buf.take n) = some f₁ ∧ memcpyAt f₁ n (ffffExt ++ [0]) = some f₂ ∧
      memcpyAt f₂ n (binExt ++ [0]) = some f₃ ∧
      f₂.length = fwNameBufSize ∧ f₂.take (n + 6) = buf.take n ++ ffffExt ++ [0] ∧
      f₃.length = fwNameBufSize ∧ f₃.take (n + 5) = buf.take n ++ binExt ++ [0] := by
  have hb : (buf.take n).length = n := by rw [List.length_take]; omega
  have hsz : fwNameBufSize = maxPartitionName + 6 := rfl
  obtain ⟨f₁, h₁, l₁, t₁⟩ := memcpyAt_of_le fwName 0 (buf.take n) (by rw [hb, hf, hsz]; omega)
  obtain ⟨f₂, h₂, l₂, t₂⟩ := memcpyAt_of_le f₁ n (ffffExt ++ [0])
    (show n + 6 ≤ _ by rw [l₁, hf, hsz]; omega)
  obtain ⟨f₃, h₃, l₃, t₃⟩ := memcpyAt_of_le f₂ n (binExt ++ [0])
    (show n + 5 ≤ _ by rw [l₂, l₁, hf, hsz]; omega)
  have e₁ : f₁.take n = buf.take n := by rwa [hb, Nat.zero_add, List.take_zero, List.nil_append] at t₁
  have e₂ : f₂.take n = buf.take n := by
    have := congrArg (List.take n) t₂
    rwa [List.take_take, Nat.min_eq_left (by omega), List.take_append_of_le_length (by simp; omega),
      List.take_take, Nat.min_self, e₁] at this
  refine ⟨f₁, f₂, f₃, h₁, h₂, h₃, l₂.trans (l₁.trans hf), ?_, l₃.trans (l₂.trans (l₁.trans hf)), ?_⟩
  · rw [show n + 6 = n + (ffffExt ++ [0]).length from rfl, t₂, e₁, List.append_assoc]
  · rw [show n + 5 = n + (binExt ++ [0]).length from rfl, t₃, e₂, List.append_assoc]

/-- **The partition stores on every write**: with `n` the size of the name, the size of the write
less its last byte when that byte is `'\n'`, each store returns `-EINVAL` with the state unchanged
exactly when `n = 0` or `n > MAX_PARTITION_NAME`. Otherwise
every copy stays inside `partition` and `fw_name`; `partition` holds the name and a NUL; the
firmware names requested are the name with `.ffff` and a NUL, then, only if that request fails,
the name with `.bin` and a NUL; and each store goes on with the pipeline on that `partition`. -/
theorem partitionStores_spec (s : State) (buf partition fwName : List UInt8)
    (request : List UInt8 → Except Int Firmware) (out : MtdOutcome)
    (hp : partition.length = partitionBufSize) (hf : fwName.length = fwNameBufSize) :
    let n := partitionNameSz buf
    n = (if buf.getLast? = some 0x0a then buf.length - 1 else buf.length) ∧
    (erasePartitionStore s buf partition out = some (s, -einval) ↔
      n = 0 ∨ maxPartitionName < n) ∧
    (flashPartitionStore c s buf partition fwName request out = some (s, -einval) ↔
      n = 0 ∨ maxPartitionName < n) ∧
    (n ≠ 0 → n ≤ maxPartitionName →
      ∃ part name₁ name₂,
        part.length = partitionBufSize ∧ part.take (n + 1) = buf.take n ++ [0] ∧
        name₁.length = fwNameBufSize ∧ name₁.take (n + 6) = buf.take n ++ ffffExt ++ [0] ∧
        name₂.length = fwNameBufSize ∧ name₂.take (n + 5) = buf.take n ++ binExt ++ [0] ∧
        erasePartitionStore s buf partition out =
          some ((apbaErasePartition s part out).1,
            if (apbaErasePartition s part out).2 ≠ 0 then (apbaErasePartition s part out).2
            else buf.length) ∧
        flashPartitionStore c s buf partition fwName request out = some
          (match request name₁, request name₂ with
            | .ok fw, _ =>
              flashPartitionStoreWith c (s.emit [.requestFirmware name₁]) part fw out buf.length
            | .error _, .ok fw => flashPartitionStoreWith c
                (s.emit [.requestFirmware name₁, .requestFirmware name₂]) part fw out buf.length
            | .error _, .error e => (s.emit [.requestFirmware name₁, .requestFirmware name₂], e))) := by
  intro n
  refine ⟨partitionNameSz_eq buf, ?_⟩
  by_cases hv : n = 0 ∨ maxPartitionName < n
  · have hv' : n = 0 ∨ partitionBufSize ≤ n := by simp only [partitionBufSize]; omega
    simp only [erasePartitionStore, flashPartitionStore, if_pos hv', hv, iff_true, true_and]
    omega
  have hn := partitionNameSz_le buf
  have hv' : ¬ (n = 0 ∨ partitionBufSize ≤ n) := by simp only [partitionBufSize]; omega
  obtain ⟨part, hpart, lp, tp⟩ := copyPartitionName_spec hn (show n + 1 ≤ partition.length by
    rw [hp, partitionBufSize]; omega)
  obtain ⟨f₁, f₂, f₃, h₁, h₂, h₃, l₂, t₂, l₃, t₃⟩ := fwName_spec hn hf (by omega)
  have herase : erasePartitionStore s buf partition out =
      some ((apbaErasePartition s part out).1,
        if (apbaErasePartition s part out).2 ≠ 0 then (apbaErasePartition s part out).2
        else buf.length) := by
    simp only [erasePartitionStore, if_neg hv', hpart, Option.bind_eq_bind, Option.some_bind]
    rfl
  have hflash : flashPartitionStore c s buf partition fwName request out = some
      (match request f₂, request f₃ with
        | .ok fw, _ => flashPartitionStoreWith c (s.emit [.requestFirmware f₂]) part fw out buf.length
        | .error _, .ok fw => flashPartitionStoreWith c
            (s.emit [.requestFirmware f₂, .requestFirmware f₃]) part fw out buf.length
        | .error _, .error e => (s.emit [.requestFirmware f₂, .requestFirmware f₃], e)) := by
    simp only [flashPartitionStore, if_neg hv', h₁, h₂, h₃, hpart, Option.bind_eq_bind,
      Option.some_bind, State.emit_emit, List.singleton_append]
    cases request f₂ <;> cases request f₃ <;> rfl
  refine ⟨?_, ?_, fun _ _ => ⟨part, f₂, f₃, lp.trans hp, tp, l₂, t₂, l₃, t₃, herase, hflash⟩⟩
  · simp only [herase, hv, iff_false, Option.some.injEq, Prod.mk.injEq, not_and]
    exact fun h => absurd h (apbaErasePartition_ne s part out)
  · simp only [hflash, hv, iff_false, Option.some.injEq]
    cases request f₂ <;> cases request f₃ <;> intro h
    all_goals first
      | exact flashPartitionStoreWith_ne c s part _ out _ _ (List.cons_ne_nil _ _)
          (congrArg Prod.fst h)
      | exact absurd (congrArg (fun p : State × Int => p.1.calls.length) h) (by simp)

/-- `apba\n` written to both stores, over 17 and 22 zero bytes of stack, with a loader that finds
nothing. -/
theorem partitionStores_spec_apba :
    let s := State.kzalloc fun _ => none
    let buf : List UInt8 := [0x61, 0x70, 0x62, 0x61, 0x0a]
    let partition := List.replicate partitionBufSize (0 : UInt8)
    let fwName := List.replicate fwNameBufSize (0 : UInt8)
    let request : List UInt8 → Except Int Firmware := fun _ => .error (-2)
    let out : MtdOutcome := ⟨false, 0, false, 0, 0⟩
    let n := partitionNameSz buf
    n = (if buf.getLast? = some 0x0a then buf.length - 1 else buf.length) ∧
    (erasePartitionStore s buf partition out = some (s, -einval) ↔
      n = 0 ∨ maxPartitionName < n) ∧
    (flashPartitionStore Consts.sample s buf partition fwName request out = some (s, -einval) ↔
      n = 0 ∨ maxPartitionName < n) ∧
    (n ≠ 0 → n ≤ maxPartitionName →
      ∃ part name₁ name₂,
        part.length = partitionBufSize ∧ part.take (n + 1) = buf.take n ++ [0] ∧
        name₁.length = fwNameBufSize ∧ name₁.take (n + 6) = buf.take n ++ ffffExt ++ [0] ∧
        name₂.length = fwNameBufSize ∧ name₂.take (n + 5) = buf.take n ++ binExt ++ [0] ∧
        erasePartitionStore s buf partition out =
          some ((apbaErasePartition s part out).1,
            if (apbaErasePartition s part out).2 ≠ 0 then (apbaErasePartition s part out).2
            else buf.length) ∧
        flashPartitionStore Consts.sample s buf partition fwName request out = some
          (match request name₁, request name₂ with
            | .ok fw, _ => flashPartitionStoreWith Consts.sample (s.emit [.requestFirmware name₁])
                part fw out buf.length
            | .error _, .ok fw => flashPartitionStoreWith Consts.sample
                (s.emit [.requestFirmware name₁, .requestFirmware name₂]) part fw out buf.length
            | .error _, .error e => (s.emit [.requestFirmware name₁, .requestFirmware name₂], e))) :=
  partitionStores_spec Consts.sample _ _ _ _ _ _ (List.length_replicate _ _)
    (List.length_replicate _ _)

end GreybusApba
