import GreybusApba.Driver.Basic

/-!
# Audio/Config — `gb_i2s_mgmt_set_cfg`: the first supported configuration that fits

`gb_i2s_mgmt_set_cfg` looks through the `CONFIG_COUNT_MAX` entries of the table that
`gb_i2s_mgmt_get_cfgs` fetched for the first one with the requested rate, channel count and
channel width, a byte order in common with the one it asks for, and an I2S link it can drive as
master (`cfgMatches`). It sends that entry with the link-layer fields set to what it asks for, or
returns `-EINVAL` when no entry fits.

* `cfgSearch_spec` — the loop stops at the first entry that fits, or at `CONFIG_COUNT_MAX`.
* `gbI2sMgmtSetCfg_spec` — either no entry fits and nothing is sent, or the first entry that fits
  is sent, and the request sent passes the test the search made.
* `cfgRun_inv` — over every sequence of `gb_i2s_mgmt_get_cfgs` and `gb_i2s_mgmt_free_cfgs` calls,
  `i2s_configs` is `NULL` or points to a table not yet freed.
* `gbI2sMgmtGetCfgs_leaks` — a table that `gb_i2s_mgmt_get_cfgs` stores its pointer over is never
  freed by any later calls.
-/

namespace GreybusApba

/-! ## The model -/

/-- The constants of the protocol and audio headers (not among the sources) that
`gb_i2s_mgmt_set_cfg` reads: the size of the table, and the flags it compares and sets. Each flag
is a `BIT()` that fits the `__u8` or `__le32` field it is stored in, hence nonzero. -/
structure I2sMgmtConsts where
  configCountMax : Nat
  byteOrderNa : UInt8
  byteOrderBe : UInt8
  byteOrderLe : UInt8
  protocolI2s : UInt32
  roleMaster : UInt8
  polarityNormal : UInt8
  edgeRising : UInt8
  edgeFalling : UInt8
  flags_ne : ∀ f ∈ [byteOrderNa, byteOrderBe, byteOrderLe, roleMaster, polarityNormal, edgeRising,
    edgeFalling], f ≠ 0
  protocolI2s_ne : protocolI2s ≠ 0

/-- One choice of the constants, for running the model: a table of four entries and the flags
numbered from bit 0. -/
def I2sMgmtConsts.sample : I2sMgmtConsts :=
  ⟨4, 1, 2, 4, 2, 1, 1, 1, 2, by decide, by decide⟩

/-- `struct gb_i2s_mgmt_configuration`: the fields `gb_i2s_mgmt_set_cfg` compares or sets. Its
`memcpy` carries the others into the request unread. -/
structure I2sConfig where
  sampleFrequency : UInt32
  numChannels : UInt8
  bytesPerChannel : UInt8
  byteOrder : UInt8
  llProtocol : UInt32
  llMclkRole : UInt8
  llBclkRole : UInt8
  llWclkRole : UInt8
  llWclkPolarity : UInt8
  llWclkChangeEdge : UInt8
  llWclkTxEdge : UInt8
  llWclkRxEdge : UInt8
  llDataOffset : UInt8
  deriving DecidableEq, Repr

/-- The `byte_order` that `gb_i2s_mgmt_set_cfg` asks for: none for channels of one byte, else
little- or big-endian as `is_le` says. -/
def cfgByteOrder (m : I2sMgmtConsts) (bytesPerChan isLe : Int) : UInt8 :=
  if bytesPerChan > 1 then if isLe ≠ 0 then m.byteOrderLe else m.byteOrderBe else m.byteOrderNa

/-- The test of the search loop: the rate (`cpu_to_le32(rate)`, the `int` taken modulo `2^32`),
channel count and width (a `__u8` field against an `int`), a byte order in common, the I2S
protocol, master on the three clocks, normal word-clock polarity, the three edges, and a data
offset of one bit. -/
def cfgMatches (m : I2sMgmtConsts) (rate chans bytesPerChan : Int) (byteOrder : UInt8)
    (cfg : I2sConfig) : Bool :=
  (cfg.sampleFrequency.toNat : Int) == rate % 2 ^ 32 &&
  (cfg.numChannels.toNat : Int) == chans &&
  (cfg.bytesPerChannel.toNat : Int) == bytesPerChan &&
  cfg.byteOrder &&& byteOrder != 0 &&
  cfg.llProtocol &&& m.protocolI2s != 0 &&
  cfg.llMclkRole &&& m.roleMaster != 0 &&
  cfg.llBclkRole &&& m.roleMaster != 0 &&
  cfg.llWclkRole &&& m.roleMaster != 0 &&
  cfg.llWclkPolarity &&& m.polarityNormal != 0 &&
  cfg.llWclkChangeEdge &&& m.edgeFalling != 0 &&
  cfg.llWclkTxEdge &&& m.edgeRising != 0 &&
  cfg.llWclkRxEdge &&& m.edgeFalling != 0 &&
  cfg.llDataOffset == 1

/-- `for (i = 0, cfg = ...->config; i < CONFIG_COUNT_MAX; i++, cfg++) if (...) break;` from index
`i` with `n` passes left: the index it leaves the loop with. -/
def cfgSearch (max : Nat) (p : I2sConfig → Bool) (cfgs : Nat → I2sConfig) : Nat → Nat → Nat
  | 0, i => i
  | n + 1, i => if i < max then if p (cfgs i) then i else cfgSearch max p cfgs n (i + 1) else i

/-- The request `gb_i2s_mgmt_set_cfg` sends: the entry it found, copied, with the link layer set
to what it asks for. -/
def setCfgRequest (m : I2sMgmtConsts) (byteOrder : UInt8) (cfg : I2sConfig) : I2sConfig :=
  { cfg with
    byteOrder := byteOrder
    llProtocol := m.protocolI2s
    llMclkRole := m.roleMaster
    llBclkRole := m.roleMaster
    llWclkRole := m.roleMaster
    llWclkPolarity := m.polarityNormal
    llWclkChangeEdge := m.edgeFalling
    llWclkTxEdge := m.edgeRising
    llWclkRxEdge := m.edgeFalling }

/-- `gb_i2s_mgmt_set_cfg` on the table `cfgs` that `snd_dev->i2s_configs` points to, `ret` being
what `gb_operation_sync` returns: the request it sends, if any, and what it returns. -/
def gbI2sMgmtSetCfg (m : I2sMgmtConsts) (cfgs : Nat → I2sConfig) (rate chans bytesPerChan isLe : Int)
    (ret : Int) : Option I2sConfig × Int :=
  let byteOrder := cfgByteOrder m bytesPerChan isLe
  let i := cfgSearch m.configCountMax (cfgMatches m rate chans bytesPerChan byteOrder) cfgs
    m.configCountMax 0
  if i ≥ m.configCountMax then (none, -einval)
  else (some (setCfgRequest m byteOrder (cfgs i)), ret)

/-! ## The search -/

/-- **The loop stops at the first entry that fits**: from index `i` with the passes left reaching
`max`, it leaves at an index `r` between `i` and `max`; every entry from `i` up to `r` fails the
test, and `r` passes it unless it is `max`. -/
theorem cfgSearch_spec (max : Nat) (p : I2sConfig → Bool) (cfgs : Nat → I2sConfig) :
    ∀ n i, i + n = max →
      i ≤ cfgSearch max p cfgs n i ∧ cfgSearch max p cfgs n i ≤ max ∧
      (∀ j, i ≤ j → j < cfgSearch max p cfgs n i → p (cfgs j) = false) ∧
      (cfgSearch max p cfgs n i < max → p (cfgs (cfgSearch max p cfgs n i)) = true)
  | 0, i, h => by
    rw [cfgSearch]
    exact ⟨le_refl _, by omega, fun j h₁ h₂ => absurd h₂ (by omega), fun h' => absurd h' (by omega)⟩
  | n + 1, i, h => by
    have hi : i < max := by omega
    by_cases hp : p (cfgs i)
    · rw [cfgSearch, if_pos hi, if_pos hp]
      exact ⟨le_refl _, hi.le, fun j h₁ h₂ => absurd h₂ (by omega), fun _ => hp⟩
    · rw [cfgSearch, if_pos hi, if_neg hp]
      obtain ⟨h₁, h₂, h₃, h₄⟩ := cfgSearch_spec max p cfgs n (i + 1) (by omega)
      refine ⟨by omega, h₂, fun j hj hj' => ?_, h₄⟩
      rcases Nat.eq_or_lt_of_le hj with rfl | hj
      · exact Bool.eq_false_iff.2 hp
      · exact h₃ j hj hj'

/-! ## The request sent -/

theorem UInt8.land_self (x : UInt8) : x &&& x = x :=
  UInt8.toNat.inj (by rw [UInt8.and_toNat, Nat.and_self])

theorem UInt32.land_self (x : UInt32) : x &&& x = x :=
  UInt32.toNat.inj (by rw [UInt32.and_toNat, Nat.and_self])

theorem I2sMgmtConsts.each_flag_ne (m : I2sMgmtConsts) :
    m.byteOrderNa ≠ 0 ∧ m.byteOrderBe ≠ 0 ∧ m.byteOrderLe ≠ 0 ∧ m.roleMaster ≠ 0 ∧
      m.polarityNormal ≠ 0 ∧ m.edgeRising ≠ 0 ∧ m.edgeFalling ≠ 0 := by
  simpa only [List.mem_cons, List.not_mem_nil, or_false, forall_eq_or_imp, forall_eq] using
    m.flags_ne

theorem cfgByteOrder_ne (m : I2sMgmtConsts) (bytesPerChan isLe : Int) :
    cfgByteOrder m bytesPerChan isLe ≠ 0 := by
  obtain ⟨hna, hbe, hle, -⟩ := m.each_flag_ne
  unfold cfgByteOrder
  split_ifs
  exacts [hle, hbe, hna]

/-- The request sets the link layer to values that pass the test, and keeps the fields the test
compares for equality. -/
theorem cfgMatches_setCfgRequest {m : I2sMgmtConsts} {rate chans bytesPerChan : Int}
    {byteOrder : UInt8} (hbo : byteOrder ≠ 0) {cfg : I2sConfig}
    (h : cfgMatches m rate chans bytesPerChan byteOrder cfg = true) :
    cfgMatches m rate chans bytesPerChan byteOrder (setCfgRequest m byteOrder cfg) = true := by
  obtain ⟨-, -, -, hm, hp, hr, hf⟩ := m.each_flag_ne
  simp only [cfgMatches, Bool.and_eq_true, beq_iff_eq, bne_iff_ne, and_assoc] at h
  obtain ⟨hrate, hchans, hwidth, -, -, -, -, -, -, -, -, -, hoff⟩ := h
  simp only [cfgMatches, setCfgRequest, UInt8.land_self, UInt32.land_self, Bool.and_eq_true,
    beq_iff_eq, bne_iff_ne, and_assoc]
  exact ⟨hrate, hchans, hwidth, hbo, m.protocolI2s_ne, hm, hm, hm, hp, hf, hr, hf, hoff⟩

/-- **`gb_i2s_mgmt_set_cfg` sends the first entry that fits**: for every table, request and
answer of the operation, either no entry below `CONFIG_COUNT_MAX` passes the test, nothing is sent
and the result is `-EINVAL`; or the entry at the least index that passes it is sent, with the
link layer set, the result is what the operation returns, and the request sent passes the same
test (the same rate, channels, width and data offset, and the link layer asked for). -/
theorem gbI2sMgmtSetCfg_spec (m : I2sMgmtConsts) (cfgs : Nat → I2sConfig)
    (rate chans bytesPerChan isLe ret : Int) :
    let bo := cfgByteOrder m bytesPerChan isLe
    let ok := cfgMatches m rate chans bytesPerChan bo
    ((∀ i < m.configCountMax, ok (cfgs i) = false) ∧
        gbI2sMgmtSetCfg m cfgs rate chans bytesPerChan isLe ret = (none, -einval)) ∨
      ∃ i < m.configCountMax, ok (cfgs i) = true ∧ (∀ j < i, ok (cfgs j) = false) ∧
        gbI2sMgmtSetCfg m cfgs rate chans bytesPerChan isLe ret =
          (some (setCfgRequest m bo (cfgs i)), ret) ∧
        ok (setCfgRequest m bo (cfgs i)) = true := by
  intro bo ok
  obtain ⟨-, hle, hfail, hpass⟩ := cfgSearch_spec m.configCountMax ok cfgs m.configCountMax 0
    (Nat.zero_add _)
  by_cases hi : cfgSearch m.configCountMax ok cfgs m.configCountMax 0 ≥ m.configCountMax
  · refine .inl ⟨fun i h => hfail i (Nat.zero_le _) (by omega), ?_⟩
    rw [gbI2sMgmtSetCfg]
    exact if_pos hi
  · have hok := hpass (by omega)
    refine .inr ⟨_, by omega, hok, fun j h => hfail j (Nat.zero_le _) h, ?_,
      cfgMatches_setCfgRequest (cfgByteOrder_ne m bytesPerChan isLe) hok⟩
    rw [gbI2sMgmtSetCfg]
    exact if_neg hi

example : (gbI2sMgmtSetCfg I2sMgmtConsts.sample
    (fun i => if i = 2 then ⟨48000, 2, 2, 6, 2, 1, 1, 1, 1, 2, 1, 2, 1⟩
      else ⟨44100, 2, 2, 6, 2, 1, 1, 1, 1, 2, 1, 2, 1⟩) 48000 2 2 1 0).1 =
    some ⟨48000, 2, 2, 4, 2, 1, 1, 1, 1, 2, 1, 2, 1⟩ := by decide

/-! ## The table's lifetime

`gb_i2s_mgmt_get_cfgs` allocates a table, has the module fill it, and stores the pointer in
`snd_dev->i2s_configs`, over whatever pointer was there; `gb_i2s_mgmt_free_cfgs` frees the table
the pointer holds and clears it. The allocations are numbered in order: `kzalloc` returns memory
that no allocation not yet freed holds. -/

/-- The `gb_snd` state these functions use: the allocation `i2s_configs` points to, with the table
in it, or `NULL`; the allocations not yet freed; and the number of the next one. -/
structure SndDev where
  i2sConfigs : Option (Nat × (Nat → I2sConfig))
  live : List Nat
  next : Nat

/-- A device with no table. -/
def SndDev.init : SndDev := ⟨none, [], 0⟩

/-- `gb_i2s_mgmt_get_cfgs`: `allocOk` is the `kzalloc`'s success, `ret` what
`gb_i2s_mgmt_get_supported_configurations` returns and `resp` the table it fills in. -/
def gbI2sMgmtGetCfgs (s : SndDev) (allocOk : Bool) (ret : Int) (resp : Nat → I2sConfig) :
    SndDev × Int :=
  if !allocOk then (s, -enomem)
  else if ret ≠ 0 then ({ s with next := s.next + 1 }, ret)
  else ({ i2sConfigs := some (s.next, resp), live := s.next :: s.live, next := s.next + 1 }, 0)

/-- `gb_i2s_mgmt_free_cfgs`: `kfree` of the table (nothing for `NULL`), then `NULL`. -/
def gbI2sMgmtFreeCfgs (s : SndDev) : SndDev :=
  { s with
    i2sConfigs := none
    live := match s.i2sConfigs with
      | some (a, _) => s.live.erase a
      | none => s.live }

/-- A call of one of the two functions, with what its collaborators answer. -/
inductive CfgOp where
  | getCfgs (allocOk : Bool) (ret : Int) (resp : Nat → I2sConfig)
  | freeCfgs

def cfgStep (s : SndDev) : CfgOp → SndDev
  | .getCfgs allocOk ret resp => (gbI2sMgmtGetCfgs s allocOk ret resp).1
  | .freeCfgs => gbI2sMgmtFreeCfgs s

def cfgRun (s : SndDev) (ops : List CfgOp) : SndDev := ops.foldl cfgStep s

/-- The allocations are well numbered, and `i2s_configs` is `NULL` or points to an allocation not
yet freed: the table `gb_i2s_mgmt_set_cfg` reads is live. -/
structure SndDev.Inv (s : SndDev) : Prop where
  held_live : ∀ a t, s.i2sConfigs = some (a, t) → a ∈ s.live
  live_lt : ∀ a ∈ s.live, a < s.next

/-- An allocation not yet freed that `i2s_configs` does not point to. -/
def SndDev.Leaked (s : SndDev) (a : Nat) : Prop := a ∈ s.live ∧ ∀ t, s.i2sConfigs ≠ some (a, t)

theorem cfgStep_inv {s : SndDev} (h : s.Inv) : ∀ op, (cfgStep s op).Inv
  | .getCfgs allocOk ret resp => by
    simp only [cfgStep, gbI2sMgmtGetCfgs]
    split_ifs
    · exact h
    · exact ⟨h.held_live, fun a ha => Nat.lt_succ_of_lt (h.live_lt a ha)⟩
    · refine ⟨fun a t e => ?_, fun a ha => ?_⟩
      · cases e
        exact List.mem_cons_self _ _
      · rcases List.mem_cons.1 ha with rfl | ha
        exacts [Nat.lt_succ_self _, Nat.lt_succ_of_lt (h.live_lt a ha)]
  | .freeCfgs => by
    refine ⟨fun a t e => (nomatch e), fun a ha => h.live_lt a ?_⟩
    simp only [cfgStep, gbI2sMgmtFreeCfgs] at ha
    split at ha
    exacts [List.mem_of_mem_erase ha, ha]

theorem cfgRun_inv {s : SndDev} (h : s.Inv) (ops : List CfgOp) : (cfgRun s ops).Inv := by
  induction ops generalizing s with
  | nil => exact h
  | cons op ops ih => exact ih (cfgStep_inv h op)

/-- No call frees an allocation that `i2s_configs` does not point to, or points to it again. -/
theorem cfgStep_leaked {s : SndDev} (h : s.Inv) {a : Nat} (hl : s.Leaked a) :
    ∀ op, (cfgStep s op).Leaked a
  | .getCfgs allocOk ret resp => by
    simp only [cfgStep, gbI2sMgmtGetCfgs]
    split_ifs
    · exact hl
    · exact hl
    · refine ⟨List.mem_cons_of_mem _ hl.1, fun t e => ?_⟩
      cases e
      exact absurd (h.live_lt _ hl.1) (Nat.lt_irrefl _)
  | .freeCfgs => by
    refine ⟨?_, fun t e => nomatch e⟩
    simp only [cfgStep, gbI2sMgmtFreeCfgs]
    split
    · next b t e => exact (List.mem_erase_of_ne fun hab : a = b => hl.2 t (hab ▸ e)).2 hl.1
    · exact hl.1

theorem cfgRun_leaked {s : SndDev} (h : s.Inv) {a : Nat} (hl : s.Leaked a) (ops : List CfgOp) :
    (cfgRun s ops).Leaked a := by
  induction ops generalizing s with
  | nil => exact hl
  | cons op ops ih => exact ih (cfgStep_inv h op) (cfgStep_leaked h hl op)

/-- A successful `gb_i2s_mgmt_get_cfgs` stores its pointer over the one held, and frees nothing. -/
theorem cfgStep_getCfgs_leaked {s : SndDev} (h : s.Inv) {a : Nat} {t : Nat → I2sConfig}
    (e : s.i2sConfigs = some (a, t)) (resp : Nat → I2sConfig) :
    (cfgStep s (.getCfgs true 0 resp)).Leaked a := by
  have hlt := h.live_lt a (h.held_live a t e)
  refine ⟨List.mem_cons_of_mem _ (h.held_live a t e), fun t' e' => ?_⟩
  cases e'
  exact Nat.lt_irrefl _ hlt

/-- **A table replaced by `gb_i2s_mgmt_get_cfgs` is never freed**: after any calls that leave
`i2s_configs` pointing to a table, a successful `gb_i2s_mgmt_get_cfgs` stores a new pointer over
it without freeing it; after any further calls of the two functions the old table is still
allocated and `i2s_configs` does not point to it, so `gb_i2s_mgmt_free_cfgs` never frees it. -/
theorem gbI2sMgmtGetCfgs_leaks (ops₀ : List CfgOp) {a : Nat} {t : Nat → I2sConfig}
    (h : (cfgRun SndDev.init ops₀).i2sConfigs = some (a, t)) (resp : Nat → I2sConfig)
    (ops : List CfgOp) :
    (cfgRun (cfgRun SndDev.init ops₀) (.getCfgs true 0 resp :: ops)).Leaked a := by
  have hinv := cfgRun_inv (s := SndDev.init) ⟨fun _ _ e => (nomatch e), fun _ h => nomatch h⟩ ops₀
  exact cfgRun_leaked (cfgStep_inv hinv _) (cfgStep_getCfgs_leaked hinv h resp) ops

/-- The table fetched first, replaced by a second fetch and then freed: allocation 0 is left. -/
theorem gbI2sMgmtGetCfgs_leaks_twice :
    (cfgRun SndDev.init [.getCfgs true 0 fun _ => ⟨0, 0, 0, 0, 0, 0, 0, 0, 0, 0, 0, 0, 0⟩]).i2sConfigs =
        some (0, fun _ => ⟨0, 0, 0, 0, 0, 0, 0, 0, 0, 0, 0, 0, 0⟩) ∧
      (cfgRun (cfgRun SndDev.init [.getCfgs true 0 fun _ => ⟨0, 0, 0, 0, 0, 0, 0, 0, 0, 0, 0, 0, 0⟩])
        [.getCfgs true 0 fun _ => ⟨0, 0, 0, 0, 0, 0, 0, 0, 0, 0, 0, 0, 0⟩, .freeCfgs]).Leaked 0 :=
  ⟨rfl, gbI2sMgmtGetCfgs_leaks [.getCfgs true 0 fun _ => ⟨0, 0, 0, 0, 0, 0, 0, 0, 0, 0, 0, 0, 0⟩]
    rfl _ [.freeCfgs]⟩

end GreybusApba
