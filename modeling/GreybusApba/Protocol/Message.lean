import GreybusApba.Log.Fifo

/-!
# Protocol/Message — `apba_handle_message`: the frames the APBA sends

A frame is the `len` bytes at `payload`: a header of two little-endian `u16`s, `type` and `size`,
then a body. The handler drops a frame shorter than its header and dispatches on `type`:

    INT_REASON        ─▸ apba_action_on_int_reason(reason)        when len ≥ 6
    PM_WAKE_ACK, PM_SLEEP_ACK, PM_SLEEP_IND ─▸ mods_uart_pm_handle_events
    LOG_IND           ─▸ evict, then kfifo_in(payload + 4, size)
    LOG_REQUEST       ─▸ complete(comp)
    BAUD_ACK          ─▸ mods_uart_update_baud if accepted; complete(baud_comp)
    MODE_REQUEST      ─▸ complete(mode_comp)

Only `INT_REASON` checks `len` against the struct it reads. `BAUD_ACK` reads the `baud` and
`accepted` fields of `struct apba_baud_ack`, and `LOG_IND` the `size` bytes its header announces,
whatever `len` is (`apbaHandleMessage_reads_past_len`).
-/

namespace GreybusApba

variable (c : Consts)

/-! ## Dispatch -/

/-- The case of the `switch` of `apba_handle_message` that a frame type takes. -/
inductive MsgCase where
  | intReason
  | pmEvent
  | logInd
  | logRequest
  | baudAck
  | modeRequest
  | unknown
  deriving DecidableEq, Repr

/-- The case label `type` matches, if any. -/
def Consts.msgCase (type : Nat) : MsgCase :=
  if type = c.intReason then .intReason
  else if type = c.pmWakeAck ∨ type = c.pmSleepAck ∨ type = c.pmSleepInd then .pmEvent
  else if type = c.logInd then .logInd
  else if type = c.logRequest then .logRequest
  else if type = c.baudAck then .baudAck
  else if type = c.modeRequest then .modeRequest
  else .unknown

/-- The case labels, in the order of the `switch`. -/
def Consts.caseLabels : List Nat :=
  [c.intReason, c.pmWakeAck, c.pmSleepAck, c.pmSleepInd, c.logInd, c.logRequest, c.baudAck,
    c.modeRequest]

/-- The case the label at each place of the `switch` belongs to. -/
def labelCases : List MsgCase :=
  [.intReason, .pmEvent, .pmEvent, .pmEvent, .logInd, .logRequest, .baudAck, .modeRequest]

/-- **Every case label takes its own case**: the labels differ, so no test before a label's own
catches it. -/
theorem Consts.msgCase_label (i : Fin 8) : c.msgCase (c.caseLabels.get i) = labelCases.get i := by
  have hn := c.caseLabels_nodup
  simp only [List.nodup_cons, List.mem_cons, List.not_mem_nil, not_or, List.nodup_nil] at hn
  fin_cases i <;>
    simp [Consts.msgCase, Consts.caseLabels, labelCases, hn, Ne.symm, List.get_eq_getElem,
      Fin.coe_ofNat_eq_mod]

/-! ## The handler -/

/-- `apba_notify_abpe_attach` (with `g_ctrl` set): when its `kzalloc` succeeds, schedule a work
that will pass `present` to `mod_attach`. -/
def apbaNotifyAbpeAttach (s : State) (present : Int) (allocOk : Bool) : State :=
  if allocOk then { s.emit [.scheduleWork present] with attachWork := s.attachWork ++ [present] }
  else s

/-- `apba_action_on_int_reason` (with `g_ctrl` set): nothing until `apba_slave_notify` has set a
master interface; then power the APBE on, reset it, or have the transport attach or detach the
mod. `allocOk` is the outcome of the `kzalloc` of `apba_notify_abpe_attach`. -/
def apbaActionOnIntReason (s : State) (reason : Nat) (allocOk : Bool) : State :=
  if s.masterIntf = 0 then s
  else
    let slavePower (val : Nat) := Call.modsSlaveCtrlPower s.masterIntf val c.slaveMaskApbe
    if reason = apbaIntApbeOn then s.emit [slavePower c.slavePowerOn]
    else if reason = apbaIntApbeReset then
      s.emit [slavePower c.slavePowerOff, .msleep apbeResetDelay, slavePower c.slavePowerOn]
    else if reason = apbaIntApbeConnected then apbaNotifyAbpeAttach s 1 allocOk
    else if reason = apbaIntApbeDisconnected then
      apbaNotifyAbpeAttach (s.emit [slavePower c.slavePowerOff]) 0 allocOk
    else s

/-- What an interrupt reason does: some calls into the slave-control core, then possibly the
scheduling of an attach work. -/
theorem apbaActionOnIntReason_cases (s : State) (reason : Nat) (allocOk : Bool) :
    ∃ cs, cs.all Call.isQuiet = true ∧
      (apbaActionOnIntReason c s reason allocOk = s.emit cs ∨
        ∃ present, apbaActionOnIntReason c s reason allocOk =
          apbaNotifyAbpeAttach (s.emit cs) present allocOk) := by
  unfold apbaActionOnIntReason
  by_cases h0 : s.masterIntf = 0
  · rw [if_pos h0]; exact ⟨[], rfl, .inl (State.emit_nil s).symm⟩
  rw [if_neg h0]
  by_cases h1 : reason = apbaIntApbeOn
  · rw [if_pos h1]; exact ⟨_, by rfl, .inl rfl⟩
  rw [if_neg h1]
  by_cases h2 : reason = apbaIntApbeReset
  · rw [if_pos h2]; exact ⟨_, by rfl, .inl rfl⟩
  rw [if_neg h2]
  by_cases h3 : reason = apbaIntApbeConnected
  · rw [if_pos h3]; exact ⟨[], rfl, .inr ⟨1, by rw [State.emit_nil]⟩⟩
  rw [if_neg h3]
  by_cases h4 : reason = apbaIntApbeDisconnected
  · rw [if_pos h4]; exact ⟨_, by rfl, .inr ⟨0, rfl⟩⟩
  · rw [if_neg h4]; exact ⟨[], rfl, .inl (State.emit_nil s).symm⟩

/-- `apba_handle_message` (with `g_ctrl` set) on the `len` bytes at `payload`. -/
def apbaHandleMessage (s : State) (payload : Nat → UInt8) (len : Nat) (allocOk : Bool) : State :=
  if len < 4 then s
  else
    match c.msgCase (le16 payload 0) with
    | .intReason => if 6 ≤ len then apbaActionOnIntReason c s (le16 payload 4) allocOk else s
    | .pmEvent => s.emit [.modsUartPmHandleEvents s.modsUart (le16 payload 0)]
    | .logInd => { s with logFifo := logIndAppend c s.logFifo payload }
    | .logRequest => { s with comp := s.comp + 1 }
    | .baudAck =>
      let s := if payload 8 ≠ 0 then s.emit [.modsUartUpdateBaud s.modsUart (le32 payload 4)] else s
      { s with baudComp := s.baudComp + 1 }
    | .modeRequest => { s with modeComp := s.modeComp + 1 }
    | .unknown => s

/-! ## One case at a time -/

section Cases

variable {c} (s : State) (payload : Nat → UInt8) {len : Nat} (allocOk : Bool) (hlen : 4 ≤ len)
include hlen

theorem apbaHandleMessage_of_logInd (h : le16 payload 0 = c.logInd) :
    apbaHandleMessage c s payload len allocOk =
      { s with logFifo := logIndAppend c s.logFifo payload } := by
  rw [apbaHandleMessage, if_neg (by omega), h,
    show c.msgCase c.logInd = .logInd from c.msgCase_label 4]

theorem apbaHandleMessage_of_logRequest (h : le16 payload 0 = c.logRequest) :
    apbaHandleMessage c s payload len allocOk = { s with comp := s.comp + 1 } := by
  rw [apbaHandleMessage, if_neg (by omega), h,
    show c.msgCase c.logRequest = .logRequest from c.msgCase_label 5]

theorem apbaHandleMessage_of_baudAck (h : le16 payload 0 = c.baudAck) :
    apbaHandleMessage c s payload len allocOk =
      { s.emit (if payload 8 ≠ 0 then [.modsUartUpdateBaud s.modsUart (le32 payload 4)] else [])
        with baudComp := s.baudComp + 1 } := by
  rw [apbaHandleMessage, if_neg (by omega), h,
    show c.msgCase c.baudAck = .baudAck from c.msgCase_label 6]
  dsimp only
  split <;> simp

theorem apbaHandleMessage_of_modeRequest (h : le16 payload 0 = c.modeRequest) :
    apbaHandleMessage c s payload len allocOk = { s with modeComp := s.modeComp + 1 } := by
  rw [apbaHandleMessage, if_neg (by omega), h,
    show c.msgCase c.modeRequest = .modeRequest from c.msgCase_label 7]

end Cases

/-! ## What the handler reads

`ReadsOnlyBelow f len` says that `f` looks at a frame through its first `len` bytes only. -/

/-- `f` reads only the bytes of a frame below `len`: frames that agree there give one result. -/
def ReadsOnlyBelow {α : Type} (f : (Nat → UInt8) → α) (len : Nat) : Prop :=
  ∀ p p', (∀ i < len, p i = p' i) → f p = f p'

/-- The frame whose bytes are `l`, then zeros. -/
def frameOf (l : List UInt8) (i : Nat) : UInt8 := l.getD i 0

/-- A `u16` written by `cpu_to_le16` after `pre` reads back there: the header codec round-trips. -/
theorem le16_frameOf_toLe16 (pre : List UInt8) {v : Nat} (hv : v < 65536) (rest : List UInt8) :
    le16 (frameOf (pre ++ toLe16 v ++ rest)) pre.length = v := by
  have h0 : (pre ++ (toLe16 v ++ rest)).getD pre.length 0 = (v % 256).toUInt8 := by
    rw [List.getD_append_right _ _ _ _ le_rfl, Nat.sub_self]; rfl
  have h1 : (pre ++ (toLe16 v ++ rest)).getD (pre.length + 1) 0 = (v / 256 % 256).toUInt8 := by
    rw [List.getD_append_right _ _ _ _ (Nat.le_succ _), show pre.length.succ - pre.length = 1 by omega]
    rfl
  rw [le16, frameOf, frameOf, List.append_assoc, h0, h1]
  change v % 256 % 256 + 256 * (v / 256 % 256 % 256) = v
  omega

/-- A frame of type `type` and size `0`. -/
def emptyFrame (type : Nat) : Nat → UInt8 := frameOf (toLe16 type ++ [0, 0])

theorem le16_emptyFrame {type : Nat} (h : type < 65536) : le16 (emptyFrame type) 0 = type :=
  le16_frameOf_toLe16 [] h [0, 0]

/-- The frame `payload` with byte `i` replaced by `b`. -/
def setByte (payload : Nat → UInt8) (i : Nat) (b : UInt8) (j : Nat) : UInt8 :=
  if j = i then b else payload j

theorem le16_setByte (payload : Nat → UInt8) {i off : Nat} (h0 : off ≠ i) (h1 : off + 1 ≠ i)
    (b : UInt8) : le16 (setByte payload i b) off = le16 payload off := by
  simp only [le16, setByte, if_neg h0, if_neg h1]

theorem setByte_agree (payload : Nat → UInt8) {i len : Nat} (h : len ≤ i) (b b' : UInt8) :
    ∀ j < len, setByte payload i b j = setByte payload i b' j :=
  fun j hj => by simp only [setByte, if_neg (show j ≠ i by omega)]

/-- A short `BAUD_ACK` frame: the update is requested exactly when byte 8, past the frame, is
non-zero. -/
theorem apbaHandleMessage_baudAck_calls (s : State) (payload : Nat → UInt8) {len : Nat}
    (allocOk : Bool) (hlen : 4 ≤ len) (h : le16 payload 0 = c.baudAck) :
    (apbaHandleMessage c s payload len allocOk).calls =
      s.calls ++ if payload 8 ≠ 0 then [.modsUartUpdateBaud s.modsUart (le32 payload 4)] else [] := by
  rw [apbaHandleMessage_of_baudAck s payload allocOk hlen h, State.emit_calls]

/-- A `LOG_IND` frame whose payload fits the FIFO: the FIFO gains exactly the `size` bytes after
the header. -/
theorem apbaHandleMessage_logInd_buf (s : State) (payload : Nat → UInt8) {len : Nat}
    (allocOk : Bool) (hlen : 4 ≤ len) (h : le16 payload 0 = c.logInd)
    (hroom : s.logFifo.buf.length + le16 payload 2 ≤ apbaLogSize) :
    (apbaHandleMessage c s payload len allocOk).logFifo.buf =
      s.logFifo.buf ++ payloadBytes payload (le16 payload 2) := by
  rw [apbaHandleMessage_of_logInd s payload allocOk hlen h, logIndAppend_buf_eq]
  simp only [show ¬ apbaLogSize < s.logFifo.buf.length + le16 payload 2 by omega, if_false,
    List.drop_zero, Nat.sub_zero, show min (le16 payload 2) (apbaLogSize - s.logFifo.buf.length) =
      le16 payload 2 by omega]

/-- **The handler reads past the frame**: a `BAUD_ACK` frame of `len < 9` bytes has its
`accepted` field read at byte 8, so for every state and every such `len` the handler does not
read only the bytes below `len`; and a `LOG_IND` frame whose header announces `size = len - 3`
bytes has them all copied into the FIFO, byte `len` included, whenever they fit. -/
theorem apbaHandleMessage_reads_past_len (s : State) (allocOk : Bool) :
    (∀ len, 4 ≤ len → len < 9 →
      ¬ ReadsOnlyBelow (fun p => apbaHandleMessage c s p len allocOk) len) ∧
    (∀ len, 4 ≤ len → len < 65539 → s.logFifo.buf.length + (len - 3) ≤ apbaLogSize →
      ¬ ReadsOnlyBelow (fun p => apbaHandleMessage c s p len allocOk) len) := by
  constructor
  · intro len h4 h9 hr
    let p := frameOf ([] ++ toLe16 c.baudAck ++ [])
    have ht : ∀ b, le16 (setByte p 8 b) 0 = c.baudAck := fun b =>
      (le16_setByte p (by omega) (by omega) b).trans
        (le16_frameOf_toLe16 [] (c.caseLabels_lt c.baudAck (by simp)) [])
    have he := congrArg State.calls (hr _ _ (setByte_agree p (show len ≤ 8 by omega) 0 1))
    rw [apbaHandleMessage_baudAck_calls c s _ allocOk h4 (ht 0),
      apbaHandleMessage_baudAck_calls c s _ allocOk h4 (ht 1)] at he
    simp [setByte] at he
  · intro len h4 hmax hroom hr
    let p := frameOf (toLe16 c.logInd ++ toLe16 (len - 3) ++ [])
    have ht : ∀ b, le16 (setByte p len b) 0 = c.logInd := fun b =>
      (le16_setByte p (by omega) (by omega) b).trans
        (le16_frameOf_toLe16 [] (c.caseLabels_lt c.logInd (by simp)) (toLe16 (len - 3) ++ []))
    have hs : ∀ b, le16 (setByte p len b) 2 = len - 3 := fun b =>
      (le16_setByte p (by omega) (by omega) b).trans
        (le16_frameOf_toLe16 (toLe16 c.logInd) (by omega) [])
    have he := congrArg (fun s : State => s.logFifo.buf.getLast?)
      (hr _ _ (setByte_agree p (le_refl len) 0 1))
    simp only at he
    rw [apbaHandleMessage_logInd_buf c s _ allocOk h4 (ht 0) (by rw [hs]; exact hroom),
      apbaHandleMessage_logInd_buf c s _ allocOk h4 (ht 1) (by rw [hs]; exact hroom), hs, hs,
      payloadBytes, payloadBytes, show len - 3 = (len - 4) + 1 by omega, List.range_succ,
      List.map_append, List.map_append] at he
    simp [setByte, show 4 + (len - 4) = len by omega] at he

theorem apbaHandleMessage_reads_past_short_frames :
    ¬ ReadsOnlyBelow (fun p => apbaHandleMessage Consts.sample (State.kzalloc fun _ => none) p 8 true) 8 ∧
      ¬ ReadsOnlyBelow (fun p => apbaHandleMessage Consts.sample (State.kzalloc fun _ => none) p 5 true) 5 :=
  ⟨(apbaHandleMessage_reads_past_len Consts.sample _ true).1 8 (by decide) (by decide),
    (apbaHandleMessage_reads_past_len Consts.sample _ true).2 5 (by decide) (by decide) (by decide)⟩

end GreybusApba
