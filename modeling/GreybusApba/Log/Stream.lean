import GreybusApba.Controller.Frame

/-!
# Log/Stream — the log as a window on the stream of `LOG_IND` payloads

What the log is for: it holds the newest `APBA_LOG_SIZE` bytes of what the APBA sent with
`LOG_IND`, and `apba_log_show` reads it oldest byte first. Each event takes one run of bytes off
the front: the run a drain returns, or the run an append pushes out. Over any sequence of events,
what was there and what was appended is the runs taken off, in order, followed by what is left
(`logRun_conservation`): nothing is reordered or read twice, and what is lost is whole runs of
the oldest bytes.

    B ++ appended  =  run₁ ++ run₂ ++ … ++ runₖ ++ final        (runᵢ drained or pushed out)

The driver refines the window when `APBA_MSG_SIZE_MAX` is at most `APBA_LOG_SIZE`, as the
protocol's message size bounds a payload: a `LOG_IND` frame whose header size is at most
`APBA_MSG_SIZE_MAX` is an append, the end of a successful `apba_log_show` wait drains
`PAGE_SIZE - 1` bytes and hands them to the reader, and no other operation touches the FIFO
(`run_logFifo`). The bytes the readers get over a run are the window's drained runs
(`runLogRead_eq`).
-/

namespace GreybusApba

/-! ## The stream -/

/-- What happens to the log: bytes appended, or up to `n` bytes read. -/
inductive LogEvent where
  | append (bytes : List UInt8)
  | drain (n : Nat)

/-- The bytes an event brings. -/
def LogEvent.input : LogEvent → List UInt8
  | .append bytes => bytes
  | .drain _ => []

/-- One event on the contents `buf`: the new contents, and the run taken off the front, marked
`true` when it is read and `false` when it is pushed out. An append keeps the newest
`APBA_LOG_SIZE` bytes. -/
def logStep (buf : List UInt8) : LogEvent → List UInt8 × (Bool × List UInt8)
  | .append bytes =>
    let l := buf ++ bytes
    (l.drop (l.length - apbaLogSize), (false, l.take (l.length - apbaLogSize)))
  | .drain n => (buf.drop n, (true, buf.take n))

/-- A sequence of events: the final contents, and the runs taken off in order. -/
def logRun (buf : List UInt8) : List LogEvent → List UInt8 × List (Bool × List UInt8)
  | [] => (buf, [])
  | ev :: evs =>
    let r := logRun (logStep buf ev).1 evs
    (r.1, (logStep buf ev).2 :: r.2)

/-- The bytes read, in the order they were read. -/
def drained (runs : List (Bool × List UInt8)) : List UInt8 :=
  ((runs.filter Prod.fst).map Prod.snd).flatten

theorem drained_cons (r : Bool × List UInt8) (runs : List (Bool × List UInt8)) :
    drained (r :: runs) = drained [r] ++ drained runs := by
  rcases r with ⟨_ | _, l⟩ <;> simp [drained]

theorem logStep_conservation (buf : List UInt8) (ev : LogEvent) :
    buf ++ ev.input = (logStep buf ev).2.2 ++ (logStep buf ev).1 := by
  cases ev <;> simp only [logStep, LogEvent.input, List.take_append_drop, List.append_nil]

/-- An append of at most `APBA_LOG_SIZE` bytes keeps them all, and pushes out only a run of the
oldest bytes that were there. -/
theorem logStep_append_of_le (buf bytes : List UInt8) (h : bytes.length ≤ apbaLogSize) :
    List.IsSuffix bytes (logStep buf (.append bytes)).1 ∧
      List.IsPrefix (logStep buf (.append bytes)).2.2 buf := by
  have hk : (buf ++ bytes).length - apbaLogSize ≤ buf.length := by
    simp only [List.length_append]; omega
  simp only [logStep]
  rw [List.drop_append_of_le_length hk, List.take_append_of_le_length hk]
  exact ⟨List.suffix_append _ _, List.take_prefix _ _⟩

/-- **Conservation**: the contents before and the bytes appended are the runs taken off, in
order, followed by the contents after. -/
theorem logRun_conservation (buf : List UInt8) (evs : List LogEvent) :
    buf ++ (evs.map LogEvent.input).flatten = ((logRun buf evs).2.map Prod.snd).flatten ++ (logRun buf evs).1 := by
  induction evs generalizing buf with
  | nil => simp [logRun]
  | cons ev evs ih =>
    simp only [logRun, List.map_cons, List.flatten_cons, ← List.append_assoc, logStep_conservation]
    rw [List.append_assoc, ih, List.append_assoc]

theorem drained_sublist_runs (runs : List (Bool × List UInt8)) :
    List.Sublist (drained runs) (runs.map Prod.snd).flatten := by
  induction runs with
  | nil => exact .slnil
  | cons r runs ih =>
    rcases r with ⟨_ | _, l⟩
    · simpa [drained] using ih.trans (List.sublist_append_right l _)
    · simpa [drained] using (List.Sublist.refl l).append ih

/-- The bytes read are a sublist of the bytes there were and appended: in order, none twice. -/
theorem drained_sublist (buf : List UInt8) (evs : List LogEvent) :
    List.Sublist (drained (logRun buf evs).2) (buf ++ (evs.map LogEvent.input).flatten) := by
  rw [logRun_conservation]
  exact (drained_sublist_runs _).trans (List.sublist_append_left _ _)

/-! ## The driver's FIFO refines the window -/

/-- A `LOG_IND` frame that announces at most `APBA_MSG_SIZE_MAX` and at most `APBA_LOG_SIZE`
bytes appends them. -/
theorem logIndAppend_eq_logStep (c : Consts) (f : LogFifo) (payload : Nat → UInt8)
    (hmax : le16 payload 2 ≤ c.msgSizeMax) (hcap : le16 payload 2 ≤ apbaLogSize) :
    (logIndAppend c f payload).buf =
      (logStep f.buf (.append (payloadBytes payload (le16 payload 2)))).1 := by
  rw [logIndAppend_buf c f payload hmax hcap]
  have h : f.buf.length + le16 payload 2 - min apbaLogSize (f.buf.length + le16 payload 2) =
      f.buf.length + le16 payload 2 - apbaLogSize := by omega
  simp only [logStep, List.length_append, length_payloadBytes, h]

variable (c : Consts)

theorem apbaHandleMessage_logFifo_of_logInd (s : State) (payload : Nat → UInt8) {len : Nat}
    (allocOk : Bool) (hlen : 4 ≤ len) (h : c.msgCase (le16 payload 0) = .logInd) :
    (apbaHandleMessage c s payload len allocOk).logFifo = logIndAppend c s.logFifo payload := by
  rw [apbaHandleMessage, if_neg (by omega), h]

/-- Every frame but a `LOG_IND` one leaves the FIFO alone. -/
theorem apbaHandleMessage_logFifo (s : State) (payload : Nat → UInt8) (len : Nat) (allocOk : Bool)
    (h : ¬ (4 ≤ len ∧ c.msgCase (le16 payload 0) = .logInd)) :
    (apbaHandleMessage c s payload len allocOk).logFifo = s.logFifo := by
  unfold apbaHandleMessage
  split
  · rfl
  · split
    · split
      · exact congrArg Prod.fst (ctl_apbaActionOnIntReason c s _ allocOk)
      · rfl
    · rfl
    · next hc => exact absurd ⟨by omega, hc⟩ h
    all_goals first | rfl | (dsimp only; split <;> rfl)

/-- The end of a successful `apba_log_show` wait drains `PAGE_SIZE - 1` bytes, hands them to the
reader and returns how many it drained. -/
theorem waitEnd_log (s : State) (i : Nat) (hw : s.waiters[i]? = some .log) (hc : 0 < s.comp) :
    (waitEnd c s i).1.logFifo.buf = (logStep s.logFifo.buf (.drain (c.pageSize - 1))).1 ∧
      (waitEnd c s i).2.2 = (logStep s.logFifo.buf (.drain (c.pageSize - 1))).2.2 ∧
      (waitEnd c s i).2.1 = min s.logFifo.buf.length (c.pageSize - 1) := by
  simp only [waitEnd, hw, if_pos hc, LogFifo.kfifoOut_buf, LogFifo.kfifoOut_out, List.length_take,
    logStep, true_and]
  rw [Nat.min_comm]

/-- Every other end of a wait leaves the FIFO alone and hands nothing to its caller. -/
theorem waitEnd_logFifo (s : State) (i : Nat) (h : ¬ (s.waiters[i]? = some .log ∧ 0 < s.comp)) :
    (waitEnd c s i).1.logFifo = s.logFifo ∧ (waitEnd c s i).2.2 = [] := by
  unfold waitEnd
  split
  · exact ⟨rfl, rfl⟩
  · next w hw =>
    cases w with
    | mode => dsimp only; split <;> exact ⟨rfl, rfl⟩
    | baud => dsimp only; split <;> exact ⟨rfl, rfl⟩
    | log =>
      dsimp only
      split
      · next hc => exact absurd ⟨hw, hc⟩ h
      · exact ⟨rfl, rfl⟩

/-! ## Runs of the driver -/

/-- The event an operation is on the log, if any. -/
def logEvent (s : State) : Op → Option LogEvent
  | .handleMessage payload len _ =>
    if 4 ≤ len ∧ c.msgCase (le16 payload 0) = .logInd then
      some (.append (payloadBytes payload (le16 payload 2)))
    else none
  | .waitEnd i => if s.waiters[i]? = some .log ∧ 0 < s.comp then some (.drain (c.pageSize - 1)) else none
  | _ => none

/-- The events a run is on the log, in order. -/
def logEvents : State → List Op → List LogEvent
  | _, [] => []
  | s, op :: ops => (logEvent c s op).toList ++ logEvents (step c s op) ops

/-- The log bytes an operation hands to its caller: those `apba_log_show` copies out of the FIFO
into the buffer it was given. -/
def logRead (s : State) : Op → List UInt8
  | .waitEnd i => (waitEnd c s i).2.2
  | _ => []

/-- The log bytes a run hands to its callers, in order. -/
def runLogRead : State → List Op → List UInt8
  | _, [] => []
  | s, op :: ops => logRead c s op ++ runLogRead (step c s op) ops

/-- A `LOG_IND` frame announces at most `APBA_MSG_SIZE_MAX` bytes. -/
def LogFits : Op → Prop
  | .handleMessage payload len _ =>
    4 ≤ len → c.msgCase (le16 payload 0) = .logInd → le16 payload 2 ≤ c.msgSizeMax
  | _ => True

/-- What an operation hands out of the log is what its event reads off the window. -/
theorem logRead_eq (s : State) (op : Op) :
    logRead c s op = ((logEvent c s op).map fun ev => drained [(logStep s.logFifo.buf ev).2]).getD [] := by
  cases op with
  | waitEnd i =>
    simp only [logRead, logEvent]
    split
    · next h =>
      rw [(waitEnd_log c s i h.1 h.2).2.1]
      exact (List.append_nil _).symm
    · next h => rw [(waitEnd_logFifo c s i h).2]; rfl
  | handleMessage => simp only [logRead, logEvent]; split <;> rfl
  | _ => rfl

section MsgSizeMax

variable {c} (hc : c.msgSizeMax ≤ apbaLogSize)
include hc

theorem step_logFifo (s : State) (op : Op) (hfit : LogFits c op) :
    (step c s op).logFifo.buf =
      ((logEvent c s op).map fun ev => (logStep s.logFifo.buf ev).1).getD s.logFifo.buf := by
  cases ht : op.touchesCtl
  · have hnone : logEvent c s op = none := by cases op <;> first | rfl | cases ht
    have hl : (step c s op).logFifo = s.logFifo := congrArg Prod.fst (step_ctl c s op ht)
    rw [hnone, hl]
    rfl
  cases op with
  | handleMessage payload len allocOk =>
    simp only [step, logEvent]
    split
    · next h =>
      rw [apbaHandleMessage_logFifo_of_logInd c s payload allocOk h.1 h.2, Option.map_some',
        Option.getD_some]
      exact logIndAppend_eq_logStep c _ payload (hfit h.1 h.2) ((hfit h.1 h.2).trans hc)
    · next h =>
      rw [apbaHandleMessage_logFifo c s payload len allocOk h, Option.map_none', Option.getD_none]
  | waitEnd i =>
    simp only [step, logEvent]
    split
    · next h =>
      rw [Option.map_some', Option.getD_some]
      exact (waitEnd_log c s i h.1 h.2).1
    · next h => rw [(waitEnd_logFifo c s i h).1, Option.map_none', Option.getD_none]
  | _ => cases ht

/-- **The driver's log is the window**: over every run whose `LOG_IND` frames fit, the FIFO
ends as the window does after the run's log events. -/
theorem run_logFifo (s : State) (ops : List Op) (hfit : ∀ op ∈ ops, LogFits c op) :
    (run c s ops).logFifo.buf = (logRun s.logFifo.buf (logEvents c s ops)).1 := by
  induction ops generalizing s with
  | nil => rfl
  | cons op ops ih =>
    rw [run_cons, ih _ fun op' h => hfit op' (List.mem_cons_of_mem _ h), logEvents,
      step_logFifo hc s op (hfit op (List.mem_cons_self _ _))]
    cases logEvent c s op <;> rfl

/-- **The readers get the window's drained runs**: over every run whose `LOG_IND` frames fit,
the bytes `apba_log_show` hands out are the runs the window's drains take off, in order. -/
theorem runLogRead_eq (s : State) (ops : List Op) (hfit : ∀ op ∈ ops, LogFits c op) :
    runLogRead c s ops = drained (logRun s.logFifo.buf (logEvents c s ops)).2 := by
  induction ops generalizing s with
  | nil => rfl
  | cons op ops ih =>
    rw [runLogRead, ih _ fun op' h => hfit op' (List.mem_cons_of_mem _ h), logRead_eq, logEvents,
      step_logFifo hc s op (hfit op (List.mem_cons_self _ _))]
    cases logEvent c s op with
    | none => rfl
    | some ev => exact (drained_cons _ _).symm

end MsgSizeMax

/-! ## The log of the driver -/

/-- **The log keeps the newest bytes, in order**, when `APBA_MSG_SIZE_MAX` is at most
`APBA_LOG_SIZE`. A `LOG_IND` frame whose header size is at most `APBA_MSG_SIZE_MAX` leaves the
FIFO as the last `min(APBA_LOG_SIZE, |B| + size)` bytes of its contents `B` followed by the
payload, which it keeps in full; the end of a successful `apba_log_show` wait removes the first
`min(|B|, PAGE_SIZE - 1)` bytes of `B`, hands exactly those to the reader and returns their
number; and over every run whose `LOG_IND` frames fit, the FIFO is the window after the run's
log events, the bytes handed to the readers are the window's drained runs, what was there and
was appended is the runs taken off followed by the FIFO, and the bytes read are in order, none
twice. The FIFO never holds more than `APBA_LOG_SIZE` bytes: `LogFifo` carries the bound. -/
theorem logFifo_window (hc : c.msgSizeMax ≤ apbaLogSize) :
    (∀ (s : State) (payload : Nat → UInt8) (len : Nat) (allocOk : Bool), 4 ≤ len →
      le16 payload 0 = c.logInd → le16 payload 2 ≤ c.msgSizeMax →
      let l := s.logFifo.buf ++ payloadBytes payload (le16 payload 2)
      (apbaHandleMessage c s payload len allocOk).logFifo.buf =
          l.drop (l.length - min apbaLogSize (s.logFifo.buf.length + le16 payload 2)) ∧
        List.IsSuffix (payloadBytes payload (le16 payload 2))
          (apbaHandleMessage c s payload len allocOk).logFifo.buf) ∧
    (∀ (s : State) (i : Nat), s.waiters[i]? = some .log → 0 < s.comp →
      (waitEnd c s i).1.logFifo.buf = s.logFifo.buf.drop (c.pageSize - 1) ∧
        (waitEnd c s i).2.2 = s.logFifo.buf.take (c.pageSize - 1) ∧
        (waitEnd c s i).2.1 = min s.logFifo.buf.length (c.pageSize - 1)) ∧
    (∀ (s : State) (ops : List Op), (∀ op ∈ ops, LogFits c op) →
      let evs := logEvents c s ops
      let r := logRun s.logFifo.buf evs
      (run c s ops).logFifo.buf = r.1 ∧ runLogRead c s ops = drained r.2 ∧
        s.logFifo.buf ++ (evs.map LogEvent.input).flatten = (r.2.map Prod.snd).flatten ++ r.1 ∧
        List.Sublist (runLogRead c s ops) (s.logFifo.buf ++ (evs.map LogEvent.input).flatten)) := by
  refine ⟨fun s payload len allocOk hlen h hmax => ?_, fun s i hw hcomp => waitEnd_log c s i hw hcomp,
    fun s ops hfit => ⟨run_logFifo hc s ops hfit, runLogRead_eq hc s ops hfit,
      logRun_conservation _ _, runLogRead_eq hc s ops hfit ▸ drained_sublist _ _⟩⟩
  have hcap := hmax.trans hc
  rw [apbaHandleMessage_logFifo_of_logInd c s payload allocOk hlen (by rw [h]; exact c.msgCase_label 4)]
  exact ⟨logIndAppend_buf c _ payload hmax hcap, logIndAppend_eq_logStep c _ payload hmax hcap ▸
    (logStep_append_of_le _ _ (by rw [length_payloadBytes]; exact hcap)).1⟩

/-- A two-byte `LOG_IND` frame into the empty log of the sample constants. -/
theorem logFifo_window_two_bytes :
    Consts.sample.msgSizeMax ≤ apbaLogSize ∧
    (apbaHandleMessage Consts.sample (State.kzalloc fun _ => none)
        (frameOf (toLe16 Consts.sample.logInd ++ toLe16 2 ++ [7, 8])) 6 true).logFifo.buf =
      let B := (State.kzalloc fun _ => none).logFifo.buf
      let payload := frameOf (toLe16 Consts.sample.logInd ++ toLe16 2 ++ [7, 8])
      let l := B ++ payloadBytes payload (le16 payload 2)
      l.drop (l.length - min apbaLogSize (B.length + le16 payload 2)) :=
  ⟨by decide, ((logFifo_window Consts.sample (by decide)).1 _ _ _ _ (by decide) (by decide)
    (by decide)).1⟩

end GreybusApba
