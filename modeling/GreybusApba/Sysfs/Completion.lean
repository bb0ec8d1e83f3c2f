import GreybusApba.Controller.Frame

/-!
# Sysfs/Completion — the three completions as counters

`apba_mode_store`, `apba_baud_store` and `apba_log_show` each wait on a completion: a counter
that the APBA's answer raises (a `MODE_REQUEST`, `BAUD_ACK` or `LOG_REQUEST` frame) and that a
successful wait lowers (`done_apbaHandleMessage`, `done_waitEnd`). Nothing ties an answer to the
request it answers, and nothing resets a counter before a request: an answer that arrives after
its request timed out stays counted, and the next request of its kind takes it and succeeds
without its own answer (`stale_answer_completes_next_wait`).

    send(v₁) ─▸ wait: timeout ─▸ answer to v₁: done = 1 ─▸ send(v₂) ─▸ wait: success
-/

namespace GreybusApba

variable (c : Consts)

/-! ## Request kinds -/

/-- The requests that wait for an answer. -/
inductive ReqKind where
  | mode
  | baud
  | log
  deriving DecidableEq, Repr

/-- The `done` count of the completion a request waits on. -/
def ReqKind.done : ReqKind → State → Nat
  | .mode, s => s.modeComp
  | .baud, s => s.baudComp
  | .log, s => s.comp

/-- The case of `apba_handle_message` that completes it. -/
def ReqKind.answerCase : ReqKind → MsgCase
  | .mode => .modeRequest
  | .baud => .baudAck
  | .log => .logRequest

/-- The frame type of the answer. -/
def ReqKind.answerType : ReqKind → Nat
  | .mode => c.modeRequest
  | .baud => c.baudAck
  | .log => c.logRequest

/-- The kind of request a waiting caller made. -/
def Waiter.kind : Waiter → ReqKind
  | .mode .. => .mode
  | .baud _ => .baud
  | .log => .log

/-- The send half of a request for `val` whose transport send succeeds. -/
def ReqKind.send (val count : Nat) : ReqKind → Op
  | .mode => .modeStore (some val) 0 count
  | .baud => .baudStore (some val) 0 count
  | .log => .logShow 0

/-- The caller it leaves waiting. -/
def ReqKind.waiter (val count : Nat) : ReqKind → Waiter
  | .mode => .mode val count
  | .baud => .baud count
  | .log => .log

/-- The APBA's answer: a frame of the answer's type with an empty payload. -/
def ReqKind.answer (k : ReqKind) : Op := .handleMessage (emptyFrame (k.answerType c)) 4 true

/-- The wait of the `i`-th caller ends successfully: the completion it waits on is done. -/
def waitSucceeds (s : State) (i : Nat) : Bool :=
  match s.waiters[i]? with
  | some w => 0 < w.kind.done s
  | none => false

theorem ReqKind.done_eq_of_ctl {s s' : State} (h : s'.ctl = s.ctl) (k : ReqKind) :
    k.done s' = k.done s := by
  simp only [State.ctl, Prod.mk.injEq] at h
  cases k
  exacts [h.2.2.2, h.2.2.1, h.2.1]

@[simp] theorem ReqKind.waiter_kind (val count : Nat) (k : ReqKind) : (k.waiter val count).kind = k := by
  cases k <;> rfl

theorem ReqKind.msgCase_answerType (k : ReqKind) : c.msgCase (k.answerType c) = k.answerCase := by
  cases k
  exacts [c.msgCase_label 7, c.msgCase_label 6, c.msgCase_label 5]

theorem ReqKind.answerType_lt (k : ReqKind) : k.answerType c < 65536 := by
  cases k <;> exact c.caseLabels_lt _ (by simp [ReqKind.answerType])

/-! ## What the handler and the end of a wait do to the counters -/

/-- The answers of kind `k` an operation delivers. -/
def answers (k : ReqKind) : Op → Nat
  | .handleMessage payload len _ => if 4 ≤ len ∧ c.msgCase (le16 payload 0) = k.answerCase then 1 else 0
  | _ => 0

/-- The completions of kind `k` an operation takes: one when it ends a wait on `k` that
succeeds. -/
def takes (k : ReqKind) (s : State) : Op → Nat
  | .waitEnd i => if s.waiters[i]?.map Waiter.kind = some k ∧ waitSucceeds s i then 1 else 0
  | _ => 0

theorem done_apbaActionOnIntReason (k : ReqKind) (s : State) (reason : Nat) (allocOk : Bool) :
    k.done (apbaActionOnIntReason c s reason allocOk) = k.done s :=
  ReqKind.done_eq_of_ctl (ctl_apbaActionOnIntReason c s reason allocOk) k

theorem done_apbaHandleMessage (k : ReqKind) (s : State) (payload : Nat → UInt8) (len : Nat)
    (allocOk : Bool) :
    k.done (apbaHandleMessage c s payload len allocOk) =
      k.done s + answers c k (.handleMessage payload len allocOk) := by
  simp only [apbaHandleMessage, answers]
  split
  · rw [if_neg (by omega)]; rfl
  · have h4 : 4 ≤ len := by omega
    split <;> rename_i hm <;> simp only [hm, h4, true_and]
    · rw [if_neg (show ¬MsgCase.intReason = k.answerCase by cases k <;> decide)]
      split
      · exact done_apbaActionOnIntReason c k s _ allocOk
      · rfl
    all_goals cases k <;> simp [ReqKind.answerCase, ReqKind.done]
    all_goals split <;> rfl

/-- The end of a wait takes one from the completion it waits on when it is done. -/
theorem done_waitEnd (k : ReqKind) (s : State) (i : Nat) :
    k.done (waitEnd c s i).1 + takes k s (.waitEnd i) = k.done s := by
  simp only [waitEnd, takes, waitSucceeds]
  split
  · next h => simp [h]
  · next w h =>
    cases w <;> cases k <;> simp only [h, Option.map_some', Waiter.kind, ReqKind.done,
      Option.some.injEq, reduceCtorEq, false_and, if_false, Nat.add_zero, true_and, decide_eq_true_eq]
    all_goals (repeat' split) <;> first | rfl | (dsimp only [State.emit]; omega)

/-! ## The requests -/

theorem apbaActionOnIntReason_waiters (s : State) (reason : Nat) (allocOk : Bool) :
    (apbaActionOnIntReason c s reason allocOk).waiters = s.waiters ∧
      (apbaActionOnIntReason c s reason allocOk).modsUart = s.modsUart := by
  obtain ⟨cs, -, e | ⟨present, e⟩⟩ := apbaActionOnIntReason_cases c s reason allocOk <;> rw [e]
  · exact ⟨rfl, rfl⟩
  · unfold apbaNotifyAbpeAttach; split <;> exact ⟨rfl, rfl⟩

theorem apbaHandleMessage_waiters (s : State) (payload : Nat → UInt8) (len : Nat) (allocOk : Bool) :
    (apbaHandleMessage c s payload len allocOk).waiters = s.waiters ∧
      (apbaHandleMessage c s payload len allocOk).modsUart = s.modsUart := by
  unfold apbaHandleMessage
  split
  · exact ⟨rfl, rfl⟩
  split
  · split
    · exact apbaActionOnIntReason_waiters c s _ allocOk
    · exact ⟨rfl, rfl⟩
  all_goals first | exact ⟨rfl, rfl⟩ | (dsimp only; split <;> exact ⟨rfl, rfl⟩)

theorem waitEnd_waiters (s : State) (i : Nat) :
    (waitEnd c s i).1.waiters = s.waiters.eraseIdx i ∧ (waitEnd c s i).1.modsUart = s.modsUart := by
  simp only [waitEnd]
  split
  · next h => exact ⟨(List.eraseIdx_of_length_le (List.getElem?_eq_none_iff.mp h)).symm, rfl⟩
  · next w _ => cases w <;> dsimp only <;> split <;> exact ⟨rfl, rfl⟩

/-- With a transport registered, a request's send leaves its caller waiting last and touches
no counter. -/
theorem step_send (k : ReqKind) (s : State) (hu : s.modsUart ≠ 0) (val count : Nat) :
    (step c s (k.send val count)).waiters = s.waiters ++ [k.waiter val count] ∧
      (step c s (k.send val count)).modsUart = s.modsUart ∧
      (step c s (k.send val count)).ctl = s.ctl := by
  cases k <;> simp [ReqKind.send, ReqKind.waiter, step, apbaModeStore, apbaBaudStore, apbaLogShow,
    hu] <;> rfl

/-- An answer raises its counter and leaves the waiting callers alone. -/
theorem step_answer (k : ReqKind) (s : State) :
    k.done (step c s (k.answer c)) = k.done s + 1 ∧
      (step c s (k.answer c)).waiters = s.waiters ∧
      (step c s (k.answer c)).modsUart = s.modsUart := by
  have h := done_apbaHandleMessage c k s (emptyFrame (k.answerType c)) 4 true
  rw [answers, le16_emptyFrame (k.answerType_lt c), k.msgCase_answerType c, if_pos ⟨le_rfl, rfl⟩] at h
  exact ⟨h, apbaHandleMessage_waiters c s _ 4 true⟩

/-- **A late answer completes the next request's wait**: from any state with a transport and no
answer of kind `k` pending, a request that times out, the APBA's answer to it arriving after
the timeout, and a second request of the same kind leave the second request waiting where the
first did, and its wait succeeds, though no answer came after it was sent. -/
theorem stale_answer_completes_next_wait (k : ReqKind) (s : State) (hu : s.modsUart ≠ 0)
    (h0 : k.done s = 0) (v₁ n₁ v₂ n₂ : Nat) :
    let i := s.waiters.length
    let s₁ := step c s (k.send v₁ n₁)
    let s₂ := run c (waitEnd c s₁ i).1 [k.answer c, k.send v₂ n₂]
    waitSucceeds s₁ i = false ∧ s₂.waiters[i]? = some (k.waiter v₂ n₂) ∧ waitSucceeds s₂ i = true := by
  intro i s₁ s₂
  obtain ⟨w₁, u₁, c₁⟩ := step_send c k s hu v₁ n₁
  have hi₁ : s₁.waiters[i]? = some (k.waiter v₁ n₁) := by
    rw [w₁, List.getElem?_append_right le_rfl, Nat.sub_self]; rfl
  have d₁ : k.done s₁ = 0 := by rw [ReqKind.done_eq_of_ctl c₁, h0]
  have hs₁ : waitSucceeds s₁ i = false := by simp [waitSucceeds, hi₁, d₁]
  -- the first wait times out: its caller leaves, the counter stays
  obtain ⟨w₂, u₂⟩ := waitEnd_waiters c s₁ i
  have d₂ := done_waitEnd c k s₁ i
  simp only [takes, hs₁, Bool.false_eq_true, and_false, if_false, Nat.add_zero, d₁] at d₂
  rw [w₁, List.eraseIdx_append_of_length_le le_rfl, Nat.sub_self, List.eraseIdx_cons_zero,
    List.append_nil] at w₂
  -- the late answer, then the second request
  obtain ⟨d₃, w₃, u₃⟩ := step_answer c k (waitEnd c s₁ i).1
  obtain ⟨w₄, -, c₄⟩ := step_send c k _ (by rw [u₃, u₂, u₁]; exact hu) v₂ n₂
  have hi₂ : s₂.waiters[i]? = some (k.waiter v₂ n₂) := by
    simp only [s₂, run_cons, run_nil]
    rw [w₄, w₃, w₂, List.getElem?_append_right le_rfl, Nat.sub_self]; rfl
  refine ⟨hs₁, hi₂, ?_⟩
  simp only [waitSucceeds, hi₂, ReqKind.waiter_kind, decide_eq_true_eq]
  simp only [s₂, run_cons, run_nil]
  rw [ReqKind.done_eq_of_ctl c₄, d₃, d₂]
  exact Nat.one_pos

theorem stale_answer_completes_next_mode_wait :
    ∃ s₀, apbaCtrlProbe DeviceTree.sample = .ok s₀ ∧
      let s := step Consts.sample s₀ (.uartRegister 1)
      let i := s.waiters.length
      let s₁ := step Consts.sample s (ReqKind.mode.send 1 2)
      let s₂ := run Consts.sample (waitEnd Consts.sample s₁ i).1
        [ReqKind.mode.answer Consts.sample, ReqKind.mode.send 2 2]
      waitSucceeds s₁ i = false ∧ s₂.waiters[i]? = some (ReqKind.mode.waiter 2 2) ∧
        waitSucceeds s₂ i = true := by
  obtain ⟨s₀, h⟩ : ∃ s₀, apbaCtrlProbe DeviceTree.sample = .ok s₀ := ⟨_, rfl⟩
  obtain ⟨z, hz, -, rfl⟩ := apbaCtrlProbe_ok h
  exact ⟨_, h, stale_answer_completes_next_wait Consts.sample .mode
    (step Consts.sample (apbaOn z false) (.uartRegister 1)) Nat.one_ne_zero hz.modeComp 1 2 2 2⟩

end GreybusApba
