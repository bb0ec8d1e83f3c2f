import GreybusApba.Controller.Machine

/-!
# Controller/Guards — the transport handle and the master interface

`mods_uart` is `NULL` until `apba_uart_register`, and `master_intf` is `0` until
`apba_slave_notify`; the probe leaves both so (`apbaCtrlProbe_ok`). `apba_mode_store`,
`apba_baud_store` and `apba_on` ask for the handle before they use it, and `apbe_power_store` and
`apba_action_on_int_reason` ask for the master interface. Three uses of the handle and one of the
master interface do not ask: `apba_log_show` sends its request, the handler forwards PM events
to the transport, and `apba_disable` powers the APBE off with whatever master interface there is
(`null_handles_reached`).
-/

namespace GreybusApba

variable (c : Consts)

theorem probe_null_handles {dt : DeviceTree} {s : State} (h : apbaCtrlProbe dt = .ok s) :
    s.modsUart = 0 ∧ s.masterIntf = 0 ∧ s.desiredOn = 0 := by
  obtain ⟨z, hz, -, rfl⟩ := apbaCtrlProbe_ok h
  exact ⟨hz.modsUart, hz.masterIntf, hz.desiredOn⟩

/-- **The null handles are used**: right after a successful probe, `apba_log_show` sends its
request on the `NULL` transport, a `PM_WAKE_ACK` frame is forwarded to it, and
`apba_enable_store(1)` then `apba_enable_store(0)` powers the APBE off through master interface
`0`. -/
theorem null_handles_reached {dt : DeviceTree} {s₀ : State} (h : apbaCtrlProbe dt = .ok s₀)
    (sendRet clkRet : Int) (allocOk : Bool) (count : Nat) :
    .modsUartApbaSend 0 (logReqMsg c) ∈ (step c s₀ (.logShow sendRet)).calls ∧
    .modsUartPmHandleEvents 0 c.pmWakeAck ∈
      (step c s₀ (.handleMessage (emptyFrame c.pmWakeAck) 4 allocOk)).calls ∧
    .modsSlaveCtrlPower 0 c.slavePowerOff c.slaveMaskApbe ∈
      (run c s₀ [.apbaEnableStore (some 1) 0 count, .apbaEnableStore (some 0) clkRet count]).calls := by
  obtain ⟨hu, hm, -⟩ := probe_null_handles h
  have hty := le16_emptyFrame (c.caseLabels_lt c.pmWakeAck (by simp))
  refine ⟨by simp only [step, apbaLogShow, hu]; split <;> simp, ?_, ?_⟩
  · simp [step, apbaHandleMessage, hty, hu,
      show c.msgCase c.pmWakeAck = .pmEvent from c.msgCase_label 1]
  · simp [step, apbaEnableStore, apbaEnable, apbaDisable, hm]

theorem null_handles_reached_sample :
    ∃ s₀, apbaCtrlProbe DeviceTree.sample = .ok s₀ ∧
      .modsUartApbaSend 0 (logReqMsg Consts.sample) ∈ (step Consts.sample s₀ (.logShow 0)).calls ∧
      .modsUartPmHandleEvents 0 Consts.sample.pmWakeAck ∈
        (step Consts.sample s₀ (.handleMessage (emptyFrame Consts.sample.pmWakeAck) 4 true)).calls ∧
      .modsSlaveCtrlPower 0 Consts.sample.slavePowerOff Consts.sample.slaveMaskApbe ∈
        (run Consts.sample s₀ [.apbaEnableStore (some 1) 0 2, .apbaEnableStore (some 0) 0 2]).calls := by
  obtain ⟨s₀, h⟩ : ∃ s₀, apbaCtrlProbe DeviceTree.sample = .ok s₀ := ⟨_, rfl⟩
  exact ⟨s₀, h, null_handles_reached Consts.sample h 0 0 true 2⟩

end GreybusApba
