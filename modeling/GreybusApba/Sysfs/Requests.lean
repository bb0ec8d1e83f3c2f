import GreybusApba.Protocol.Message

/-!
# Sysfs/Requests — the requests to the APBA: `apba_mode_store`, `apba_baud_store`, `apba_log_show`

Each sends a request and blocks in `wait_for_completion_timeout` on the completion the handler
raises for the answer: `mode_comp` for `MODE_REQUEST`, `baud_comp` for `BAUD_ACK`, `comp` for
`LOG_REQUEST`. A request is modelled in two halves: the send, which leaves a `Waiter` in the state,
and `waitEnd`, which ends one wait. The wait succeeds when the completion's `done` count is
positive, taking one from it, and times out otherwise; anything can happen in between, a frame
from the APBA included.

    mode:  send MODE_REQUEST ─▸ wait(mode_comp) ─▸ success: mode := val
    baud:  send BAUD_REQUEST ─▸ lock tx ─▸ wait(baud_comp) ─▸ unlock tx; success: count, else -EAGAIN
    log:   send LOG_REQUEST  ─▸ wait(comp) ─▸ success: kfifo_out(buf, PAGE_SIZE - 1)

Nothing resets a completion between requests (`reinit_completion` is never called).
-/

namespace GreybusApba

variable (c : Consts)

/-! ## Request messages -/

/-- `struct apba_mode_req` for mode `val`: the header (`MODE_REQUEST`, size 1) and `(uint8_t)val`. -/
def modeReqMsg (val : Nat) : List UInt8 := toLe16 c.modeRequest ++ toLe16 1 ++ [val.toUInt8]

/-- `struct apba_baud_req` for `val`: the header (`BAUD_REQUEST`, size 4) and `cpu_to_le32(val)`. -/
def baudReqMsg (val : Nat) : List UInt8 := toLe16 c.baudRequest ++ toLe16 4 ++ toLe32 val

/-- The header `apba_log_show` sends: `LOG_REQUEST`, size 0. -/
def logReqMsg : List UInt8 := toLe16 c.logRequest ++ [0, 0]

/-! ## The send halves

Each takes what `kstrtoul` parses from the write (`none` when it fails), what
`mods_uart_apba_send` returns, and the size `count` of the write; it returns the state and the
caller's return value, or `none` while the caller waits. -/

/-- `apba_mode_store` (with `g_ctrl` set) up to its wait. -/
def apbaModeStore (s : State) (val : Option Nat) (sendRet : Int) (count : Nat) :
    State × Option Int :=
  if s.modsUart = 0 then (s, some 0)
  else
    match val with
    | none => (s, some (-einval))
    | some v =>
      let s := s.emit [.modsUartApbaSend s.modsUart (modeReqMsg c v)]
      if sendRet ≠ 0 then (s, some count)
      else ({ s with waiters := s.waiters ++ [.mode v count] }, none)

/-- `apba_baud_store` (with `g_ctrl` set) up to its wait: after the send, transmission is locked
until the acknowledgement. -/
def apbaBaudStore (s : State) (val : Option Nat) (sendRet : Int) (count : Nat) :
    State × Option Int :=
  if s.modsUart = 0 then (s, some (-enodev))
  else
    match val with
    | none => (s, some (-einval))
    | some v =>
      let s := s.emit [.modsUartApbaSend s.modsUart (baudReqMsg c v)]
      if sendRet ≠ 0 then (s, some (-eio))
      else
        ({ s.emit [.modsUartLockTx s.modsUart true] with waiters := s.waiters ++ [.baud count] },
          none)

/-- `apba_log_show` (with `g_ctrl` set) up to its wait. Unlike the two stores it does not check
`mods_uart` before sending. -/
def apbaLogShow (s : State) (sendRet : Int) : State × Option Int :=
  let s := s.emit [.modsUartApbaSend s.modsUart (logReqMsg c)]
  if sendRet ≠ 0 then (s, some 0)
  else ({ s with waiters := s.waiters ++ [.log] }, none)

/-! ## The end of a wait -/

/-- The wait of the `i`-th waiting caller ends, and the caller finishes: with a completion taken
when `done > 0`, timed out otherwise. The second component is the caller's return value (`0` when
there is no `i`-th caller), the third the bytes it copies into the buffer it was handed: those
`kfifo_out` takes off the log for `apba_log_show`, none for the stores. -/
def waitEnd (s : State) (i : Nat) : State × Int × List UInt8 :=
  match s.waiters[i]? with
  | none => (s, 0, [])
  | some w =>
    let s := { s with waiters := s.waiters.eraseIdx i }
    match w with
    | .mode val count =>
      if 0 < s.modeComp then ({ s with modeComp := s.modeComp - 1, mode := val.toUInt8 }, count, [])
      else (s, count, [])
    | .baud count =>
      if 0 < s.baudComp then
        (({ s with baudComp := s.baudComp - 1 }).emit [.modsUartLockTx s.modsUart false], count, [])
      else (s.emit [.modsUartLockTx s.modsUart false], -eagain, [])
    | .log =>
      if 0 < s.comp then
        let r := s.logFifo.kfifoOut (c.pageSize - 1)
        ({ s with comp := s.comp - 1, logFifo := r.1 }, r.2.length, r.2)
      else (s, 0, [])

/-! ## The other attributes the transport and the APBE back -/

/-- `apba_baud_show` (with `g_ctrl` set): ask the transport for its baud rate. -/
def apbaBaudShow (s : State) : State :=
  if s.modsUart = 0 then s else s.emit [.modsUartGetBaud s.modsUart]

/-- `apbe_power_store` (with `g_ctrl` set): once a master interface is known, power the APBE on
(`1`) or off (`0`). -/
def apbePowerStore (s : State) (val : Option Nat) (count : Nat) : State × Int :=
  if s.masterIntf = 0 then (s, -einval)
  else
    match val with
    | some v =>
      if v = 0 ∨ v = 1 then (s.emit [.modsSlaveCtrlPower s.masterIntf v c.slaveMaskApbe], count)
      else (s, -einval)
    | none => (s, -einval)

end GreybusApba
