import Mathlib

/-!
# Driver/Basic — the constants of `apba.c`, its byte codecs, and the calls it makes

The driver is modelled by explicit state passing: a function of `apba.c` takes the driver's state
and returns the next one, and whatever it asks of a collaborator (a GPIO, the clock, the UART
transport, the MTD layer, the slave-control bus, the firmware loader) is appended to a call log.
This module fixes the vocabulary: the constants the source defines, those it takes from headers
that are not among the sources (`Consts`), the little-endian codecs of the wire format, and `Call`.
-/

namespace GreybusApba

/-! ## Constants of `apba.c` -/

/-- `MAX_PARTITION_NAME`. -/
def maxPartitionName : Nat := 16

/-- `APBA_NUM_GPIOS`. -/
def apbaNumGpios : Nat := 8

/-- `APBA_MAX_SEQ`: a (pin, value, delay) triple per step, two steps per GPIO. -/
def apbaMaxSeq : Nat := apbaNumGpios * 3 * 2

/-- `APBE_RESET_DELAY`, in ms. -/
def apbeResetDelay : Nat := 250

/-- `APBA_LOG_SIZE` (`SZ_16K`), the capacity of `apba_log_fifo`. -/
def apbaLogSize : Nat := 16384

/-- `FFFF_EXT`: the bytes of `".ffff"`, without the NUL that `sizeof` counts. -/
def ffffExt : List UInt8 := [0x2e, 0x66, 0x66, 0x66, 0x66]

/-- `BIN_EXT`: the bytes of `".bin"`. -/
def binExt : List UInt8 := [0x2e, 0x62, 0x69, 0x6e]

/-- `APBA_FIRMWARE_PARTITION`: the bytes of `"apba"`, NUL-terminated. -/
def apbaFirmwarePartition : List UInt8 := [0x61, 0x70, 0x62, 0x61, 0]

/-- `APBA_INT_APBE_ON` of the interrupt-reason `enum`. -/
def apbaIntApbeOn : Nat := 1

/-- `APBA_INT_APBE_RESET`. -/
def apbaIntApbeReset : Nat := 2

/-- `APBA_INT_APBE_CONNECTED`. -/
def apbaIntApbeConnected : Nat := 3

/-- `APBA_INT_APBE_DISCONNECTED`. -/
def apbaIntApbeDisconnected : Nat := 4

/-- The kernel's `EINVAL`. -/
def einval : Int := 22

/-- The kernel's `ENODEV`. -/
def enodev : Int := 19

/-- The kernel's `EIO`. -/
def eio : Int := 5

/-- The kernel's `EAGAIN`. -/
def eagain : Int := 11

/-- The kernel's `ENOMEM`. -/
def enomem : Int := 12

/-- The kernel's `EPROBE_DEFER`. -/
def eprobeDefer : Int := 517

/-- The constants `apba.c` takes from headers that are not among the sources (`apba.h`,
`mods_nw.h`, `muc.h`) and from the kernel (`PAGE_SIZE`); every result is stated for all of their
values. The eight message types `apba_handle_message` dispatches on are the case labels of one
`switch`, hence distinct, and compared with a `u16`; `PAGE_SIZE` is `1UL << PAGE_SHIFT`, hence
positive. -/
structure Consts where
  intReason : Nat
  pmWakeAck : Nat
  pmSleepAck : Nat
  pmSleepInd : Nat
  logInd : Nat
  logRequest : Nat
  baudAck : Nat
  modeRequest : Nat
  baudRequest : Nat
  caseLabels_nodup :
    [intReason, pmWakeAck, pmSleepAck, pmSleepInd, logInd, logRequest, baudAck, modeRequest].Nodup
  /-- The type field is a `__le16`, so every case label is below `2^16`: one past it could never
  be taken. -/
  caseLabels_lt : ∀ t ∈
    [intReason, pmWakeAck, pmSleepAck, pmSleepInd, logInd, logRequest, baudAck, modeRequest],
    t < 65536
  /-- `APBA_MSG_SIZE_MAX`, the size of `fifo_overflow`. -/
  msgSizeMax : Nat
  /-- `MB_CONTROL_SLAVE_MASK_APBE`. -/
  slaveMaskApbe : Nat
  slaveStateDisabled : Nat
  slaveStateEnabled : Nat
  slaveStates_ne : slaveStateDisabled ≠ slaveStateEnabled
  /-- `MB_CONTROL_SLAVE_POWER_ON`. -/
  slavePowerOn : Nat
  /-- `MB_CONTROL_SLAVE_POWER_OFF`. -/
  slavePowerOff : Nat
  pageSize : Nat
  pageSize_pos : 0 < pageSize

/-- One choice of the header constants, for running the model on concrete inputs: the message
types numbered in the order the `switch` of `apba_handle_message` lists them, a 64-byte
`APBA_MSG_SIZE_MAX` and 4 KiB pages. -/
def Consts.sample : Consts where
  intReason := 1
  pmWakeAck := 2
  pmSleepAck := 3
  pmSleepInd := 4
  logInd := 5
  logRequest := 6
  baudAck := 7
  modeRequest := 8
  baudRequest := 9
  caseLabels_nodup := by decide
  caseLabels_lt := by decide
  msgSizeMax := 64
  slaveMaskApbe := 1
  slaveStateDisabled := 0
  slaveStateEnabled := 1
  slaveStates_ne := by decide
  slavePowerOn := 1
  slavePowerOff := 0
  pageSize := 4096
  pageSize_pos := by decide

/-! ## Byte codecs

The driver's targets are little-endian: `le16_to_cpu` of a header field and the raw load that
`msg->size` makes read the same number. -/

/-- The little-endian `u16` at byte `off` of `mem`. -/
def le16 (mem : Nat → UInt8) (off : Nat) : Nat := (mem off).toNat + 256 * (mem (off + 1)).toNat

/-- The little-endian `u32` at byte `off` of `mem`. -/
def le32 (mem : Nat → UInt8) (off : Nat) : Nat := le16 mem off + 65536 * le16 mem (off + 2)

/-- `cpu_to_le16`: the two bytes of the low 16 bits of `v`. -/
def toLe16 (v : Nat) : List UInt8 := [(v % 256).toUInt8, (v / 256 % 256).toUInt8]

/-- `cpu_to_le32`: the four bytes of the low 32 bits of `v`. -/
def toLe32 (v : Nat) : List UInt8 := toLe16 (v % 65536) ++ toLe16 (v / 65536 % 65536)

/-- The big-endian cell at byte `off` of a device-tree property, as `of_property_read_u32_array`
reads it. -/
def be32 (b : List UInt8) (off : Nat) : UInt32 :=
  ((b.getD off 0).toNat * 16777216 + (b.getD (off + 1) 0).toNat * 65536 +
    (b.getD (off + 2) 0).toNat * 256 + (b.getD (off + 3) 0).toNat).toUInt32

/-- An unsigned 32-bit value stored into an `int`: its low 32 bits read in two's complement. -/
def int32OfNat (x : Nat) : Int :=
  if x % 2 ^ 32 < 2 ^ 31 then (x % 2 ^ 32 : Nat) else (x % 2 ^ 32 : Nat) - 2 ^ 32

theorem int32OfNat_of_lt {x : Nat} (h : x < 2 ^ 31) : int32OfNat x = x := by
  rw [int32OfNat, Nat.mod_eq_of_lt (show x < 2 ^ 32 by omega), if_pos h]

/-! ## Fallible code

A fallible function of the driver checks its guards in turn and returns the first failure's
error, so a result `.ok` passed every guard, and every call it made on the way succeeded. -/

/-- A guard `if (p) return err;` that a successful run passed did not hold. -/
theorem guard_eq_ok {ε α} {p : Prop} [Decidable p] {e : ε} {x : Except ε α} {a : α}
    (h : (if p then .error e else x) = .ok a) : ¬p ∧ x = .ok a := by
  by_cases hp : p
  · rw [if_pos hp] at h; cases h
  · rw [if_neg hp] at h; exact ⟨hp, h⟩

/-- A successful bind: its first computation succeeded, and the rest on its value. -/
theorem bind_eq_ok {ε α β} {x : Except ε α} {f : α → Except ε β} {b : β}
    (h : x.bind f = .ok b) : ∃ a, x = .ok a ∧ f a = .ok b := by
  cases x with
  | error e => cases h
  | ok a => exact ⟨a, rfl, h⟩

/-! ## Calls -/

/-- A call the driver makes: to a collaborator, or to its own `apba_on` and `apba_flash_on`,
logged so that the power state at every point of a run can be read off the log. A transport call
carries the `mods_uart` handle it passes, a slave-power call the master interface. -/
inductive Call where
  | apbaOn (enable : Bool)
  | apbaFlashOn (enable : Bool)
  | gpioSetValue (gpio value : Int)
  | usleepRange (lo hi : Nat)
  | msleep (ms : Nat)
  | modsExtBusVote (enable : Bool)
  | pinctrlSelectState (active : Bool)
  | mucRegisterSpiFlash
  | mucDeregisterSpiFlash
  | ofPlatformDepopulate
  | clkPrepareEnable (ret : Int)
  | clkDisableUnprepare
  | modsUartOpen (uart : Nat)
  | modsUartClose (uart : Nat)
  | modsUartPmOn (uart : Nat) (enable : Bool)
  | modsUartApbaSend (uart : Nat) (msg : List UInt8)
  | modsUartLockTx (uart : Nat) (lock : Bool)
  | modsUartUpdateBaud (uart : Nat) (baud : Nat)
  | modsUartGetBaud (uart : Nat)
  | modsUartPmHandleEvents (uart : Nat) (type : Nat)
  | modsUartPmHandleWakeInterrupt (uart : Nat)
  | modAttach (uart : Nat) (present : Int)
  | modsSlaveCtrlPower (intf : UInt8) (val mask : Nat)
  | getMtdDevice (num : Nat)
  | putMtdDevice (num : Nat)
  | mtdErase (num : Nat)
  | mtdRead (num : Nat)
  | mtdWrite (num : Nat)
  | requestFirmware (name : List UInt8)
  | releaseFirmware
  | scheduleWork (present : Int)
  | scheduleDelayedWork
  | mucEnableDet
  deriving DecidableEq, Repr

namespace Call

/-- A call of the driver's own `apba_on` or `apba_flash_on`. -/
def isPower : Call → Bool
  | apbaOn _ | apbaFlashOn _ => true
  | _ => false

end Call

end GreybusApba
