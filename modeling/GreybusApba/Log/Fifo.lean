import GreybusApba.Driver.State

/-!
# Log/Fifo — `apba_log_fifo`: the `LOG_IND` append and the drain of `apba_log_show`

The log is a `kfifo` of `APBA_LOG_SIZE` bytes. `kfifo_out` removes from the front at most what is
there; `kfifo_in` appends at most what fits. A `LOG_IND` frame first evicts
`MIN(of, APBA_MSG_SIZE_MAX)` of the oldest bytes, where `of = kfifo_len + size - APBA_LOG_SIZE` is
computed in `unsigned int` and stored in an `int` — negative exactly when the payload fits.

* `logIndAppend_buf` — when the header's `size` is at most `APBA_MSG_SIZE_MAX` and at most the
  capacity, the FIFO becomes the last `min(APBA_LOG_SIZE, |B| + size)` bytes of `B ++ payload`: one
  eviction makes exactly the room the payload needs.
-/

namespace GreybusApba

namespace LogFifo

/-- `kfifo_out(&apba_log_fifo, buf, n)`: the FIFO without its `min(n, len)` oldest bytes, and those
bytes. -/
def kfifoOut (f : LogFifo) (n : Nat) : LogFifo × List UInt8 :=
  (⟨f.buf.drop n, by have := f.length_le; simp only [List.length_drop]; omega⟩, f.buf.take n)

/-- `kfifo_in(&apba_log_fifo, src, n)`: the FIFO with the first `min(n, avail)` of the `n` bytes at
`src` appended. -/
def kfifoIn (f : LogFifo) (src : Nat → UInt8) (n : Nat) : LogFifo :=
  ⟨f.buf ++ (List.range (min n (apbaLogSize - f.buf.length))).map src, by
    have := f.length_le; simp only [List.length_append, List.length_map, List.length_range]; omega⟩

@[simp] theorem kfifoOut_buf (f : LogFifo) (n : Nat) : (f.kfifoOut n).1.buf = f.buf.drop n := rfl

@[simp] theorem kfifoOut_out (f : LogFifo) (n : Nat) : (f.kfifoOut n).2 = f.buf.take n := rfl

end LogFifo

/-- The `n` bytes of `payload` after the 4-byte header. -/
def payloadBytes (payload : Nat → UInt8) (n : Nat) : List UInt8 :=
  (List.range n).map fun i => payload (4 + i)

@[simp] theorem length_payloadBytes (payload : Nat → UInt8) (n : Nat) :
    (payloadBytes payload n).length = n := by simp [payloadBytes]

theorem le16_lt (mem : Nat → UInt8) (off : Nat) : le16 mem off < 65536 := by
  have h0 := (mem off).toNat_lt_size
  have h1 := (mem (off + 1)).toNat_lt_size
  simp only [le16, UInt8.size] at *
  omega

/-- The `APBA_CTRL_LOG_IND` case of `apba_handle_message` on the FIFO: `of` is computed in
`unsigned int` (`kfifo_len` is unsigned) and stored in an `int`; when it is positive the
`MIN(of, APBA_MSG_SIZE_MAX)` oldest bytes are popped into `fifo_overflow`; then the header's
`size` bytes after the header are pushed. -/
def logIndAppend (c : Consts) (f : LogFifo) (payload : Nat → UInt8) : LogFifo :=
  let size := le16 payload 2
  let of := int32OfNat (f.buf.length + size + 2 ^ 32 - apbaLogSize)
  let f := if 0 < of then (f.kfifoOut (min of.toNat c.msgSizeMax)).1 else f
  f.kfifoIn (fun i => payload (4 + i)) size

/-- The overflow `of` is the plain integer `|B| + size - APBA_LOG_SIZE`: it never wraps. -/
theorem int32OfNat_overflow {len size : Nat} (hl : len ≤ apbaLogSize) (hs : size < 65536) :
    int32OfNat (len + size + 2 ^ 32 - apbaLogSize) = (len : Int) + size - apbaLogSize := by
  simp only [int32OfNat, apbaLogSize] at *
  split <;> omega

/-- The FIFO after a `LOG_IND` frame, as the eviction and the push compute it: the contents less
the `e` oldest bytes, then the first `min(size, room)` payload bytes. -/
theorem logIndAppend_buf_eq (c : Consts) (f : LogFifo) (payload : Nat → UInt8) :
    let size := le16 payload 2
    let e := if apbaLogSize < f.buf.length + size then min (f.buf.length + size - apbaLogSize)
      c.msgSizeMax else 0
    (logIndAppend c f payload).buf =
      f.buf.drop e ++ payloadBytes payload (min size (apbaLogSize - (f.buf.length - e))) := by
  intro size e
  have hof := int32OfNat_overflow f.length_le (le16_lt payload 2)
  simp only [logIndAppend, hof]
  by_cases h : apbaLogSize < f.buf.length + le16 payload 2
  · have hpos : (0 : Int) < f.buf.length + le16 payload 2 - apbaLogSize := by omega
    have hto : ((f.buf.length : Int) + le16 payload 2 - apbaLogSize).toNat =
        f.buf.length + le16 payload 2 - apbaLogSize := by omega
    simp only [hpos, if_true, hto, e, size, h, LogFifo.kfifoIn, LogFifo.kfifoOut, payloadBytes,
      List.length_drop]
  · have hneg : ¬ (0 : Int) < f.buf.length + le16 payload 2 - apbaLogSize := by omega
    simp only [hneg, if_false, e, size, h, LogFifo.kfifoIn, List.drop_zero, payloadBytes,
      Nat.sub_zero]

/-- **The `LOG_IND` append**: when the header's `size` is at most `APBA_MSG_SIZE_MAX` and at most
the capacity, the FIFO becomes the last `min(APBA_LOG_SIZE, |B| + size)` bytes of `B` followed by
the payload. -/
theorem logIndAppend_buf (c : Consts) (f : LogFifo) (payload : Nat → UInt8)
    (hmax : le16 payload 2 ≤ c.msgSizeMax) (hcap : le16 payload 2 ≤ apbaLogSize) :
    (logIndAppend c f payload).buf =
      let l := f.buf ++ payloadBytes payload (le16 payload 2)
      l.drop (l.length - min apbaLogSize (f.buf.length + le16 payload 2)) := by
  rw [logIndAppend_buf_eq]
  have := f.length_le
  by_cases h : apbaLogSize < f.buf.length + le16 payload 2
  · have e : min (f.buf.length + le16 payload 2 - apbaLogSize) c.msgSizeMax =
        f.buf.length + le16 payload 2 - min apbaLogSize (f.buf.length + le16 payload 2) := by omega
    have n : min (le16 payload 2) (apbaLogSize - (f.buf.length -
        (f.buf.length + le16 payload 2 - min apbaLogSize (f.buf.length + le16 payload 2)))) =
        le16 payload 2 := by omega
    simp only [h, if_true, List.length_append, length_payloadBytes, e, n]
    rw [List.drop_append_of_le_length (by omega)]
  · have z : f.buf.length + le16 payload 2 - min apbaLogSize (f.buf.length + le16 payload 2) = 0 :=
      by omega
    have n : min (le16 payload 2) (apbaLogSize - f.buf.length) = le16 payload 2 := by omega
    simp only [h, if_false, List.drop_zero, Nat.sub_zero, List.length_append, length_payloadBytes,
      z, n]

end GreybusApba
