import GreybusApba.Driver.Basic

/-!
# Audio/SendData — `gb_i2s_send_data`: a PCM buffer padded to a whole message

`gb_i2s_send_data` fills the `data` array of the request buffer it is handed: a `memcpy` of the
`len` PCM bytes, then, when they fall short of `MAX_SEND_DATA_LEN`, the loop

    for (; len < MAX_SEND_DATA_LEN; len++)
            gb_req->data[len] = gb_req->data[len - SAMPLE_SIZE];

and `size = len`; it sends the two header words and `MAX_SEND_DATA_LEN` data bytes. Each pass reads
the byte `SAMPLE_SIZE` behind the one it writes, which the `memcpy` or an earlier pass wrote, so
the tail is the last sample of the source repeated (`PadInv`, `padStep_inv`).

* `padLoop_run` — from any loop head the invariant holds at, `MAX_SEND_DATA_LEN - len` passes end
  the loop with `len = MAX_SEND_DATA_LEN`; more fuel gives the same result.
* `gbI2sSendData_spec` — for `SAMPLE_SIZE ≤ len ≤ MAX_SEND_DATA_LEN` the function returns, reads
  and writes `data` only below `MAX_SEND_DATA_LEN`, and sends the source followed by its last
  sample repeated, with `size = MAX_SEND_DATA_LEN`.
-/

namespace GreybusApba

/-! ## The model -/

/-- The constants of `audio.h` (not among the sources) that `gb_i2s_send_data` reads: the bytes of
one sample and the data bytes of one message. A sample has a byte at least, and the data length
fits the `__le32 size` field. -/
structure AudioConsts where
  sampleSize : Nat
  maxSendDataLen : Nat
  sampleSize_pos : 0 < sampleSize
  maxSendDataLen_lt : maxSendDataLen < 2 ^ 32

/-- Four-byte samples and 192 data bytes a message: 48 samples of 16-bit stereo. -/
def AudioConsts.sample : AudioConsts := ⟨4, 192, by decide, by decide⟩

/-- `struct gb_i2s_send_data_request` in the caller's buffer `req_buf`: the `sample_number` and
`size` words and the `data` bytes after them, holding whatever they held before the call. -/
structure I2sSendDataRequest where
  sampleNumber : Nat
  size : Nat
  data : Nat → UInt8

/-- A byte access of `gb_i2s_send_data`: a read of the source, or a read or a write of the
request's `data` array at a `size_t` index. -/
inductive ByteAccess where
  | readSource (i : Nat)
  | readData (i : Nat)
  | writeData (i : Nat)
  deriving DecidableEq, Repr

/-- The padding loop's head: the request's `data`, the counter `len`, and the accesses so far. -/
structure PadState where
  data : Nat → UInt8
  len : Nat
  trace : List ByteAccess

/-- `memcpy(&gb_req->data[0], source_addr, len)`, reading and writing each byte in turn: the loop
head it leaves. -/
def memcpyData (data source : Nat → UInt8) (len : Nat) : PadState :=
  ⟨fun j => if j < len then source j else data j, len,
    (List.range len).flatMap fun i => [.readSource i, .writeData i]⟩

@[simp] theorem memcpyData_len (data source : Nat → UInt8) (len : Nat) :
    (memcpyData data source len).len = len := rfl

/-- `a - b` in `size_t`. -/
def sizeSub (a b : Nat) : Nat := (a + 2 ^ 64 - b) % 2 ^ 64

/-- One pass: `gb_req->data[len] = gb_req->data[len - SAMPLE_SIZE]; len++`. -/
def padStep (a : AudioConsts) (st : PadState) : PadState :=
  let src := sizeSub st.len a.sampleSize
  ⟨fun j => if j = st.len then st.data src else st.data j, st.len + 1,
    st.trace ++ [.readData src, .writeData st.len]⟩

@[simp] theorem padStep_len (a : AudioConsts) (st : PadState) : (padStep a st).len = st.len + 1 :=
  rfl

/-- `for (; len < MAX_SEND_DATA_LEN; len++)` with at most `fuel` passes: `none` when the fuel runs
out first. -/
def padLoop (a : AudioConsts) : Nat → PadState → Option PadState
  | 0, st => if st.len < a.maxSendDataLen then none else some st
  | fuel + 1, st => if st.len < a.maxSendDataLen then padLoop a fuel (padStep a st) else some st

/-- What `gb_operation_sync` is handed: the request's two words and its first `MAX_SEND_DATA_LEN`
data bytes, the `SEND_DATA_BUF_LEN` bytes of the request. -/
structure I2sSendDataMsg where
  sampleNumber : Nat
  size : Nat
  data : List UInt8

/-- What a call of `gb_i2s_send_data` leaves: the request buffer, the accesses it made, the request
it sent, and what it returns. -/
structure SendDataResult where
  req : I2sSendDataRequest
  trace : List ByteAccess
  sent : I2sSendDataMsg
  ret : Int

/-- `gb_i2s_send_data` of the `len` bytes at `source` into the request buffer `req`, `ret` being
what `gb_operation_sync` returns; `none` when the padding loop needs more than `fuel` passes. -/
def gbI2sSendData (a : AudioConsts) (req : I2sSendDataRequest) (source : Nat → UInt8) (len : Nat)
    (sampleNum ret : Int) (fuel : Nat) : Option SendDataResult :=
  let st := memcpyData req.data source len
  let padded := if len < a.maxSendDataLen then padLoop a fuel st else some st
  padded.map fun st =>
    let req' : I2sSendDataRequest := ⟨(sampleNum % 2 ^ 32).toNat, st.len % 2 ^ 32, st.data⟩
    ⟨req', st.trace, ⟨req'.sampleNumber, req'.size, (List.range a.maxSendDataLen).map req'.data⟩,
      ret⟩

/-! ## The loop invariant -/

theorem sizeSub_of_le {a b : Nat} (h : b ≤ a) (ha : a < 2 ^ 64) : sizeSub a b = a - b := by
  rw [sizeSub, show a + 2 ^ 64 - b = (a - b) + 2 ^ 64 by omega, Nat.add_mod_right,
    Nat.mod_eq_of_lt (by omega)]

/-- Past the source, the byte `SAMPLE_SIZE` behind a position is the one the formula gives there:
the last sample, repeated. -/
theorem fill_sub (source : Nat → UInt8) {ss len j : Nat} (hss : ss ≤ len) (hj : len ≤ j) :
    (if j - ss < len then source (j - ss) else source (len - ss + (j - ss - len) % ss)) =
      source (len - ss + (j - len) % ss) := by
  split
  · rw [Nat.mod_eq_of_lt (by omega)]
    congr 1
    omega
  · rw [Nat.mod_eq_sub_mod (show j - len ≥ ss by omega), show j - len - ss = j - ss - len by omega]

/-- At a loop head after the `memcpy`: `len ≤ i ≤ MAX_SEND_DATA_LEN` for the counter `i`, every
byte below `i` is the source or its last sample repeated, the bytes from `i` on are untouched, and
every access so far is to `data` below `i` or to the source below `len`. -/
structure PadInv (a : AudioConsts) (data₀ source : Nat → UInt8) (len : Nat) (st : PadState) :
    Prop where
  len_le : len ≤ st.len
  le_max : st.len ≤ a.maxSendDataLen
  filled : ∀ j < st.len, st.data j =
    if j < len then source j else source (len - a.sampleSize + (j - len) % a.sampleSize)
  frame : ∀ j, st.len ≤ j → st.data j = data₀ j
  data_lt : ∀ i, .readData i ∈ st.trace ∨ .writeData i ∈ st.trace → i < st.len
  source_lt : ∀ i, .readSource i ∈ st.trace → i < len

theorem memcpyData_inv (a : AudioConsts) (data₀ source : Nat → UInt8) {len : Nat}
    (hhi : len ≤ a.maxSendDataLen) : PadInv a data₀ source len (memcpyData data₀ source len) where
  len_le := le_refl _
  le_max := hhi
  filled j hj := by
    have hj : j < len := hj
    simp only [memcpyData, if_pos hj]
  frame j hj := by
    have hj : len ≤ j := hj
    simp only [memcpyData, if_neg (Nat.not_lt.2 hj)]
  data_lt i h := by simpa [memcpyData] using h
  source_lt i h := by simpa [memcpyData] using h

/-- **One pass keeps the invariant**: the byte it reads, `SAMPLE_SIZE` behind, is already the
source or its last sample repeated. -/
theorem padStep_inv {a : AudioConsts} {data₀ source : Nat → UInt8} {len : Nat} {st : PadState}
    (hss : a.sampleSize ≤ len) (h : PadInv a data₀ source len st)
    (hlt : st.len < a.maxSendDataLen) : PadInv a data₀ source len (padStep a st) := by
  have hpos := a.sampleSize_pos
  have hle := h.len_le
  have hsub : sizeSub st.len a.sampleSize = st.len - a.sampleSize :=
    sizeSub_of_le (by omega) (by have := a.maxSendDataLen_lt; omega)
  refine ⟨by rw [padStep_len]; omega, by rw [padStep_len]; omega,
    fun j hj => ?_, fun j hj => ?_, fun i hi => ?_, fun i hi => ?_⟩
  · simp only [padStep, hsub] at hj ⊢
    split
    · next hcur =>
      subst hcur
      rw [h.filled _ (by omega), if_neg (Nat.not_lt.2 h.len_le)]
      exact fill_sub source hss h.len_le
    · exact h.filled j (by omega)
  · simp only [padStep] at hj ⊢
    rw [if_neg (by omega), h.frame j (by omega)]
  · simp only [padStep, List.mem_append, List.mem_cons, ByteAccess.readData.injEq,
      ByteAccess.writeData.injEq, reduceCtorEq, List.mem_nil_iff, or_false, false_or] at hi ⊢
    rcases hi with (hi | rfl) | hi | rfl
    · exact Nat.lt_succ_of_lt (h.data_lt i (.inl hi))
    · rw [hsub]; omega
    · exact Nat.lt_succ_of_lt (h.data_lt i (.inr hi))
    · exact Nat.lt_succ_self _
  · simp only [padStep, List.mem_append, List.mem_cons, reduceCtorEq, List.mem_nil_iff,
      or_false] at hi
    exact h.source_lt i hi

/-- **The padding loop ends**, whatever the bytes: from a loop head with `n` passes left, every
fuel from `n` on gives one result, a loop head where `len` has reached `MAX_SEND_DATA_LEN`, and
every property that each pass keeps holds there. -/
theorem padLoop_inv {a : AudioConsts} (Inv : PadState → Prop)
    (hstep : ∀ st, Inv st → st.len < a.maxSendDataLen → Inv (padStep a st)) :
    ∀ n st, a.maxSendDataLen - st.len = n → Inv st →
      ∃ st', (∀ fuel, n ≤ fuel → padLoop a fuel st = some st') ∧ Inv st' ∧
        a.maxSendDataLen ≤ st'.len
  | 0, st, hn, h => ⟨st, fun fuel _ => by cases fuel <;> exact if_neg (by omega), h, by omega⟩
  | n + 1, st, hn, h => by
    have hlt : st.len < a.maxSendDataLen := by omega
    obtain ⟨st', hrun, h', hlen⟩ := padLoop_inv Inv hstep n (padStep a st)
      (by rw [padStep_len]; omega) (hstep st h hlt)
    refine ⟨st', fun fuel hf => ?_, h', hlen⟩
    obtain ⟨f, rfl⟩ : ∃ f, fuel = f + 1 := ⟨fuel - 1, by omega⟩
    rw [padLoop, if_pos hlt]
    exact hrun f (by omega)

/-- From a loop head the invariant holds at, the loop ends with the invariant and
`len = MAX_SEND_DATA_LEN`. -/
theorem padLoop_run {a : AudioConsts} {data₀ source : Nat → UInt8} {len : Nat}
    (hss : a.sampleSize ≤ len) {st : PadState} (h : PadInv a data₀ source len st) :
    ∃ st', (∀ fuel, a.maxSendDataLen - st.len ≤ fuel → padLoop a fuel st = some st') ∧
      PadInv a data₀ source len st' ∧ st'.len = a.maxSendDataLen := by
  obtain ⟨st', hrun, h', hlen⟩ := padLoop_inv (PadInv a data₀ source len)
    (fun _ h hlt => padStep_inv hss h hlt) _ st rfl h
  exact ⟨st', hrun, h', by have := h'.le_max; omega⟩

/-! ## `gb_i2s_send_data` -/

/-- **`gb_i2s_send_data` pads with the last sample**: for every request buffer, source and sample
number, and every `len` with `SAMPLE_SIZE ≤ len ≤ MAX_SEND_DATA_LEN`, the call returns, with one
result for every fuel from `MAX_SEND_DATA_LEN - len` passes on; it reads and writes `data` only
below `MAX_SEND_DATA_LEN` and leaves the bytes from there on as they were; and the request it
sends holds the source below `len`, then `source[len - SAMPLE_SIZE + (j - len) % SAMPLE_SIZE]` at
every `j` up to `MAX_SEND_DATA_LEN`, with `size = MAX_SEND_DATA_LEN`. -/
theorem gbI2sSendData_spec (a : AudioConsts) (req : I2sSendDataRequest) (source : Nat → UInt8)
    (len : Nat) (sampleNum ret : Int) (hlo : a.sampleSize ≤ len) (hhi : len ≤ a.maxSendDataLen) :
    ∃ r, (∀ fuel, a.maxSendDataLen - len ≤ fuel →
        gbI2sSendData a req source len sampleNum ret fuel = some r) ∧
      (∀ i, .readData i ∈ r.trace ∨ .writeData i ∈ r.trace → i < a.maxSendDataLen) ∧
      (∀ j, a.maxSendDataLen ≤ j → r.req.data j = req.data j) ∧
      r.sent.size = a.maxSendDataLen ∧ r.sent.data.length = a.maxSendDataLen ∧
      ∀ j < a.maxSendDataLen, r.sent.data.getD j 0 =
        if j < len then source j else source (len - a.sampleSize + (j - len) % a.sampleSize) := by
  have h₀ := memcpyData_inv a req.data source hhi
  obtain ⟨st, hst, h, hlen⟩ : ∃ st, (∀ fuel, a.maxSendDataLen - len ≤ fuel →
        (if len < a.maxSendDataLen then padLoop a fuel (memcpyData req.data source len)
          else some (memcpyData req.data source len)) = some st) ∧
      PadInv a req.data source len st ∧ st.len = a.maxSendDataLen := by
    by_cases hl : len < a.maxSendDataLen
    · obtain ⟨st, hrun, h, hlen⟩ := padLoop_run hlo h₀
      exact ⟨st, fun fuel hf => by rw [if_pos hl]; exact hrun fuel hf, h, hlen⟩
    · exact ⟨_, fun _ _ => if_neg hl, h₀, by rw [memcpyData_len]; omega⟩
  refine ⟨_, fun fuel hf => by rw [gbI2sSendData, hst fuel hf]; rfl,
    fun i hi => hlen ▸ h.data_lt i hi, fun j hj => h.frame j (hlen ▸ hj), ?_, by simp,
    fun j hj => ?_⟩
  · simp only [hlen]; exact Nat.mod_eq_of_lt a.maxSendDataLen_lt
  · rw [List.getD_eq_getElem?_getD, List.getElem?_map, List.getElem?_range hj, Option.map_some',
      Option.getD_some]
    exact h.filled j (hlen ▸ hj)

/-- Six bytes into a 192-byte message of four-byte samples: bytes `2 … 5`, the last sample,
repeat from position 6 on. -/
theorem gbI2sSendData_spec_six_bytes :
    ∃ r, (∀ fuel, 192 - 6 ≤ fuel → gbI2sSendData AudioConsts.sample ⟨0, 0, fun _ => 0⟩
        (fun i => i.toUInt8) 6 0 0 fuel = some r) ∧
      (∀ i, .readData i ∈ r.trace ∨ .writeData i ∈ r.trace → i < 192) ∧
      (∀ j, 192 ≤ j → r.req.data j = 0) ∧ r.sent.size = 192 ∧ r.sent.data.length = 192 ∧
      ∀ j < 192, r.sent.data.getD j 0 =
        if j < 6 then j.toUInt8 else (6 - 4 + (j - 6) % 4).toUInt8 :=
  gbI2sSendData_spec AudioConsts.sample _ _ 6 0 0 (by decide) (by decide)

example : ((gbI2sSendData ⟨4, 12, by decide, by decide⟩ ⟨0, 0, fun _ => 0⟩ (fun i => i.toUInt8) 6 0 0
    6).map fun r => r.sent.data) = some [0, 1, 2, 3, 4, 5, 2, 3, 4, 5, 2, 3] := by decide

end GreybusApba
