import WireFetch.ByteStream
import WireFetch.Error

/-!
# A reader with pushback

A `Reader` fetches bytes from a stream into a buffer and hands them out from there. A cursor tells
how far it has come; what is behind the cursor is `Reader.pending`. The stream writes over the
buffer, which is therefore first made as large as one read, and afterwards cut to what was written;
after a read that fails it is emptied. Bytes can be handed back, and are then read again before
anything else, for which the buffer is put together anew. Each fetch from the stream may be bounded
in time.

Seen from outside a reader is a queue: `Reader.content` is what can still be read. Reading takes
bytes from its front, `Reader.unread` puts bytes there, and an operation that fails leaves it as it
was.

## Main definitions

* `Stop` — why an operation has no result
* `Reader`, `Reader.pending`, `Reader.content`
* `Reader.fill`, `peekByte`, `readByte`, `read`, `unread`, `drain`

## Main results

* `Reader.fill_of_pending`, `fill_of_pending_nil` — when the stream is asked, and what for
* `Reader.content_fill`, `content_unread`, `content_read` — the operations on the queue
-/

namespace WireFetch

/-- Why an operation has no result. -/
inductive Stop where
  /-- it failed -/
  | failed (cause : FetchError)
  /-- it waits for something that never comes, and nothing bounds the wait -/
  | endless
  /-- it needs a duration that cannot be kept -/
  | overflow
  deriving DecidableEq, Repr

/-- The failure for a fault met while `phase` was bounded by `limit`. A fault of the kind
`timedOut` counts as the limit having passed, if there is one. -/
def FetchError.ofFault (phase : Phase) (limit : Option Duration) (cause : Fault) : FetchError :=
  match cause.kind, limit with
  | .timedOut, some limit => .timeout phase limit
  | _, _ => .io cause

/-- What it means that nothing comes within `limit`. -/
def Stop.late (phase : Phase) (limit : Option Duration) : Stop :=
  match limit with
  | some limit => .failed (.timeout phase limit)
  | none => .endless

/-- A stream with a buffer of bytes fetched from it. -/
structure Reader where
  buffer : Array UInt8 := #[]
  /-- the place in the buffer of the next byte to hand out -/
  cursor : Nat := 0
  source : ByteStream
  /-- bounds each fetch from the stream -/
  limit : Option Duration := none
  deriving Repr

namespace Reader

/-! ### The buffer -/

/-- A buffer as large as one read. What it held stays at its front; what is added is zero. -/
def resized (buffer : Array UInt8) : Array UInt8 :=
  (buffer.toList.take ByteStream.bufferSize ++
    List.replicate (ByteStream.bufferSize - buffer.size) 0).toArray

/-- A buffer whose front was written over with `bytes`. -/
def overwritten (bytes : List UInt8) (buffer : Array UInt8) : Array UInt8 :=
  (bytes ++ buffer.toList.drop bytes.length).toArray

/-- A buffer cut to its first `n` bytes. -/
def truncated (n : Nat) (buffer : Array UInt8) : Array UInt8 := (buffer.toList.take n).toArray

/-- The bytes fetched but not handed out. -/
def pending (r : Reader) : List UInt8 := r.buffer.toList.drop r.cursor

/-- Everything that can still be read, if nothing fails. -/
def content (r : Reader) : List UInt8 := r.pending ++ r.source.data

/-- The number of bytes fetched but not handed out. -/
def buffered (r : Reader) : Nat := r.buffer.size - r.cursor

/-- The reader with `n` bytes more handed out. -/
def advance (n : Nat) (r : Reader) : Reader := { r with cursor := r.cursor + n }

/-! ### Operations -/

/-- Sees to it that a byte is pending; the answer is `false` at the end of the stream. -/
def fill (r : Reader) : Except Stop Bool × Reader :=
  if r.cursor < r.buffer.size then (.ok true, r)
  else
    let space := resized r.buffer
    match r.source.next r.limit with
    | (.data bytes, source) =>
      (.ok (!bytes.isEmpty),
        { r with buffer := truncated bytes.length (overwritten bytes space), cursor := 0, source })
    | (.failed cause, source) =>
      (.error (.failed (.ofFault .read r.limit cause)),
        { r with buffer := #[], cursor := 0, source })
    | (.nothing, source) =>
      (.error (.late .read r.limit), { r with buffer := #[], cursor := 0, source })

/-- The next byte, which stays; `none` at the end of the stream. -/
def peekByte (r : Reader) : Except Stop (Option UInt8) × Reader :=
  match r.fill with
  | (.ok true, r) => (.ok r.buffer[r.cursor]?, r)
  | (.ok false, r) => (.ok none, r)
  | (.error stop, r) => (.error stop, r)

/-- The next byte; `none` at the end of the stream. -/
def readByte (r : Reader) : Except Stop (Option UInt8) × Reader :=
  match r.fill with
  | (.ok true, r) => (.ok r.buffer[r.cursor]?, r.advance 1)
  | (.ok false, r) => (.ok none, r)
  | (.error stop, r) => (.error stop, r)

/-- Up to `n` bytes; none only at the end of the stream, or if none are asked for. -/
def read (n : Nat) (r : Reader) : Except Stop (List UInt8) × Reader :=
  if n = 0 then (.ok [], r)
  else
    match r.fill with
    | (.ok true, r) =>
      let bytes := r.pending.take n
      (.ok bytes, r.advance bytes.length)
    | (.ok false, r) => (.ok [], r)
    | (.error stop, r) => (.error stop, r)

/-- Hands bytes back. -/
def unread (bytes : List UInt8) (r : Reader) : Reader :=
  if bytes = [] then r else { r with buffer := (bytes ++ r.pending).toArray, cursor := 0 }

/-! ### What is pending -/

section Pending

variable {r r' : Reader} {ok : Bool} {n : Nat} {b : UInt8} {p : List UInt8}

@[simp] theorem truncated_overwritten (bytes : List UInt8) (buffer : Array UInt8) :
    truncated bytes.length (overwritten bytes buffer) = bytes.toArray := by
  simp [truncated, overwritten]

@[simp] theorem pending_mk_zero (bytes : List UInt8) (source : ByteStream)
    (limit : Option Duration) : pending ⟨bytes.toArray, 0, source, limit⟩ = bytes := rfl

@[simp] theorem pending_advance (n : Nat) (r : Reader) :
    (r.advance n).pending = r.pending.drop n := by
  simp [pending, advance]

@[simp] theorem pending_unread (bytes : List UInt8) (r : Reader) :
    (r.unread bytes).pending = bytes ++ r.pending := by
  unfold unread
  split
  · next h => rw [h, List.nil_append]
  · rfl

@[simp] theorem source_unread (bytes : List UInt8) (r : Reader) :
    (r.unread bytes).source = r.source := by
  unfold unread
  split <;> rfl

@[simp] theorem limit_unread (bytes : List UInt8) (r : Reader) :
    (r.unread bytes).limit = r.limit := by
  unfold unread
  split <;> rfl

theorem pending_eq_nil_iff : r.pending = [] ↔ r.buffer.size ≤ r.cursor := by
  simp [pending]

/-- The byte at the cursor is the first one pending. -/
theorem getElem?_cursor (r : Reader) : r.buffer[r.cursor]? = r.pending.head? := by
  simp [pending]

/-- Bytes without their first `n` are bytes without those that were taken. -/
theorem drop_length_take (n : Nat) (p : List UInt8) : p.drop (p.take n).length = p.drop n := by
  rw [List.length_take, Nat.min_def]
  split
  · rfl
  · next h => rw [List.drop_length, List.drop_of_length_le (Nat.le_of_not_le h)]

theorem length_pending (r : Reader) : r.pending.length = r.buffered := by
  simp [pending, buffered]

/-- As long as bytes are pending the stream is not asked. -/
theorem fill_of_pending (h : r.pending = b :: p) : r.fill = (.ok true, r) := by
  have hlt : r.cursor < r.buffer.size := Nat.lt_of_not_le fun hle => by
    rw [pending_eq_nil_iff.2 hle] at h
    cases h
  rw [fill, if_pos hlt]

/-- Once nothing is pending, the buffer holds what the stream brings. -/
theorem fill_of_pending_nil (h : r.pending = []) :
    r.fill = match r.source.next r.limit with
      | (.data bytes, source) => (.ok (!bytes.isEmpty), ⟨bytes.toArray, 0, source, r.limit⟩)
      | (.failed cause, source) =>
        (.error (.failed (.ofFault .read r.limit cause)), ⟨#[], 0, source, r.limit⟩)
      | (.nothing, source) => (.error (.late .read r.limit), ⟨#[], 0, source, r.limit⟩) := by
  rw [fill, if_neg (Nat.not_lt.2 (pending_eq_nil_iff.1 h))]
  split <;> simp

/-- The answer tells whether a byte is pending. -/
theorem ok_of_fill (h : r.fill = (.ok ok, r')) : ok = !r'.pending.isEmpty := by
  cases hp : r.pending with
  | cons b p =>
    rw [fill_of_pending hp] at h
    cases h
    rw [hp]
    rfl
  | nil =>
    rw [fill_of_pending_nil hp] at h
    split at h
    · cases h
      rfl
    · cases h
    · cases h

theorem peekByte_of_fill (h : r.fill = (.ok ok, r')) :
    r.peekByte = (.ok r'.pending.head?, r') := by
  have hok := ok_of_fill h
  cases hp : r'.pending <;> rw [hp] at hok <;> simp [peekByte, h, hok, getElem?_cursor, hp]

theorem readByte_of_fill (h : r.fill = (.ok ok, r')) :
    r.readByte = (.ok r'.pending.head?, r'.advance (r'.pending.take 1).length) := by
  have hok := ok_of_fill h
  cases hp : r'.pending <;> rw [hp] at hok <;> simp [readByte, h, hok, getElem?_cursor, hp, advance]

theorem read_of_fill (hn : n ≠ 0) (h : r.fill = (.ok ok, r')) :
    r.read n = (.ok (r'.pending.take n), r'.advance (r'.pending.take n).length) := by
  have hok := ok_of_fill h
  cases hp : r'.pending <;> rw [hp] at hok <;> simp [read, hn, h, hok, hp, advance]

theorem peekByte_of_fill_error {stop : Stop} (h : r.fill = (.error stop, r')) :
    r.peekByte = (.error stop, r') := by
  simp only [peekByte, h]

theorem readByte_of_fill_error {stop : Stop} (h : r.fill = (.error stop, r')) :
    r.readByte = (.error stop, r') := by
  simp only [readByte, h]

theorem read_of_fill_error {stop : Stop} (hn : n ≠ 0) (h : r.fill = (.error stop, r')) :
    r.read n = (.error stop, r') := by
  simp only [read, if_neg hn, h]

/-- A read fails where the stream does. -/
theorem fill_of_read_error {stop : Stop} (h : r.read n = (.error stop, r')) :
    r.fill = (.error stop, r') := by
  by_cases hn : n = 0
  · rw [read, if_pos hn] at h
    cases h
  rcases hfill : r.fill with ⟨stop' | ok, r₁⟩
  · rw [read_of_fill_error hn hfill] at h
    cases h
    rfl
  · rw [read_of_fill hn hfill] at h
    cases h

end Pending

/-! ### The operations on the queue -/

@[simp] theorem content_fill (r : Reader) : r.fill.2.content = r.content := by
  cases hp : r.pending with
  | cons b p => rw [fill_of_pending hp]
  | nil =>
    have h := r.source.data_next r.limit
    rw [fill_of_pending_nil hp, content, content, hp, h]
    cases hn : r.source.next r.limit with
    | mk delivery rest => cases delivery <;> simp [Delivery.bytes, pending]

@[simp] theorem content_unread (bytes : List UInt8) (r : Reader) :
    (r.unread bytes).content = bytes ++ r.content := by
  simp [content]

/-- What is handed out from the buffer is taken from the front of the queue. -/
theorem content_advance (n : Nat) (r : Reader) :
    r.content = r.pending.take n ++ (r.advance (r.pending.take n).length).content := by
  have hsource : (r.advance (r.pending.take n).length).source = r.source := rfl
  rw [content, content, hsource, pending_advance, drop_length_take, ← List.append_assoc,
    List.take_append_drop]

/-- A read takes the bytes it hands out from the front of the queue. -/
theorem content_read {n : Nat} {r r' : Reader} {bytes : List UInt8}
    (h : r.read n = (.ok bytes, r')) : r.content = bytes ++ r'.content := by
  by_cases hn : n = 0
  · rw [read, if_pos hn] at h
    cases h
    rfl
  have hcontent := content_fill r
  rcases hfill : r.fill with ⟨stop | ok, r₁⟩
  · rw [read_of_fill_error hn hfill] at h
    cases h
  · rw [hfill] at hcontent
    rw [read_of_fill hn hfill] at h
    cases h
    rw [← hcontent]
    exact content_advance n r₁

theorem content_read_error {n : Nat} {r r' : Reader} {stop : Stop}
    (h : r.read n = (.error stop, r')) : r'.content = r.content := by
  have hcontent := content_fill r
  rwa [fill_of_read_error h] at hcontent

/-- A read that hands out bytes leaves fewer. -/
theorem content_length_lt_of_read {n : Nat} {r r' : Reader} {b : UInt8} {bytes : List UInt8}
    (h : r.read n = (.ok (b :: bytes), r')) : r'.content.length < r.content.length := by
  rw [content_read h, List.length_append, List.length_cons]
  omega

/-- Everything that can be read from here to the end of the stream, or to the first operation
without a result. -/
def drain (r : Reader) : List UInt8 × Option Stop :=
  match _h : r.read ByteStream.bufferSize with
  | (.ok [], _) => ([], none)
  | (.ok (b :: bytes), r') =>
    let (more, stop) := drain r'
    (b :: bytes ++ more, stop)
  | (.error stop, _) => ([], some stop)
termination_by r.content.length
decreasing_by exact content_length_lt_of_read ‹_›

end Reader

end WireFetch
