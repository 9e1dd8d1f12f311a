import WireFetch.Coding.Inflated

/-!
# How decoded bytes are handed out

A decoder works in runs. A run takes from the data at hand and fills a window, and it ends when the
window is full and another byte is to be written, or when the data at hand are used up (`Run.dry`).
Only then are its bytes handed out. A run in which the data turn out to be corrupt hands out
nothing.

A reader asks for some bytes at a time. A call is answered with what is left of the last run, or
else with the next runs, until there is no more room or a run was dry. If the decoder fails before,
the call fails as a whole, and the runs that it took are lost as well. So how many bytes a reader
has when it learns of a fault depends on how many it asks for, and this depends on its buffer, which
grows with what it got (`Buffer`).

## Main definitions

* `Run`, `Output` — runs of the decoder, and decoded bytes with the runs so far
* `Flow` — everything that a decoder hands out, and the fault behind it
* `Tap.read` — one call of a reader
* `Flow.seen` — what a reader gets that wants everything up to a limit
-/

namespace WireFetch.Coding

/-! ### Runs -/

/-- A run of the decoder. -/
structure Run where
  /-- the number of bytes that it hands out -/
  size : Nat
  /-- it ended because the data at hand were used up -/
  dry : Bool
  deriving DecidableEq, Repr

namespace Run

/-- The number of bytes that some runs hand out. -/
def total : List Run → Nat
  | [] => 0
  | run :: runs => run.size + total runs

theorem total_append (runs more : List Run) : total (runs ++ more) = total runs + total more := by
  induction runs with
  | nil => exact (Nat.zero_add _).symm
  | cons run runs ih => rw [List.cons_append, total, total, ih, Nat.add_assoc]

theorem total_reverse (runs : List Run) : total runs.reverse = total runs := by
  induction runs with
  | nil => rfl
  | cons run runs ih =>
    rw [List.reverse_cons, total_append, ih, total, total, total]
    omega

/-- The last run used up the data at hand, if there are runs. -/
def EndsDry (runs : List Run) : Prop := ∀ run ∈ runs.getLast?, run.dry

end Run

/-- The most that one run decodes. -/
def windowSize : Nat := 32768

/-- Decoded bytes, and the runs that handed out the first of them. -/
structure Output where
  bytes : Array UInt8
  /-- the last one first -/
  runs : List Run
  /-- the number of bytes handed out -/
  handed : Nat
  total_runs : Run.total runs = handed
  handed_le : handed ≤ bytes.size

namespace Output

/-- Nothing decoded yet. -/
def empty : Output := ⟨#[], [], 0, rfl, Nat.zero_le 0⟩

/-- Where the window of the current run ends. -/
def windowEnd (o : Output) : Nat := windowSize * (o.handed / windowSize + 1)

/-- Ends the current run, which hands out the bytes up to the `n`-th. -/
def handOut (n : Nat) (dry : Bool) (o : Output) : Output :=
  { o with
    runs := ⟨min n o.bytes.size - o.handed, dry⟩ :: o.runs
    handed := min n o.bytes.size - o.handed + o.handed
    total_runs := congrArg _ o.total_runs
    handed_le := by
      have := o.handed_le
      omega }

end Output

/-! ### What a decoder hands out -/

/-- The bytes that a decoder hands out, the runs that they come in, and the fault behind them. A
decoder that comes to a clean end has used up what it had at hand. -/
structure Flow where
  output : List UInt8
  runs : List Run
  fault : Option DecodeFault
  total_runs : Run.total runs = output.length
  endsDry : fault = none → Run.EndsDry runs

namespace Flow

/-- No bytes, only a fault. -/
def failed (fault : DecodeFault) : Flow := ⟨[], [], some fault, rfl, nofun⟩

/-- The last run hands out its bytes, and the end or the fault comes behind them. -/
def ended (o : Output) (fault : Option DecodeFault) : Flow where
  output := o.bytes.toList
  runs := o.runs.reverse ++ [⟨o.bytes.size - o.handed, true⟩]
  fault := fault
  total_runs := by
    have := o.handed_le
    rw [Run.total_append, Run.total_reverse, o.total_runs, Array.length_toList]
    exact Nat.add_sub_cancel' this
  endsDry _ := by simp [Run.EndsDry]

/-- The last run fails, and its bytes are lost. -/
def broken (o : Output) (fault : DecodeFault) : Flow where
  output := o.bytes.toList.take o.handed
  runs := o.runs.reverse
  fault := some fault
  total_runs := by
    rw [Run.total_reverse, o.total_runs, List.length_take, Array.length_toList,
      Nat.min_eq_left o.handed_le]
  endsDry := nofun

end Flow

/-! ### Calls of a reader -/

/-- What a decoder has not handed out yet: the rest of a run, and the runs behind it. -/
structure Tap where
  ready : Nat
  runs : List Run

namespace Tap

/-- The number of bytes to come. -/
def content (t : Tap) : Nat := t.ready + Run.total t.runs

/-- Takes up to `room` bytes of the next runs, behind `got` bytes that the same call took. There is
no answer if the decoder is at its end. -/
def fill (room got : Nat) : List Run → Option (Nat × Tap)
  | [] => none
  | run :: runs =>
    if room ≤ run.size then some (got + room, ⟨run.size - room, runs⟩)
    else if run.dry ∧ 0 < got + run.size then some (got + run.size, ⟨0, runs⟩)
    else fill (room - run.size) (got + run.size) runs

/-- One call that asks for up to `room` bytes: how many it gets, unless the decoder is at its
end. -/
def read (room : Nat) (t : Tap) : Option (Nat × Tap) :=
  if 0 < t.ready then some (min room t.ready, ⟨t.ready - room, t.runs⟩)
  else fill room 0 t.runs

/-- What a call gets is something, and it is gone from what is to come. -/
theorem content_of_fill {room got n : Nat} {runs : List Run} {t : Tap} (hroom : 0 < room)
    (h : fill room got runs = some (n, t)) : 0 < n ∧ n + t.content = got + Run.total runs := by
  induction runs generalizing room got with
  | nil => cases h
  | cons run runs ih =>
    rw [fill] at h
    rw [Run.total]
    split at h
    · cases h
      simp only [content]
      omega
    split at h
    · next hdry =>
      cases h
      simp only [content]
      omega
    · have := ih (by omega) h
      omega

theorem content_of_read {room n : Nat} {t t' : Tap} (hroom : 0 < room)
    (h : t.read room = some (n, t')) : 0 < n ∧ n + t'.content = t.content := by
  unfold read at h
  split at h
  · cases h
    simp only [content]
    omega
  · have := content_of_fill hroom h
    have hcontent : t.content = t.ready + Run.total t.runs := rfl
    omega

end Tap

/-- The buffer of a reader that wants everything. -/
structure Buffer where
  size : Nat
  capacity : Nat
  /-- the most that is asked for at once -/
  most : Nat
  most_pos : 0 < most

/-- The least by which a buffer grows, and what is asked for first. -/
def probeSize : Nat := 32

/-- `n` bytes are enough for `limit`. -/
def isEnough (limit : Option Nat) (n : Nat) : Bool :=
  match limit with
  | none => false
  | some m => m ≤ n

namespace Buffer

/-- A buffer without any memory. -/
def empty : Buffer := ⟨0, 0, 8192, by decide⟩

/-- The capacity when more is to be read. A full buffer doubles it. -/
def grown (b : Buffer) : Nat :=
  if b.size < b.capacity then b.capacity else max (2 * b.size) (b.size + probeSize)

/-- How much is asked for. -/
def room (limit : Option Nat) (b : Buffer) : Nat :=
  let room := min (b.grown - b.size) b.most
  match limit with
  | none => room
  | some m => min room (m - b.size)

theorem room_pos {limit : Option Nat} {b : Buffer} (h : ¬ isEnough limit b.size) :
    0 < b.room limit := by
  have hgrown : b.size < b.grown := by
    unfold grown probeSize
    split <;> omega
  have := b.most_pos
  unfold room
  cases limit with
  | none =>
    dsimp only
    omega
  | some m =>
    have hlt : b.size < m := Nat.not_le.1 (mt decide_eq_true h)
    dsimp only
    omega

/-- Takes in `n` bytes. The first ones come by way of a small array, and the memory is just enough
for them; and as much as is asked for at once is doubled each time it is there. -/
def push (n : Nat) (b : Buffer) : Buffer where
  size := b.size + n
  capacity := if b.capacity = 0 then max 8 n else b.grown
  most := if n = b.most then 2 * b.most else b.most
  most_pos := by
    have := b.most_pos
    split <;> omega

end Buffer

/-- How many bytes a reader has when it meets the end of the decoder or has enough. -/
def drain (limit : Option Nat) (b : Buffer) (t : Tap) : Nat :=
  if _henough : isEnough limit b.size then b.size
  else
    match _h : t.read (b.room limit) with
    | none => b.size
    | some (n, t') => drain limit (b.push n) t'
termination_by t.content
decreasing_by
  have := Tap.content_of_read (Buffer.room_pos ‹_›) _h
  omega

/-- What a reader gets that wants everything up to `limit`. A fault behind the last byte asked for is
not seen. -/
def Flow.seen (limit : Option Nat) (f : Flow) : Inflated :=
  let size := drain limit .empty ⟨0, f.runs⟩
  ⟨f.output.take size, if isEnough limit size then none else f.fault⟩

end WireFetch.Coding
