import WireFetch.Proofs.Reader.Drain

/-!
# A reader is a queue with pushback

Behind the operations of a reader are a buffer that is enlarged, written over, cut, emptied and put
together anew, and a cursor in it. None of this can be seen from outside. `Queue.Step` says what an
operation is on a plain queue of bytes, with one line for each way in which it can turn out, and
every operation of a reader is such a step on `Reader.content`, whatever the stream does. The last
line is the one that matters: what is stopped has changed nothing, so no byte gets lost on the way,
and none that an earlier read left in the buffer is taken for a new one.

The steps alone would allow a queue that is always stopped, or one that takes a failure for the end.
`Reader.Sound` therefore also says when a reader is stopped, which is if and only if nothing is
pending and the stream itself fails or is late, and when it has come to the end.

## Main definitions

* `Operation`, `Answer`, `Reader.perform`, `Reader.run` — what can be asked of a reader
* `Queue.Step`, `Queue.Run` — the same asked of a queue
* `Reader.Sound` — what holds of a reader at any time

## Main results

* `Reader.step_perform`, `Reader.cursor_le_perform` — one operation
* `Reader.run_queue`, `Reader.cursor_le_run` — operations one after another
* `Reader.sound_run` — a new reader stays sound, and all its operations together are a queue's
-/

namespace WireFetch

/-- What can be asked of a reader. -/
inductive Operation where
  | peekByte
  | readByte
  | read (n : Nat)
  | unread (bytes : List UInt8)
  deriving DecidableEq, Repr

/-- An operation that cannot be done without a byte. -/
def Operation.AsksForBytes : Operation → Prop
  | .peekByte | .readByte => True
  | .read n => n ≠ 0
  | .unread _ => False

/-- What comes of an operation. -/
inductive Answer where
  | byte (b : Option UInt8)
  | bytes (p : List UInt8)
  | done
  | stopped (stop : Stop)
  deriving DecidableEq, Repr

/-- The answer of an operation that may be stopped. -/
def Answer.ofResult {α : Type} (answer : α → Answer) : Except Stop α → Answer
  | .ok a => answer a
  | .error stop => .stopped stop

/-! ### Queues -/

namespace Queue

/-- An operation on a queue: the bytes in it before, the answer, and the bytes in it afterwards. -/
inductive Step : Operation → Answer → List UInt8 → List UInt8 → Prop
  | peekByte (b : UInt8) (q : List UInt8) : Step .peekByte (.byte (some b)) (b :: q) (b :: q)
  | peekByteEnd : Step .peekByte (.byte none) [] []
  | readByte (b : UInt8) (q : List UInt8) : Step .readByte (.byte (some b)) (b :: q) q
  | readByteEnd : Step .readByte (.byte none) [] []
  | read {n : Nat} {p : List UInt8} (q : List UInt8) (hp : p ≠ []) (hn : p.length ≤ n) :
    Step (.read n) (.bytes p) (p ++ q) q
  | readNone (q : List UInt8) : Step (.read 0) (.bytes []) q q
  | readEnd (n : Nat) : Step (.read n) (.bytes []) [] []
  | unread (p q : List UInt8) : Step (.unread p) .done q (p ++ q)
  | stopped (op : Operation) (hop : op.AsksForBytes) (stop : Stop) (q : List UInt8) :
    Step op (.stopped stop) q q

/-- Operations on a queue one after another. -/
inductive Run : List Operation → List Answer → List UInt8 → List UInt8 → Prop
  | nil (q : List UInt8) : Run [] [] q q
  | cons {op : Operation} {ops : List Operation} {a : Answer} {as : List Answer}
      {q q' q'' : List UInt8} (h : Step op a q q') (hs : Run ops as q' q'') :
    Run (op :: ops) (a :: as) q q''

/-- The bytes that an operation takes away. -/
def taken : Operation → Answer → List UInt8
  | .readByte, .byte b => b.toList
  | .read _, .bytes p => p
  | _, _ => []

theorem Step.eq_taken_append {op : Operation} {a : Answer} {q q' : List UInt8}
    (h : Step op a q q') (hop : ∀ p, op ≠ .unread p) : q = taken op a ++ q' := by
  cases h with
  | unread p => exact absurd rfl (hop p)
  | stopped op => cases op <;> rfl
  | _ => rfl

/-- If nothing is handed back, what was there is what was taken, in order, and then what is left. -/
theorem Run.eq_taken_append {ops : List Operation} {as : List Answer} {q q' : List UInt8}
    (h : Run ops as q q') (hops : ∀ p, .unread p ∉ ops) :
    q = (List.zipWith taken ops as).flatten ++ q' := by
  induction h with
  | nil => rfl
  | cons h hs ih =>
    have hop := h.eq_taken_append fun p hp => hops p (hp ▸ List.mem_cons_self ..)
    have hrest := ih fun p hp => hops p (List.mem_cons_of_mem _ hp)
    rw [hop, hrest]
    simp

end Queue

namespace Reader

/-- One operation. -/
def perform (op : Operation) (r : Reader) : Answer × Reader :=
  match op with
  | .peekByte => (.ofResult .byte r.peekByte.1, r.peekByte.2)
  | .readByte => (.ofResult .byte r.readByte.1, r.readByte.2)
  | .read n => (.ofResult .bytes (r.read n).1, (r.read n).2)
  | .unread bytes => (.done, r.unread bytes)

/-- Operations one after another. -/
def run (ops : List Operation) (r : Reader) : List Answer × Reader :=
  match ops with
  | [] => ([], r)
  | op :: ops =>
    let (a, r) := r.perform op
    let (as, r) := run ops r
    (a :: as, r)

variable {r r' : Reader} {op : Operation} {stop : Stop} {ok : Bool}

/-! ### When the stream is asked -/

theorem content_of_fill {result : Except Stop Bool} (h : r.fill = (result, r')) :
    r.content = r'.content := by
  have hcontent := content_fill r
  rw [h] at hcontent
  exact hcontent.symm

/-- If there is nothing to hand out, the stream has ended. -/
theorem content_eq_nil_of_fill (h : r.fill = (.ok ok, r')) (hp : r'.pending = []) :
    r'.content = [] := by
  rw [source_of_fill_ok h hp]
  rfl

/-- What stops the stream stops the operation. -/
theorem perform_of_fill_error (op : Operation) (hop : op.AsksForBytes)
    (h : r.fill = (.error stop, r')) :
    r.perform op = (.stopped stop, r') := by
  cases op with
  | peekByte => rw [perform, peekByte_of_fill_error h, Answer.ofResult]
  | readByte => rw [perform, readByte_of_fill_error h, Answer.ofResult]
  | read n => rw [perform, read_of_fill_error hop h, Answer.ofResult]
  | unread bytes => exact hop.elim

/-- Nothing else stops an operation. -/
theorem fill_of_perform_stopped (h : r.perform op = (.stopped stop, r')) :
    r.fill = (.error stop, r') := by
  rcases hfill : r.fill with ⟨stop' | ok, r₁⟩
  · cases op with
    | unread bytes => cases h
    | read n =>
      by_cases hn : n = 0
      · rw [perform, read, if_pos hn] at h
        cases h
      · rw [perform_of_fill_error (.read n) hn hfill] at h
        cases h
        rfl
    | peekByte =>
      rw [perform_of_fill_error .peekByte trivial hfill] at h
      cases h
      rfl
    | readByte =>
      rw [perform_of_fill_error .readByte trivial hfill] at h
      cases h
      rfl
  · cases op with
    | peekByte =>
      rw [perform, peekByte_of_fill hfill] at h
      cases h
    | readByte =>
      rw [perform, readByte_of_fill hfill] at h
      cases h
    | read n =>
      by_cases hn : n = 0
      · rw [perform, read, if_pos hn] at h
        cases h
      · rw [perform, read_of_fill hn hfill] at h
        cases h
    | unread bytes => cases h

theorem asksForBytes_of_perform_stopped (h : r.perform op = (.stopped stop, r')) :
    op.AsksForBytes := by
  cases op with
  | read n =>
    rintro rfl
    cases h
  | unread bytes => cases h
  | _ => trivial

theorem perform_stopped_iff :
    r.perform op = (.stopped stop, r') ↔ op.AsksForBytes ∧ r.StopsWith stop r' := by
  rw [← fill_error_iff]
  exact ⟨fun h => ⟨asksForBytes_of_perform_stopped h, fill_of_perform_stopped h⟩,
    fun h => perform_of_fill_error op h.1 h.2⟩

/-- An operation that brings nothing, though it asks for bytes, has come to the end of the
stream. -/
theorem ended_of_perform (hop : op.AsksForBytes)
    (h : (r.perform op).1 = .byte none ∨ (r.perform op).1 = .bytes []) :
    (r.perform op).2.pending = [] ∧ (r.perform op).2.source = [] := by
  rcases hfill : r.fill with ⟨stop | ok, r₁⟩
  · rw [perform_of_fill_error op hop hfill] at h
    rcases h with h | h <;> cases h
  cases op with
  | peekByte =>
    rw [perform, peekByte_of_fill hfill] at h ⊢
    have hp : r₁.pending = [] := by simpa [Answer.ofResult] using h
    exact ⟨hp, congrArg source (source_of_fill_ok hfill hp)⟩
  | readByte =>
    rw [perform, readByte_of_fill hfill] at h ⊢
    have hp : r₁.pending = [] := by simpa [Answer.ofResult] using h
    refine ⟨?_, congrArg source (source_of_fill_ok hfill hp)⟩
    rw [pending_advance, hp, List.drop_nil]
  | read n =>
    rw [perform, read_of_fill hop hfill] at h ⊢
    have hn : n ≠ 0 := hop
    have hp : r₁.pending = [] := by simpa [Answer.ofResult, hn] using h
    refine ⟨?_, congrArg source (source_of_fill_ok hfill hp)⟩
    rw [pending_advance, hp, List.drop_nil]
  | unread bytes => exact hop.elim

/-! ### One operation -/

theorem step_peekByte (r : Reader) :
    Queue.Step .peekByte (r.perform .peekByte).1 r.content (r.perform .peekByte).2.content := by
  rcases hfill : r.fill with ⟨stop | ok, r₁⟩ <;> rw [content_of_fill hfill]
  · rw [perform_of_fill_error .peekByte trivial hfill]
    exact .stopped .peekByte trivial ..
  rw [perform, peekByte_of_fill hfill]
  cases hp : r₁.pending with
  | nil =>
    rw [content_eq_nil_of_fill hfill hp]
    exact .peekByteEnd
  | cons b p =>
    rw [content, hp]
    exact .peekByte ..

theorem step_readByte (r : Reader) :
    Queue.Step .readByte (r.perform .readByte).1 r.content (r.perform .readByte).2.content := by
  rcases hfill : r.fill with ⟨stop | ok, r₁⟩ <;> rw [content_of_fill hfill]
  · rw [perform_of_fill_error .readByte trivial hfill]
    exact .stopped .readByte trivial ..
  rw [perform, readByte_of_fill hfill]
  cases hp : r₁.pending with
  | nil =>
    have hnil := content_eq_nil_of_fill hfill hp
    rw [List.take_nil, show r₁.advance (List.length []) = r₁ from rfl, hnil]
    exact .readByteEnd
  | cons b p =>
    rw [content_advance 1 r₁, hp]
    exact .readByte ..

theorem step_read (n : Nat) (r : Reader) :
    Queue.Step (.read n) (r.perform (.read n)).1 r.content (r.perform (.read n)).2.content := by
  by_cases hn : n = 0
  · rw [perform, read, hn, if_pos rfl]
    exact .readNone _
  rcases hfill : r.fill with ⟨stop | ok, r₁⟩ <;> rw [content_of_fill hfill]
  · rw [perform_of_fill_error (.read n) hn hfill]
    exact .stopped (.read n) hn ..
  rw [perform, read_of_fill hn hfill]
  cases hp : r₁.pending with
  | nil =>
    have hnil := content_eq_nil_of_fill hfill hp
    rw [List.take_nil, show r₁.advance (List.length []) = r₁ from rfl, hnil]
    exact .readEnd n
  | cons b p =>
    rw [content_advance n r₁, hp]
    refine .read _ ?_ (List.length_take_le ..)
    simp [hn]

/-- Every operation of a reader is one on the queue. -/
theorem step_perform (op : Operation) (r : Reader) :
    Queue.Step op (r.perform op).1 r.content (r.perform op).2.content := by
  cases op with
  | peekByte => exact step_peekByte r
  | readByte => exact step_readByte r
  | read n => exact step_read n r
  | unread bytes =>
    rw [perform, content_unread]
    exact .unread ..

/-! ### The cursor -/

theorem cursor_le_fill (h : r.cursor ≤ r.buffer.size) :
    r.fill.2.cursor ≤ r.fill.2.buffer.size := by
  cases hp : r.pending with
  | cons b p =>
    rw [fill_of_pending hp]
    exact h
  | nil =>
    rw [fill_of_pending_nil hp]
    split <;> exact Nat.zero_le _

/-- If a byte is promised there is one at the cursor. -/
theorem cursor_lt_of_fill (h : r.fill = (.ok true, r')) : r'.cursor < r'.buffer.size := by
  have hok := ok_of_fill h
  refine Nat.lt_of_not_le fun hle => ?_
  rw [pending_eq_nil_iff.2 hle] at hok
  cases hok

/-- What is handed out was pending, so the cursor does not leave the buffer. -/
theorem cursor_le_advance (n : Nat) (h : r.cursor ≤ r.buffer.size) :
    (r.advance (r.pending.take n).length).cursor ≤ r.buffer.size := by
  have hlength : (r.pending.take n).length ≤ r.buffer.size - r.cursor := by
    rw [← buffered, ← length_pending, List.length_take]
    exact Nat.min_le_right ..
  rw [advance]
  dsimp only
  omega

theorem cursor_le_perform (op : Operation) (h : r.cursor ≤ r.buffer.size) :
    (r.perform op).2.cursor ≤ (r.perform op).2.buffer.size := by
  have hle := cursor_le_fill h
  rcases hfill : r.fill with ⟨stop | ok, r₁⟩ <;> rw [hfill] at hle
  · cases op with
    | peekByte => rwa [perform_of_fill_error .peekByte trivial hfill]
    | readByte => rwa [perform_of_fill_error .readByte trivial hfill]
    | read n =>
      by_cases hn : n = 0
      · rwa [perform, read, if_pos hn]
      · rwa [perform_of_fill_error (.read n) hn hfill]
    | unread bytes =>
      rw [perform, unread]
      split
      · exact h
      · exact Nat.zero_le _
  · cases op with
    | peekByte => rwa [perform, peekByte_of_fill hfill]
    | readByte =>
      rw [perform, readByte_of_fill hfill]
      exact cursor_le_advance 1 hle
    | read n =>
      by_cases hn : n = 0
      · rwa [perform, read, if_pos hn]
      · rw [perform, read_of_fill hn hfill]
        exact cursor_le_advance n hle
    | unread bytes =>
      rw [perform, unread]
      split
      · exact h
      · exact Nat.zero_le _

/-! ### Operations one after another -/

theorem run_queue (ops : List Operation) (r : Reader) :
    Queue.Run ops (r.run ops).1 r.content (r.run ops).2.content := by
  induction ops generalizing r with
  | nil => exact .nil _
  | cons op ops ih => exact .cons (step_perform op r) (ih _)

theorem cursor_le_run (ops : List Operation) (h : r.cursor ≤ r.buffer.size) :
    (r.run ops).2.cursor ≤ (r.run ops).2.buffer.size := by
  induction ops generalizing r with
  | nil => exact h
  | cons op ops ih => exact ih (cursor_le_perform op h)

/-- What holds of a reader at any time. -/
structure Sound (r : Reader) : Prop where
  /-- the cursor is within the buffer, or at its end -/
  cursor_le : r.cursor ≤ r.buffer.size
  /-- where a byte is promised there is one at the cursor -/
  cursor_lt : ∀ r', r.fill = (.ok true, r') → r'.cursor < r'.buffer.size
  /-- every operation is one on the queue -/
  step : ∀ op, Queue.Step op (r.perform op).1 r.content (r.perform op).2.content
  /-- as long as the next byte comes in time, it is the answer, or the first part of it -/
  inTime : ∀ b u behind, r.Offers (b :: u) behind →
    (r.perform .peekByte).1 = .byte (some b) ∧ (r.perform .readByte).1 = .byte (some b) ∧
      ∀ n, n ≠ 0 → ∃ p, (r.perform (.read n)).1 = .bytes (b :: p) ∧ p.length < n
  /-- nothing but the stream stops an operation, and leaves the buffer empty -/
  stopped : ∀ op stop r', r.perform op = (.stopped stop, r') ↔ op.AsksForBytes ∧ r.StopsWith stop r'
  /-- no byte where one is asked for means the end of the stream -/
  ended : ∀ op, op.AsksForBytes →
    (r.perform op).1 = .byte none ∨ (r.perform op).1 = .bytes [] →
    (r.perform op).2.pending = [] ∧ (r.perform op).2.source = []

theorem sound_of_cursor_le (h : r.cursor ≤ r.buffer.size) : r.Sound where
  cursor_le := h
  cursor_lt _ := cursor_lt_of_fill
  step op := step_perform op r
  inTime b u behind hoffers := by
    obtain ⟨r₁, hpeek, -⟩ := peekByte_of_offers hoffers
    obtain ⟨r₂, hread, -⟩ := readByte_of_offers hoffers
    refine ⟨by rw [perform, hpeek, Answer.ofResult], by rw [perform, hread, Answer.ofResult],
      fun n hn => ?_⟩
    obtain ⟨p, v, r₃, hreadn, hlength, -⟩ := read_of_offers hn hoffers
    exact ⟨p, by rw [perform, hreadn, Answer.ofResult], hlength⟩
  stopped _ _ _ := perform_stopped_iff
  ended _ := ended_of_perform

/-- **A reader is a queue with pushback.** Whatever a stream does, and whatever is asked of a reader
of it, one operation after another: the reader stays sound, the answers are those of a queue that
holds the bytes of the stream at first, and if nothing is handed back, the bytes of the stream are
those that were taken and then those that are left. -/
theorem sound_run (source : ByteStream) (limit : Option Duration) (ops : List Operation) :
    let new : Reader := { source, limit }
    (new.run ops).2.Sound ∧
      Queue.Run ops (new.run ops).1 source.data (new.run ops).2.content ∧
      ((∀ p, .unread p ∉ ops) → source.data
        = (List.zipWith Queue.taken ops (new.run ops).1).flatten ++ (new.run ops).2.content) := by
  intro new
  have hrun : Queue.Run ops (new.run ops).1 source.data (new.run ops).2.content :=
    run_queue ops new
  have hcursor : new.cursor ≤ new.buffer.size := Nat.le_refl 0
  exact ⟨sound_of_cursor_le (cursor_le_run ops hcursor), hrun, hrun.eq_taken_append⟩

/-- Two bytes handed back, a failed read between two others, and none of its bytes is lost. -/
example : let r : Reader := { source := [.bytes [1, 2], .fault ⟨.other, ""⟩, .bytes [3]] }
    (r.run [.read 5, .unread [7, 8], .read 1, .readByte, .readByte, .peekByte, .read 9]).1
      = [.bytes [1, 2], .done, .bytes [7], .byte (some 8), .stopped (.failed (.io ⟨.other, ""⟩)),
        .byte (some 3), .bytes [3]] := by
  decide

end Reader

end WireFetch
