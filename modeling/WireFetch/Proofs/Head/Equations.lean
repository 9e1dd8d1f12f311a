import WireFetch.Head.Basic

/-!
# Heads, unfolded

Reading a head is three nested loops: bytes, header lines, heads. Each of them counts down some
room, and what it does with the last of it differs from what it does before in one branch only. So
each loop is written here as one round, with what comes after the round as a parameter. A property
of a round, proved once, then gives the property of the loop by induction on the room.

## Main definitions

* `Head.skipBreak`, `Head.afterBreak`, `Head.afterByte` — a round of `readLineFrom`
* `Head.afterHeaderLine` — a round of `readHeadersFrom`
* `Head.afterHead` — a round of `readHeadFrom`
-/

namespace WireFetch.Head

open Reading

/-! ### Bytes -/

/-- Skips the second byte of a line break that began with `b`, if there is one. -/
def skipBreak (b : UInt8) : Reading Unit := if b = cr then skipLineFeed else pure ()

/-- Goes on behind a line break. -/
def afterBreak (kind : LineKind) (room : Nat) (line : List UInt8) : Reading (List UInt8) :=
  if kind = .header ∧ line ≠ [] then do
    match ← takeFold with
    | some fold => readLineFrom kind room (fold :: line)
    | none => return line.reverse
  else return line.reverse

/-- Goes on behind a byte, or at the end of the stream. -/
def afterByte (kind : LineKind) (room : Nat) (line : List UInt8) :
    Option UInt8 → Reading (List UInt8)
  | none => fail .unexpectedEof
  | some b =>
    if b = cr ∨ b = lf then do
      skipBreak b
      afterBreak kind room line
    else if kind = .header ∧ endsWithMarker (b :: line) then return (b :: line).reverse
    else readLineFrom kind room (b :: line)

theorem skipBreak_bind {α : Type} (b : UInt8) (f : Unit → Reading α) :
    skipBreak b >>= f = if b = cr then skipLineFeed >>= f else f () := by
  unfold skipBreak
  split
  · rfl
  · exact pure_bind () f

theorem readLineFrom_succ (kind : LineKind) (room : Nat) (line : List UInt8) :
    readLineFrom kind (room + 1) line = readByte >>= afterByte kind room line := by
  rw [readLineFrom]
  congr 1
  funext next
  cases next with
  | none => rfl
  | some b =>
    rw [afterByte, skipBreak_bind]
    rfl

/-! ### Header lines -/

/-- Goes on behind a header line, with `next` if the block has not ended. -/
def afterHeaderLine (next : Headers → List String → Reading HeaderBlock) (headers : Headers)
    (lines : List String) : HeaderLine → Reading HeaderBlock
  | .empty => return ⟨headers, lines.reverse, false⟩
  | .blank text => return ⟨headers, (text :: lines).reverse, false⟩
  | .fragment text => do
    let headers ← withFragment text headers
    return ⟨headers, (text :: lines).reverse, true⟩
  | .header text key value => next (headers.set key value) (text :: lines)

theorem readHeadersFrom_zero (headers : Headers) (lines : List String) :
    readHeadersFrom 0 headers lines = readHeaderLine >>=
      afterHeaderLine (fun _ _ => fail (.tooManyHeaders maxHeaders)) headers lines := by
  rw [readHeadersFrom]
  rfl

theorem readHeadersFrom_succ (room : Nat) (headers : Headers) (lines : List String) :
    readHeadersFrom (room + 1) headers lines
      = readHeaderLine >>= afterHeaderLine (readHeadersFrom room) headers lines := by
  rw [readHeadersFrom]
  rfl

/-- Whatever room is left, this is how a round begins. -/
theorem exists_readHeadersFrom_eq (room : Nat) : ∃ next, ∀ headers lines,
    readHeadersFrom room headers lines = readHeaderLine >>= afterHeaderLine next headers lines := by
  cases room with
  | zero => exact ⟨_, readHeadersFrom_zero⟩
  | succ room => exact ⟨_, readHeadersFrom_succ room⟩

/-! ### Heads -/

/-- Goes on behind a head, with `next` if it is skipped. -/
def afterHead (next : Reading Head) : Head × Bool → Reading Head
  | (head, bodyStarted) => do
    if head.status ≠ continueStatus then
      if bodyStarted then
        note .debug .head "Response body started without a blank line after the headers"
      return head
    else next

theorem readHeadFrom_zero : readHeadFrom 0
    = readOne >>= afterHead (fail (.tooManyInterimResponses (maxInterim + 1))) := by
  rw [readHeadFrom]
  rfl

theorem readHeadFrom_succ (room : Nat) : readHeadFrom (room + 1)
    = readOne >>= afterHead (do
      note .debug .head ("Interim 100 response #" ++ toString (maxInterim - room) ++
        ", reading the next status line")
      readHeadFrom room) := by
  rw [readHeadFrom]
  rfl

theorem exists_readHeadFrom_eq (room : Nat) :
    ∃ next, readHeadFrom room = readOne >>= afterHead next := by
  cases room with
  | zero => exact ⟨_, readHeadFrom_zero⟩
  | succ room => exact ⟨_, readHeadFrom_succ room⟩

end WireFetch.Head
