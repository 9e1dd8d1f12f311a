import WireFetch.Coding.Zlib
import WireFetch.Proofs.Coding.Flow
import WireFetch.Proofs.Coding.Undivided

/-!
# Data cut short, and output cut short

A body can be cut twice: its data end early because no more of them were read, and its output is
cut because no more of it is wanted. Neither cut makes up a byte.

Decoding goes forward. A step puts something behind the output and never takes anything back, and
what was handed out stays handed out. So decoding that stops early is on the way to what decoding to
the end comes to (`Blocks.StoppedAt`), and since steps are steady, decoding that runs out of data is
on the way to what more data come to (`Decoded.Continued`).

It follows that a limit cannot be told from decoding everything and getting the beginning,
although decoding under a limit stops early and may never see what is wrong with the data; and that
data that decode without a fault decode to a beginning of the same bytes when they are cut, of which
nothing is lost. Both hold of bare blocks and of blocks in a frame, whose checksum takes part in what
is handed out. What such a check may do is said by `IsPatient`.

## Main definitions

* `Blocks.StoppedAt`, `Decoded.Continued` — decoding that stops early, and data that go on
* `IsPatient` — checks that do not take back what data cut short decode to

## Main results

* `seen_flow_inflate` — decoding under a limit
* `decode_append`, `IsPatient.isPrefix_output_flow` — decoding more data
-/

namespace WireFetch.Coding

variable {enough : Nat → Bool} {output : Array UInt8} {state state' : Inflation}
  {source source' : BitSource} {piece : Piece} {d : Decoder} {b b' : Blocks} {m : Nat}
  {check : List UInt8 → List UInt8 → List UInt8 → Verdict}

/-! ### One step -/

theorem inflateFrom_of_more (h : ¬ enough d.output.handed)
    (hstep : d.state.step d.source = .done (piece, .more state') source') :
    inflateFrom enough d = inflateFrom enough (d.advance piece state' source') := by
  rw [inflateFrom, if_neg h]
  split <;> simp_all

theorem inflateFrom_of_finished (h : ¬ enough d.output.handed)
    (hstep : d.state.step d.source = .done (piece, .finished) source') :
    inflateFrom enough d = ⟨(d.advance piece d.state source').output,
      .complete (d.advance piece d.state source').source.rest
        (d.advance piece d.state source').later⟩ := by
  rw [inflateFrom, if_neg h]
  split <;> simp_all

theorem inflateFrom_of_waiting (h : ¬ enough d.output.handed)
    (hstep : d.state.step d.source = .starved) (hlater : d.later ≠ []) :
    inflateFrom enough d = inflateFrom enough d.refill := by
  rw [inflateFrom, if_neg h]
  split <;> simp_all

theorem inflateFrom_of_starved (h : ¬ enough d.output.handed)
    (hstep : d.state.step d.source = .starved) (hlater : d.later = []) :
    inflateFrom enough d = ⟨d.output, .starved⟩ := by
  rw [inflateFrom, if_neg h]
  split <;> simp_all

theorem inflateFrom_of_corrupt (h : ¬ enough d.output.handed)
    (hstep : d.state.step d.source = .corrupt) :
    inflateFrom enough d = ⟨d.output, .corrupt⟩ := by
  rw [inflateFrom, if_neg h]
  split <;> simp_all

/-! ### The output grows -/

/-- What is decoded in `o` is decoded in `o'`, and what is handed out of it as well. -/
structure Output.Precedes (o o' : Output) : Prop where
  bytes : o.bytes.toList <+: o'.bytes.toList
  handed : o.handed ≤ o'.handed

namespace Output.Precedes

variable {o o' o'' : Output}

theorem refl (o : Output) : o.Precedes o := ⟨List.prefix_rfl, Nat.le_refl _⟩

theorem trans (h : o.Precedes o') (h' : o'.Precedes o'') : o.Precedes o'' :=
  ⟨h.bytes.trans h'.bytes, Nat.le_trans h.handed h'.handed⟩

theorem put (piece : Piece) (o : Output) : o.Precedes (o.put piece) :=
  ⟨piece.prefix_appendTo o.bytes, Nat.le_refl _⟩

theorem handOut (n : Nat) (dry : Bool) (o : Output) : o.Precedes (o.handOut n dry) :=
  ⟨List.prefix_rfl, Nat.le_add_left ..⟩

theorem advance (piece : Piece) (state : Inflation) (source : BitSource) (d : Decoder) :
    d.output.Precedes (d.advance piece state source).output := by
  unfold Decoder.advance
  dsimp only
  split
  · exact put piece d.output
  split
  · exact (put piece d.output).trans (handOut ..)
  · exact (put piece d.output).trans (handOut ..)

end Output.Precedes

/-- What is decoded already is on the way to what decoding comes to. -/
theorem precedes_inflateFrom (enough : Nat → Bool) (d : Decoder) :
    d.output.Precedes (inflateFrom enough d).output := by
  fun_induction inflateFrom enough d with
  | case1 d h => exact .refl d.output
  | case2 d h piece state source hstep ih => exact (Output.Precedes.advance ..).trans ih
  | case3 d h piece source hstep => exact .advance ..
  | case4 d h hstep hlater => exact .refl d.output
  | case5 d h hstep hlater ih => exact (Output.Precedes.handOut ..).trans ih
  | case6 d h hstep => exact .refl d.output

theorem prefix_decodeFrom (output : Array UInt8) (state : Inflation) (source : BitSource) :
    output.toList <+: (decodeFrom output state source).output.toList := by
  fun_induction decodeFrom output state source with
  | case1 output state source piece state' source' hstep ih =>
    exact (piece.prefix_appendTo output).trans ih
  | case2 output state source piece source' hstep => exact piece.prefix_appendTo output
  | case3 output state source hstep => exact List.prefix_rfl
  | case4 output state source hstep => exact List.prefix_rfl

/-! ### Under a limit -/

/-- Decoding to `b` was stopped at `b'`, when `m` bytes were handed out. -/
structure Blocks.StoppedAt (m : Nat) (b' b : Blocks) : Prop where
  le_handed : m ≤ b'.output.handed
  precedes : b'.output.Precedes b.output

/-- Under a limit, decoding goes on as without, or it is stopped on the way. -/
theorem inflateFrom_stoppedAt_or (m : Nat) (d : Decoder) :
    inflateFrom (isEnough (some m)) d = inflateFrom (isEnough none) d ∨
      (inflateFrom (isEnough (some m)) d).StoppedAt m (inflateFrom (isEnough none) d) := by
  fun_induction inflateFrom (isEnough (some m)) d with
  | case1 d h => exact .inr ⟨of_decide_eq_true h, precedes_inflateFrom (isEnough none) d⟩
  | case2 d h piece state source hstep ih =>
    rwa [inflateFrom_of_more Bool.false_ne_true hstep]
  | case3 d h piece source hstep =>
    exact .inl (inflateFrom_of_finished Bool.false_ne_true hstep).symm
  | case4 d h hstep hlater =>
    exact .inl (inflateFrom_of_starved Bool.false_ne_true hstep hlater).symm
  | case5 d h hstep hlater ih =>
    rwa [inflateFrom_of_waiting Bool.false_ne_true hstep hlater]
  | case6 d h hstep => exact .inl (inflateFrom_of_corrupt Bool.false_ne_true hstep).symm

namespace Blocks

/-- Of blocks, the last run is handed out, or it is lost. -/
theorem flow_eq_or (check : List UInt8 → List UInt8 → List UInt8 → Verdict) (b : Blocks) :
    (∃ fault, b.flow check = .ended b.output fault) ∨
      ∃ fault, b.flow check = .broken b.output fault := by
  unfold flow
  split
  · split
    · exact .inl ⟨_, rfl⟩
    · exact .inl ⟨_, rfl⟩
    · exact .inr ⟨_, rfl⟩
  · exact .inl ⟨_, rfl⟩
  · exact .inr ⟨_, rfl⟩
  · exact .inl ⟨_, rfl⟩

theorem isPrefix_output_flow (check : List UInt8 → List UInt8 → List UInt8 → Verdict)
    (b : Blocks) : (b.flow check).output <+: b.output.bytes.toList := by
  rcases b.flow_eq_or check with ⟨fault, h⟩ | ⟨fault, h⟩
  · exact h ▸ List.prefix_rfl
  · exact h ▸ List.take_prefix _ _

theorem handed_le_length_output_flow (check : List UInt8 → List UInt8 → List UInt8 → Verdict)
    (b : Blocks) : b.output.handed ≤ (b.flow check).output.length := by
  rcases b.flow_eq_or check with ⟨fault, h⟩ | ⟨fault, h⟩
  · rw [h, Flow.ended, Array.length_toList]
    exact b.output.handed_le
  · rw [h, Flow.broken, List.length_take, Array.length_toList]
    exact Nat.le_min.2 ⟨Nat.le_refl _, b.output.handed_le⟩

/-- Blocks without a fault are handed out whole. -/
theorem output_flow_of_fault (h : (b.flow check).fault = none) :
    (b.flow check).output = b.output.bytes.toList := by
  rcases b.flow_eq_or check with ⟨fault, hflow⟩ | ⟨fault, hflow⟩
  · exact hflow ▸ rfl
  · rw [hflow] at h
    cases h

/-- Blocks that end without a fault have passed the check. -/
theorem passed_of_fault {atHand later : List UInt8} (h : b.ending = .complete atHand later)
    (hfault : (b.flow check).fault = none) :
    check b.output.bytes.toList atHand later = .passed := by
  rw [flow, h] at hfault
  dsimp only at hfault
  split at hfault
  · assumption
  · cases hfault
  · cases hfault

/-- Nothing is lost of blocks that end, unless the check finds a fault in their last run. -/
theorem exists_flow_eq_ended {atHand later : List UInt8} (h : b.ending = .complete atHand later)
    (hearly : ∀ fault, check b.output.bytes.toList atHand later ≠ .early fault) :
    ∃ fault, b.flow check = .ended b.output fault := by
  rw [flow, h]
  dsimp only
  split
  · exact ⟨_, rfl⟩
  · exact ⟨_, rfl⟩
  · next fault hcheck => exact absurd hcheck (hearly fault)

/-- When enough is handed out, the rest does not matter. -/
theorem seen_flow_of_le (check : List UInt8 → List UInt8 → List UInt8 → Verdict)
    (h : m ≤ b.output.handed) :
    (b.flow check).seen (some m) = ⟨b.output.bytes.toList.take m, none⟩ := by
  have hle : m ≤ (b.flow check).output.length :=
    Nat.le_trans h (b.handed_le_length_output_flow check)
  obtain ⟨more, hmore⟩ := b.isPrefix_output_flow check
  rw [Flow.seen_of_le hle, ← hmore, List.take_append_of_le_length hle]

/-- Decoding that was stopped looks through the limit like what it was on the way to. -/
theorem StoppedAt.seen_flow (h : b'.StoppedAt m b)
    (check : List UInt8 → List UInt8 → List UInt8 → Verdict) :
    (b'.flow check).seen (some m) = (b.flow check).seen (some m) := by
  have hle : m ≤ b'.output.bytes.toList.length := by
    rw [Array.length_toList]
    exact Nat.le_trans h.le_handed b'.output.handed_le
  obtain ⟨more, hmore⟩ := h.precedes.bytes
  rw [seen_flow_of_le check h.le_handed,
    seen_flow_of_le check (Nat.le_trans h.le_handed h.precedes.handed), ← hmore,
    List.take_append_of_le_length hle]

end Blocks

/-- **A limit cannot be told from decoding everything and getting the beginning.** -/
theorem seen_flow_inflate (check : List UInt8 → List UInt8 → List UInt8 → Verdict) (atHand : Nat)
    (limit : Option Nat) (bytes : List UInt8) :
    ((inflate atHand (isEnough limit) bytes).flow check).seen limit
      = ((inflate atHand (isEnough none) bytes).flow check).seen limit := by
  cases limit with
  | none => rfl
  | some m =>
    rcases inflateFrom_stoppedAt_or m
      ⟨.start, .ofBytes (bytes.take atHand), bytes.drop atHand, .empty⟩ with h | h
    · rw [inflate, h, inflate]
    · exact h.seen_flow check

/-! ### More data -/

/-- What data come to when `more` stands behind them: blocks that ended stay what they are, and those
that ran out of data go on. -/
inductive Decoded.Continued (more : List UInt8) : Decoded → Decoded → Prop
  | complete (output : Array UInt8) (behind : List UInt8) :
    Continued more (.complete output behind) (.complete output (behind ++ more))
  | corrupt (output : Array UInt8) : Continued more (.corrupt output) (.corrupt output)
  | starved {output : Array UInt8} {decoded : Decoded}
      (h : output.toList <+: decoded.output.toList) : Continued more (.starved output) decoded

/-- More data continue what decoding comes to without them. -/
theorem decodeFrom_append (more : List UInt8) (output : Array UInt8) (state : Inflation)
    (source : BitSource) : (decodeFrom output state source).Continued more
      (decodeFrom output state (source.append more)) := by
  fun_induction decodeFrom output state source with
  | case1 output state source piece state' source' hstep ih =>
    rwa [decodeFrom_of_more (state.steady_step.done more hstep)]
  | case2 output state source piece source' hstep =>
    rw [decodeFrom_of_finished (state.steady_step.done more hstep)]
    exact .complete ..
  | case3 output state source hstep => exact .starved (prefix_decodeFrom ..)
  | case4 output state source hstep =>
    rw [decodeFrom_of_corrupt (state.steady_step.corrupt more hstep)]
    exact .corrupt output

theorem decode_append (more bytes : List UInt8) :
    (decode bytes).Continued more (decode (bytes ++ more)) :=
  decodeFrom_append more #[] .start (.ofBytes bytes)

/-! ### What stands around the blocks -/

namespace Blocks.Undivided

variable {behind : List UInt8}

theorem output_eq {decoded : Decoded} (h : b.Undivided decoded) :
    b.output.bytes = decoded.output := by
  cases h <;> rfl

theorem exists_of_complete (h : b.Undivided (.complete output behind)) :
    ∃ atHand later, b.ending = .complete atHand later ∧ atHand ++ later = behind := by
  cases h with
  | complete h => exact ⟨_, _, h, rfl⟩

theorem ending_of_starved (h : b.Undivided (.starved output)) : b.ending = .starved := by
  cases h with
  | starved h => exact h

theorem ending_of_corrupt (h : b.Undivided (.corrupt output)) : b.ending = .corrupt := by
  cases h with
  | corrupt h => exact h

/-- Blocks are handed out whole if what stands behind them passes. -/
theorem yields_flow (h : b.Undivided (.complete output behind))
    (hpass : ∀ atHand later, atHand ++ later = behind →
      check output.toList atHand later = .passed) : (b.flow check).Yields output.toList := by
  obtain ⟨atHand, later, hending, hbehind⟩ := h.exists_of_complete
  have hflow : b.flow check = .ended b.output none := by
    rw [flow, hending]
    dsimp only
    rw [h.output_eq, Decoded.output, hpass atHand later hbehind]
  rw [hflow]
  exact ⟨congrArg Array.toList h.output_eq, rfl⟩

end Blocks.Undivided

/-- If a check has passed with more bytes behind the blocks, it finds nothing in the run that ends
the blocks. -/
def IsPatient (check : List UInt8 → List UInt8 → List UInt8 → Verdict) : Prop :=
  ∀ ⦃output atHand later atHand' later' more⦄, atHand' ++ later' = atHand ++ later ++ more →
    check output atHand' later' = .passed → ∀ fault, check output atHand later ≠ .early fault

/-- Bare blocks are not checked. -/
theorem isPatient_bare : IsPatient fun _ _ _ => .passed := nofun

namespace IsPatient

/-- If more data do without a fault, nothing is lost of what the data without them come to, and it is
a beginning of the same. -/
theorem isPrefix_output_flow (hc : IsPatient check) {bytes more : List UInt8}
    (hb : b.Undivided (decode bytes)) (hb' : b'.Undivided (decode (bytes ++ more)))
    (hfault : (b'.flow check).fault = none) :
    (b.flow check).output <+: (b'.flow check).output ∧ Run.EndsDry (b.flow check).runs := by
  have hkept : (∃ fault, b.flow check = .ended b.output fault) ∧
      b.output.bytes.toList <+: b'.output.bytes.toList := by
    rw [hb.output_eq, hb'.output_eq]
    have hcontinued := decode_append more bytes
    generalize decode bytes = decoded at hb hcontinued
    generalize decode (bytes ++ more) = decoded' at hb' hcontinued
    cases hcontinued with
    | complete output behind =>
      obtain ⟨atHand, later, hending, rfl⟩ := hb.exists_of_complete
      obtain ⟨atHand', later', hending', hbehind⟩ := hb'.exists_of_complete
      have hpassed := Blocks.passed_of_fault hending' hfault
      rw [hb'.output_eq] at hpassed
      refine ⟨Blocks.exists_flow_eq_ended hending ?_, List.prefix_rfl⟩
      rw [hb.output_eq]
      exact hc hbehind hpassed
    | corrupt output =>
      rw [Blocks.flow, hb'.ending_of_corrupt] at hfault
      cases hfault
    | starved hprefix =>
      refine ⟨⟨some .blocksCutShort, ?_⟩, hprefix⟩
      rw [Blocks.flow, hb.ending_of_starved]
  obtain ⟨⟨fault, hflow⟩, hstart⟩ := hkept
  rw [Blocks.output_flow_of_fault hfault, hflow]
  exact ⟨hstart, Flow.endsDry_ended b.output fault⟩

end IsPatient

/-! ### Bare blocks -/

/-- A limit does nothing to bare blocks but to end the reading. -/
theorem inflateBare_eq_seen (limit : Option Nat) (bytes : List UInt8) :
    inflateBare limit bytes = (Flow.ofBare none bytes).seen limit :=
  seen_flow_inflate ..

/-- Nothing comes of a step that does not succeed. -/
theorem output_decodeFrom_nil (h : state.step source = .starved ∨ state.step source = .corrupt) :
    (decodeFrom #[] state source).output = #[] := by
  rcases h with h | h
  · rw [decodeFrom_of_starved h, Decoded.output]
  · rw [decodeFrom_of_corrupt h, Decoded.output]

/-- Where nothing is decoded, nothing is handed out. -/
theorem output_inflateBare_of_decode {bytes : List UInt8} (h : (decode bytes).output = #[])
    (limit : Option Nat) : (inflateBare limit bytes).output = [] := by
  rw [inflateBare_eq_seen]
  refine Flow.output_seen_of_output_eq_nil ?_ limit
  have hprefix := (inflate chunkSize (isEnough none) bytes).isPrefix_output_flow
    fun _ _ _ => .passed
  rw [(undivided_inflate ..).output_eq, h] at hprefix
  exact List.prefix_nil.1 hprefix

end WireFetch.Coding
