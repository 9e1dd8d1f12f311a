import WireFetch.Proofs.Head.Equations
import WireFetch.Proofs.Reading.Agree

/-!
# Heads on two readers

Reading a head does the same on any two similar readers. The proof follows the definitions, one
lemma for each: a line by induction on the room that is left in it, a block by induction on the
header lines that may still come, and a head by induction on the heads that may still be skipped.
Nothing about the grammar of heads is used.

## Main results

* `Head.agree_readLine`, `Head.agree_readHeaders`
* `agree_readHead` — a head is the same on similar readers
-/

namespace WireFetch

open Reading

namespace Head

variable {α : Type} {R : Reader → Reader → Prop}

/-! ### Lines -/

theorem agree_skipLineFeed (hR : Reader.IsSimilarity R) : Agree R skipLineFeed := by
  refine (agree_peekByte hR).bind fun next => ?_
  split
  · exact (agree_readByte hR).bind fun _ => agree_pure ()
  · exact agree_pure ()

theorem agree_takeFold (hR : Reader.IsSimilarity R) : Agree R takeFold := by
  refine (agree_peekByte hR).bind fun next => ?_
  cases next with
  | none => exact agree_pure none
  | some b =>
    dsimp only
    split
    · exact (agree_readByte hR).bind fun _ => agree_pure (some b)
    · exact agree_pure none

theorem agree_skipBreak (hR : Reader.IsSimilarity R) (b : UInt8) : Agree R (skipBreak b) := by
  unfold skipBreak
  split
  · exact agree_skipLineFeed hR
  · exact agree_pure ()

theorem agree_readLineFrom (hR : Reader.IsSimilarity R) (kind : LineKind) (room : Nat)
    (line : List UInt8) : Agree R (readLineFrom kind room line) := by
  induction room generalizing line with
  | zero => exact agree_fail _
  | succ room ih =>
    have hbreak : Agree R (afterBreak kind room line) := by
      unfold afterBreak
      split
      · refine (agree_takeFold hR).bind fun fold => ?_
        cases fold with
        | none => exact agree_pure _
        | some fold => exact ih _
      · exact agree_pure _
    rw [readLineFrom_succ]
    refine (agree_readByte hR).bind fun next => ?_
    cases next with
    | none => exact agree_fail _
    | some b =>
      rw [afterByte]
      split
      · exact (agree_skipBreak hR b).bind fun _ => hbreak
      · split
        · exact agree_pure _
        · exact ih _

theorem agree_readLine (hR : Reader.IsSimilarity R) (kind : LineKind) :
    Agree R (readLine kind) :=
  agree_readLineFrom hR kind _ _

/-! ### Header blocks -/

theorem agree_accept (parsed : Except FetchError α) : Agree R (accept parsed) := by
  cases parsed with
  | ok a => exact agree_pure a
  | error e => exact agree_fail e

theorem agree_withFragment (fragment : String) (headers : Headers) :
    Agree R (withFragment fragment headers) := by
  unfold withFragment
  split
  · exact agree_pure _
  · exact agree_pure _
  · exact (agree_note _ _ _).bind fun _ => agree_pure _

theorem agree_readHeaderLine (hR : Reader.IsSimilarity R) : Agree R readHeaderLine := by
  refine (agree_readLine hR .header).bind fun line => ?_
  split
  · exact agree_pure _
  · split
    · exact (agree_unread hR _).bind fun _ => agree_pure _
    · refine (agree_accept _).bind fun parsed => ?_
      split <;> exact agree_pure _

theorem agree_afterHeaderLine {next : Headers → List String → Reading HeaderBlock}
    (hnext : ∀ headers lines, Agree R (next headers lines)) (headers : Headers)
    (lines : List String) (line : HeaderLine) :
    Agree R (afterHeaderLine next headers lines line) := by
  cases line with
  | empty => exact agree_pure _
  | blank text => exact agree_pure _
  | fragment text => exact (agree_withFragment _ _).bind fun _ => agree_pure _
  | header text key value => exact hnext _ _

theorem agree_readHeadersFrom (hR : Reader.IsSimilarity R) (room : Nat) (headers : Headers)
    (lines : List String) : Agree R (readHeadersFrom room headers lines) := by
  induction room generalizing headers lines with
  | zero =>
    rw [readHeadersFrom_zero]
    exact (agree_readHeaderLine hR).bind (agree_afterHeaderLine (fun _ _ => agree_fail _) _ _)
  | succ room ih =>
    rw [readHeadersFrom_succ]
    exact (agree_readHeaderLine hR).bind (agree_afterHeaderLine ih _ _)

theorem agree_readHeaders (hR : Reader.IsSimilarity R) : Agree R readHeaders :=
  agree_readHeadersFrom hR _ _ _

/-! ### Heads -/

theorem agree_readOne (hR : Reader.IsSimilarity R) : Agree R readOne :=
  (agree_readLine hR .status).bind fun _ => (agree_accept _).bind fun _ =>
    (agree_note _ _ _).bind fun _ => (agree_readHeaders hR).bind fun _ => agree_pure _

theorem agree_afterHead {next : Reading Head} (hnext : Agree R next) (head : Head × Bool) :
    Agree R (afterHead next head) := by
  obtain ⟨head, bodyStarted⟩ := head
  rw [afterHead]
  split
  · split
    · exact (agree_note _ _ _).bind fun _ => agree_pure _
    · exact agree_pure _
  · exact hnext

theorem agree_readHeadFrom (hR : Reader.IsSimilarity R) (room : Nat) :
    Agree R (readHeadFrom room) := by
  induction room with
  | zero =>
    rw [readHeadFrom_zero]
    exact (agree_readOne hR).bind (agree_afterHead (agree_fail _))
  | succ room ih =>
    rw [readHeadFrom_succ]
    exact (agree_readOne hR).bind (agree_afterHead ((agree_note _ _ _).bind fun _ => ih))

end Head

/-- Reading a head does the same on similar readers. -/
theorem agree_readHead {R : Reader → Reader → Prop} (hR : Reader.IsSimilarity R) :
    Agree R readHead :=
  Head.agree_readHeadFrom hR _

end WireFetch
