import WireFetch.Proofs.Head.Equations
import WireFetch.Proofs.Head.Markup
import WireFetch.Proofs.Reading.Ends
import WireFetch.Proofs.Text.Decode

/-!
# How the reading of a head fails

A head is read from a stream that may hold anything. `Head.Failure` lists what can stop this besides
what stops the reader: six failures, two of which show a line of the head, and both show it as a
report. Where there is a head, each value in it is a part of a line, and no line is longer than
`maxLineLength` allows.

The proof follows the definitions, with the lemmas of `Reading.Ends`: a line by induction on the
room that is left in it, a block by induction on the header lines that may still come, a head by
induction on the heads that may still be skipped.

## Main definitions

* `Head.Failure` — what can stop the reading of a head
* `Headers.ValuesWithin` — values of bounded length

## Main results

* `ends_readHead` — how the reading of a head ends
-/

namespace WireFetch

open Reading Text

/-- No value has more than `n` characters. -/
def Headers.ValuesWithin (n : Nat) (headers : Headers) : Prop :=
  ∀ entry ∈ headers.entries, entry.2.length ≤ n

namespace Head

variable {I : Reader → Prop} {S : Stop → Prop} {kind : LineKind}

/-- What stops the reading of a head, when what stops the reader has the property `S`. -/
inductive Failure (S : Stop → Prop) : Stop → Prop
  | stopped {stop : Stop} (h : S stop) : Failure S stop
  | ended : Failure S (.failed .unexpectedEof)
  | lineTooLong : Failure S (.failed (.headLineTooLong maxLineLength))
  | noStatus {line : String} (h : line.length ≤ maxLineLength + 1) :
    Failure S (.failed (.malformedStatusLine (report line)))
  | noColon {line : String} (h : line.length ≤ maxLineLength + 1) :
    Failure S (.failed (.missingColon (report line)))
  | tooManyHeaders : Failure S (.failed (.tooManyHeaders maxHeaders))
  | tooManyInterim : Failure S (.failed (.tooManyInterimResponses (maxInterim + 1)))

/-! ### Lines -/

theorem ends_skipLineFeed (hI : Reader.Keeps I S) :
    Ends I (Failure S) skipLineFeed fun _ => True := by
  refine (ends_peekByte hI fun _ => .stopped).bind fun next _ => ?_
  split
  · exact (ends_readByte hI fun _ => .stopped).bind fun _ _ => ends_pure trivial
  · exact ends_pure trivial

theorem ends_skipBreak (hI : Reader.Keeps I S) (b : UInt8) :
    Ends I (Failure S) (skipBreak b) fun _ => True := by
  unfold skipBreak
  split
  · exact ends_skipLineFeed hI
  · exact ends_pure trivial

theorem ends_takeFold (hI : Reader.Keeps I S) : Ends I (Failure S) takeFold fun _ => True := by
  refine (ends_peekByte hI fun _ => .stopped).bind fun next _ => ?_
  cases next with
  | none => exact ends_pure trivial
  | some b =>
    dsimp only
    split
    · exact (ends_readByte hI fun _ => .stopped).bind fun _ _ => ends_pure trivial
    · exact ends_pure trivial

/-- What was read of a line and the room that is left are never more than a line may have. -/
theorem ends_readLineFrom (hI : Reader.Keeps I S) {n : Nat} (room : Nat) (line : List UInt8)
    (h : line.length + room ≤ n) :
    Ends I (Failure S) (readLineFrom kind room line) fun line => line.length ≤ n := by
  induction room generalizing line with
  | zero => exact ends_fail .lineTooLong
  | succ room ih =>
    have hmore : ∀ b : UInt8, (b :: line).length + room ≤ n := by
      intro b
      rw [List.length_cons]
      omega
    have hline : line.reverse.length ≤ n := by
      rw [List.length_reverse]
      omega
    have hbreak : Ends I (Failure S) (afterBreak kind room line)
        fun line => line.length ≤ n := by
      unfold afterBreak
      split
      · refine (ends_takeFold hI).bind fun fold _ => ?_
        cases fold with
        | none => exact ends_pure hline
        | some fold => exact ih _ (hmore fold)
      · exact ends_pure hline
    rw [readLineFrom_succ]
    refine (ends_readByte hI fun _ => .stopped).bind fun next _ => ?_
    cases next with
    | none => exact ends_fail .ended
    | some b =>
      rw [afterByte]
      split
      · exact (ends_skipBreak hI b).bind fun _ _ => hbreak
      · split
        · refine ends_pure ?_
          have := hmore b
          rw [List.length_reverse]
          omega
        · exact ih _ (hmore b)

theorem ends_readLine (hI : Reader.Keeps I S) (kind : LineKind) : Ends I (Failure S) (readLine kind)
    fun line => line.length ≤ maxLineLength + 1 :=
  ends_readLineFrom hI _ [] (Nat.le_of_eq (Nat.zero_add _))

/-! ### What the lines say -/

theorem statusOf_eq_error {line : String} {e : FetchError} (h : statusOf line = .error e) :
    e = .malformedStatusLine (report line) := by
  unfold statusOf at h
  dsimp only at h
  split at h
  · cases h
  · cases h
    rfl

theorem headerOf_eq_error {line : String} {e : FetchError} (h : headerOf line = .error e) :
    e = .missingColon (report line) := by
  unfold headerOf at h
  split at h
  · cases h
  · split at h
    · cases h
    · cases h
      rfl

/-- A value is a part of its line. -/
theorem length_le_of_headerOf {line key value : String}
    (h : headerOf line = .ok (some (key, value))) : value.length ≤ line.length := by
  unfold headerOf at h
  split at h
  · next before behind hsplit =>
    obtain ⟨hline, -⟩ := splitOnce_eq_some_iff.1 hsplit
    have hdrop : (trimValue behind).length ≤ behind.length :=
      (List.dropWhile_sublist _).length_le
    cases h
    rw [String.length_ofList, ← String.length_toList, hline, List.length_append, List.length_cons]
    omega
  · split at h <;> cases h

theorem ends_accept {α : Type} {P : α → Prop} {parsed : Except FetchError α}
    (hE : ∀ e, parsed = .error e → Failure S (.failed e)) (hP : ∀ a, parsed = .ok a → P a) :
    Ends I (Failure S) (accept parsed) P := by
  cases parsed with
  | ok a => exact ends_pure (hP a rfl)
  | error e => exact ends_fail (hE e rfl)

/-! ### Header blocks -/

/-- The value of a header line, or the text that may hold one, has at most `n` characters. -/
def HeaderLine.Within (n : Nat) : HeaderLine → Prop
  | .empty | .blank _ => True
  | .header _ _ value => value.length ≤ n
  | .fragment text => text.length ≤ n

theorem ends_readHeaderLine (hI : Reader.Keeps I S) : Ends I (Failure S) readHeaderLine
    (HeaderLine.Within (maxLineLength + 1)) := by
  refine (ends_readLine hI .header).bind fun line hline => ?_
  have htext : (decodeLine line).length ≤ maxLineLength + 1 :=
    Nat.le_trans (length_decodeLine_le line) hline
  split
  · exact ends_pure trivial
  split
  · next before markup hsplit =>
    refine (ends_unread hI markup).bind fun _ _ => ends_pure ?_
    obtain ⟨rfl, -⟩ := splitAtMarker_eq_some hsplit
    rw [List.length_append] at hline
    exact Nat.le_trans (length_decodeLine_le before) (by omega)
  · have haccept : Ends I (Failure S) (accept (headerOf (decodeLine line)))
        fun header => ∀ key value, header = some (key, value) →
          value.length ≤ maxLineLength + 1 := by
      refine ends_accept (fun e he => ?_) fun header hheader key value heq => ?_
      · rw [headerOf_eq_error he]
        exact .noColon htext
      · subst heq
        exact Nat.le_trans (length_le_of_headerOf hheader) htext
    refine haccept.bind fun header hheader => ?_
    split
    · exact ends_pure trivial
    · exact ends_pure (hheader _ _ rfl)

end Head

/-- To set a value adds no other one. -/
theorem Headers.ValuesWithin.set {n : Nat} {headers : Headers} {key value : String}
    (h : headers.ValuesWithin n) (hvalue : value.length ≤ n) :
    (headers.set key value).ValuesWithin n := by
  intro entry hentry
  rcases mem_entries_set hentry with rfl | hentry
  · exact hvalue
  · exact h entry hentry

theorem Headers.ValuesWithin.length_le_of_get? {n : Nat} {headers : Headers} {key value : String}
    (h : headers.ValuesWithin n) (hvalue : headers.get? key = some value) : value.length ≤ n := by
  obtain ⟨entry, hentry, rfl⟩ := Option.map_eq_some_iff.1 hvalue
  exact h entry (List.mem_of_find?_eq_some hentry)

namespace Head

theorem ends_withFragment {n : Nat} {headers : Headers} {fragment : String}
    (h : headers.ValuesWithin n) (hfragment : fragment.length ≤ n) :
    Ends I (Failure S) (withFragment fragment headers) (Headers.ValuesWithin n) := by
  unfold withFragment
  split
  · next hheader =>
    exact ends_pure (h.set (Nat.le_trans (length_le_of_headerOf hheader) hfragment))
  · exact ends_pure h
  · exact (ends_note _ _ _).bind fun _ _ => ends_pure h

theorem ends_afterHeaderLine {n : Nat} {next : Headers → List String → Reading HeaderBlock}
    (hnext : ∀ headers lines, headers.ValuesWithin n →
      Ends I (Failure S) (next headers lines) (·.headers.ValuesWithin n))
    {headers : Headers} (h : headers.ValuesWithin n) (lines : List String) (line : HeaderLine)
    (hline : line.Within n) : Ends I (Failure S) (afterHeaderLine next headers lines line)
      (·.headers.ValuesWithin n) := by
  cases line with
  | empty => exact ends_pure h
  | blank text => exact ends_pure h
  | fragment text => exact (ends_withFragment h hline).bind fun _ h' => ends_pure h'
  | header text key value => exact hnext _ _ (h.set hline)

theorem ends_readHeadersFrom (hI : Reader.Keeps I S) (room : Nat) {headers : Headers}
    (lines : List String) (h : headers.ValuesWithin (maxLineLength + 1)) :
    Ends I (Failure S) (readHeadersFrom room headers lines)
      (·.headers.ValuesWithin (maxLineLength + 1)) := by
  induction room generalizing headers lines with
  | zero =>
    rw [readHeadersFrom_zero]
    exact (ends_readHeaderLine hI).bind
      (ends_afterHeaderLine (fun _ _ _ => ends_fail .tooManyHeaders) h lines)
  | succ room ih =>
    rw [readHeadersFrom_succ]
    exact (ends_readHeaderLine hI).bind (ends_afterHeaderLine (fun _ lines h => ih lines h) h lines)

/-! ### Heads -/

theorem ends_readOne (hI : Reader.Keeps I S) : Ends I (Failure S) readOne
    (·.1.headers.ValuesWithin (maxLineLength + 1)) := by
  have hempty : Headers.ValuesWithin (maxLineLength + 1) ∅ := nofun
  refine (ends_readLine hI .status).bind fun line hline => ?_
  have hstatus : Ends I (Failure S) (accept (statusOf (decodeLine line)))
      fun _ => True := by
    refine ends_accept (fun e he => ?_) fun _ _ => trivial
    rw [statusOf_eq_error he]
    exact .noStatus (Nat.le_trans (length_decodeLine_le line) hline)
  exact hstatus.bind fun _ _ => (ends_note _ _ _).bind fun _ _ =>
    (ends_readHeadersFrom hI maxHeaders [] hempty).bind fun _ h => ends_pure h

theorem ends_afterHead {P : Head → Prop} {next : Reading Head}
    (hnext : Ends I (Failure S) next P) (head : Head × Bool) (h : P head.1) :
    Ends I (Failure S) (afterHead next head) P := by
  obtain ⟨head, bodyStarted⟩ := head
  rw [afterHead]
  split
  · split
    · exact (ends_note _ _ _).bind fun _ _ => ends_pure h
    · exact ends_pure h
  · exact hnext

theorem ends_readHeadFrom (hI : Reader.Keeps I S) (room : Nat) :
    Ends I (Failure S) (readHeadFrom room) (·.headers.ValuesWithin (maxLineLength + 1)) := by
  induction room with
  | zero =>
    rw [readHeadFrom_zero]
    exact (ends_readOne hI).bind fun head h => ends_afterHead (ends_fail .tooManyInterim) head h
  | succ room ih =>
    rw [readHeadFrom_succ]
    exact (ends_readOne hI).bind fun head h =>
      ends_afterHead ((ends_note _ _ _).bind fun _ _ => ih) head h

end Head

/-- How the reading of a head ends. -/
theorem ends_readHead {I : Reader → Prop} {S : Stop → Prop} (hI : Reader.Keeps I S) :
    Ends I (Head.Failure S) readHead (·.headers.ValuesWithin (Head.maxLineLength + 1)) :=
  Head.ends_readHeadFrom hI _

end WireFetch
