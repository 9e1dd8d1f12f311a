import Mathlib.Control.Monad.Basic
import WireFetch.Proofs.Body.Failures
import WireFetch.Proofs.Head.Failures
import WireFetch.Proofs.Reader.Quiet
import WireFetch.Proofs.Response.Basic
import WireFetch.Proofs.Text.Report

/-!
# What messages show of a response

The message of a failure goes to a terminal or into a log, and the server chooses what it is about.
So nothing that came over the wire should stand in a message as it came.

What can stop the reading of a head is listed in `Head.Failure`, and for a body in `Body.Failure`;
on a stream that does not fail itself, the reader is stopped only by waiting for too long. Lines of
a head are shown as reports, and what is shown besides them are fixed words, numbers, and the time
limit. This leaves two failures of a body, a page and a length that is no number. Their messages
show a header value, and they show it as it came.

## Main definitions

* `FailsWith` — the failures of a response
* `quotedValue?`, `messageLimit` — values that are shown as they came, and the length of all other
  messages

## Main results

* `message_of_failsWith` — what messages show
-/

namespace WireFetch

open Text

variable {limit : Option Duration} {allowed : Option Nat} {headers : Headers} {s : Session}
  {e : FetchError}

/-! ### Messages -/

/-- The longest message that does not show a header value as it came. It depends on the time limit,
which a message may tell, and on nothing else. -/
def messageLimit (limit : Option Duration) : Nat :=
  300 + limit.elim 0 (·.secondsText.length)

theorem isPresentable_of_isLate (h : IsLate limit e) :
    IsPresentable (messageLimit limit) e.message := by
  obtain ⟨time, rfl, rfl⟩ := h
  have hphase : IsPresentable 13 Phase.read.name := by decide
  have hwords : IsPresentable 17 " timed out after " := by decide
  have htime : IsPresentable time.secondsText.length time.secondsText :=
    ⟨time.isClean_secondsText, Nat.le_refl _⟩
  have hunit : IsPresentable 1 "s" := by decide
  refine (((hphase.append hwords).append htime).append hunit).mono ?_
  show 13 + 17 + time.secondsText.length + 1 ≤ 300 + time.secondsText.length
  omega

/-- Whatever the limit, a short message is presentable. -/
theorem isPresentable_of_le {n : Nat} {message : String} (h : IsPresentable n message)
    (hn : n ≤ 300) : IsPresentable (messageLimit limit) message :=
  h.mono (Nat.le_trans hn (Nat.le_add_right ..))

/-- A report of a line is presentable. -/
theorem isPresentable_report_line {line : String} (h : line.length ≤ Head.maxLineLength + 1) :
    IsPresentable 245 (report line) :=
  isPresentable_report (k := 5) (by decide) (Nat.lt_of_le_of_lt h (by decide))

theorem Head.Failure.isPresentable (h : Head.Failure (· = .late .read limit) (.failed e)) :
    IsPresentable (messageLimit limit) e.message := by
  cases h with
  | stopped h => exact isPresentable_of_isLate (isLate_of_late h.symm)
  | ended => exact isPresentable_of_le (n := 60) (by decide) (by decide)
  | lineTooLong => exact isPresentable_of_le (n := 60) (by decide) (by decide)
  | noStatus h =>
    have hbefore : IsPresentable 17 "Bad status line '" := by decide
    have hbehind : IsPresentable 1 "'" := by decide
    have hmessage := (hbefore.append (isPresentable_report_line h)).append hbehind
    exact isPresentable_of_le hmessage (by decide)
  | noColon h =>
    have hbefore : IsPresentable 20 "No colon in header: " := by decide
    exact isPresentable_of_le (hbefore.append (isPresentable_report_line h)) (by decide)
  | tooManyHeaders => exact isPresentable_of_le (n := 60) (by decide) (by decide)
  | tooManyInterim => exact isPresentable_of_le (n := 60) (by decide) (by decide)

theorem isPresentable_decompression (coding : ContentCoding) (fault : Coding.DecodeFault) :
    IsPresentable 100 (FetchError.decompression coding fault.message).message := by
  have hbefore : IsPresentable 17 "Failed to decode " := by decide
  have hname : IsPresentable 8 coding.name := by cases coding <;> decide
  have hbetween : IsPresentable 10 " content: " := by decide
  have hfault : IsPresentable 60 fault.message := by cases fault <;> decide +kernel
  exact (((hbefore.append hname).append hbetween).append hfault).mono (by decide)

/-! ### Failures of a response -/

/-- The failures of a response: of the head, or of the body behind it. -/
def FailsWith (allowed : Option Nat) (s : Session) (e : FetchError) : Prop :=
  (readHeadAndBody allowed s).1 = .error (.failed e) ∨
    ∃ head, (readHeadAndBody allowed s).1 = .ok (head, .error (.failed e))

/-- The header value that a message shows as it came. -/
def quotedValue? : FetchError → Option String
  | .htmlContent value | .badContentLength value => some value
  | _ => none

/-- Around a value that is shown as it came stand a few clean words. -/
theorem message_of_quotedValue? {value : String} (h : quotedValue? e = some value) :
    (IsClean e.message ↔ IsClean value) ∧ e.message.length ≤ value.length + 60 := by
  obtain ⟨before, behind, hbefore, hbehind, hmessage⟩ : ∃ before behind,
      IsPresentable 31 before ∧ IsPresentable 29 behind ∧
        e.message = before ++ value ++ behind := by
    unfold quotedValue? at h
    split at h
    · cases h
      exact ⟨_, _, by decide, by decide, rfl⟩
    · cases h
      exact ⟨"Bad content length: ", "", by decide, by decide, String.append_empty.symm⟩
    · cases h
  rw [hmessage]
  refine ⟨?_, ?_⟩
  · simp only [isClean_append, hbefore.clean, hbehind.clean, true_and, and_true]
  · have := hbefore.length_le
    have := hbehind.length_le
    rw [String.length_append, String.length_append]
    omega

theorem failure_of_failsWith (hs : s.reader.Quiet limit) (h : FailsWith allowed s e) :
    Head.Failure (· = .late .read limit) (.failed e) ∨
      ∃ headers : Headers, headers.ValuesWithin (Head.maxLineLength + 1) ∧
        Body.Failure (· = .late .read limit) headers (.failed e) := by
  have hkeeps := Reader.keeps_quiet limit
  obtain ⟨hleft, hfailure, hhead⟩ := ends_readHead hkeeps s hs
  rcases hread : readHead s with ⟨result, s'⟩
  rw [hread] at hleft hfailure hhead
  cases result with
  | error stop =>
    rw [FailsWith, readHeadAndBody_of_error allowed hread] at h
    rcases h with h | ⟨head, h⟩
    · exact .inl (hfailure _ (congrArg Except.error (Except.error.inj h)))
    · cases h
  | ok head =>
    rw [FailsWith, readHeadAndBody_of_ok allowed hread] at h
    rcases h with h | ⟨head', h⟩
    · cases h
    · obtain ⟨rfl, hbody⟩ := Prod.mk.inj (Except.ok.inj h)
      exact .inr ⟨head.headers, hhead head rfl, Body.failure_of_readBody hkeeps hleft hbody⟩

/-- The message of a body is presentable, or it shows a value of the headers. -/
theorem Body.Failure.isPresentable_or
    (h : Body.Failure (· = .late .read limit) headers (.failed e)) :
    quotedValue? e = none ∧ IsPresentable (messageLimit limit) e.message ∨
      ∃ key value, headers.get? key = some value ∧ quotedValue? e = some value := by
  cases h with
  | stopped h =>
    have hlate := isLate_of_late h.symm
    obtain ⟨time, -, rfl⟩ := id hlate
    exact .inl ⟨rfl, isPresentable_of_isLate hlate⟩
  | page h => exact .inr ⟨_, _, h, rfl⟩
  | badLength h => exact .inr ⟨_, _, h, rfl⟩
  | undecodable coding fault =>
    exact .inl ⟨rfl, isPresentable_of_le (isPresentable_decompression coding fault) (by decide)⟩

theorem Head.Failure.quotedValue?_eq_none
    (h : Head.Failure (· = .late .read limit) (.failed e)) : quotedValue? e = none := by
  cases h with
  | stopped h =>
    obtain ⟨time, -, rfl⟩ := isLate_of_late h.symm
    rfl
  | _ => rfl

/-- **What messages show.** Let a response fail on a stream that does not fail itself. Its message is
never longer than a line of a head and some words. It is presentable, whatever the server sent, unless
it shows a header value as it came; then it is as clean as this value. -/
theorem message_of_failsWith (hs : s.reader.Quiet limit) (h : FailsWith allowed s e) :
    e.message.length ≤ Head.maxLineLength + messageLimit limit ∧
      match quotedValue? e with
      | none => IsPresentable (messageLimit limit) e.message
      | some value => IsClean e.message ↔ IsClean value := by
  have hcases : quotedValue? e = none ∧ IsPresentable (messageLimit limit) e.message ∨
      ∃ value, value.length ≤ Head.maxLineLength + 1 ∧ quotedValue? e = some value := by
    rcases failure_of_failsWith hs h with hhead | ⟨headers, hvalues, hbody⟩
    · exact .inl ⟨hhead.quotedValue?_eq_none, hhead.isPresentable⟩
    · refine hbody.isPresentable_or.imp_right ?_
      rintro ⟨key, value, hvalue, hquoted⟩
      exact ⟨value, hvalues.length_le_of_get? hvalue, hquoted⟩
  rcases hcases with ⟨hnone, hpresentable⟩ | ⟨value, hvalue, hquoted⟩
  · rw [hnone]
    exact ⟨Nat.le_add_left_of_le hpresentable.length_le, hpresentable⟩
  · obtain ⟨hclean, hlength⟩ := message_of_quotedValue? hquoted
    have hwords : 300 ≤ messageLimit limit := Nat.le_add_right ..
    rw [hquoted]
    exact ⟨by omega, hclean⟩

/-- A status line with an escape sequence in it is shown without. -/
theorem message_of_failsWith_statusLine :
    let s : Session := { reader := { source := [.bytes (Head.asciiBytes "FOO\x1b[31m\r\n")] } }
    let e : FetchError := .malformedStatusLine "FOO[31m"
    s.reader.Quiet none ∧ FailsWith none s e ∧
      e.message.length ≤ Head.maxLineLength + messageLimit none ∧
      IsPresentable (messageLimit none) e.message := by
  intro s e
  have hs : s.reader.Quiet none := ⟨rfl, by simp [s]⟩
  have hfails : FailsWith none s e := .inl (by decide +kernel)
  exact ⟨hs, hfails, message_of_failsWith hs hfails⟩

/-- A content type with an escape sequence in it is shown as it came. -/
theorem message_of_failsWith_contentType :
    let s : Session := { reader := { source := [.bytes (Head.asciiBytes
      "HTTP/1.1 200 OK\r\nContent-Type: text/html\x1b[31m\r\n\r\n")] } }
    let e : FetchError := .htmlContent "text/html\x1b[31m"
    s.reader.Quiet none ∧ FailsWith none s e ∧ '\x1b' ∈ e.message.toList ∧
      isControl '\x1b' ∧ '\x1b' ≠ '\t' := by
  intro s e
  have hs : s.reader.Quiet none := ⟨rfl, by simp [s]⟩
  let head : Head := ⟨200, ⟨[("Content-Type", "text/html\x1b[31m")]⟩,
    ["HTTP/1.1 200 OK", "Content-Type: text/html\x1b[31m"]⟩
  have hhead : (readHead s).1.toOption = some head := by decide +kernel
  obtain ⟨s', hread⟩ : ∃ s', readHead s = (.ok head, s') := by
    rcases hs' : readHead s with ⟨result, s'⟩
    rw [hs'] at hhead
    cases result with
    | ok head' => exact ⟨s', by rw [Option.some.inj hhead]⟩
    | error stop => cases hhead
  have hvalue : head.headers.get? "Content-Type" = some "text/html\x1b[31m" := by decide
  have hpage : Body.isPage "text/html\x1b[31m" = true := by decide
  have hbody : (readBody head.status head.headers none s').1 = .error (.failed e) := by
    rw [Body.readBody_of_isPage _ _ _ hvalue hpage]
  refine ⟨hs, .inr ⟨head, ?_⟩, by decide, by decide, by decide⟩
  rw [readHeadAndBody_of_ok none hread, hbody]

end WireFetch
