import WireFetch.Proofs.Coding.Cut
import WireFetch.Proofs.Reader.UpTo
import WireFetch.Proofs.Reading.Steps

/-!
# What becomes of a body

Four things decide on a body: the status, the length that the headers declare, the length that the
caller allows, and the coding; and the stream may fail at any byte. `Body.readBody_policy` says for
all of them together what the result is, and what is left on the reader.

The bytes ahead and the stop behind them are `Reader.drain`, so every stream is covered, whatever
it does. A body has two parts that know nothing of each other: how much is read and what stops it
(`Reader.upTo`), and what the bytes come to (`Body.outcome`). They meet in `Body.settle`, the only
place where the status decides between a stop and the bytes read before it.

## Main definitions

* `Body.NamesPage`, `Body.Declares`, `Body.IsCap` — what the headers say, and the two bounds
* `Body.outcome`, `Body.settle` — what the bytes of a body come to, with a stop behind them
* `Body.Policy` — what the result of `readBody` is, case by case

## Main results

* `Body.readBody_eq` — a body in its two parts
* `Body.readBody_congr`, `drain_readBody_congr` — what is ahead decides on everything
* `Body.readBody_policy` — a body is read as `Body.Policy` says
-/

namespace WireFetch

open Text

/-! ### No bytes -/

namespace Coding

theorem output_gunzip_nil (limit : Option Nat) : (gunzip limit []).output = [] :=
  Flow.output_seen_of_output_eq_nil rfl limit

theorem output_inflateFramed_nil (limit : Option Nat) : (inflateFramed limit []).output = [] :=
  Flow.output_seen_of_output_eq_nil rfl limit

theorem output_inflateBare_nil (limit : Option Nat) : (inflateBare limit []).output = [] :=
  output_inflateBare_of_decode (output_decodeFrom_nil (.inl rfl)) limit

/-- What is accepted is the whole output. -/
theorem Inflated.eq_of_accept_eq_ok {i : Inflated} {cut : Bool} {body : List UInt8}
    (h : i.accept cut = .ok body) : body = i.output := by
  unfold Inflated.accept at h
  split at h
  · cases h
    rfl
  · split at h
    · cases h
      rfl
    · cases h

/-- Nothing decodes to nothing, if to anything. -/
theorem eq_nil_of_decode_nil {coding : ContentCoding} {limit : Option Nat} {cut : Bool}
    {body : List UInt8} (h : coding.decode limit cut [] = .ok body) : body = [] := by
  have houtput : (coding.inflate limit cut []).output = [] := by
    cases coding with
    | gzip => exact output_gunzip_nil limit
    | deflate =>
      simp only [ContentCoding.inflate]
      split
      · exact output_inflateFramed_nil limit
      · exact output_inflateBare_nil limit
    | identity => rfl
  exact (Inflated.eq_of_accept_eq_ok h).trans houtput

end Coding

namespace Body

open Reading

variable {status : Nat} {headers : Headers} {declared allowed : Option Nat} {s s' : Session}

/-! ### What the headers say -/

theorem isPage_iff {contentType : String} : isPage contentType ↔
    "text/html".toList <:+: lower contentType.toList ∨
      "application/xhtml".toList <:+: lower contentType.toList := by
  simp [isPage, occursIn_iff]

/-- The first content type names a page. -/
def NamesPage (headers : Headers) : Prop :=
  ∃ contentType, headers.get? "Content-Type" = some contentType ∧
    ("text/html".toList <:+: lower contentType.toList ∨
      "application/xhtml".toList <:+: lower contentType.toList)

/-- The first length header declares this length, a negative number as zero; or there is none. -/
inductive Declares (headers : Headers) : Option Nat → Prop
  | absent (h : headers.get? "Content-Length" = none) : Declares headers none
  | present {value : String} {n : Int} (h : headers.get? "Content-Length" = some value)
      (hn : integer? 64 (trim value.toList) = some n) : Declares headers (some n.toNat)

theorem Declares.declaredLength_eq (h : Declares headers declared) :
    declaredLength headers = .ok declared := by
  unfold declaredLength
  cases h with
  | absent h => rw [h]
  | present h hn =>
    rw [h]
    simp [hn]

theorem declaredLength_of_bad {value : String} (h : headers.get? "Content-Length" = some value)
    (hn : integer? 64 (trim value.toList) = none) :
    declaredLength headers = .error (.badContentLength value) := by
  simp [declaredLength, h, hn]

/-- The smaller of the two bounds that are there. -/
structure IsCap (declared allowed : Option Nat) (n : Nat) : Prop where
  eq_some : declared = some n ∨ allowed = some n
  le_declared : ∀ m, declared = some m → n ≤ m
  le_allowed : ∀ m, allowed = some m → n ≤ m

theorem IsCap.bodyCap_eq {n : Nat} (h : IsCap declared allowed n) :
    bodyCap declared allowed = some n := by
  obtain ⟨h, hdeclared, hallowed⟩ := h
  cases declared with
  | none =>
    obtain rfl : allowed = some n := h.resolve_left nofun
    rfl
  | some d =>
    cases allowed with
    | none =>
      obtain rfl : d = n := Option.some.inj (h.resolve_right nofun)
      rfl
    | some a =>
      have hd := hdeclared d rfl
      have ha := hallowed a rfl
      have hmin : min d a = n := by
        rcases h with h | h <;> have hn := Option.some.inj h <;> omega
      exact congrArg some hmin

theorem isCap_of_bodyCap_eq {n : Nat} (h : bodyCap declared allowed = some n) :
    IsCap declared allowed n := by
  cases declared with
  | none =>
    cases allowed with
    | none => cases h
    | some a =>
      cases h
      exact ⟨.inr rfl, nofun, fun m hm => Nat.le_of_eq (Option.some.inj hm)⟩
  | some d =>
    cases allowed with
    | none =>
      cases h
      exact ⟨.inl rfl, fun m hm => Nat.le_of_eq (Option.some.inj hm), nofun⟩
    | some a =>
      have hmin : min d a = n := Option.some.inj h
      refine ⟨?_, fun m hm => ?_, fun m hm => ?_⟩
      · simp only [Option.some.injEq]
        omega
      · cases hm
        omega
      · cases hm
        omega

/-! ### What the bytes come to -/

/-- What the bytes of a body come to, when they are all there is to it. -/
def outcome (status : Nat) (coding : ContentCoding) (allowed : Option Nat) (raw : Raw) :
    Except Stop (List UInt8) :=
  match coding.decode allowed raw.cut raw.bytes with
  | .ok body => .ok body
  | .error fault =>
    if status = okStatus then .error (.failed (.decompression coding fault.message)) else .ok []

/-- Without a coding the bytes are the body. -/
theorem outcome_identity (status : Nat) (allowed : Option Nat) (raw : Raw) :
    outcome status .identity allowed raw = .ok raw.bytes := rfl

/-- With any status but one, the bytes come to some body. -/
theorem exists_outcome_eq_ok (h : status ≠ okStatus) (coding : ContentCoding)
    (allowed : Option Nat) (raw : Raw) : ∃ body, outcome status coding allowed raw = .ok body := by
  unfold outcome
  split
  · exact ⟨_, rfl⟩
  · exact ⟨[], if_neg h⟩

theorem outcome_nil (h : status ≠ okStatus) (coding : ContentCoding) (allowed : Option Nat)
    (cut : Bool) : outcome status coding allowed ⟨[], cut⟩ = .ok [] := by
  unfold outcome
  split
  · next body hbody => rw [Coding.eq_nil_of_decode_nil hbody]
  · exact if_neg h

/-- A failure counts for one status only; for the others the bytes before it do. -/
def settle (status : Nat) (stop : Option Stop) (result : Except Stop (List UInt8)) :
    Except Stop (List UInt8) :=
  match stop with
  | none => result
  | some (.failed e) => if status = okStatus then .error (.failed e) else result
  | some stop => .error stop

theorem settle_none (status : Nat) (result : Except Stop (List UInt8)) :
    settle status none result = result := rfl

theorem eq_of_settle_eq_ok {stop : Option Stop} {result : Except Stop (List UInt8)}
    {body : List UInt8} (h : settle status stop result = .ok body) : result = .ok body := by
  unfold settle at h
  split at h
  · exact h
  · split at h
    · cases h
    · exact h
  · cases h

/-- With any status but one, a body stays what it is, unless it is waited for without end. -/
theorem settle_eq_ok_or (h : status ≠ okStatus) {stop : Option Stop} (body : List UInt8)
    (hstop : ∀ x, stop = some x → (∃ e, x = .failed e) ∨ x = .endless) :
    settle status stop (.ok body) = .ok body ∨
      stop = some .endless ∧ settle status stop (.ok body) = .error .endless := by
  cases stop with
  | none => exact .inl rfl
  | some x =>
    rcases hstop x rfl with ⟨e, rfl⟩ | rfl
    · exact .inl (if_neg h)
    · exact .inr ⟨rfl, rfl⟩

/-! ### The parts of a reading -/

theorem noteDecoded_apply (coding : ContentCoding) (size decodedSize : Nat)
    (fault : Option Coding.DecodeFault) (s : Session) :
    ∃ s', noteDecoded coding size decodedSize fault s = (.ok (), s') ∧ s'.reader = s.reader := by
  cases coding <;> cases fault <;> exact ⟨_, rfl, rfl⟩

theorem decodeRaw_apply (status : Nat) (coding : ContentCoding) (allowed : Option Nat) (raw : Raw)
    (s : Session) : ∃ s', decodeRaw status coding allowed raw s
      = (outcome status coding allowed raw, s') ∧ s'.reader = s.reader := by
  cases h : (coding.inflate allowed raw.cut raw.bytes).accept raw.cut with
  | ok decoded =>
    obtain ⟨s', hnote, hreader⟩ := noteDecoded_apply coding raw.bytes.length decoded.length
      (coding.inflate allowed raw.cut raw.bytes).fault s
    refine ⟨s', ?_, hreader⟩
    simp only [decodeRaw, outcome, ContentCoding.decode, h]
    rw [bind_of_ok hnote]
    rfl
  | error fault =>
    simp only [decodeRaw, outcome, ContentCoding.decode, h]
    split
    · exact ⟨s, rfl, rfl⟩
    · exact ⟨_, rfl, rfl⟩

/-- A stop is either let pass, or it is the result. -/
theorem tolerate_apply (status size : Nat) (stop : Option Stop) (s : Session) :
    ∃ s', s'.reader = s.reader ∧
      ((tolerate status size stop s = (.ok (), s') ∧ ∀ result, settle status stop result = result) ∨
      ∃ e, tolerate status size stop s = (.error e, s') ∧
        ∀ result, settle status stop result = .error e) := by
  cases stop with
  | none => exact ⟨s, rfl, .inl ⟨rfl, fun _ => rfl⟩⟩
  | some stop =>
    cases stop with
    | failed e =>
      by_cases h : status = okStatus
      · refine ⟨s, rfl, .inr ⟨.failed e, ?_, fun _ => if_pos h⟩⟩
        simp [tolerate, h]
      · refine ⟨(tolerate status size (some (.failed e)) s).2, ?_, .inl ⟨?_, fun _ => if_neg h⟩⟩
        · simp only [tolerate, if_neg h]
          rfl
        · simp only [tolerate, if_neg h]
          rfl
    | endless => exact ⟨s, rfl, .inr ⟨_, rfl, fun _ => rfl⟩⟩
    | overflow => exact ⟨s, rfl, .inr ⟨_, rfl, fun _ => rfl⟩⟩

/-- A page is refused before anything is read. -/
theorem readBody_of_isPage {contentType : String} (status : Nat) (allowed : Option Nat)
    (s : Session) (h : headers.get? "Content-Type" = some contentType)
    (hpage : isPage contentType) :
    readBody status headers allowed s = (.error (.failed (.htmlContent contentType)), s) := by
  simp only [readBody, h, hpage]
  rfl

/-- What is done for a response that is not a page. -/
def readChecked (status : Nat) (headers : Headers) (allowed : Option Nat) :
    Reading (List UInt8) := do
  let (raw, stop) ← readRaw headers allowed
  tolerate status raw.bytes.length stop
  note .trace .body ("Read " ++ toString raw.bytes.length ++ " raw body bytes")
  decodeRaw status (.ofHeader (headers.get? "Content-Encoding")) allowed raw

theorem readBody_eq_readChecked (status : Nat) (allowed : Option Nat) (h : ¬ NamesPage headers) :
    readBody status headers allowed = readChecked status headers allowed := by
  unfold readBody readChecked
  cases hvalue : headers.get? "Content-Type" with
  | none => rfl
  | some contentType =>
    dsimp only
    rw [if_neg fun hp => h ⟨contentType, hvalue, isPage_iff.1 hp⟩]

/-- What is not a page is read, and then decoded. -/
theorem readBody_eq (status : Nat) (hpage : ¬ NamesPage headers) {raw : Raw} {stop : Option Stop}
    (hraw : readRaw headers allowed s = (.ok (raw, stop), s')) :
    ∃ s'', readBody status headers allowed s
      = (settle status stop (outcome status (.ofHeader (headers.get? "Content-Encoding")) allowed
          raw), s'') ∧ s''.reader = s'.reader := by
  rw [readBody_eq_readChecked status allowed hpage, readChecked, bind_of_ok hraw]
  dsimp only
  obtain ⟨s₁, h₁, ⟨htolerate, hsettle⟩ | ⟨e, htolerate, hsettle⟩⟩ :=
    tolerate_apply status raw.bytes.length stop s'
  · rw [bind_of_ok htolerate, hsettle]
    have hnote : note .trace .body ("Read " ++ toString raw.bytes.length ++ " raw body bytes") s₁
        = (.ok (), _) := rfl
    rw [bind_of_ok hnote]
    obtain ⟨s₂, hdecode, h₂⟩ := decodeRaw_apply status
      (.ofHeader (headers.get? "Content-Encoding")) allowed raw _
    exact ⟨s₂, hdecode, h₂.trans h₁⟩
  · rw [bind_of_error htolerate, hsettle]
    exact ⟨s₁, rfl, h₁⟩

/-! ### The bytes that are read -/

theorem readRaw_of_bad {value : String} (allowed : Option Nat) (s : Session)
    (h : headers.get? "Content-Length" = some value)
    (hn : integer? 64 (trim value.toList) = none) :
    readRaw headers allowed s
      = (.ok (⟨[], false⟩, some (.failed (.badContentLength value))), s) := by
  rw [readRaw, declaredLength_of_bad h hn]
  rfl

theorem readRaw_of_declares {bytes : List UInt8} {stop : Option Stop} (s : Session)
    (h : Declares headers declared)
    (hgot : Reader.upTo (bodyCap declared allowed) s.reader.drain = (bytes, stop)) :
    readRaw headers allowed s = (.ok (⟨bytes, isCut declared allowed bytes.length⟩, stop),
      { s with reader := (s.reader.readUpTo (bodyCap declared allowed)).2 }) := by
  rw [← Reader.readUpTo_fst] at hgot
  rcases hread : s.reader.readUpTo (bodyCap declared allowed) with ⟨got, r'⟩
  rw [hread] at hgot
  obtain rfl : got = (bytes, stop) := hgot
  have hact : onReader (fun r => (.ok (r.readUpTo (bodyCap declared allowed)).1,
      (r.readUpTo (bodyCap declared allowed)).2)) s
        = (.ok (bytes, stop), { s with reader := r' }) := by
    simp only [onReader, hread]
  rw [readRaw, h.declaredLength_eq]
  exact (bind_of_ok hact).trans rfl

theorem readBody_of_bad {value : String} (status : Nat) (allowed : Option Nat) (s : Session)
    (hpage : ¬ NamesPage headers) (h : headers.get? "Content-Length" = some value)
    (hn : integer? 64 (trim value.toList) = none) :
    (readBody status headers allowed s).1
        = (if status = okStatus then .error (.failed (.badContentLength value)) else .ok []) ∧
      (readBody status headers allowed s).2.reader = s.reader := by
  obtain ⟨s', hbody, hreader⟩ := readBody_eq status hpage (readRaw_of_bad allowed s h hn)
  rw [hbody]
  refine ⟨?_, hreader⟩
  by_cases hstatus : status = okStatus
  · simp [settle, hstatus]
  · simp [settle, hstatus, outcome_nil hstatus]

/-- A body is made of the bytes up to the cap, with the stop if it comes before the cap. -/
theorem readBody_of_declares {bytes : List UInt8} {stop : Option Stop} (status : Nat) (s : Session)
    (hpage : ¬ NamesPage headers) (h : Declares headers declared)
    (hgot : Reader.upTo (bodyCap declared allowed) s.reader.drain = (bytes, stop)) :
    (readBody status headers allowed s).1
        = settle status stop (outcome status (.ofHeader (headers.get? "Content-Encoding")) allowed
            ⟨bytes, isCut declared allowed bytes.length⟩) ∧
      (readBody status headers allowed s).2.reader
        = (s.reader.readUpTo (bodyCap declared allowed)).2 := by
  obtain ⟨s', hbody, hreader⟩ := readBody_eq status hpage (readRaw_of_declares s h hgot)
  rw [hbody]
  exact ⟨rfl, hreader⟩

theorem bad_or_declares (headers : Headers) :
    (∃ value, headers.get? "Content-Length" = some value ∧
      integer? 64 (trim value.toList) = none) ∨ ∃ declared, Declares headers declared := by
  cases h : headers.get? "Content-Length" with
  | none => exact .inr ⟨_, .absent h⟩
  | some value =>
    cases hn : integer? 64 (trim value.toList) with
    | none => exact .inl ⟨value, rfl, hn⟩
    | some n => exact .inr ⟨_, .present h hn⟩

/-- Either nothing is read, and the result does not depend on the reader; or a length is
declared. -/
theorem readBody_const_or (status : Nat) (headers : Headers) (allowed : Option Nat) :
    (∃ result, (∀ body, result = .ok body → body = []) ∧
      ∀ s : Session, (readBody status headers allowed s).1 = result ∧
        (readBody status headers allowed s).2.reader = s.reader) ∨
    ¬ NamesPage headers ∧ ∃ declared, Declares headers declared := by
  by_cases hpage : NamesPage headers
  · obtain ⟨contentType, h, hp⟩ := hpage
    refine .inl ⟨.error (.failed (.htmlContent contentType)), nofun, fun s => ?_⟩
    rw [readBody_of_isPage status allowed s h (isPage_iff.2 hp)]
    exact ⟨rfl, rfl⟩
  rcases bad_or_declares headers with ⟨value, h, hn⟩ | hdeclared
  · refine .inl ⟨_, fun body hbody => ?_, fun s => readBody_of_bad status allowed s hpage h hn⟩
    split at hbody
    · cases hbody
    · cases hbody
      rfl
  · exact .inr ⟨hpage, hdeclared⟩

/-! ### Readers with the same ahead -/

/-- What is ahead decides on the result. -/
theorem readBody_congr {t : Session} (status : Nat) (headers : Headers) (allowed : Option Nat)
    (h : s.reader.drain = t.reader.drain) :
    (readBody status headers allowed s).1 = (readBody status headers allowed t).1 := by
  rcases readBody_const_or status headers allowed with ⟨result, -, hconst⟩ | ⟨hpage, declared, hd⟩
  · rw [(hconst s).1, (hconst t).1]
  · rw [(readBody_of_declares status s hpage hd rfl).1,
      (readBody_of_declares status t hpage hd rfl).1, h]

/-- What is ahead decides on what is left, if nothing stops the reading. -/
theorem drain_readBody_congr {t : Session} (status : Nat) (headers : Headers)
    (allowed : Option Nat) (h : s.reader.drain = t.reader.drain) (hend : s.reader.drain.2 = none) :
    (readBody status headers allowed s).2.reader.drain
        = (readBody status headers allowed t).2.reader.drain ∧
      (readBody status headers allowed s).2.reader.drain.2 = none := by
  rcases readBody_const_or status headers allowed with ⟨result, -, hconst⟩ | ⟨hpage, declared, hd⟩
  · rw [(hconst s).2, (hconst t).2]
    exact ⟨h, hend⟩
  · rw [(readBody_of_declares status s hpage hd rfl).2,
      (readBody_of_declares status t hpage hd rfl).2]
    exact Reader.drain_readUpTo_congr _ h hend

/-! ### The policy -/

/-- What reading a body from `r` comes to: the result, and the reader `r'` that is left. -/
structure Policy (status : Nat) (headers : Headers) (allowed : Option Nat) (r : Reader)
    (result : Except Stop (List UInt8)) (r' : Reader) : Prop where
  /-- a page is refused, whatever the status, and nothing is read -/
  page : NamesPage headers → r' = r ∧ ∃ contentType,
    headers.get? "Content-Type" = some contentType ∧
      result = .error (.failed (.htmlContent contentType))
  /-- nothing is read if the declared length is not a number -/
  badLength : ¬ NamesPage headers → ∀ value, headers.get? "Content-Length" = some value →
    integer? 64 (trim value.toList) = none → r' = r ∧
      result = if status = okStatus then .error (.failed (.badContentLength value)) else .ok []
  /-- if there are enough bytes, those up to the cap are read, and no stop is seen -/
  reached : ¬ NamesPage headers → ∀ declared, Declares headers declared →
    ∀ n, IsCap declared allowed n → n ≤ r.drain.1.length →
      r.content = r.drain.1.take n ++ r'.content ∧ r'.drain = (r.drain.1.drop n, r.drain.2) ∧
      result = outcome status (.ofHeader (headers.get? "Content-Encoding")) allowed
        ⟨r.drain.1.take n, isCut declared allowed n⟩
  /-- if not, all of them are read, and what stops them is seen -/
  short : ¬ NamesPage headers → ∀ declared, Declares headers declared →
    (∀ n, IsCap declared allowed n → r.drain.1.length < n) →
      r.content = r.drain.1 ++ r'.content ∧ (r.drain.2 = none → r'.drain = ([], none)) ∧
      result = settle status r.drain.2
        (outcome status (.ofHeader (headers.get? "Content-Encoding")) allowed
          ⟨r.drain.1, isCut declared allowed r.drain.1.length⟩)
  /-- without a coding a body is just the bytes that were read -/
  identity : ContentCoding.ofHeader (headers.get? "Content-Encoding") = .identity →
    ∀ body, result = .ok body → r.content = body ++ r'.content
  /-- with any status but one, what is not a page has a body, unless it is waited for without end -/
  tolerant : status ≠ okStatus → ¬ NamesPage headers → (∃ body, result = .ok body) ∨
    r.limit = none ∧ r.drain.2 = some .endless ∧ result = .error .endless

/-- Without a coding a body is just the bytes that were read. -/
theorem content_readBody_of_identity (status : Nat) (allowed : Option Nat) (s : Session)
    (hcoding : ContentCoding.ofHeader (headers.get? "Content-Encoding") = .identity)
    {body : List UInt8} (hbody : (readBody status headers allowed s).1 = .ok body) :
    s.reader.content = body ++ (readBody status headers allowed s).2.reader.content := by
  rcases readBody_const_or status headers allowed
    with ⟨result, hempty, hconst⟩ | ⟨hpage, declared, h⟩
  · obtain ⟨hresult, hreader⟩ := hconst s
    rw [hreader, hempty body (hresult.symm.trans hbody)]
    rfl
  · obtain ⟨bytes, stop, hgot⟩ : ∃ bytes stop,
        Reader.upTo (bodyCap declared allowed) s.reader.drain = (bytes, stop) := ⟨_, _, rfl⟩
    obtain ⟨hresult, hreader⟩ := readBody_of_declares status s hpage h hgot
    rw [hresult, hcoding, outcome_identity] at hbody
    obtain rfl : bytes = body := Except.ok.inj (eq_of_settle_eq_ok hbody)
    rw [hreader, Reader.content_readUpTo (bodyCap declared allowed) s.reader, Reader.readUpTo_fst,
      hgot]

/-- With any status but one, what is not a page has a body, unless it is waited for without end. -/
theorem readBody_eq_ok_or {status : Nat} (allowed : Option Nat) (s : Session)
    (hstatus : status ≠ okStatus) (hpage : ¬ NamesPage headers) :
    (∃ body, (readBody status headers allowed s).1 = .ok body) ∨
      s.reader.limit = none ∧ s.reader.drain.2 = some .endless ∧
        (readBody status headers allowed s).1 = .error .endless := by
  rcases bad_or_declares headers with ⟨value, h, hn⟩ | ⟨declared, h⟩
  · rw [(readBody_of_bad status allowed s hpage h hn).1, if_neg hstatus]
    exact .inl ⟨[], rfl⟩
  obtain ⟨bytes, stop, hgot⟩ : ∃ bytes stop,
      Reader.upTo (bodyCap declared allowed) s.reader.drain = (bytes, stop) := ⟨_, _, rfl⟩
  rw [(readBody_of_declares status s hpage h hgot).1]
  obtain ⟨body, hbody⟩ := exists_outcome_eq_ok hstatus
    (.ofHeader (headers.get? "Content-Encoding")) allowed _
  rw [hbody]
  have hmet : ∀ x, stop = some x → s.reader.drain.2 = some x := by
    rintro x rfl
    have hor := Reader.upTo_snd_eq_none_or (bodyCap declared allowed) s.reader.drain
    rw [hgot] at hor
    exact (hor.resolve_left (Option.some_ne_none x)).symm
  rcases settle_eq_ok_or hstatus body fun x hx =>
      (Reader.stop_of_drain (hmet x hx)).imp_right And.left with hok | ⟨hendless, herror⟩
  · exact .inl ⟨body, hok⟩
  · have hdrain := hmet .endless hendless
    rcases Reader.stop_of_drain hdrain with ⟨e, he⟩ | ⟨-, hlimit⟩
    · cases he
    · exact .inr ⟨hlimit, hdrain, herror⟩

/-- A body is read as the policy says, for every status, all headers, every bound, and every
reader. -/
theorem readBody_policy (status : Nat) (headers : Headers) (allowed : Option Nat) (s : Session) :
    Policy status headers allowed s.reader (readBody status headers allowed s).1
      (readBody status headers allowed s).2.reader where
  page := by
    rintro ⟨contentType, h, hp⟩
    rw [readBody_of_isPage status allowed s h (isPage_iff.2 hp)]
    exact ⟨rfl, contentType, h, rfl⟩
  badLength hpage value h hn := (readBody_of_bad status allowed s hpage h hn).symm
  reached hpage declared h n hn hle := by
    have hcap := hn.bodyCap_eq
    have hgot : Reader.upTo (bodyCap declared allowed) s.reader.drain
        = (s.reader.drain.1.take n, none) := by
      rw [hcap]
      exact if_pos hle
    obtain ⟨hresult, hreader⟩ := readBody_of_declares status s hpage h hgot
    rw [hreader, hresult, hcap, settle_none, List.length_take_of_le hle]
    refine ⟨?_, Reader.drain_readUpTo_of_le hle, rfl⟩
    rw [Reader.content_readUpTo (some n) s.reader, Reader.readUpTo_fst, ← hcap, hgot]
  short hpage declared h hshort := by
    have hgot : Reader.upTo (bodyCap declared allowed) s.reader.drain = s.reader.drain := by
      cases hcap : bodyCap declared allowed with
      | none => rfl
      | some n => exact if_neg (Nat.not_le_of_lt (hshort n (isCap_of_bodyCap_eq hcap)))
    obtain ⟨hresult, hreader⟩ := readBody_of_declares status s hpage h hgot
    rw [← Reader.readUpTo_fst] at hgot
    rw [hreader, hresult]
    refine ⟨?_, Reader.drain_readUpTo_of_all hgot, rfl⟩
    rw [Reader.content_readUpTo (bodyCap declared allowed) s.reader, hgot]
  identity := content_readBody_of_identity status allowed s
  tolerant hstatus hpage := readBody_eq_ok_or allowed s hstatus hpage

end Body

end WireFetch
