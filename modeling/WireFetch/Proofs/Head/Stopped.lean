import WireFetch.Proofs.Head.Consumed
import WireFetch.Proofs.Head.Failures
import WireFetch.Proofs.Head.Rendering

/-!
# Where the reading of a head stops

A head that is not read leaves nothing behind but what stopped it. To say of a stream that it is
rejected for a line or for a header too many, one has to say how far the reading came. This is done
with three relations between the sessions on the way: `SkipsHeads` from one head to a later one,
`ReadsStatus` across a status line, and `ReadsHeaders` from one header line to a later one. The room
that is left is kept, so they lead no further than the loops do.

For each loop there is a list of the places where it stops (`LineStopsAt`, `BlockStopsAt`,
`OneStopsAt`, `StopsAt`). For all of them but a line, the list is complete and has nothing that does
not stop it: from right to left it says that what stops a part stops the whole, and from left to
right that the whole was stopped for a reason that is to be found on the way.

## Main definitions

* `Head.GoesOn` — how a line may go on
* `Head.ReadsHeaders`, `Head.ReadsStatus`, `Head.SkipsHeads` — how far the reading came
* `Head.LineStopsAt`, `Head.BlockStopsAt`, `Head.OneStopsAt`, `Head.StopsAt` — what stopped it there

## Main results

* `Head.lineStopsAt_of_readLine`, `Head.leads_readLine_tooLong` — where a line stops, and that it
  does if it is too long
* `readHead_eq_error_iff` — where the reading of a head stops
-/

namespace WireFetch

open Reading Text

namespace Head

variable {s s' s₁ s₂ : Session} {stop : Stop} {headers : Headers} {lines : List String}
  {pairs : List (String × String)} {room room' : Nat} {kind : LineKind} {line : List UInt8}
  {x : List SpelledByte}

/-! ### Lines -/

/-- A line of which `line` was read, the last byte first, can go on with `x`: there is no line
break but before a fold, a fold is white space and not the first byte, and no marker ends the
line. -/
structure GoesOn (kind : LineKind) (line : List UInt8) (x : List SpelledByte) : Prop where
  no_break : ∀ y ∈ x, y.2 ≠ cr ∧ y.2 ≠ lf
  folds : ∀ y ∈ x, y.1.isSome → kind = .header ∧ isFold y.2
  first : line = [] → ∀ y ∈ x.head?, y.1 = none
  plain : kind = .header → IsPlain (line.reverse ++ unfolded x)

theorem GoesOn.cons {fold : Option LineEnd} {b : UInt8} (h : GoesOn kind (b :: line) x)
    (hb : b ≠ cr ∧ b ≠ lf) (hfold : fold.isSome → kind = .header ∧ isFold b ∧ line ≠ []) :
    GoesOn kind line ((fold, b) :: x) where
  no_break y hy := by
    rcases List.mem_cons.1 hy with rfl | hy
    · exact hb
    · exact h.no_break y hy
  folds y hy hsome := by
    rcases List.mem_cons.1 hy with rfl | hy
    · exact ⟨(hfold hsome).1, (hfold hsome).2.1⟩
    · exact h.folds y hy hsome
  first hline y hy := by
    obtain rfl : (fold, b) = y := Option.some.inj hy
    cases fold with
    | none => rfl
    | some e => exact absurd hline (hfold rfl).2.2
  plain hkind := by simpa [unfolded] using h.plain hkind

/-- What stops a line that starts at `s`: the reader, the end of the stream, or one byte more than a
line may have, line breaks not counted. -/
inductive LineStopsAt (kind : LineKind) (s : Session) : Stop → Session → Prop
  | reader {limit : Option Duration} {stop : Stop} {s' : Session} (h : stop.OfLimit limit) :
      LineStopsAt kind s stop s'
  | ended {s' : Session} : LineStopsAt kind s (.failed .unexpectedEof) s'
  | tooLong {x : List SpelledByte} {s' : Session} (hx : GoesOn kind [] x)
      (hlength : x.length = maxLineLength + 1)
      (hcontent : s.reader.content = spell x ++ s'.reader.content) :
      LineStopsAt kind s (.failed (.headLineTooLong maxLineLength)) s'

theorem ofLimit_of_readByte (h : readByte s = (.error stop, s')) :
    stop.OfLimit s.reader.limit := by
  rw [readByte_apply] at h
  exact ((Reader.keeps_limit s.reader.limit).readByte rfl).2 stop (Prod.mk.inj h).1

theorem ofLimit_of_peekByte (h : peekByte s = (.error stop, s')) :
    stop.OfLimit s.reader.limit := by
  rw [peekByte_apply] at h
  exact ((Reader.keeps_limit s.reader.limit).peekByte rfl).2 stop (Prod.mk.inj h).1

theorem ofLimit_of_skipBreak {b : UInt8} (h : skipBreak b s = (.error stop, s')) :
    ∃ limit, stop.OfLimit limit := by
  unfold skipBreak at h
  split at h
  · rcases exists_of_bind_eq_error h with h | ⟨next, s₁, -, h⟩
    · exact ⟨_, ofLimit_of_peekByte h⟩
    · split at h
      · rcases exists_of_bind_eq_error h with h | ⟨next, s₂, -, h⟩
        · exact ⟨_, ofLimit_of_readByte h⟩
        · cases h
      · cases h
  · cases h

theorem ofLimit_of_takeFold (h : takeFold s = (.error stop, s')) :
    ∃ limit, stop.OfLimit limit := by
  rcases exists_of_bind_eq_error h with h | ⟨next, s₁, -, h⟩
  · exact ⟨_, ofLimit_of_peekByte h⟩
  · cases next with
    | none => cases h
    | some b =>
      dsimp only at h
      split at h
      · rcases exists_of_bind_eq_error h with h | ⟨next, s₂, -, h⟩
        · exact ⟨_, ofLimit_of_readByte h⟩
        · cases h
      · cases h

theorem of_readLineFrom_eq_error (hplain : kind = .header → IsPlain line.reverse)
    (h : readLineFrom kind room line s = (.error stop, s')) :
    (∃ limit, stop.OfLimit limit) ∨ stop = .failed .unexpectedEof ∨
      stop = .failed (.headLineTooLong maxLineLength) ∧
        ∃ x, GoesOn kind line x ∧ x.length = room ∧
          s.reader.content = spell x ++ s'.reader.content := by
  induction room generalizing line s with
  | zero =>
    cases h
    refine .inr (.inr ⟨rfl, [], ⟨nofun, nofun, nofun, fun hkind => ?_⟩, rfl, rfl⟩)
    simpa [unfolded] using hplain hkind
  | succ room ih =>
    rw [readLineFrom_succ] at h
    rcases exists_of_bind_eq_error h with h | ⟨next, s₁, hread, h⟩
    · exact .inl ⟨_, ofLimit_of_readByte h⟩
    cases next with
    | none =>
      cases h
      exact .inr (.inl rfl)
    | some b =>
      rw [content_of_readByte hread]
      rw [afterByte] at h
      split at h
      · next hbreak =>
        rcases exists_of_bind_eq_error h with h | ⟨⟨⟩, s₂, hskip, h⟩
        · exact .inl (ofLimit_of_skipBreak h)
        obtain ⟨e, he⟩ := exists_lineEnd_of_skipBreak hbreak hskip
        rw [he]
        rw [afterBreak] at h
        split at h
        · next hheader =>
          rcases exists_of_bind_eq_error h with h | ⟨fold, s₃, htake, h⟩
          · exact .inl (ofLimit_of_takeFold h)
          cases fold with
          | none => cases h
          | some fold =>
            obtain ⟨hcontent, hfold⟩ := content_of_takeFold htake
            have hwhite := hfold fold rfl
            have hplain' : kind = .header → IsPlain (fold :: line).reverse := fun hkind => by
              simpa using (hplain hkind).concat_fold hwhite
            rcases ih hplain' h with hreader | hended | ⟨hstop, x, hx, hlength, hrest⟩
            · exact .inl hreader
            · exact .inr (.inl hended)
            · refine .inr (.inr ⟨hstop, (some e, fold) :: x, hx.cons (ne_of_isFold hwhite)
                fun _ => ⟨hheader.1, hwhite, hheader.2⟩, congrArg (· + 1) hlength, ?_⟩)
              rw [hcontent, hrest, spell_cons]
              simp
        · cases h
      · next hbreak =>
        split at h
        · cases h
        · next hmarker =>
          have hplain' : kind = .header → IsPlain (b :: line).reverse := by
            intro hkind
            rw [List.reverse_cons]
            refine (hplain hkind).concat fun hends => hmarker ⟨hkind, ?_⟩
            rwa [List.reverse_reverse] at hends
          rcases ih hplain' h with hreader | hended | ⟨hstop, x, hx, hlength, hrest⟩
          · exact .inl hreader
          · exact .inr (.inl hended)
          · refine .inr (.inr ⟨hstop, (none, b) :: x, hx.cons (by simpa using hbreak)
              fun hsome => absurd hsome Bool.false_ne_true, congrArg (· + 1) hlength, ?_⟩)
            rw [hrest, spell_cons]
            rfl

theorem lineStopsAt_of_readLine (h : readLine kind s = (.error stop, s')) :
    LineStopsAt kind s stop s' := by
  have hplain : kind = .header → IsPlain (List.reverse []) := fun _ => isPlain_nil
  rcases of_readLineFrom_eq_error hplain h with
    ⟨limit, hstop⟩ | rfl | ⟨rfl, x, hx, hlength, hcontent⟩
  · exact .reader hstop
  · exact .ended
  · exact .tooLong hx hlength hcontent

/-- A line that is too long stops right behind the first byte that is too many. -/
theorem leads_readLine_tooLong {u : List UInt8} {behind : ByteStream} (hx : GoesOn kind [] x)
    (hlength : x.length = maxLineLength + 1) :
    Leads behind (readLine kind) (spell x ++ u) (fail (.headLineTooLong maxLineLength)) u := by
  have hline : readLine kind = readLineFrom kind (0 + x.length) [] := by
    rw [readLine, hlength, Nat.zero_add]
  rw [hline]
  exact leads_readLineFrom_part hx.no_break hx.folds hx.first hx.plain

/-! ### Header lines -/

/-- A header line is stopped with its line, or because there is no colon in it. -/
theorem of_readHeaderLine_eq_error (h : readHeaderLine s = (.error stop, s')) :
    readLine .header s = (.error stop, s') ∨
      ∃ line, readLine .header s = (.ok line, s') ∧
        stop = .failed (.missingColon (report (decodeLine line))) := by
  rcases exists_of_bind_eq_error h with h | ⟨line, s₁, hline, h⟩
  · exact .inl h
  refine .inr ⟨line, ?_⟩
  split at h
  · cases h
  cases hsplit : splitAtMarker line with
  | some parts =>
    simp only [hsplit] at h
    rcases exists_of_bind_eq_error h with h | ⟨⟨⟩, s₂, -, h⟩ <;> cases h
  | none =>
    simp only [hsplit] at h
    rcases exists_of_bind_eq_error h with h | ⟨entry, s₂, -, h⟩
    · cases hheader : headerOf (decodeLine line) with
      | ok entry =>
        rw [hheader] at h
        cases h
      | error e =>
        rw [hheader] at h
        cases h
        rw [headerOf_eq_error hheader]
        exact ⟨hline, rfl⟩
    · cases entry <;> cases h

/-- Header lines that are read one after the other, with the entries that they tell. -/
inductive ReadsHeaders : Session → List (String × String) → Session → Prop
  | nil {s : Session} : ReadsHeaders s [] s
  | cons {s s₁ s' : Session} {text key value : String} {pairs : List (String × String)}
      (hline : readHeaderLine s = (.ok (.header text key value), s₁))
      (h : ReadsHeaders s₁ pairs s') : ReadsHeaders s ((key, value) :: pairs) s'

/-- What stops a header block that starts at `s`: a line of it, or one header line too many. -/
inductive BlockStopsAt (room : Nat) (s : Session) : Stop → Session → Prop
  | line {pairs : List (String × String)} {s₁ s' : Session} {stop : Stop}
      (h : ReadsHeaders s pairs s₁) (hlength : pairs.length ≤ room)
      (hline : readHeaderLine s₁ = (.error stop, s')) : BlockStopsAt room s stop s'
  | tooMany {pairs : List (String × String)} {s' : Session} (h : ReadsHeaders s pairs s')
      (hlength : pairs.length = room + 1) :
      BlockStopsAt room s (.failed (.tooManyHeaders maxHeaders)) s'

theorem BlockStopsAt.cons {text key value : String}
    (hline : readHeaderLine s = (.ok (.header text key value), s₁))
    (h : BlockStopsAt room s₁ stop s') : BlockStopsAt (room + 1) s stop s' := by
  cases h with
  | line h hlength hstop => exact .line (.cons hline h) (Nat.succ_le_succ hlength) hstop
  | tooMany h hlength => exact .tooMany (.cons hline h) (congrArg (· + 1) hlength)

/-- Behind a line a block is stopped only by what comes next. -/
theorem of_afterHeaderLine_eq_error {next : Headers → List String → Reading HeaderBlock}
    {parsed : HeaderLine} (h : afterHeaderLine next headers lines parsed s = (.error stop, s')) :
    ∃ text key value, parsed = .header text key value ∧
      next (headers.set key value) (text :: lines) s = (.error stop, s') := by
  cases parsed with
  | empty => cases h
  | blank text => cases h
  | fragment text =>
    rcases exists_of_bind_eq_error h with h | ⟨headers', s₁, -, h⟩
    · cases hheader : headerOf text with
      | ok entry => cases entry <;> rw [withFragment, hheader] at h <;> cases h
      | error e =>
        rw [withFragment, hheader] at h
        rcases exists_of_bind_eq_error h with h | ⟨⟨⟩, s₁, -, h⟩ <;> cases h
    · cases h
  | header text key value => exact ⟨text, key, value, rfl, h⟩

theorem blockStopsAt_of_readHeadersFrom
    (h : readHeadersFrom room headers lines s = (.error stop, s')) :
    BlockStopsAt room s stop s' := by
  induction room generalizing headers lines s with
  | zero =>
    rw [readHeadersFrom_zero] at h
    rcases exists_of_bind_eq_error h with h | ⟨parsed, s₁, hline, h⟩
    · exact .line .nil (Nat.le_refl _) h
    · obtain ⟨text, key, value, rfl, h⟩ := of_afterHeaderLine_eq_error h
      cases h
      exact .tooMany (.cons hline .nil) rfl
  | succ room ih =>
    rw [readHeadersFrom_succ] at h
    rcases exists_of_bind_eq_error h with h | ⟨parsed, s₁, hline, h⟩
    · exact .line .nil (Nat.zero_le _) h
    · obtain ⟨text, key, value, rfl, h⟩ := of_afterHeaderLine_eq_error h
      exact (ih h).cons hline

theorem readHeadersFrom_of_line (h : ReadsHeaders s pairs s₁) (hlength : pairs.length ≤ room)
    (hline : readHeaderLine s₁ = (.error stop, s')) :
    readHeadersFrom room headers lines s = (.error stop, s') := by
  induction h generalizing room headers lines with
  | nil =>
    obtain ⟨next, hnext⟩ := exists_readHeadersFrom_eq room
    rw [hnext, bind_of_error hline]
  | cons hheader h ih =>
    obtain ⟨room, rfl⟩ := Nat.exists_eq_add_of_le' hlength
    rw [List.length_cons, ← Nat.add_assoc, readHeadersFrom_succ, bind_of_ok hheader]
    exact ih (Nat.le_add_left ..) hline

theorem readHeadersFrom_of_tooMany (h : ReadsHeaders s pairs s')
    (hlength : pairs.length = room + 1) : readHeadersFrom room headers lines s
      = (.error (.failed (.tooManyHeaders maxHeaders)), s') := by
  induction h generalizing room headers lines with
  | nil => cases hlength
  | cons hheader h ih =>
    cases room with
    | zero =>
      obtain rfl := List.length_eq_zero_iff.1 (Nat.succ.inj hlength)
      cases h
      rw [readHeadersFrom_zero, bind_of_ok hheader]
      rfl
    | succ room =>
      rw [readHeadersFrom_succ, bind_of_ok hheader]
      exact ih (Nat.succ.inj hlength)

theorem readHeaders_eq_error_iff :
    readHeaders s = (.error stop, s') ↔ BlockStopsAt maxHeaders s stop s' := by
  refine ⟨blockStopsAt_of_readHeadersFrom, fun h => ?_⟩
  cases h with
  | line h hlength hline => exact readHeadersFrom_of_line h hlength hline
  | tooMany h hlength => exact readHeadersFrom_of_tooMany h hlength

/-! ### One head -/

/-- From a status line to what is behind it. -/
inductive ReadsStatus (s : Session) : Session → Prop
  | mk {status : Nat} {line : List UInt8} {s₁ s' : Session}
      (hline : readLine .status s = (.ok line, s₁))
      (hstatus : statusOf (decodeLine line) = .ok status)
      (hnote : note .debug .head ("Status line parsed: " ++ toString status) s₁ = (.ok (), s')) :
      ReadsStatus s s'

/-- What stops one head that starts at `s`: its status line, or its header block. -/
inductive OneStopsAt (s : Session) : Stop → Session → Prop
  | statusLine {s' : Session} {stop : Stop} (hline : readLine .status s = (.error stop, s')) :
      OneStopsAt s stop s'
  | noStatus {line : List UInt8} {e : FetchError} {s' : Session}
      (hline : readLine .status s = (.ok line, s'))
      (hstatus : statusOf (decodeLine line) = .error e) : OneStopsAt s (.failed e) s'
  | headers {s₁ s' : Session} {stop : Stop} (h : ReadsStatus s s₁)
      (hblock : BlockStopsAt maxHeaders s₁ stop s') : OneStopsAt s stop s'

theorem accept_of_eq {α : Type} {parsed : Except FetchError α} {a : α} (h : parsed = .ok a) :
    accept parsed s = (.ok a, s) := by
  rw [h]
  rfl

theorem accept_of_eq_error {α : Type} {parsed : Except FetchError α} {e : FetchError}
    (h : parsed = .error e) : accept parsed s = (.error (.failed e), s) := by
  rw [h]
  rfl

theorem readOne_eq_error_iff : readOne s = (.error stop, s') ↔ OneStopsAt s stop s' := by
  constructor
  · intro h
    rcases exists_of_bind_eq_error h with h | ⟨line, s₁, hline, h⟩
    · exact .statusLine h
    rcases exists_of_bind_eq_error h with h | ⟨status, s₂, haccept, hrest⟩
    · cases hstatus : statusOf (decodeLine line) with
      | ok status =>
        rw [accept_of_eq hstatus] at h
        cases h
      | error e =>
        rw [accept_of_eq_error hstatus] at h
        cases h
        exact .noStatus hline hstatus
    obtain ⟨hstatus, rfl⟩ := eq_ok_of_accept haccept
    rcases exists_of_bind_eq_error hrest with h | ⟨⟨⟩, s₃, hnote, h⟩
    · cases h
    rcases exists_of_bind_eq_error h with h | ⟨block, s₄, -, h⟩
    · exact .headers (.mk hline hstatus hnote) (readHeaders_eq_error_iff.1 h)
    · cases h
  · intro h
    cases h with
    | statusLine hline => rw [readOne, bind_of_error hline]
    | noStatus hline hstatus =>
      rw [readOne, bind_of_ok hline, bind_of_error (accept_of_eq_error hstatus)]
    | headers h hblock =>
      obtain ⟨hline, hstatus, hnote⟩ := h
      rw [readOne, bind_of_ok hline, bind_of_ok (accept_of_eq hstatus), bind_of_ok hnote,
        bind_of_error (readHeaders_eq_error_iff.2 hblock)]

/-! ### Heads that are skipped -/

/-- Heads that are skipped one after the other, with the room that is there before and after. -/
inductive SkipsHeads : Nat → Session → Nat → Session → Prop
  | refl {room : Nat} {s : Session} : SkipsHeads room s room s
  | skip {room room' : Nat} {head : Head} {bodyStarted : Bool} {s s₁ s₂ s' : Session}
      (hone : readOne s = (.ok (head, bodyStarted), s₁)) (hstatus : head.status = continueStatus)
      (hnote : note .debug .head ("Interim 100 response #" ++ toString (maxInterim - room) ++
        ", reading the next status line") s₁ = (.ok (), s₂))
      (h : SkipsHeads room s₂ room' s') : SkipsHeads (room + 1) s room' s'

theorem readHeadFrom_eq_of_skipsHeads (h : SkipsHeads room s room' s') :
    readHeadFrom room s = readHeadFrom room' s' := by
  induction h with
  | refl => rfl
  | skip hone hstatus hnote h ih =>
    rw [readHeadFrom_succ, bind_of_ok hone, afterHead, if_neg (not_not_intro hstatus),
      bind_of_ok hnote, ih]

/-- What stops the reading of a head, with room for `room` that are skipped: one of the heads, or
one head too many. -/
inductive StopsAt (room : Nat) (s : Session) : Stop → Session → Prop
  | one {room' : Nat} {s₁ s' : Session} {stop : Stop} (h : SkipsHeads room s room' s₁)
      (hone : OneStopsAt s₁ stop s') : StopsAt room s stop s'
  | tooMany {head : Head} {bodyStarted : Bool} {s₁ s' : Session} (h : SkipsHeads room s 0 s₁)
      (hone : readOne s₁ = (.ok (head, bodyStarted), s')) (hstatus : head.status = continueStatus) :
      StopsAt room s (.failed (.tooManyInterimResponses (maxInterim + 1))) s'

/-- Behind a head it stops only if this one is skipped. -/
theorem of_afterHead_eq_error {next : Reading Head} {head : Head} {bodyStarted : Bool}
    (h : afterHead next (head, bodyStarted) s = (.error stop, s')) :
    head.status = continueStatus ∧ next s = (.error stop, s') := by
  rw [afterHead] at h
  split at h
  · split at h
    · rcases exists_of_bind_eq_error h with h | ⟨⟨⟩, s₁, -, h⟩ <;> cases h
    · cases h
  · next hstatus => exact ⟨Decidable.not_not.1 hstatus, h⟩

theorem stopsAt_of_readHeadFrom (h : readHeadFrom room s = (.error stop, s')) :
    StopsAt room s stop s' := by
  induction room generalizing s with
  | zero =>
    rw [readHeadFrom_zero] at h
    rcases exists_of_bind_eq_error h with h | ⟨⟨head, bodyStarted⟩, s₁, hone, h⟩
    · exact .one .refl (readOne_eq_error_iff.1 h)
    · obtain ⟨hstatus, h⟩ := of_afterHead_eq_error h
      cases h
      exact .tooMany .refl hone hstatus
  | succ room ih =>
    rw [readHeadFrom_succ] at h
    rcases exists_of_bind_eq_error h with h | ⟨⟨head, bodyStarted⟩, s₁, hone, h⟩
    · exact .one .refl (readOne_eq_error_iff.1 h)
    · obtain ⟨hstatus, h⟩ := of_afterHead_eq_error h
      rcases exists_of_bind_eq_error h with h | ⟨⟨⟩, s₂, hnote, h⟩
      · cases h
      · cases ih h with
        | one hskip hstop => exact .one (.skip hone hstatus hnote hskip) hstop
        | tooMany hskip hone' hstatus' =>
          exact .tooMany (.skip hone hstatus hnote hskip) hone' hstatus'

theorem readHeadFrom_of_stopsAt (h : StopsAt room s stop s') :
    readHeadFrom room s = (.error stop, s') := by
  cases h with
  | @one room' s₁ s' stop h hone =>
    obtain ⟨next, hnext⟩ := exists_readHeadFrom_eq room'
    rw [readHeadFrom_eq_of_skipsHeads h, hnext, bind_of_error (readOne_eq_error_iff.2 hone)]
  | tooMany h hone hstatus =>
    rw [readHeadFrom_eq_of_skipsHeads h, readHeadFrom_zero, bind_of_ok hone, afterHead,
      if_neg (not_not_intro hstatus)]
    rfl

/-- Behind a status line, which is the first one or comes behind heads that are skipped. -/
def ComesToHeaders (s s' : Session) : Prop :=
  ∃ room s₁, SkipsHeads maxInterim s room s₁ ∧ ReadsStatus s₁ s'

end Head

open Head

/-- Where the reading of a head stops, and nowhere else. -/
theorem readHead_eq_error_iff {s s' : Session} {stop : Stop} :
    readHead s = (.error stop, s') ↔ StopsAt maxInterim s stop s' :=
  ⟨stopsAt_of_readHeadFrom, readHeadFrom_of_stopsAt⟩

end WireFetch
