import WireFetch.Proofs.Head.Consumed
import WireFetch.Proofs.Head.Rendering
import WireFetch.Proofs.Reader.Course

/-!
# Heads read from their text

The text of a head (`Head.text`) is a record of what was read. It is also a head: with one more line
break behind it, it is read as the head that it was taken from. Nothing is read differently although
folds have become spaces and lines that were not UTF-8 have become UTF-8.

For one line this is because a marker, a line break, white space and a colon are ASCII characters,
and these are the same before and after (`rewritten`). For several lines one more thing is needed.
A line that starts with white space would continue the line before it. But there is none, except
right behind the status line, which is not continued: what comes behind a header line is no white
space, or else it would have been taken for a fold (`Told.next`).

A head that ended with markup is not among those that are read again, since nothing in its text
says where it ended. So the loop over the heads is written here with one more result, which tells
how the last head ended (`readMarked`).

## Main definitions

* `Head.IsOneLine`, `Head.IsIndented` — texts without a line break, and with white space in front
* `Head.rewritten`, `Head.written` — a line in UTF-8, and several lines with their line breaks
* `Head.Told` — what is known of a line that was read
* `Head.LineCopied`, `Head.BlockCopied` — a line and a block whose text is read as the same
* `readMarked` — a head, and whether it ended with markup

## Main results

* `readHead_eq_map` — `readMarked` reads what `readHead` reads
* `readHead_text` — the text of a head is read as this head
-/

namespace WireFetch

open Reading Text

namespace Head

variable {kind : LineKind} {s s' : Session} {b : UInt8} {line u : List UInt8} {text : String}
  {parsed : HeaderLine} {behind : ByteStream}

/-! ### What is known of a line from its text -/

/-- There is no line break in the text. -/
def IsOneLine (text : String) : Prop := '\r' ∉ text.toList ∧ '\n' ∉ text.toList

/-- The text starts with a space or a tab. -/
def IsIndented (text : String) : Prop :=
  text.toList.head? = some ' ' ∨ text.toList.head? = some '\t'

instance : DecidablePred IsOneLine := fun _ => inferInstanceAs (Decidable (_ ∧ _))

instance : DecidablePred IsIndented := fun _ => inferInstanceAs (Decidable (_ ∨ _))

theorem isOneLine_decodeLine_iff :
    IsOneLine (decodeLine line) ↔ ∀ b ∈ line, b ≠ cr ∧ b ≠ lf := by
  have hcr : '\r' ∈ (decodeLine line).toList ↔ cr ∈ line := mem_decodeLine_iff (b := cr) (by decide)
  have hlf : '\n' ∈ (decodeLine line).toList ↔ lf ∈ line := mem_decodeLine_iff (b := lf) (by decide)
  rw [IsOneLine, hcr, hlf]
  constructor
  · rintro ⟨hcr, hlf⟩ b hb
    exact ⟨fun heq => hcr (heq ▸ hb), fun heq => hlf (heq ▸ hb)⟩
  · exact fun h => ⟨fun hmem => (h cr hmem).1 rfl, fun hmem => (h lf hmem).2 rfl⟩

theorem isIndented_decodeLine_iff :
    IsIndented (decodeLine line) ↔ ∃ b ∈ line.head?, isFold b := by
  have hspace : (decodeLine line).toList.head? = some ' ' ↔ line.head? = some 32 :=
    head?_decodeLine_iff (b := 32) (by decide)
  have htab : (decodeLine line).toList.head? = some '\t' ↔ line.head? = some 9 :=
    head?_decodeLine_iff (b := 9) (by decide)
  rw [IsIndented, hspace, htab]
  cases line.head? <;> simp [isFold]

/-! ### A line in UTF-8 -/

/-- The text of a line, written as UTF-8. -/
def rewritten (line : List UInt8) : List UInt8 := encodeUtf8 (decodeLine line)

@[simp] theorem decodeLine_rewritten (line : List UInt8) :
    decodeLine (rewritten line) = decodeLine line := decodeLine_encodeUtf8 _

theorem rewritten_eq_nil_iff : rewritten line = [] ↔ line = [] := by
  rw [← decodeLine_eq_empty_iff, decodeLine_rewritten, decodeLine_eq_empty_iff]

theorem isPlain_rewritten (h : IsPlain line) : IsPlain (rewritten line) := by
  intro m hm hpart
  have hascii : ∀ b ∈ m, b < 128 := fun _ => lt_of_mem_markers hm
  rw [← infix_decodeLine_iff hascii, decodeLine_rewritten, infix_decodeLine_iff hascii] at hpart
  exact h m hm hpart

theorem no_break_rewritten (h : ∀ b ∈ line, b ≠ cr ∧ b ≠ lf) :
    ∀ b ∈ rewritten line, b ≠ cr ∧ b ≠ lf := by
  rwa [← isOneLine_decodeLine_iff, decodeLine_rewritten, isOneLine_decodeLine_iff]

/-- A text that is not indented is written as bytes that do not continue a line. -/
theorem exists_cons_encodeUtf8 (hne : text ≠ "") (h : ¬ IsIndented text) :
    ∃ b v, encodeUtf8 text = b :: v ∧ isFold b = false := by
  rw [← decodeLine_encodeUtf8 text, isIndented_decodeLine_iff] at h
  cases hbytes : encodeUtf8 text with
  | nil => exact absurd (by rw [← decodeLine_encodeUtf8 text, hbytes]; rfl) hne
  | cons b v =>
    rw [hbytes] at h
    exact ⟨b, v, rfl, Bool.eq_false_iff.2 fun hfold => h ⟨b, rfl, hfold⟩⟩

/-- White space begins a line if it began the line before. -/
theorem exists_cons_rewritten (hne : line ≠ []) (h : ∀ b ∈ line.head?, isFold b = false) :
    ∃ b v, rewritten line = b :: v ∧ isFold b = false := by
  refine exists_cons_encodeUtf8 (mt decodeLine_eq_empty_iff.1 hne) fun hindented => ?_
  obtain ⟨b, hb, hfold⟩ := isIndented_decodeLine_iff.1 hindented
  rw [h b hb] at hfold
  cases hfold

/-! ### A line that was read -/

/-- What is known of a line that was read from `content`, when `content'` was left. -/
structure Told (kind : LineKind) (line content content' : List UInt8) : Prop where
  no_break : ∀ b ∈ line, b ≠ cr ∧ b ≠ lf
  first : ∀ b ∈ line.head?, b ∈ content.head?
  /-- a header line that no marker ended is not continued -/
  next : kind = .header → line ≠ [] → IsPlain line → ∀ b ∈ content'.head?, isFold b = false

theorem isFold_of_takeFold_none (h : takeFold s = (.ok none, s')) :
    ∀ b ∈ s'.reader.content.head?, isFold b = false := by
  obtain ⟨next, s₁, hpeek, h⟩ := exists_of_bind_eq_ok h
  rw [peekByte_apply] at hpeek
  obtain ⟨hresult, rfl⟩ := Prod.mk.inj hpeek
  have hhead := Reader.head?_content_of_peekByte (Prod.ext hresult rfl)
  cases next with
  | none =>
    cases h
    rw [hhead]
    nofun
  | some b =>
    dsimp only at h
    split at h
    · obtain ⟨next, s₂, -, h⟩ := exists_of_bind_eq_ok h
      cases h
    · next hfold =>
      cases h
      rw [hhead]
      intro c hc
      cases hc
      exact Bool.eq_false_iff.2 hfold

/-- What the rest `x` of a line adds to what was read of it before. -/
theorem told_of_readLineFrom (room : Nat) {before : List UInt8}
    (h : readLineFrom kind room before s = (.ok line, s')) :
    ∃ x, line = before.reverse ++ x ∧ (∀ b ∈ x, b ≠ cr ∧ b ≠ lf) ∧
      (before = [] → ∀ b ∈ x.head?, b ∈ s.reader.content.head?) ∧
      (kind = .header → line ≠ [] → IsPlain line →
        ∀ b ∈ s'.reader.content.head?, isFold b = false) := by
  induction room generalizing before s with
  | zero => cases h
  | succ room ih =>
    rw [readLineFrom_succ] at h
    obtain ⟨next, s₁, hread, h⟩ := exists_of_bind_eq_ok h
    cases next with
    | none => cases h
    | some b =>
      have hfirst : b ∈ s.reader.content.head? := by rw [content_of_readByte hread]; rfl
      rw [afterByte] at h
      split at h
      · obtain ⟨⟨⟩, s₂, -, h⟩ := exists_of_bind_eq_ok h
        rw [afterBreak] at h
        split at h
        · next hheader =>
          obtain ⟨fold, s₃, htake, h⟩ := exists_of_bind_eq_ok h
          cases fold with
          | none =>
            cases h
            exact ⟨[], by simp, by simp, by simp, fun _ _ _ => isFold_of_takeFold_none htake⟩
          | some fold =>
            have hfold := ne_of_isFold ((content_of_takeFold htake).2 fold rfl)
            obtain ⟨x, rfl, hx, -, hnext⟩ := ih h
            refine ⟨fold :: x, by simp, fun c hc => ?_, fun hnil => absurd hnil hheader.2, hnext⟩
            rcases List.mem_cons.1 hc with rfl | hc
            · exact hfold
            · exact hx c hc
        · next hheader =>
          cases h
          exact ⟨[], by simp, by simp, by simp, fun hkind hne =>
            absurd ⟨hkind, by simpa using hne⟩ hheader⟩
      · next hbreak =>
        split at h
        · next hmarker =>
          cases h
          refine ⟨[b], by simp, by simpa using hbreak, fun _ c hc => by cases hc; exact hfirst,
            fun _ _ hplain => ?_⟩
          -- a line that a marker ended is not plain
          rw [List.reverse_cons] at hplain
          have hends := not_endsWithMarker_of_isPlain hplain
          rw [List.reverse_reverse] at hends
          exact absurd hmarker.2 hends
        · obtain ⟨x, rfl, hx, -, hnext⟩ := ih h
          refine ⟨b :: x, by simp, fun c hc => ?_, fun _ c hc => by cases hc; exact hfirst, hnext⟩
          rcases List.mem_cons.1 hc with rfl | hc
          · simpa using hbreak
          · exact hx c hc

theorem told_of_readLine (h : readLine kind s = (.ok line, s')) :
    Told kind line s.reader.content s'.reader.content := by
  obtain ⟨x, rfl, hx, hfirst, hnext⟩ := told_of_readLineFrom _ h
  exact ⟨hx, hfirst rfl, hnext⟩

/-! ### Header lines -/

/-- The text of a line, if the line is a whole one and has bytes. -/
def HeaderLine.whole : HeaderLine → Option String
  | .empty | .fragment _ => none
  | .blank text | .header text _ _ => some text

/-- The text of a line that was read from `content`, when `content'` was left, can be read as the
same line. -/
structure LineCopied (parsed : HeaderLine) (text : String) (content content' : List UInt8) :
    Prop where
  first : (∀ b ∈ content.head?, isFold b = false) →
    ∃ b v, encodeUtf8 text = b :: v ∧ isFold b = false
  next : ∀ b ∈ content'.head?, isFold b = false
  leads : (encodeUtf8 text).length ≤ maxLineLength → ∀ {u behind},
    (∃ b v, u = b :: v ∧ isFold b = false) →
    Leads behind readHeaderLine (encodeUtf8 text ++ (LineEnd.lf.bytes ++ u)) (pure parsed) u

theorem lineCopied_of_readLine {header : Option (String × String)}
    (hline : readLine .header s = (.ok line, s')) (hne : line ≠ [])
    (hsplit : splitAtMarker line = none) (hheader : headerOf (decodeLine line) = .ok header) :
    LineCopied (header.elim (.blank (decodeLine line)) fun (key, value) =>
        .header (decodeLine line) key value)
      (decodeLine line) s.reader.content s'.reader.content := by
  have htold := told_of_readLine hline
  have hplain := splitAtMarker_eq_none_iff.1 hsplit
  refine ⟨fun hfold => exists_cons_rewritten hne fun b hb => hfold b (htold.first b hb),
    htold.next rfl hne hplain, fun hlength u behind hu => ?_⟩
  have hread : Leads behind (readLine .header) (rewritten line ++ (LineEnd.lf.bytes ++ u))
      (pure (rewritten line)) u :=
    leads_readLine_bytes hlength (no_break_rewritten htold.no_break)
      (fun _ => isPlain_rewritten hplain) LineEnd.fits_lf fun _ _ => hu
  have hparsed := leads_readHeaderLine_of_readLine hread (mt rewritten_eq_nil_iff.1 hne)
    (isPlain_rewritten hplain) (by rwa [decodeLine_rewritten])
  rwa [decodeLine_rewritten] at hparsed

theorem lineCopied_of_readHeaderLine (h : readHeaderLine s = (.ok parsed, s'))
    (htext : parsed.whole = some text) :
    LineCopied parsed text s.reader.content s'.reader.content := by
  obtain ⟨line, s₁, hline, h⟩ := exists_readAs h
  cases h with
  | empty => cases htext
  | fragment => cases htext
  | blank hne hsplit hheader =>
    cases htext
    exact lineCopied_of_readLine hline hne hsplit hheader
  | header hne hsplit hheader =>
    cases htext
    exact lineCopied_of_readLine hline hne hsplit hheader

/-! ### Header blocks -/

/-- Texts as they are written, each with a line break behind it. -/
def written (texts : List String) : List UInt8 :=
  texts.flatMap fun text => encodeUtf8 text ++ LineEnd.lf.bytes

theorem written_cons (text : String) (texts : List String) :
    written (text :: texts) = encodeUtf8 text ++ (LineEnd.lf.bytes ++ written texts) := by
  rw [written, List.flatMap_cons, List.append_assoc]
  rfl

/-- The texts of the lines that `act` added to `lines`, with a line break behind them, can be read
as the same block. -/
def BlockCopied (act : Reading HeaderBlock) (lines : List String) (block : HeaderBlock)
    (content : List UInt8) : Prop :=
  ∃ texts, block.lines = lines.reverse ++ texts ∧
    ((∀ b ∈ content.head?, isFold b = false) →
      ∃ b v, written texts ++ [lf] = b :: v ∧ isFold b = false) ∧
    ((∀ text ∈ texts, (encodeUtf8 text).length ≤ maxLineLength) →
      ∃ v, ∀ behind, Leads behind act (written texts ++ [lf]) (pure block) v)

/-- A round of a block. -/
theorem blockCopied_of_afterHeaderLine {next : Headers → List String → Reading HeaderBlock}
    {headers : Headers} {lines : List String} {block : HeaderBlock} {s₁ : Session}
    (hnext : ∀ {headers lines}, next headers lines s₁ = (.ok block, s') →
      BlockCopied (next headers lines) lines block s₁.reader.content)
    (hblock : block.bodyStarted = false) (hline : readHeaderLine s = (.ok parsed, s₁))
    (h : afterHeaderLine next headers lines parsed s₁ = (.ok block, s')) :
    BlockCopied (readHeaderLine >>= afterHeaderLine next headers lines) lines block
      s.reader.content := by
  cases parsed with
  | empty =>
    cases h
    refine ⟨[], (List.append_nil _).symm, fun _ => ⟨lf, [], rfl, rfl⟩, fun _ => ⟨[], ?_⟩⟩
    exact fun behind => (leads_readHeaderLine_blank (e := .lf) LineEnd.fits_lf).bind_pure _
  | blank text =>
    cases h
    have hcopied := lineCopied_of_readHeaderLine hline rfl
    refine ⟨[text], List.reverse_cons, fun hfold => ?_, fun hlength => ⟨[lf], fun behind => ?_⟩⟩
    · obtain ⟨b, v, hcons, hb⟩ := hcopied.first hfold
      exact ⟨b, _, by rw [written_cons, hcons]; rfl, hb⟩
    · rw [written_cons, List.append_assoc, List.append_assoc]
      have htext := hlength text (List.mem_singleton_self _)
      exact (hcopied.leads htext ⟨lf, [], rfl, rfl⟩).bind_pure _
  | fragment text =>
    obtain ⟨headers', s₂, -, h⟩ := exists_of_bind_eq_ok h
    cases h
    cases hblock
  | header text key value =>
    -- what was left behind the line is no white space, so the texts behind it start with none
    have hcopied := lineCopied_of_readHeaderLine hline rfl
    obtain ⟨texts, hlines, hfirst, hrest⟩ := hnext h
    refine ⟨text :: texts, by rw [hlines, List.reverse_cons, List.append_assoc]; rfl,
      fun hfold => ?_, fun hlength => ?_⟩
    · obtain ⟨b, v, hcons, hb⟩ := hcopied.first hfold
      exact ⟨b, _, by rw [written_cons, hcons]; rfl, hb⟩
    · obtain ⟨v, hrest⟩ := hrest fun text ht => hlength text (List.mem_cons_of_mem _ ht)
      refine ⟨v, fun behind => ?_⟩
      rw [written_cons, List.append_assoc, List.append_assoc]
      have htext := hlength text (List.mem_cons_self ..)
      exact ((hcopied.leads htext (hfirst hcopied.next)).bind_pure _).trans (hrest behind)

theorem blockCopied_of_readHeadersFrom (room : Nat) {headers : Headers} {lines : List String}
    {block : HeaderBlock} (h : readHeadersFrom room headers lines s = (.ok block, s'))
    (hblock : block.bodyStarted = false) :
    BlockCopied (readHeadersFrom room headers lines) lines block s.reader.content := by
  induction room generalizing headers lines s with
  | zero =>
    rw [readHeadersFrom_zero] at h ⊢
    obtain ⟨parsed, s₁, hline, h⟩ := exists_of_bind_eq_ok h
    exact blockCopied_of_afterHeaderLine nofun hblock hline h
  | succ room ih =>
    rw [readHeadersFrom_succ] at h ⊢
    obtain ⟨parsed, s₁, hline, h⟩ := exists_of_bind_eq_ok h
    exact blockCopied_of_afterHeaderLine ih hblock hline h

/-! ### Heads -/

theorem encodeUtf8_text (head : Head) :
    encodeUtf8 (head.text ++ "\n") = written head.lines ++ [lf] := by
  have hlines : ∀ texts : List String,
      encodeUtf8 (String.join (texts.map (· ++ "\n"))) = written texts := by
    intro texts
    induction texts with
    | nil => rfl
    | cons text texts ih =>
      rw [List.map_cons, String.join_cons, encodeUtf8_append, encodeUtf8_append, ih, written_cons,
        List.append_assoc]
      rfl
  rw [encodeUtf8_append, text, hlines]
  rfl

/-- The text of one head is read as this head. -/
theorem leads_readHead_text {head : Head} (h : readOne s = (.ok (head, false), s'))
    (hstatus : head.status ≠ continueStatus)
    (hlines : ∀ line ∈ head.lines, (encodeUtf8 line).length ≤ maxLineLength) :
    ∃ v, ∀ behind, Leads behind readHead (encodeUtf8 (head.text ++ "\n")) (pure head) v := by
  obtain ⟨line, s₁, s₂, ⟨headers, texts, bodyStarted⟩, hline, hstatusOf, hblock, hhead,
    rfl⟩ := exists_of_readOne h
  obtain ⟨texts', htexts, -, hrest⟩ := blockCopied_of_readHeadersFrom _ hblock rfl
  obtain rfl : texts = texts' := htexts
  rw [hhead] at hlines
  obtain ⟨v, hrest⟩ := hrest fun text ht => hlines text (List.mem_cons_of_mem _ ht)
  refine ⟨v, fun behind => ?_⟩
  rw [← decodeLine_rewritten] at hstatusOf
  have hone := leads_readOne_of_block (hlines _ (List.mem_cons_self ..))
    (no_break_rewritten (told_of_readLine hline).no_break) hstatusOf LineEnd.fits_lf
    (hrest behind)
  rw [decodeLine_encodeUtf8, ← hhead] at hone
  rw [hhead, encodeUtf8_text, written_cons, List.append_assoc, List.append_assoc, ← hhead]
  exact leads_readHead_of_readOne hone hstatus

/-! ### How a head ended -/

/-- Goes on behind a head as `afterHead` does, and tells whether the head ended with markup. -/
def afterMarkedHead (next : Reading (Head × Bool)) : Head × Bool → Reading (Head × Bool)
  | (head, bodyStarted) => do
    if head.status ≠ continueStatus then
      if bodyStarted then
        note .debug .head "Response body started without a blank line after the headers"
      return (head, bodyStarted)
    else next

/-- Reads heads as `readHeadFrom` does, and tells whether the last one ended with markup. -/
def readMarkedFrom : (room : Nat) → Reading (Head × Bool)
  | 0 => readOne >>= afterMarkedHead (fail (.tooManyInterimResponses (maxInterim + 1)))
  | room + 1 => readOne >>= afterMarkedHead (do
      note .debug .head ("Interim 100 response #" ++ toString (maxInterim - room) ++
        ", reading the next status line")
      readMarkedFrom room)

theorem map_afterMarkedHead (next : Reading (Head × Bool)) (head : Head × Bool) :
    Prod.fst <$> afterMarkedHead next head = afterHead (Prod.fst <$> next) head := by
  obtain ⟨head, bodyStarted⟩ := head
  rw [afterMarkedHead, afterHead]
  split
  · split
    · rw [map_bind]
      simp only [map_pure]
    · rw [map_pure]
  · rfl

theorem readHeadFrom_eq_map (room : Nat) :
    readHeadFrom room = Prod.fst <$> readMarkedFrom room := by
  induction room with
  | zero =>
    rw [readHeadFrom_zero, readMarkedFrom, map_bind]
    simp only [map_afterMarkedHead]
    rfl
  | succ room ih =>
    rw [readHeadFrom_succ, readMarkedFrom, map_bind]
    simp only [map_afterMarkedHead, map_bind, ih]

theorem eq_or_of_afterMarkedHead {next : Reading (Head × Bool)} {head last : Head × Bool}
    (h : afterMarkedHead next head s = (.ok last, s')) :
    head = last ∧ last.1.status ≠ continueStatus ∨ next s = (.ok last, s') := by
  obtain ⟨head, bodyStarted⟩ := head
  rw [afterMarkedHead] at h
  split at h
  · next hstatus =>
    refine .inl ?_
    split at h
    · obtain ⟨⟨⟩, s₁, -, h⟩ := exists_of_bind_eq_ok h
      cases h
      exact ⟨rfl, hstatus⟩
    · cases h
      exact ⟨rfl, hstatus⟩
  · exact .inr h

/-- The last of the heads that are read is one that is not skipped. -/
theorem exists_readOne_of_readMarkedFrom {room : Nat} {last : Head × Bool}
    (h : readMarkedFrom room s = (.ok last, s')) :
    last.1.status ≠ continueStatus ∧ ∃ s₁ s₂, readOne s₁ = (.ok last, s₂) := by
  induction room generalizing s with
  | zero =>
    obtain ⟨head, s₁, hone, h⟩ := exists_of_bind_eq_ok h
    rcases eq_or_of_afterMarkedHead h with ⟨rfl, hstatus⟩ | h
    · exact ⟨hstatus, s, s₁, hone⟩
    · cases h
  | succ room ih =>
    obtain ⟨head, s₁, hone, h⟩ := exists_of_bind_eq_ok h
    rcases eq_or_of_afterMarkedHead h with ⟨rfl, hstatus⟩ | h
    · exact ⟨hstatus, s, s₁, hone⟩
    · obtain ⟨⟨⟩, s₂, -, h⟩ := exists_of_bind_eq_ok h
      exact ih h

end Head

open Head

/-- Reads a response head, and tells whether it ended with markup. -/
def readMarked : Reading (Head × Bool) := readMarkedFrom maxInterim

theorem readHead_eq_map : readHead = Prod.fst <$> readMarked := readHeadFrom_eq_map _

/-- **The text of a head is a faithful record.** Where a head is read that a blank line ended, or a
line of white space, and none of its lines is too long once it is UTF-8, its text with one more line
break behind it is read as the same head, however it arrives. -/
theorem readHead_text {s s' : Session} {head : Head} (h : readMarked s = (.ok (head, false), s'))
    (hlines : ∀ line ∈ head.lines, (encodeUtf8 line).length ≤ maxLineLength) :
    readHead s = (.ok head, s') ∧ ∀ {t : Session} {behind : ByteStream},
      t.reader.Offers (encodeUtf8 (head.text ++ "\n")) behind →
      ∃ t', readHead t = (.ok head, t') := by
  refine ⟨?_, fun {t behind} ht => ?_⟩
  · rw [readHead_eq_map, map_eq_pure_bind, bind_of_ok h]
    rfl
  · obtain ⟨hstatus, s₁, s₂, hone⟩ := exists_readOne_of_readMarkedFrom h
    obtain ⟨v, hleads⟩ := leads_readHead_text hone hstatus hlines
    obtain ⟨t', hread, -⟩ := hleads behind t ht
    exact ⟨t', hread⟩

/-- A head with a line that is folded and not in UTF-8. -/
def Head.Spelling.latin1 : Spelling where
  statusLine := asciiBytes "H 200"
  statusEnd := .cr
  headers := [⟨(asciiBytes "A:").map (none, ·) ++ [(none, 233), (some .crlf, 32), (none, 98)], .lf⟩]
  blankEnd := .crlf

theorem Head.Spelling.isHead_latin1 : Spelling.latin1.IsHead 200 where
  length_le := by decide
  no_break := by decide +kernel
  statusOf_eq := by rfl
  ne_continue := by decide
  length_headers_le := by decide
  headers := by decide +kernel

theorem readHead_text_latin1 :
    let s : Session := { reader := { source := [.bytes Spelling.latin1.bytes] } }
    let t : Session := { reader := { source := [.bytes (encodeUtf8 "H 200\nA:é b\n\n")] } }
    let head : Head := ⟨200, ⟨[("A", "é b")]⟩, ["H 200", "A:é b"]⟩
    (∃ s', readHead s = (.ok head, s')) ∧ ∃ t', readHead t = (.ok head, t') := by
  intro s t head
  have hfits : Spelling.latin1.Fits [] [] :=
    ⟨LineEnd.fits_cr.2 (by decide), LineEnd.fits_lf, LineEnd.fits_crlf⟩
  have hhead : Spelling.latin1.head 200 = head := by decide +kernel
  obtain ⟨s', hone, -⟩ := (leads_readOne Spelling.isHead_latin1 hfits).alone
  rw [List.append_nil, hhead] at hone
  have hread : readMarked s = (.ok (head, false), s') := by
    rw [readMarked, maxInterim, readMarkedFrom, bind_of_ok hone]
    rfl
  have hlines : ∀ line ∈ head.lines, (encodeUtf8 line).length ≤ maxLineLength := by decide +kernel
  have htext : head.text ++ "\n" = "H 200\nA:é b\n\n" := by decide +kernel
  have hoffers : t.reader.Offers (encodeUtf8 (head.text ++ "\n")) [] := by
    rw [htext]
    exact Reader.offers_bytes _
  obtain ⟨hs, ht⟩ := readHead_text hread hlines
  exact ⟨⟨s', hs⟩, ht hoffers⟩

end WireFetch
