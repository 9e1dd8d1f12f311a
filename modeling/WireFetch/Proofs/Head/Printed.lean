import WireFetch.Proofs.Head.Count

/-!
# Headers that are printed and read again

Whatever a server sends, the headers that are read from it can be printed, one line for each, and
read again. This is not so for every header list: a key with a colon in it would be cut there, and a
line that starts with white space would continue the line before it. So what has to be known is what
header lists never hold if they were read (`Headers.WellFormed`). Both directions meet there.

Where lines come from a stream, none but the first is indented, since white space behind a header
line is taken for a fold. Setting a value where its key stands keeps it so, because the place of the
first entry is only taken by a key that is the same up to case.

In the other direction, markup must not arise where the colon and the space are put back. It does
not, because no marker has one of these in it.

## Main definitions

* `Headers.IsEntry`, `Headers.WellFormed` — what is known of headers that were read
* `Headers.line`, `Headers.printed` — the lines of headers, and a head with them

## Main results

* `Head.wellFormed_of_readHead` — headers that were read are well-formed
* `Head.leads_readHead_printed` — well-formed headers are read from what is printed of them
* `readHead_printed` — both
-/

namespace WireFetch

open Reading Text Head

/-! ### Well-formed headers -/

namespace Headers

/-- What an entry is made of. -/
structure IsEntry (e : String × String) : Prop where
  no_colon : ':' ∉ e.1.toList
  key : IsOneLine e.1
  value : IsOneLine e.2
  value_first : ¬ IsIndented e.2

/-- What header lists are made of that were read. -/
structure WellFormed (headers : Headers) : Prop where
  apart : headers.entries.Pairwise fun e e' => sameName e.1 e'.1 = false
  entry : ∀ e ∈ headers.entries, IsEntry e
  key_first : ∀ e ∈ headers.entries.tail, ¬ IsIndented e.1

/-- An entry as a line, without the line break. -/
def line (e : String × String) : String := e.1 ++ ": " ++ e.2

/-- A head with a short status line and these headers. -/
def printed (headers : Headers) : Head where
  status := 200
  headers
  lines := "HTTP/1.0 200" :: headers.entries.map line

end Headers

namespace Head

open Headers

variable {s s' s₁ : Session} {text : String} {texts lines : List String} {e : String × String}
  {line content : List UInt8} {parsed : HeaderLine} {headers : Headers} {block : HeaderBlock}

/-! ### What is known of lines that were read -/

theorem IsOneLine.mono {part : String} (h : IsOneLine text) (hpart : part.toList ⊆ text.toList) :
    IsOneLine part :=
  ⟨fun hcr => h.1 (hpart hcr), fun hlf => h.2 (hpart hlf)⟩

/-- A text that begins with an indented one is indented. -/
theorem IsIndented.mono {part : String} (h : IsIndented part)
    (hpart : part.toList <+: text.toList) : IsIndented text := by
  obtain ⟨rest, hrest⟩ := hpart
  rw [IsIndented, ← hrest, List.head?_append]
  exact h.imp (fun hspace => by rw [hspace, Option.or]) fun htab => by rw [htab, Option.or]

theorem not_isIndented_of_eq_trimValue {value : String} {behind : List Char}
    (h : value.toList = trimValue behind) : ¬ IsIndented value := by
  have hhead := List.head?_dropWhile_not (fun c => c = ' ' || c = '\t') behind
  rw [← trimValue, ← h] at hhead
  rintro (hspace | htab)
  · rw [hspace] at hhead
    exact absurd hhead (by decide)
  · rw [htab] at hhead
    exact absurd hhead (by decide)

/-- What is known of the entry that a line tells. -/
theorem isEntry_of_entryOf? (h : IsOneLine text) (htext : entryOf? text = some e) : IsEntry e := by
  have hheader := headerOf_of_entryOf? htext
  obtain ⟨behind, -, hcolon, hvalue⟩ := exists_of_headerOf hheader
  obtain ⟨hkeyPart, hvaluePart⟩ := infix_of_headerOf hheader
  exact {
    no_colon := hcolon
    key := h.mono hkeyPart.subset
    value := h.mono hvaluePart.subset
    value_first := not_isIndented_of_eq_trimValue hvalue }

theorem not_isIndented_of_entryOf? (h : ¬ IsIndented text) (htext : entryOf? text = some e) :
    ¬ IsIndented e.1 :=
  fun hkey => h (hkey.mono (infix_of_headerOf (headerOf_of_entryOf? htext)).1)

/-- The text of a line, if it has one. -/
def HeaderLine.text? : HeaderLine → Option String
  | .empty => none
  | .blank text | .header text _ _ | .fragment text => some text

/-- White space at the front of a line is white space at the front of what it was read from. -/
theorem not_isIndented_of_told {before content' : List UInt8}
    (h : Told .header line content content') (hbefore : before <+: line)
    (hcontent : ∀ b ∈ content.head?, isFold b = false) : ¬ IsIndented (decodeLine before) := by
  rw [isIndented_decodeLine_iff]
  rintro ⟨b, hb, hfold⟩
  obtain ⟨rest, rfl⟩ := hbefore
  have hline : b ∈ (before ++ rest).head? := by
    rw [List.head?_append, hb]
    rfl
  rw [hcontent b (h.first b hline)] at hfold
  cases hfold

theorem told_of_readHeaderLine (h : readHeaderLine s = (.ok parsed, s'))
    (htext : text ∈ parsed.text?) : IsOneLine text ∧
      ((∀ b ∈ s.reader.content.head?, isFold b = false) → ¬ IsIndented text) := by
  obtain ⟨line, s₁, hline, h⟩ := exists_readAs h
  have htold := told_of_readLine hline
  have hpart : ∃ before, before <+: line ∧ text = decodeLine before := by
    cases h with
    | empty => cases htext
    | fragment hsplit =>
      cases htext
      exact ⟨_, ⟨_, (splitAtMarker_eq_some hsplit).1.symm⟩, rfl⟩
    | blank =>
      cases htext
      exact ⟨line, List.prefix_rfl, rfl⟩
    | header =>
      cases htext
      exact ⟨line, List.prefix_rfl, rfl⟩
  obtain ⟨before, hbefore, rfl⟩ := hpart
  refine ⟨?_, fun hcontent => not_isIndented_of_told htold hbefore hcontent⟩
  rw [isOneLine_decodeLine_iff]
  exact fun b hb => htold.no_break b (hbefore.subset hb)

/-- Behind a header line there is no white space, or it would have been a fold. -/
theorem isFold_of_readHeaderLine {key value : String}
    (h : readHeaderLine s = (.ok (.header text key value), s')) :
    ∀ b ∈ s'.reader.content.head?, isFold b = false := by
  obtain ⟨line, s₁, hline, h⟩ := exists_readAs h
  cases h with
  | header hne hsplit hheader =>
    exact (told_of_readLine hline).next rfl hne (splitAtMarker_eq_none_iff.1 hsplit)

/-! ### What is known of blocks that were read -/

/-- What is known of the texts of a block that was read from `content`. -/
structure TextsTold (texts : List String) (content : List UInt8) : Prop where
  oneLine : ∀ text ∈ texts, IsOneLine text
  head : (∀ b ∈ content.head?, isFold b = false) → ∀ text ∈ texts.head?, ¬ IsIndented text
  tail : ∀ text ∈ texts.tail, ¬ IsIndented text

/-- A line that is the last one of its block. -/
theorem TextsTold.singleton (h : readHeaderLine s = (.ok parsed, s'))
    (htext : text ∈ parsed.text?) : TextsTold [text] s.reader.content where
  oneLine := by simpa using (told_of_readHeaderLine h htext).1
  head hcontent := by simpa using (told_of_readHeaderLine h htext).2 hcontent
  tail := nofun

/-- A line in front of the others, which were read where it was not continued. -/
theorem TextsTold.cons {key value : String}
    (hline : readHeaderLine s = (.ok (.header text key value), s₁))
    (h : TextsTold texts s₁.reader.content) : TextsTold (text :: texts) s.reader.content where
  oneLine := List.forall_mem_cons.2 ⟨(told_of_readHeaderLine hline rfl).1, h.oneLine⟩
  head hcontent := by simpa using (told_of_readHeaderLine hline rfl).2 hcontent
  tail := by
    intro text' htext'
    have hfirst := h.head (isFold_of_readHeaderLine hline)
    cases texts with
    | nil => cases htext'
    | cons first texts =>
      rcases List.mem_cons.1 htext' with rfl | htext'
      · exact hfirst text' rfl
      · exact h.tail text' htext'

theorem textsTold_of_afterHeaderLine {next : Headers → List String → Reading HeaderBlock}
    (hnext : ∀ {headers lines}, next headers lines s₁ = (.ok block, s') →
      ∃ texts, block.lines = lines.reverse ++ texts ∧ TextsTold texts s₁.reader.content)
    (hline : readHeaderLine s = (.ok parsed, s₁))
    (h : afterHeaderLine next headers lines parsed s₁ = (.ok block, s')) :
    ∃ texts, block.lines = lines.reverse ++ texts ∧ TextsTold texts s.reader.content := by
  cases parsed with
  | empty =>
    cases h
    exact ⟨[], (List.append_nil _).symm, nofun, nofun, nofun⟩
  | blank text =>
    cases h
    exact ⟨[text], List.reverse_cons, .singleton hline rfl⟩
  | fragment text =>
    obtain ⟨headers', s₂, -, h⟩ := exists_of_bind_eq_ok h
    cases h
    exact ⟨[text], List.reverse_cons, .singleton hline rfl⟩
  | header text key value =>
    obtain ⟨texts, hlines, htold⟩ := hnext h
    exact ⟨text :: texts, by simpa using hlines, htold.cons hline⟩

theorem exists_textsTold {room : Nat}
    (h : readHeadersFrom room headers lines s = (.ok block, s')) :
    ∃ texts, block.lines = lines.reverse ++ texts ∧ TextsTold texts s.reader.content := by
  induction room generalizing headers lines s with
  | zero =>
    rw [readHeadersFrom_zero] at h
    obtain ⟨parsed, s₁, hline, h⟩ := exists_of_bind_eq_ok h
    exact textsTold_of_afterHeaderLine (fun hfail => by cases hfail) hline h
  | succ room ih =>
    rw [readHeadersFrom_succ] at h
    obtain ⟨parsed, s₁, hline, h⟩ := exists_of_bind_eq_ok h
    exact textsTold_of_afterHeaderLine ih hline h

/-- The first line tells the first entry or none, so all other entries come from later lines. -/
theorem exists_of_mem_tail_entriesOf (h : e ∈ (entriesOf texts).tail) :
    ∃ text ∈ texts.tail, entryOf? text = some e := by
  cases texts with
  | nil => cases h
  | cons text texts =>
    refine List.mem_filterMap.1 ?_
    cases hentry : entryOf? text with
    | none =>
      rw [entriesOf, List.filterMap_cons_none hentry] at h
      exact List.mem_of_mem_tail h
    | some first =>
      rw [entriesOf, List.filterMap_cons_some hentry] at h
      exact h

theorem TextsTold.wellFormed (h : TextsTold texts content) :
    (setAll (entriesOf texts)).WellFormed where
  apart := pairwise_setAll _
  entry := by
    intro e he
    obtain ⟨text, htext, hentry⟩ := List.mem_filterMap.1 (mem_of_mem_setAll he)
    exact isEntry_of_entryOf? (h.oneLine text htext) hentry
  key_first := by
    intro e he
    obtain ⟨text, htext, hentry⟩ := exists_of_mem_tail_entriesOf (mem_tail_of_mem_tail_setAll he)
    exact not_isIndented_of_entryOf? (h.tail text htext) hentry

/-- Headers that were read are well-formed. -/
theorem wellFormed_of_readHead {head : Head} (h : readHead s = (.ok head, s')) :
    head.headers.WellFormed := by
  obtain ⟨bodyStarted, hmarked, hheaders, -⟩ := counted_of_readHead h
  obtain ⟨-, s₁, s₂, hone⟩ := exists_readOne_of_readMarkedFrom hmarked
  obtain ⟨line, s₃, s₄, block, -, -, hblock, hhead, -⟩ := exists_of_readOne hone
  obtain ⟨texts, hlines, htold⟩ := exists_textsTold hblock
  have hentries : head.entries = entriesOf texts := by
    have hlines' : head.lines.tail = texts := by
      rw [hhead]
      exact hlines
    rw [entries, hlines']
  rw [hheaders, hentries]
  exact htold.wellFormed

/-! ### Lines that are printed -/

variable {u : List UInt8} {behind : ByteStream} {es : List (String × String)}

theorem toList_line (e : String × String) :
    (Headers.line e).toList = e.1.toList ++ ':' :: ' ' :: e.2.toList := by
  simp [Headers.line]

theorem trimValue_of_not_isIndented {value : String} (h : ¬ IsIndented value) :
    trimValue (' ' :: value.toList) = value.toList := by
  rw [trimValue, List.dropWhile_cons_of_pos (by decide)]
  rw [IsIndented, not_or] at h
  cases hvalue : value.toList with
  | nil => rfl
  | cons c rest =>
    rw [hvalue] at h
    exact List.dropWhile_cons_of_neg (by simpa using h)

theorem headerOf_line (h : IsEntry e) : headerOf (Headers.line e) = .ok (some e) := by
  have hsplit : splitOnce ':' (Headers.line e).toList = some (e.1.toList, ' ' :: e.2.toList) :=
    splitOnce_eq_some_iff.2 ⟨toList_line e, h.no_colon⟩
  rw [headerOf, hsplit]
  dsimp only
  rw [trimValue_of_not_isIndented h.value_first, String.ofList_toList, String.ofList_toList]

theorem isOneLine_line (h : IsEntry e) : IsOneLine (Headers.line e) := by
  obtain ⟨hkeyCr, hkeyLf⟩ := h.key
  obtain ⟨hvalueCr, hvalueLf⟩ := h.value
  rw [IsOneLine, toList_line]
  simp [hkeyCr, hkeyLf, hvalueCr, hvalueLf]

theorem not_isIndented_line (h : ¬ IsIndented e.1) : ¬ IsIndented (Headers.line e) := by
  rw [IsIndented] at h ⊢
  rw [toList_line]
  cases hkey : e.1.toList with
  | nil => simp
  | cons c rest => simpa [hkey] using h

/-- A word lies on one side of a character that it does not have. -/
theorem infix_or_infix_of_not_mem {w x y : List Char} {c : Char} (hc : c ∉ w)
    (h : w <:+: x ++ c :: y) : w <:+: x ∨ w <:+: y := by
  have hnone : ∀ w', c ∉ w' → w' <+: c :: y → w' = [] := by
    intro w' hc' h'
    cases w' with
    | nil => rfl
    | cons d w' =>
      obtain ⟨rfl, -⟩ := List.cons_prefix_cons.1 h'
      exact absurd (List.mem_cons_self ..) hc'
  rcases List.infix_append_iff.1 h with h | h | ⟨w₁, w₂, rfl, h₁, h₂⟩
  · exact .inl h
  · rcases List.infix_cons_iff.1 h with h | h
    · rw [hnone w hc h]
      exact .inl List.nil_infix
    · exact .inr h
  · rw [List.mem_append, not_or] at hc
    rw [hnone w₂ hc.2 h₂, List.append_nil]
    exact .inl h₁.isInfix

/-- No marker arises where a colon and a space are put between a key and a value. -/
theorem isPlainText_line (hkey : IsPlainText e.1) (hvalue : IsPlainText e.2) :
    IsPlainText (Headers.line e) := by
  have hmarkers : ∀ m ∈ markers, ':' ∉ m.map latin1 ∧ ' ' ∉ m.map latin1 := by decide +kernel
  intro m hm hpart
  obtain ⟨hcolon, hspace⟩ := hmarkers m hm
  rw [toList_line] at hpart
  rcases infix_or_infix_of_not_mem hcolon hpart with hpart | hpart
  · exact hkey m hm hpart
  · rcases infix_or_infix_of_not_mem (x := []) hspace hpart with hpart | hpart
    · exact hkey m hm (hpart.trans List.nil_infix)
    · exact hvalue m hm hpart

theorem leads_readHeaderLine_line (h : IsEntry e) (hplain : IsPlainText (Headers.line e))
    (hlength : (encodeUtf8 (Headers.line e)).length ≤ maxLineLength)
    (hu : ∃ b v, u = b :: v ∧ isFold b = false) :
    Leads behind readHeaderLine (encodeUtf8 (Headers.line e) ++ (LineEnd.lf.bytes ++ u))
      (pure (.header (Headers.line e) e.1 e.2)) u := by
  have hbreak : ∀ b ∈ encodeUtf8 (Headers.line e), b ≠ cr ∧ b ≠ lf := by
    rw [← isOneLine_decodeLine_iff, decodeLine_encodeUtf8]
    exact isOneLine_line h
  have hplainBytes : IsPlain (encodeUtf8 (Headers.line e)) := by
    rwa [← isPlainText_decodeLine_iff, decodeLine_encodeUtf8]
  have hne : encodeUtf8 (Headers.line e) ≠ [] := by
    rw [ne_eq, ← decodeLine_eq_empty_iff, decodeLine_encodeUtf8, ← String.toList_eq_nil_iff,
      toList_line]
    simp
  have hread : Leads behind (readLine .header) _ (pure (encodeUtf8 (Headers.line e))) u :=
    leads_readLine_bytes hlength hbreak (fun _ => hplainBytes) LineEnd.fits_lf fun _ _ => hu
  have hparsed := leads_readHeaderLine_of_readLine hread hne hplainBytes
    (by rw [decodeLine_encodeUtf8, headerOf_line h])
  rwa [decodeLine_encodeUtf8] at hparsed

/-- Behind a line that is printed comes another one that is not indented, or the blank line. -/
theorem exists_cons_written (h : ∀ e ∈ es.head?, ¬ IsIndented e.1) (u : List UInt8) :
    ∃ b v, written (es.map Headers.line) ++ (LineEnd.lf.bytes ++ u) = b :: v ∧
      isFold b = false := by
  cases es with
  | nil => exact ⟨lf, u, rfl, rfl⟩
  | cons e es =>
    have hne : Headers.line e ≠ "" := by
      rw [ne_eq, ← String.toList_eq_nil_iff, toList_line]
      simp
    obtain ⟨b, v, hbytes, hb⟩ := exists_cons_encodeUtf8 hne (not_isIndented_line (h e rfl))
    exact ⟨b, _, by rw [List.map_cons, written_cons, hbytes]; rfl, hb⟩

theorem leads_readHeadersFrom_written (room : Nat) (headers : Headers) (lines : List String)
    (h : ∀ e ∈ es, IsEntry e) (hplain : ∀ e ∈ es, IsPlainText (Headers.line e))
    (hlength : ∀ e ∈ es, (encodeUtf8 (Headers.line e)).length ≤ maxLineLength)
    (hfirst : ∀ e ∈ es.tail, ¬ IsIndented e.1) :
    Leads behind (readHeadersFrom (es.length + room) headers lines)
      (written (es.map Headers.line) ++ (LineEnd.lf.bytes ++ u))
      (pure ⟨es.foldl (fun headers e => headers.set e.1 e.2) headers,
        lines.reverse ++ es.map Headers.line, false⟩) u := by
  induction es generalizing headers lines with
  | nil =>
    have hblank : Leads behind readHeaderLine (LineEnd.lf.bytes ++ u) (pure .empty) u :=
      leads_readHeaderLine_blank LineEnd.fits_lf
    obtain ⟨next, hnext⟩ := exists_readHeadersFrom_eq room
    rw [List.length_nil, Nat.zero_add, List.map_nil, List.append_nil, hnext]
    exact hblank.bind_pure _
  | cons e es ih =>
    rw [List.forall_mem_cons] at h hplain hlength
    have hhead : ∀ e ∈ es.head?, ¬ IsIndented e.1 := fun e he =>
      hfirst e (List.mem_of_mem_head? he)
    have hline : Leads behind readHeaderLine _ (pure (.header (Headers.line e) e.1 e.2)) _ :=
      leads_readHeaderLine_line h.1 hplain.1 hlength.1 (exists_cons_written hhead u)
    have hrest := ih (headers.set e.1 e.2) (Headers.line e :: lines) h.2 hplain.2 hlength.2
      fun e he => hfirst e (List.mem_of_mem_tail he)
    rw [List.reverse_cons, List.append_assoc] at hrest
    rw [List.length_cons, Nat.add_right_comm, readHeadersFrom_succ, List.map_cons, written_cons,
      List.append_assoc, List.append_assoc]
    exact (hline.bind_pure _).trans hrest

/-! ### Heads that are printed -/

theorem text_printed (headers : Headers) :
    headers.printed.text = "HTTP/1.0 200\n" ++ headers.render := by
  rw [text, printed, List.map_cons, String.join_cons, List.map_map]
  rfl

theorem entries_foldl_set (h : headers.WellFormed) :
    headers.entries.foldl (fun headers e => headers.set e.1 e.2) ∅ = headers := by
  have hnames : (headers.entries.map Headers.name).Nodup := by
    refine List.pairwise_map.2 (h.apart.imp fun {e e'} hne hname => ?_)
    rw [(sameName_iff_name_eq e e').2 hname] at hne
    cases hne
  have hentries := entries_setAll_of_nodup hnames
  exact congrArg Headers.mk hentries

/-- Well-formed headers without markup are read from what is printed of them, and no more is
taken. -/
theorem leads_readHead_printed (h : headers.WellFormed) (hplain : headers.IsPlain)
    (hsize : headers.size ≤ maxHeaders)
    (hlength : ∀ e ∈ headers.entries, (encodeUtf8 (Headers.line e)).length ≤ maxLineLength) :
    Leads behind readHead (encodeUtf8 ("HTTP/1.0 200\n" ++ headers.render ++ "\n") ++ u)
      (pure headers.printed) u := by
  obtain ⟨room, hroom⟩ := Nat.exists_eq_add_of_le hsize
  have hblock : Leads behind (readHeadersFrom (headers.entries.length + room) ∅ []) _ _ u :=
    leads_readHeadersFrom_written room ∅ [] h.entry
      (fun e he => isPlainText_line (hplain e he).1 (hplain e he).2) hlength h.key_first
  have hmax : headers.entries.length + room = maxHeaders := hroom.symm
  rw [hmax, entries_foldl_set h] at hblock
  have hstatus : statusOf (decodeLine (encodeUtf8 "HTTP/1.0 200")) = .ok 200 := by
    rw [decodeLine_encodeUtf8]
    rfl
  have hone := leads_readOne_of_block (by decide +kernel) (by decide +kernel) hstatus
    LineEnd.fits_lf hblock
  rw [decodeLine_encodeUtf8] at hone
  rw [← text_printed, encodeUtf8_text, printed, written_cons, List.append_assoc, List.append_assoc,
    List.append_assoc]
  have hne : headers.printed.status ≠ continueStatus := show (200 : Nat) ≠ 100 from by decide
  exact leads_readHead_of_readOne hone hne

end Head

/-- **Headers that were read can be printed and read again.** Whatever head is read, its keys differ
up to case, there is no colon in a key and no line break anywhere, no value is indented, and no key
but the first one. And if there are not too many headers, and none becomes too long a line, what is
printed of them behind a status line is read as the same headers, in the same order and spelling,
however it arrives and whatever follows. -/
theorem readHead_printed {s s' : Session} {head : Head} (h : readHead s = (.ok head, s')) :
    head.headers.WellFormed ∧
    (head.headers.size ≤ maxHeaders →
      (∀ e ∈ head.headers.entries, (encodeUtf8 (Headers.line e)).length ≤ maxLineLength) →
      ∀ {t : Session} {more : List UInt8} {behind : ByteStream},
        t.reader.Offers (encodeUtf8 ("HTTP/1.0 200\n" ++ head.headers.render ++ "\n") ++ more)
          behind →
        ∃ t', readHead t = (.ok head.headers.printed, t') ∧ t'.reader.Offers more behind) := by
  have hwell := wellFormed_of_readHead h
  refine ⟨hwell, fun hsize hlength {t more behind} ht => ?_⟩
  exact leads_readHead_printed hwell (yields_readHead h).2 hsize hlength t ht

/-- A key that is indented, one that comes again, and a value that is not in UTF-8. -/
theorem readHead_printed_indented :
    let s : Session := { reader := { source := [.bytes (asciiBytes
      "H 200\r\n\tA :b\r\nSet-Cookie:\td\nX:" ++ [0xe9] ++ asciiBytes " \nset-cookie: e\n\n")] } }
    let t : Session := { reader := { source := [.bytes (encodeUtf8
      "HTTP/1.0 200\n\tA : b\nset-cookie: e\nX: é \n\n")] } }
    let headers : Headers := ⟨[("\tA ", "b"), ("set-cookie", "e"), ("X", "é ")]⟩
    headers.WellFormed ∧
      (∃ head s', readHead s = (.ok head, s') ∧ head.headers = headers) ∧
      headers.size ≤ maxHeaders ∧
      (∀ e ∈ headers.entries, (encodeUtf8 (Headers.line e)).length ≤ maxLineLength) ∧
      ∃ t', readHead t = (.ok headers.printed, t') := by
  intro s t headers
  have hheaders : (readHead s).1.toOption.map Head.headers = some headers := by decide +kernel
  obtain ⟨head, s', hread, hhead⟩ :
      ∃ head s', readHead s = (.ok head, s') ∧ head.headers = headers := by
    rcases hs : readHead s with ⟨result, s'⟩
    rw [hs] at hheaders
    cases result with
    | ok head => exact ⟨head, s', rfl, Option.some.inj hheaders⟩
    | error stop => cases hheaders
  have hsize : headers.size ≤ maxHeaders := by decide
  have hlength : ∀ e ∈ headers.entries,
      (encodeUtf8 (Headers.line e)).length ≤ maxLineLength := by decide +kernel
  have htext : "HTTP/1.0 200\n" ++ headers.render ++ "\n" =
      "HTTP/1.0 200\n\tA : b\nset-cookie: e\nX: é \n\n" := by decide +kernel
  have hoffers : t.reader.Offers
      (encodeUtf8 ("HTTP/1.0 200\n" ++ headers.render ++ "\n") ++ []) [] := by
    rw [htext, List.append_nil]
    exact Reader.offers_bytes _
  have h := readHead_printed hread
  rw [hhead] at h
  obtain ⟨t', ht', -⟩ := h.2 hsize hlength hoffers
  exact ⟨h.1, ⟨head, s', hread, hhead⟩, hsize, hlength, t', ht'⟩

end WireFetch
