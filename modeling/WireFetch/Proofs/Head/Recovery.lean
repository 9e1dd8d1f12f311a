import WireFetch.Proofs.Head.Consumed
import WireFetch.Proofs.Head.Failures
import WireFetch.Proofs.Head.Rendering

/-!
# Heads that end with markup

Some servers forget the blank line behind the headers, and the page starts right there. The head
then ends at the first marker. Two things are asked of such an end. Nothing is lost: the marker is
back on the reader, and all of it is an end of what was there. And nothing is mixed up: what is a
header and what is page is told apart, for every head and not only for those that end in this way.

The first is known for a line (`suffix_of_readHeaderLine`) and is carried to the head, together
with what is known of the texts in it (`Reading.Yields`). For the second, one has to see that a
marker is found in two ways, while the line is read, at its end, and in the line that was read, from
the front, and that this makes no difference: markers do not overlap, so the first marker in a plain
line with a marker behind it is this marker (`splitAtMarker_append`).

## Main definitions

* `Reading.Yields` — what is left when there is a result, and what is known of it
* `Head.IsPlainText`, `Headers.IsPlain` — texts without a marker
* `Head.IsFragment`, `Head.setFragment` — what may stand before a marker, and what it counts for
* `Head.Spelling.opening`, `headWith` — a head without a blank line, and what is to be read

## Main results

* `yields_readHead` — a head takes something from the front, and holds no marker
* `Head.leads_readHead_marker` — a head is read up to a marker
* `readHead_of_marker` — both
-/

namespace WireFetch

open Reading Text

/-! ### Activities that take something from the front -/

namespace Reading

variable {α β : Type} {P : α → Prop} {act : Reading α} {f : α → Reading β}

/-- Where there is a result, it has the property `P`, and what is left is an end of what was
there. -/
def Yields (act : Reading α) (P : α → Prop) : Prop :=
  ∀ ⦃s s' : Session⦄ ⦃a : α⦄, act s = (.ok a, s') →
    s'.reader.content <:+ s.reader.content ∧ P a

theorem yields_pure {a : α} (h : P a) : Yields (pure a) P := by
  intro s s' a' hact
  cases hact
  exact ⟨List.suffix_refl _, h⟩

theorem yields_fail {e : FetchError} : Yields (fail e) P := nofun

theorem yields_note (level : Log.Level) (area : Log.Area) (message : String) :
    Yields (note level area message) fun _ => True := by
  intro s s' a hact
  cases hact
  exact ⟨List.suffix_refl _, trivial⟩

theorem Yields.bind {Q : β → Prop} (h : Yields act P) (hf : ∀ a, P a → Yields (f a) Q) :
    Yields (act >>= f) Q := by
  intro s s' b hact
  obtain ⟨a, s₁, ha, hb⟩ := exists_of_bind_eq_ok hact
  obtain ⟨hleft₁, hP⟩ := h ha
  obtain ⟨hleft, hQ⟩ := hf a hP hb
  exact ⟨hleft.trans hleft₁, hQ⟩

end Reading

/-! ### Texts without a marker -/

/-- No marker occurs in the text. -/
def Head.IsPlainText (text : String) : Prop := ∀ m ∈ markers, ¬ m.map latin1 <:+: text.toList

/-- No marker occurs in a key or a value. -/
def Headers.IsPlain (headers : Headers) : Prop :=
  ∀ entry ∈ headers.entries, Head.IsPlainText entry.1 ∧ Head.IsPlainText entry.2

theorem Headers.IsPlain.set {headers : Headers} {key value : String} (h : headers.IsPlain)
    (hentry : Head.IsPlainText key ∧ Head.IsPlainText value) : (headers.set key value).IsPlain := by
  intro entry hmem
  rcases mem_entries_set hmem with rfl | hmem
  · exact hentry
  · exact h entry hmem

namespace Head

variable {line : List UInt8} {text key value : String} {headers : Headers}

theorem isPlainText_decodeLine_iff : IsPlainText (decodeLine line) ↔ IsPlain line :=
  forall₂_congr fun _ hm => not_congr (infix_decodeLine_iff fun _ => lt_of_mem_markers hm)

theorem isPlainText_decodeLine (h : IsPlain line) : IsPlainText (decodeLine line) :=
  isPlainText_decodeLine_iff.2 h

/-- A header line is its key, a colon, and its value behind blanks. -/
theorem exists_of_headerOf (h : headerOf text = .ok (some (key, value))) :
    ∃ behind, text.toList = key.toList ++ ':' :: behind ∧ ':' ∉ key.toList ∧
      value.toList = trimValue behind := by
  unfold headerOf at h
  split at h
  · next before behind hsplit =>
    obtain ⟨htext, hcolon⟩ := splitOnce_eq_some_iff.1 hsplit
    cases h
    rw [String.toList_ofList, String.toList_ofList]
    exact ⟨behind, htext, hcolon, rfl⟩
  · split at h <;> cases h

/-- Key and value are parts of their line. -/
theorem infix_of_headerOf (h : headerOf text = .ok (some (key, value))) :
    key.toList <+: text.toList ∧ value.toList <:+: text.toList := by
  obtain ⟨behind, htext, -, hvalue⟩ := exists_of_headerOf h
  rw [htext, hvalue]
  refine ⟨List.prefix_append .., (List.dropWhile_suffix _).isInfix.trans ?_⟩
  exact ((List.suffix_cons ..).trans (List.suffix_append ..)).isInfix

theorem IsPlainText.of_headerOf (h : IsPlainText text)
    (hheader : headerOf text = .ok (some (key, value))) : IsPlainText key ∧ IsPlainText value := by
  obtain ⟨hkey, hvalue⟩ := infix_of_headerOf hheader
  exact ⟨fun m hm hpart => h m hm (hpart.trans hkey.isInfix),
    fun m hm hpart => h m hm (hpart.trans hvalue)⟩

/-! ### What a head takes, and holds -/

/-- No marker occurs in what the line says. -/
def HeaderLine.IsPlain : HeaderLine → Prop
  | .empty | .blank _ => True
  | .header _ key value => IsPlainText key ∧ IsPlainText value
  | .fragment text => IsPlainText text

theorem yields_readLine (kind : LineKind) : Yields (readLine kind) fun _ => True := by
  intro s s' line h
  obtain ⟨taken, hcontent, -⟩ := taken_of_readLine h
  exact ⟨⟨taken, hcontent.symm⟩, trivial⟩

theorem yields_accept {α : Type} (parsed : Except FetchError α) :
    Yields (accept parsed) fun _ => True := by
  cases parsed with
  | ok a => exact yields_pure trivial
  | error e => exact yields_fail

theorem isPlain_of_readHeaderLine {s s' : Session} {parsed : HeaderLine}
    (h : readHeaderLine s = (.ok parsed, s')) : parsed.IsPlain := by
  obtain ⟨line, s₁, -, h⟩ := exists_readAs h
  cases h with
  | empty => trivial
  | fragment hsplit => exact isPlainText_decodeLine (isPlain_of_splitAtMarker hsplit)
  | blank => trivial
  | header _ hsplit hheader =>
    exact (isPlainText_decodeLine (splitAtMarker_eq_none_iff.1 hsplit)).of_headerOf hheader

theorem yields_readHeaderLine : Yields readHeaderLine HeaderLine.IsPlain := by
  intro s s' parsed h
  exact ⟨suffix_of_readHeaderLine h, isPlain_of_readHeaderLine h⟩

theorem yields_withFragment (htext : IsPlainText text) (h : headers.IsPlain) :
    Yields (withFragment text headers) Headers.IsPlain := by
  unfold withFragment
  split
  · next hheader => exact yields_pure (h.set (htext.of_headerOf hheader))
  · exact yields_pure h
  · exact (yields_note _ _ _).bind fun _ _ => yields_pure h

theorem yields_afterHeaderLine {next : Headers → List String → Reading HeaderBlock}
    (hnext : ∀ headers lines, headers.IsPlain → Yields (next headers lines) (·.headers.IsPlain))
    (h : headers.IsPlain) (lines : List String) (line : HeaderLine) (hline : line.IsPlain) :
    Yields (afterHeaderLine next headers lines line) (·.headers.IsPlain) := by
  cases line with
  | empty => exact yields_pure h
  | blank text => exact yields_pure h
  | fragment text => exact (yields_withFragment hline h).bind fun _ h' => yields_pure h'
  | header text key value => exact hnext _ _ (h.set hline)

theorem yields_readHeadersFrom (room : Nat) (h : headers.IsPlain) (lines : List String) :
    Yields (readHeadersFrom room headers lines) (·.headers.IsPlain) := by
  induction room generalizing headers lines with
  | zero =>
    rw [readHeadersFrom_zero]
    exact yields_readHeaderLine.bind (yields_afterHeaderLine (fun _ _ _ => yields_fail) h lines)
  | succ room ih =>
    rw [readHeadersFrom_succ]
    exact yields_readHeaderLine.bind (yields_afterHeaderLine (fun _ lines h => ih h lines) h lines)

theorem yields_readOne : Yields readOne (·.1.headers.IsPlain) := by
  have hempty : Headers.IsPlain ∅ := nofun
  exact (yields_readLine .status).bind fun _ _ => (yields_accept _).bind fun _ _ =>
    (yields_note _ _ _).bind fun _ _ =>
      (yields_readHeadersFrom maxHeaders hempty []).bind fun _ h => yields_pure h

theorem yields_afterHead {next : Reading Head} (hnext : Yields next (·.headers.IsPlain))
    (head : Head × Bool) (h : head.1.headers.IsPlain) :
    Yields (afterHead next head) (·.headers.IsPlain) := by
  obtain ⟨head, bodyStarted⟩ := head
  rw [afterHead]
  split
  · split
    · exact (yields_note _ _ _).bind fun _ _ => yields_pure h
    · exact yields_pure h
  · exact hnext

theorem yields_readHeadFrom (room : Nat) :
    Yields (readHeadFrom room) (·.headers.IsPlain) := by
  induction room with
  | zero =>
    rw [readHeadFrom_zero]
    exact yields_readOne.bind (yields_afterHead yields_fail)
  | succ room ih =>
    rw [readHeadFrom_succ]
    exact yields_readOne.bind (yields_afterHead ((yields_note _ _ _).bind fun _ _ => ih))

end Head

/-- A head takes something from the front, and no marker is in what it says. -/
theorem yields_readHead : Yields readHead (·.headers.IsPlain) := Head.yields_readHeadFrom _

namespace Head

variable {kind : LineKind} {room status : Nat} {f line m t u : List UInt8} {headers : Headers}
  {w : Spelling} {behind : ByteStream}

/-! ### Lines that end with a marker -/

/-- Bytes that belong to a line are read one after the other. -/
theorem leads_readLineFrom_bytes (hbreak : ∀ b ∈ u, b ≠ cr ∧ b ≠ lf)
    (hplain : kind = .header → IsPlain (line.reverse ++ u)) :
    Leads behind (readLineFrom kind (room + u.length) line) (u ++ t)
      (readLineFrom kind room (u.reverse ++ line)) t := by
  induction u generalizing line with
  | nil => exact leads_refl _
  | cons b u ih =>
    have hline : line.reverse ++ b :: u = (b :: line).reverse ++ u := by simp
    rw [hline] at hplain
    have hrest : Leads behind (readLineFrom kind (room + u.length) (b :: line)) (u ++ t)
        (readLineFrom kind room (u.reverse ++ b :: line)) t :=
      ih (fun c hc => hbreak c (List.mem_cons_of_mem _ hc)) hplain
    rw [List.reverse_cons, List.append_assoc]
    exact (leads_readLineFrom_plain (hbreak b (List.mem_cons_self ..)) hplain).trans hrest

/-- What may stand before a marker: a part of a line, not in the middle of one. -/
structure IsFragment (f : List UInt8) : Prop where
  no_break : ∀ b ∈ f, b ≠ cr ∧ b ≠ lf
  first : ∀ b ∈ f.head?, isFold b = false
  plain : IsPlain f

/-- A line is read up to its first marker. -/
theorem leads_readLine_marker (hf : IsFragment f) (hm : m ∈ markers)
    (hlength : f.length + m.length ≤ maxLineLength) :
    Leads behind (readLine .header) (f ++ (m ++ t)) (pure (f ++ m)) t := by
  obtain ⟨m', b, rfl⟩ : ∃ m' b, m = m' ++ [b] :=
    ⟨_, _, (List.dropLast_concat_getLast (ne_nil_of_mem_markers hm)).symm⟩
  rw [List.length_append, List.length_singleton] at hlength
  obtain ⟨room, hroom⟩ := Nat.exists_eq_add_of_le hlength
  -- up to the last byte of the marker the line is plain
  have hplain : IsPlain (f ++ m') := by simpa using hf.plain.append_dropLast hm
  have hbreak : ∀ b ∈ f ++ m', b ≠ cr ∧ b ≠ lf := fun b hb =>
    (List.mem_append.1 hb).elim (hf.no_break b) fun hb =>
      (mem_of_mem_markers hm (List.mem_append_left _ hb)).2
  obtain ⟨-, hcr, hlf⟩ :=
    mem_of_mem_markers hm (List.mem_append_right m' (List.mem_singleton_self b))
  have hends : endsWithMarker (b :: (f ++ m').reverse) :=
    endsWithMarker_iff.2 ⟨_, hm, by simp⟩
  have hread : readLine .header = readLineFrom .header (room + 1 + 1 + (f ++ m').length) [] := by
    rw [readLine, hroom, List.length_append]
    congr 1
    omega
  have hline : f ++ (m' ++ [b]) = (b :: (f ++ m').reverse).reverse := by simp
  have hfront : f ++ (m' ++ [b] ++ t) = f ++ m' ++ b :: t := by simp
  rw [hread, hline, hfront]
  refine (leads_readLineFrom_bytes hbreak fun _ => by rwa [List.reverse_nil]).trans ?_
  rw [List.append_nil]
  exact leads_readLineFrom_marker hcr hlf hends

/-- What stands before a marker is a line of its own, and the marker is left. -/
theorem leads_readHeaderLine_marker (hf : IsFragment f) (hm : m ∈ markers)
    (hlength : f.length + m.length ≤ maxLineLength) :
    Leads behind readHeaderLine (f ++ (m ++ t)) (pure (.fragment (decodeLine f))) (m ++ t) := by
  have hne : f ++ m ≠ [] := fun h => ne_nil_of_mem_markers hm (List.append_eq_nil_iff.1 h).2
  refine ((leads_readLine_marker hf hm hlength).bind_pure _).trans ?_
  rw [if_neg hne, splitAtMarker_append hf.plain hm]
  exact (leads_unread m).bind_pure _

/-! ### Blocks that end with a marker -/

/-- The headers with what stands before a marker, if that is a header. -/
def setFragment (f : List UInt8) (headers : Headers) : Headers :=
  if colon ∈ f then headers.set (entryOf f).1 (entryOf f).2 else headers

theorem leads_withFragment :
    Leads behind (withFragment (decodeLine f) headers) u (pure (setFragment f headers)) u := by
  unfold setFragment
  split
  · next hcolon =>
    rw [withFragment, headerOf_decodeLine hcolon]
    exact leads_refl _
  · next hcolon =>
    have hnone : ':' ∉ (decodeLine f).toList := fun hmem =>
      hcolon ((mem_decodeLine_iff (b := colon) (by decide)).1 hmem)
    rw [withFragment, headerOf, splitOnce_eq_none_iff.2 hnone]
    dsimp only
    split
    · next h => split at h <;> cases h
    · exact leads_refl _
    · exact (leads_note _ _ _).bind_pure _

/-- A line goes on behind a line break neither with a fragment nor with a marker. -/
theorem IsFragment.exists_cons (hf : IsFragment f) (hm : m ∈ markers) (t : List UInt8) :
    ∃ b v, f ++ (m ++ t) = b :: v ∧ isFold b = false ∧ b ≠ lf := by
  cases f with
  | nil =>
    obtain ⟨x, rfl, -⟩ := exists_cons_of_mem_markers hm
    exact ⟨60, x ++ t, rfl, rfl, by decide⟩
  | cons b f =>
    exact ⟨b, f ++ (m ++ t), rfl, hf.first b rfl, (hf.no_break b (List.mem_cons_self ..)).2⟩

/-- What follows a line of a block without a blank line. -/
theorem exists_cons_flatMap_bytes {ls : List SpelledLine} (h : ∀ l ∈ ls, l.IsHeader)
    (hu : ∃ b v, u = b :: v ∧ isFold b = false ∧ b ≠ lf) :
    ∃ b v, ls.flatMap SpelledLine.bytes ++ u = b :: v ∧ isFold b = false ∧ b ≠ lf := by
  cases ls with
  | nil => exact hu
  | cons l ls =>
    rw [List.flatMap_cons, List.append_assoc]
    exact (h l (List.mem_cons_self ..)).exists_cons _

/-- A line break fits if no line feed is behind it. -/
theorem LineEnd.fits_of_exists_cons (e : LineEnd) (behind : ByteStream)
    (hu : ∃ b v, u = b :: v ∧ isFold b = false ∧ b ≠ Head.lf) : e.Fits u behind := by
  obtain ⟨b, v, rfl, -, hb⟩ := hu
  exact fun _ => ⟨by simpa using hb, nofun⟩

theorem leads_readHeadersFrom_marker {ls : List SpelledLine} (room : Nat) (headers : Headers)
    (lines : List String) (h : ∀ l ∈ ls, l.IsHeader) (hf : IsFragment f) (hm : m ∈ markers)
    (hlength : f.length + m.length ≤ maxLineLength) :
    Leads behind (readHeadersFrom (ls.length + room) headers lines)
      (ls.flatMap SpelledLine.bytes ++ (f ++ (m ++ t)))
      (pure ⟨setFragment f (setLines headers ls),
        lines.reverse ++ (ls.map (decodeLine ·.text) ++ [decodeLine f]), true⟩) (m ++ t) := by
  induction ls generalizing headers lines with
  | nil =>
    obtain ⟨next, hnext⟩ := exists_readHeadersFrom_eq room
    rw [List.length_nil, Nat.zero_add, hnext, List.map_nil, List.nil_append, ← List.reverse_cons]
    refine ((leads_readHeaderLine_marker hf hm hlength).bind_pure _).trans ?_
    exact leads_withFragment.bind_pure _
  | cons l ls ih =>
    have hls : ∀ l ∈ ls, l.IsHeader := fun l hl => h l (List.mem_cons_of_mem _ hl)
    obtain ⟨b, v, hcons, hb, hlf⟩ := exists_cons_flatMap_bytes hls (hf.exists_cons hm t)
    have hrest := ih (headers.set (entryOf l.text).1 (entryOf l.text).2)
      (decodeLine l.text :: lines) hls
    rw [List.reverse_cons, List.append_assoc] at hrest
    rw [List.length_cons, Nat.add_right_comm, List.flatMap_cons, List.append_assoc]
    exact (leads_readHeadersFrom_line (h l (List.mem_cons_self ..))
      (l.lineEnd.fits_of_exists_cons behind ⟨b, v, hcons, hb, hlf⟩)
      ⟨b, v, hcons, hb⟩).trans hrest

/-! ### Heads that end with a marker -/

/-- The head as it is sent, without the blank line. -/
def Spelling.opening (w : Spelling) : List UInt8 :=
  w.statusLine ++ (w.statusEnd.bytes ++ w.headers.flatMap SpelledLine.bytes)

/-- The head that is to be read, with a fragment behind its headers. -/
def Spelling.headWith (w : Spelling) (status : Nat) (f : List UInt8) : Head where
  status
  headers := setFragment f (setLines ∅ w.headers)
  lines := decodeLine w.statusLine :: (w.headers.map (decodeLine ·.text) ++ [decodeLine f])

theorem leads_readHead_marker (h : w.IsHead status) (hf : IsFragment f) (hm : m ∈ markers)
    (hlength : f.length + m.length ≤ maxLineLength) :
    Leads behind readHead (w.opening ++ (f ++ (m ++ t))) (pure (w.headWith status f)) (m ++ t) := by
  obtain ⟨room, hroom⟩ := Nat.exists_eq_add_of_le h.length_headers_le
  have hblock : Leads behind (readHeadersFrom (w.headers.length + room) ∅ []) _ _ (m ++ t) :=
    leads_readHeadersFrom_marker room ∅ [] h.headers hf hm hlength
  rw [← hroom] at hblock
  have hfits := w.statusEnd.fits_of_exists_cons behind
    (exists_cons_flatMap_bytes h.headers (hf.exists_cons hm t))
  have hone : Leads behind readOne (w.opening ++ (f ++ (m ++ t)))
      (pure (w.headWith status f, true)) (m ++ t) := by
    rw [Spelling.opening, List.append_assoc, List.append_assoc]
    exact leads_readOne_of_block h.length_le h.no_break h.statusOf_eq hfits hblock
  exact leads_readHead_of_readOne hone h.ne_continue

end Head

open Head

/-- **Nothing is lost where markup begins.** What is left behind a head is an end of what was there,
no marker is in a key or a value of the head, and where nothing can fail nothing fails afterwards.
And a head without a blank line is read up to the first marker, whatever comes then: the marker and
everything behind it are left, and what stands before the marker on its line counts as a header if
it is one. -/
theorem readHead_of_marker :
    (∀ {s s' : Session} {head : Head}, readHead s = (.ok head, s') →
      s'.reader.content <:+ s.reader.content ∧ head.headers.IsPlain ∧
      (s.reader.Offers s.reader.content [] → s'.reader.Offers s'.reader.content [])) ∧
    ∀ {w : Spelling} {status : Nat} {f m t : List UInt8} {behind : ByteStream} {s : Session},
      w.IsHead status → IsFragment f → m ∈ markers → f.length + m.length ≤ maxLineLength →
      s.reader.Offers (w.opening ++ (f ++ (m ++ t))) behind →
      ∃ s', readHead s = (.ok (w.headWith status f), s') ∧ s'.reader.Offers (m ++ t) behind := by
  constructor
  · intro s s' head hread
    obtain ⟨hsuffix, hplain⟩ := yields_readHead hread
    refine ⟨hsuffix, hplain, fun hs => Reader.offers_content_iff.2 ?_⟩
    have hleft := (ends_readHead Reader.keeps_inTime s (Reader.offers_content_iff.1 hs)).1
    rwa [hread] at hleft
  · intro w status f m t behind s h hf hm hlength hs
    exact leads_readHead_marker h hf hm hlength s hs

/-- A head with one header. -/
def Head.Spelling.small : Spelling where
  statusLine := asciiBytes "H 200"
  statusEnd := .lf
  headers := [⟨(asciiBytes "A:b").map (none, ·), .cr⟩]
  blankEnd := .lf

theorem Head.Spelling.isHead_small : Spelling.small.IsHead 200 where
  length_le := by decide
  no_break := by decide +kernel
  statusOf_eq := by rfl
  ne_continue := by decide
  length_headers_le := by decide
  headers := by decide +kernel

/-- A fragment that ends with a part of another marker, and a marker in two pieces. -/
theorem readHead_of_marker_torn :
    let s : Session := { reader := { source :=
      [.bytes (asciiBytes "H 200\nA:b\rB: c<!DOC<ht"), .bytes (asciiBytes "ml"), .bytes [255]] } }
    let headers : Headers := ⟨[("A", "b"), ("B", "c<!DOC")]⟩
    ∃ s', readHead s = (.ok ⟨200, headers, ["H 200", "A:b", "B: c<!DOC"]⟩, s') ∧
      s'.reader.Offers (asciiBytes "<html" ++ [255]) [] ∧
      s'.reader.content <:+ s.reader.content ∧ headers.IsPlain := by
  intro s headers
  have hf : IsFragment (asciiBytes "B: c<!DOC") := {
    no_break := by decide +kernel
    first := by decide +kernel
    plain := by decide +kernel }
  have hm : asciiBytes "<html" ∈ markers := by decide
  have hlength : (asciiBytes "B: c<!DOC").length + (asciiBytes "<html").length ≤ maxLineLength := by
    decide
  have hs : s.reader.Offers
      (Spelling.small.opening ++ (asciiBytes "B: c<!DOC" ++ (asciiBytes "<html" ++ [255]))) [] :=
    ⟨s.reader.source, rfl, by simp [s, ByteStream.InTime], by decide⟩
  have hhead : Spelling.small.headWith 200 (asciiBytes "B: c<!DOC")
      = ⟨200, headers, ["H 200", "A:b", "B: c<!DOC"]⟩ := by decide +kernel
  obtain ⟨s', hread, hs'⟩ := readHead_of_marker.2 Spelling.isHead_small hf hm hlength hs
  rw [hhead] at hread
  obtain ⟨hsuffix, hplain, -⟩ := readHead_of_marker.1 hread
  exact ⟨s', hread, hs', hsuffix, hplain⟩

end WireFetch
