import WireFetch.Proofs.Head.Bounded
import WireFetch.Proofs.Head.Recovery

/-!
# Heads without headers

Behind the status line, a line of spaces and tabs is read as an empty line is: there are no headers,
and the body begins. But unlike an empty line it has bytes, so it could be continued, and whether it
is can only be told from the byte behind its line break. This byte belongs to the body.

`readHead_of_bareHead` says when the body is left as it is: just when it does not start with a space
or a tab, or the line is empty. Otherwise its first byte becomes a part of the line, whatever is
read after that.

The proof of this goes the other way round than that of what is left. It starts from a head that was
read, and follows what the reader holds. Markup may be handed back on the way, but since no marker
has white space in it, none of it can come from before the fold.

## Main definitions

* `Head.BareHead` — a status line, and a line that is empty or of spaces and tabs

## Main results

* `Head.leads_readHeaders_blanks`, `BareHead.leads_readHead` — the body is left
* `Head.suffix_of_readHeaderLine_fold`, `BareHead.suffix_of_readHead` — its first byte is not left
* `readHead_of_bareHead` — both
-/

namespace WireFetch

open Reading Text

namespace Head

variable {b : UInt8} {blanks u : List UInt8} {e : LineEnd} {behind : ByteStream}
  {x : List SpelledByte} {s s' : Session} {status : Nat}

/-! ### Spaces and tabs -/

theorem isPlain_of_isFold (h : ∀ b ∈ blanks, isFold b) : IsPlain blanks := by
  intro m hm hpart
  obtain ⟨b, m, rfl⟩ := List.exists_cons_of_ne_nil (ne_nil_of_mem_markers hm)
  have hfold := h b (hpart.subset (List.mem_cons_self ..))
  rw [(mem_of_mem_markers hm (List.mem_cons_self ..)).1] at hfold
  cases hfold

/-- Spaces and tabs say nothing. -/
theorem headerOf_of_isFold (h : ∀ b ∈ blanks, isFold b) :
    headerOf (decodeLine blanks) = .ok none := by
  have hbyte : ∀ b ∈ blanks, b = 32 ∨ b = 9 := fun b hb => by simpa [isFold] using h b hb
  have hascii : ∀ b ∈ blanks, b < 128 := by
    intro b hb
    rcases hbyte b hb with rfl | rfl <;> decide
  have hchar : ∀ c ∈ (decodeLine blanks).toList, c ≠ ':' ∧ isBlank c := by
    rw [decodeLine_of_ascii hascii, String.toList_ofList]
    intro c hc
    obtain ⟨b, hb, rfl⟩ := List.mem_map.1 hc
    rcases hbyte b hb with rfl | rfl <;> decide
  have hcolon : ':' ∉ (decodeLine blanks).toList := fun hmem => (hchar ':' hmem).1 rfl
  have hblank : (decodeLine blanks).toList.all isBlank :=
    List.all_eq_true.2 fun c hc => (hchar c hc).2
  rw [headerOf, splitOnce_eq_none_iff.2 hcolon]
  exact if_pos hblank

/-- A line of spaces and tabs, with or without folds. -/
theorem goesOn_of_isFold (h : ∀ y ∈ x, isFold y.2) (hfirst : ∀ y ∈ x.head?, y.1 = none) :
    GoesOn .header [] x where
  no_break y hy := ne_of_isFold (h y hy)
  folds y hy _ := ⟨rfl, h y hy⟩
  first _ := hfirst
  plain _ := isPlain_of_isFold fun b hb => by
    obtain ⟨y, hy, rfl⟩ := List.mem_map.1 hb
    exact h y hy

/-! ### The body is left -/

/-- The lines of a block that has no headers. -/
def blankLines (blanks : List UInt8) : List String :=
  if blanks = [] then [] else [decodeLine blanks]

/-- A line of spaces and tabs ends a block before a byte that is none. -/
theorem leads_readHeaders_blanks (h : ∀ b ∈ blanks, isFold b)
    (hlength : blanks.length ≤ maxLineLength) (he : e.Fits u behind)
    (hnext : blanks ≠ [] → (∀ b ∈ u.head?, isFold b = false) ∧ (u = [] → behind = [])) :
    Leads behind readHeaders (blanks ++ (e.bytes ++ u)) (pure ⟨∅, blankLines blanks, false⟩) u := by
  obtain ⟨next, hround⟩ := exists_readHeadersFrom_eq maxHeaders
  rw [readHeaders, hround]
  by_cases hblanks : blanks = []
  · subst hblanks
    exact (leads_readHeaderLine_blank he).bind_pure _
  · have hline : Leads behind (readLine .header) (blanks ++ (e.bytes ++ u)) (pure blanks) u := by
      have hx : GoesOn .header [] (blanks.map (none, ·)) :=
        goesOn_of_isFold (by simpa using h) (by simp)
      have hread := leads_readLine_of_goesOn hx (by simpa using hlength) he fun _ => hnext hblanks
      rwa [spell_map_none, unfolded_map_none] at hread
    have hparsed := leads_readHeaderLine_of_readLine hline hblanks (isPlain_of_isFold h)
      (headerOf_of_isFold h)
    rw [blankLines, if_neg hblanks]
    exact hparsed.bind_pure _

/-! ### The first byte of the body is not left -/

/-- Behind spaces and tabs, white space continues the line. -/
theorem leads_readLine_fold (h : ∀ b ∈ blanks, isFold b) (hne : blanks ≠ [])
    (hlength : blanks.length ≤ maxLineLength) (hb : isFold b) :
    ∃ room, Leads behind (readLine .header) (blanks ++ (e.bytes ++ b :: u))
      (readLineFrom .header room (b :: blanks.reverse)) u := by
  let x : List SpelledByte := blanks.map (none, ·) ++ [(some e, b)]
  have hx : GoesOn .header [] x := by
    refine goesOn_of_isFold (fun y hy => ?_) (fun y hy => ?_)
    · rcases List.mem_append.1 hy with hy | hy
      · obtain ⟨c, hc, rfl⟩ := List.mem_map.1 hy
        exact h c hc
      · obtain rfl := List.mem_singleton.1 hy
        exact hb
    · obtain ⟨c, blanks, rfl⟩ := List.exists_cons_of_ne_nil hne
      cases hy
      rfl
  have hspell : spell x ++ u = blanks ++ (e.bytes ++ b :: u) := by
    have hparts : spell x = spell (blanks.map (none, ·)) ++ spell [(some e, b)] :=
      List.flatMap_append
    rw [hparts, spell_map_none]
    simp [spell]
  have hunfolded : (unfolded x).reverse ++ [] = b :: blanks.reverse := by
    simp [x, unfolded, Function.comp_def]
  obtain ⟨room, hroom⟩ := Nat.exists_eq_add_of_le' hlength
  have hread : readLine .header = readLineFrom .header (room + x.length) [] := by
    rw [readLine, hroom]
    simp [x, Nat.add_assoc]
  rw [hread, ← hspell, ← hunfolded]
  exact ⟨room, leads_readLineFrom_part hx.no_break hx.folds hx.first hx.plain⟩

/-- Whatever the line is, it has taken the fold, and no markup brings it back. -/
theorem suffix_of_readHeaderLine_fold {parsed : HeaderLine} (h : ∀ b ∈ blanks, isFold b)
    (hne : blanks ≠ []) (hlength : blanks.length ≤ maxLineLength) (hb : isFold b)
    (hs : s.reader.Offers (blanks ++ (e.bytes ++ b :: u)) behind)
    (hparsed : readHeaderLine s = (.ok parsed, s')) :
    s'.reader.content <:+ u ++ behind.data := by
  obtain ⟨line, s₁, hline, hparsed⟩ := exists_readAs hparsed
  obtain ⟨room, hleads⟩ := leads_readLine_fold h hne hlength hb
  obtain ⟨s₂, heq, hs₂⟩ := hleads s hs
  have hplain : IsPlain ([] ++ b :: blanks.reverse).reverse := by
    have hall := isPlain_of_isFold h
    simpa using hall.concat_fold hb
  obtain ⟨taken, hcontent, htaken⟩ := taken_of_readLineFrom room [] (b :: blanks.reverse)
    (fun c hc => by cases hc; exact hb) (fun _ => hplain) (heq.symm.trans hline)
  rw [← hs₂.content_eq_append]
  exact suffix_of_readAs hparsed hcontent htaken

/-- What comes behind the line only takes more. -/
theorem suffix_of_readHeaders_fold {block : HeaderBlock} (h : ∀ b ∈ blanks, isFold b)
    (hne : blanks ≠ []) (hlength : blanks.length ≤ maxLineLength) (hb : isFold b)
    (hs : s.reader.Offers (blanks ++ (e.bytes ++ b :: u)) behind)
    (hblock : readHeaders s = (.ok block, s')) : s'.reader.content <:+ u ++ behind.data := by
  rw [readHeaders, maxHeaders, readHeadersFrom_succ] at hblock
  obtain ⟨parsed, s₁, hparsed, hblock⟩ := exists_of_bind_eq_ok hblock
  have hempty : Headers.IsPlain ∅ := nofun
  have hrest := yields_afterHeaderLine (fun _ lines h => yields_readHeadersFrom _ h lines) hempty []
    parsed (isPlain_of_readHeaderLine hparsed) hblock
  exact hrest.1.trans (suffix_of_readHeaderLine_fold h hne hlength hb hs hparsed)

/-! ### Heads -/

/-- A head without headers: the status line, and a line of spaces and tabs or without a byte. -/
structure BareHead where
  statusLine : List UInt8
  statusEnd : LineEnd
  blanks : List UInt8
  blankEnd : LineEnd
  deriving DecidableEq, Repr

namespace BareHead

variable {w : BareHead} {body : List UInt8}

/-- The head as it is sent. -/
def bytes (w : BareHead) : List UInt8 :=
  w.statusLine ++ (w.statusEnd.bytes ++ (w.blanks ++ w.blankEnd.bytes))

/-- What such heads are made of. -/
structure IsHead (w : BareHead) (status : Nat) : Prop where
  length_le : w.statusLine.length ≤ maxLineLength
  no_break : ∀ b ∈ w.statusLine, b ≠ cr ∧ b ≠ lf
  statusOf_eq : statusOf (decodeLine w.statusLine) = .ok status
  ne_continue : status ≠ continueStatus
  length_blanks_le : w.blanks.length ≤ maxLineLength
  blanks : ∀ b ∈ w.blanks, isFold b

/-- No line break is the first half of a longer one, and if the body is looked at, it is known how
it begins. -/
structure Fits (w : BareHead) (body : List UInt8) (behind : ByteStream) : Prop where
  statusEnd : w.statusEnd.Fits (w.blanks ++ (w.blankEnd.bytes ++ body)) behind
  blankEnd : w.blankEnd.Fits body behind
  known : w.blanks ≠ [] → body = [] → behind = []

/-- The head that is to be read. -/
def head (w : BareHead) (status : Nat) : Head where
  status
  headers := ∅
  lines := decodeLine w.statusLine :: blankLines w.blanks

theorem bytes_append (w : BareHead) (body : List UInt8) : w.bytes ++ body
    = w.statusLine ++ (w.statusEnd.bytes ++ (w.blanks ++ (w.blankEnd.bytes ++ body))) := by
  simp [bytes]

theorem leads_readHead (h : w.IsHead status) (hfits : w.Fits body behind)
    (hbody : w.blanks = [] ∨ ∀ b ∈ body.head?, isFold b = false) :
    Leads behind readHead (w.bytes ++ body) (pure (w.head status)) body := by
  have hblock := leads_readHeaders_blanks h.blanks h.length_blanks_le hfits.blankEnd fun hne =>
    ⟨hbody.resolve_left hne, hfits.known hne⟩
  rw [bytes_append]
  exact leads_readHead_of_readOne (leads_readOne_of_block h.length_le h.no_break h.statusOf_eq
    hfits.statusEnd hblock) h.ne_continue

/-- What is left of the body, whatever head is read. -/
theorem suffix_of_readOne {one : Head × Bool} (h : w.IsHead status)
    (hfits : w.Fits (b :: u) behind) (hne : w.blanks ≠ []) (hb : isFold b)
    (hs : s.reader.Offers (w.bytes ++ b :: u) behind) (hone : readOne s = (.ok one, s')) :
    one.1.status = status ∧ s'.reader.content <:+ u ++ behind.data := by
  rw [bytes_append] at hs
  obtain ⟨line, s₁, hline, hone⟩ := exists_of_bind_eq_ok hone
  have hfirst : Leads behind (readLine .status) _ (pure w.statusLine) _ :=
    leads_readLine_bytes h.length_le h.no_break nofun hfits.statusEnd nofun
  obtain ⟨t, hleads, ht⟩ := hfirst s hs
  obtain ⟨hline, rfl⟩ := Prod.mk.inj (hline.symm.trans hleads)
  obtain rfl := Except.ok.inj hline
  obtain ⟨told, s₂, haccept, hone⟩ := exists_of_bind_eq_ok hone
  obtain ⟨hstatus, rfl⟩ := eq_ok_of_accept haccept
  obtain rfl := Except.ok.inj (h.statusOf_eq.symm.trans hstatus)
  obtain ⟨⟨⟩, s₃, hnote, hone⟩ := exists_of_bind_eq_ok hone
  have hreader : s₃.reader = s₂.reader := by
    cases hnote
    rfl
  obtain ⟨block, s₄, hblock, hpair⟩ := exists_of_bind_eq_ok hone
  cases hpair
  rw [← hreader] at ht
  exact ⟨rfl, suffix_of_readHeaders_fold h.blanks hne h.length_blanks_le hb ht hblock⟩

theorem suffix_of_readHead {head : Head} (h : w.IsHead status) (hfits : w.Fits (b :: u) behind)
    (hne : w.blanks ≠ []) (hb : isFold b) (hs : s.reader.Offers (w.bytes ++ b :: u) behind)
    (hread : readHead s = (.ok head, s')) : s'.reader.content <:+ u ++ behind.data := by
  rw [readHead, maxInterim, readHeadFrom_succ] at hread
  obtain ⟨⟨one, bodyStarted⟩, s₁, hone, hread⟩ := exists_of_bind_eq_ok hread
  obtain ⟨hstatus, hsuffix⟩ := suffix_of_readOne h hfits hne hb hs hone
  -- a head that is not skipped is the last one
  have hafter : s'.reader = s₁.reader := by
    rw [afterHead, if_pos (hstatus ▸ h.ne_continue)] at hread
    cases bodyStarted <;> cases hread <;> rfl
  rwa [hafter]

end BareHead

end Head

open Head

/-- **A line of spaces and tabs ends a head as an empty line does, unless the body begins with a
space or a tab.** The head has the status of its first line and no headers, and the body is left,
all of it and nothing else, just if the line is empty or the body does not begin with white space.
Otherwise no head is read that leaves the first byte of the body. -/
theorem readHead_of_bareHead {w : BareHead} {status : Nat} (h : w.IsHead status)
    {body : List UInt8} {behind : ByteStream} (hfits : w.Fits body behind) {s : Session}
    (hs : s.reader.Offers (w.bytes ++ body) behind) :
    ((∃ s', readHead s = (.ok (w.head status), s') ∧ s'.reader.Offers body behind) ↔
      w.blanks = [] ∨ ∀ b ∈ body.head?, isFold b = false) ∧
    ∀ {b : UInt8} {u : List UInt8} {head : Head} {s' : Session}, w.blanks ≠ [] → body = b :: u →
      isFold b → readHead s = (.ok head, s') → s'.reader.content <:+ u ++ behind.data := by
  refine ⟨⟨?_, fun hbody => BareHead.leads_readHead h hfits hbody s hs⟩, ?_⟩
  · rintro ⟨s', hread, hs'⟩
    refine Classical.or_iff_not_imp_left.2 fun hne b hhead => Bool.eq_false_iff.2 fun hb => ?_
    obtain ⟨u, rfl⟩ := List.head?_eq_some_iff.1 hhead
    have hsuffix := BareHead.suffix_of_readHead h hfits hne hb hs hread
    -- the body would be as long as what stands behind its first byte
    have hlength := hsuffix.length_le
    rw [hs'.content_eq_append, List.cons_append, List.length_cons] at hlength
    omega
  · rintro b u head s' hne rfl hb hread
    exact BareHead.suffix_of_readHead h hfits hne hb hs hread

/-- A head with a line of a space and a tab. -/
def Head.BareHead.indented : BareHead where
  statusLine := asciiBytes "HTTP/1.1 200 OK"
  statusEnd := .crlf
  blanks := [32, 9]
  blankEnd := .crlf

theorem Head.BareHead.isHead_indented : BareHead.indented.IsHead 200 where
  length_le := by decide
  no_break := by decide +kernel
  statusOf_eq := by rfl
  ne_continue := by decide
  length_blanks_le := by decide
  blanks := by decide +kernel

theorem Head.BareHead.fits_indented {body : List UInt8} :
    BareHead.indented.Fits body [] where
  statusEnd := LineEnd.fits_crlf
  blankEnd := LineEnd.fits_crlf
  known _ _ := rfl

theorem readHead_of_bareHead_indented :
    let s : Session := { reader := { source := [.bytes (BareHead.indented.bytes ++ [97, 32])] } }
    ∃ s', readHead s = (.ok ⟨200, ∅, ["HTTP/1.1 200 OK", " \t"]⟩, s') ∧
      s'.reader.Offers [97, 32] [] := by
  intro s
  have hhead : BareHead.indented.head 200 = ⟨200, ∅, ["HTTP/1.1 200 OK", " \t"]⟩ := by
    decide +kernel
  obtain ⟨hiff, -⟩ := readHead_of_bareHead BareHead.isHead_indented BareHead.fits_indented (s := s)
    (Reader.offers_bytes _)
  rw [← hhead]
  exact hiff.2 (.inr (by simp [isFold]))

/-- The body is a space and a letter. The space continues the line, and there is no line break
behind it. -/
theorem readHead_of_bareHead_swallowed :
    let s : Session := { reader := { source := [.bytes (BareHead.indented.bytes ++ [32, 97])] } }
    BareHead.indented.IsHead 200 ∧ BareHead.indented.Fits [32, 97] [] ∧
      s.reader.Offers (BareHead.indented.bytes ++ [32, 97]) [] ∧
      (readHead s).1 matches .error (.failed .unexpectedEof) := by
  intro s
  refine ⟨BareHead.isHead_indented, BareHead.fits_indented, Reader.offers_bytes _, ?_⟩
  decide +kernel

end WireFetch
