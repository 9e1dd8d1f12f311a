import WireFetch.Proofs.Head.Line
import WireFetch.Proofs.Text.Decode

/-!
# Heads in every spelling

One head can be written in many ways: each line may end with CR LF, LF or CR, and a header line may
be folded before any of its spaces and tabs. A `Spelling` is a head together with such a choice.
`readHead_of_spelling` says that the choice makes no difference to what is read, and that reading
stops right behind the blank line.

There is one restriction, and it cannot be helped: CR right before LF is CR LF. Where a line break
of CR alone stands right before a line feed, which is possible before a blank line and before the
body, the bytes are those of another spelling (`LineEnd.Fits`).

The proof reads a line byte by byte. What the induction needs to know about the line so far is that
it is a beginning of a line without markup; and a fold never comes first in its line, because no
header line starts with white space.

## Main definitions

* `Head.SpelledLine`, `Head.Spelling` — heads with a choice of line breaks and folds
* `Head.entryOf`, `Head.Spelling.head` — what is to be read

## Main results

* `Head.leads_readLineFrom_spell` — a line in any spelling
* `readHead_of_spelling` — a head in any spelling
-/

namespace WireFetch

open Reading Text

namespace Head

/-! ### Lines with folds -/

/-- A byte of a line, and the line break that is put before it, if there is one. -/
abbrev SpelledByte : Type := Option LineEnd × UInt8

/-- The bytes with the line breaks before them. -/
def spell (line : List SpelledByte) : List UInt8 :=
  line.flatMap fun x => x.1.elim [] LineEnd.bytes ++ [x.2]

/-- The bytes alone. -/
def unfolded (line : List SpelledByte) : List UInt8 := line.map Prod.snd

variable {kind : LineKind} {room : Nat} {e : LineEnd} {line u : List UInt8} {x : List SpelledByte}
  {behind : ByteStream}

theorem spell_cons (fold : Option LineEnd) (b : UInt8) (x : List SpelledByte) :
    spell ((fold, b) :: x) = fold.elim [] LineEnd.bytes ++ b :: spell x := by
  simp [spell]

/-- Behind its line break a line ends, if what follows does not continue it. -/
theorem leads_afterBreak (h : kind = .header → line ≠ [] → ∃ b v, u = b :: v ∧ isFold b = false) :
    Leads behind (afterBreak kind room line) u (pure line.reverse) u := by
  by_cases hheader : kind = .header ∧ line ≠ []
  · obtain ⟨b, v, rfl, hb⟩ := h hheader.1 hheader.2
    exact leads_afterBreak_byte fun _ _ => hb
  · rw [afterBreak_of_not hheader]
    exact leads_refl _

/-- A part of a line is read in any spelling. -/
theorem leads_readLineFrom_part (hbreak : ∀ y ∈ x, y.2 ≠ cr ∧ y.2 ≠ lf)
    (hfold : ∀ y ∈ x, y.1.isSome → kind = .header ∧ isFold y.2)
    (hfirst : line = [] → ∀ y ∈ x.head?, y.1 = none)
    (hplain : kind = .header → IsPlain (line.reverse ++ unfolded x)) :
    Leads behind (readLineFrom kind (room + x.length) line) (spell x ++ u)
      (readLineFrom kind room ((unfolded x).reverse ++ line)) u := by
  induction x generalizing line with
  | nil => exact leads_refl _
  | cons y x ih =>
    obtain ⟨fold, b⟩ := y
    have hb : b ≠ cr ∧ b ≠ lf := hbreak (fold, b) (List.mem_cons_self ..)
    have hline : line.reverse ++ unfolded ((fold, b) :: x) = (b :: line).reverse ++ unfolded x := by
      simp [unfolded]
    rw [hline] at hplain
    have hread : (unfolded ((fold, b) :: x)).reverse ++ line
        = (unfolded x).reverse ++ (b :: line) := by
      simp [unfolded]
    have hrest : Leads behind (readLineFrom kind (room + x.length) (b :: line)) (spell x ++ u)
        (readLineFrom kind room ((unfolded x).reverse ++ (b :: line))) u :=
      ih (fun y hy => hbreak y (List.mem_cons_of_mem _ hy))
        (fun y hy => hfold y (List.mem_cons_of_mem _ hy)) nofun hplain
    rw [spell_cons, hread, List.length_cons, ← Nat.add_assoc]
    cases fold with
    | none =>
      exact (leads_readLineFrom_plain hb hplain).trans hrest
    | some e' =>
      obtain ⟨rfl, hwhite⟩ := hfold (some e', b) (List.mem_cons_self ..) rfl
      have hne : line ≠ [] := fun hnil => nomatch hfirst hnil (some e', b) rfl
      have hfits : e'.Fits (b :: spell x ++ u) behind := fun _ => ⟨by simpa using hb.2, nofun⟩
      rw [Option.elim_some, List.append_assoc]
      exact ((leads_readLineFrom_break hfits).trans (leads_afterBreak_fold hne hwhite)).trans hrest

/-- The rest of a line is read in any spelling. -/
theorem leads_readLineFrom_spell (hbreak : ∀ y ∈ x, y.2 ≠ cr ∧ y.2 ≠ lf)
    (hfold : ∀ y ∈ x, y.1.isSome → kind = .header ∧ isFold y.2)
    (hfirst : line = [] → ∀ y ∈ x.head?, y.1 = none)
    (hplain : kind = .header → IsPlain (line.reverse ++ unfolded x)) (he : e.Fits u behind)
    (hnext : kind = .header → line.reverse ++ unfolded x ≠ [] →
      ∃ b v, u = b :: v ∧ isFold b = false) :
    Leads behind (readLineFrom kind (room + (x.length + 1)) line) (spell x ++ (e.bytes ++ u))
      (pure (line.reverse ++ unfolded x)) u := by
  have hpart : Leads behind (readLineFrom kind (room + 1 + x.length) line) _ _ (e.bytes ++ u) :=
    leads_readLineFrom_part hbreak hfold hfirst hplain
  have hline : ((unfolded x).reverse ++ line).reverse = line.reverse ++ unfolded x := by simp
  rw [← hline] at hnext ⊢
  rw [Nat.add_comm x.length, ← Nat.add_assoc]
  refine hpart.trans ((leads_readLineFrom_break he).trans (leads_afterBreak fun hkind hne => ?_))
  exact hnext hkind (mt List.reverse_eq_nil_iff.1 hne)

theorem leads_readLine_spell (hlength : x.length ≤ maxLineLength)
    (hbreak : ∀ y ∈ x, y.2 ≠ cr ∧ y.2 ≠ lf)
    (hfold : ∀ y ∈ x, y.1.isSome → kind = .header ∧ isFold y.2)
    (hfirst : ∀ y ∈ x.head?, y.1 = none) (hplain : kind = .header → IsPlain (unfolded x))
    (he : e.Fits u behind)
    (hnext : kind = .header → unfolded x ≠ [] → ∃ b v, u = b :: v ∧ isFold b = false) :
    Leads behind (readLine kind) (spell x ++ (e.bytes ++ u)) (pure (unfolded x)) u := by
  obtain ⟨room, hroom⟩ := Nat.exists_eq_add_of_le' hlength
  have hline : readLine kind = readLineFrom kind (room + (x.length + 1)) [] := by
    rw [readLine, hroom, Nat.add_assoc]
  rw [hline]
  exact leads_readLineFrom_spell hbreak hfold (fun _ => hfirst) hplain he hnext

theorem spell_map_none (line : List UInt8) : spell (line.map fun b => (none, b)) = line := by
  induction line with
  | nil => rfl
  | cons b line ih =>
    rw [List.map_cons, spell_cons, ih]
    rfl

theorem unfolded_map_none (line : List UInt8) : unfolded (line.map fun b => (none, b)) = line := by
  simp [unfolded, Function.comp_def]

/-- A line without folds. -/
theorem leads_readLine_bytes (hlength : line.length ≤ maxLineLength)
    (hbreak : ∀ b ∈ line, b ≠ cr ∧ b ≠ lf) (hplain : kind = .header → IsPlain line)
    (he : e.Fits u behind)
    (hnext : kind = .header → line ≠ [] → ∃ b v, u = b :: v ∧ isFold b = false) :
    Leads behind (readLine kind) (line ++ (e.bytes ++ u)) (pure line) u := by
  have hline : Leads behind (readLine kind)
      (spell (line.map fun b => (none, b)) ++ (e.bytes ++ u))
      (pure (unfolded (line.map fun b => (none, b)))) u := by
    refine leads_readLine_spell (by simpa using hlength) (by simpa using hbreak) (by simp)
      (by simp) ?_ he ?_ <;> rwa [unfolded_map_none]
  rwa [spell_map_none, unfolded_map_none] at hline

/-! ### Header lines -/

/-- The colon that ends a key. -/
def colon : UInt8 := 58

/-- The header that a line tells: what stands before its first colon, and what stands behind it
without the spaces and tabs in front. -/
def entryOf (line : List UInt8) : String × String :=
  let text := (decodeLine line).toList
  (String.ofList (text.takeWhile (· ≠ ':')),
    String.ofList (trimValue (text.dropWhile (· ≠ ':')).tail))

theorem splitOnce_of_mem {c : Char} {s : List Char} (h : c ∈ s) :
    splitOnce c s = some (s.takeWhile (· ≠ c), (s.dropWhile (· ≠ c)).tail) := by
  induction s with
  | nil => cases h
  | cons a s ih =>
    by_cases ha : a = c
    · simp [splitOnce, ha]
    · have hmem : c ∈ s := (List.mem_cons.1 h).resolve_left (Ne.symm ha)
      simp [splitOnce, ha, ih hmem]

theorem headerOf_decodeLine (h : colon ∈ line) :
    headerOf (decodeLine line) = .ok (some (entryOf line)) := by
  have hcolon : ':' ∈ (decodeLine line).toList := (mem_decodeLine_iff (b := colon) (by decide)).2 h
  rw [headerOf, splitOnce_of_mem hcolon]
  rfl

/-- A header line with its folds, and the line break behind it. -/
structure SpelledLine where
  line : List SpelledByte
  lineEnd : LineEnd
  deriving DecidableEq, Repr

/-- The line without folds. -/
def SpelledLine.text (l : SpelledLine) : List UInt8 := unfolded l.line

/-- The line as it is sent. -/
def SpelledLine.bytes (l : SpelledLine) : List UInt8 := spell l.line ++ l.lineEnd.bytes

/-- What header lines are made of, and where they may be folded. -/
structure SpelledLine.IsHeader (l : SpelledLine) : Prop where
  ne_nil : l.text ≠ []
  length_le : l.text.length ≤ maxLineLength
  no_break : ∀ b ∈ l.text, b ≠ cr ∧ b ≠ lf
  colon : colon ∈ l.text
  first : ∀ b ∈ l.text.head?, isFold b = false
  plain : IsPlain l.text
  folds : ∀ y ∈ l.line, y.1.isSome → isFold y.2

-- the quantifiers are over the bytes of the line, and not over all bytes there are
instance (l : SpelledLine) : Decidable l.IsHeader :=
  haveI : Decidable (∀ b ∈ l.text, b ≠ cr ∧ b ≠ lf) := List.decidableBAll _ _
  haveI : Decidable (∀ b ∈ l.text.head?, isFold b = false) := Option.decidableForallMem _
  haveI : Decidable (∀ y ∈ l.line, y.1.isSome → isFold y.2) := List.decidableBAll _ _
  decidable_of_iff (l.text ≠ [] ∧ l.text.length ≤ maxLineLength ∧
      (∀ b ∈ l.text, b ≠ cr ∧ b ≠ lf) ∧ Head.colon ∈ l.text ∧
      (∀ b ∈ l.text.head?, isFold b = false) ∧ IsPlain l.text ∧
      ∀ y ∈ l.line, y.1.isSome → isFold y.2)
    ⟨fun ⟨h₁, h₂, h₃, h₄, h₅, h₆, h₇⟩ => ⟨h₁, h₂, h₃, h₄, h₅, h₆, h₇⟩,
      fun h => ⟨h.1, h.2, h.3, h.4, h.5, h.6, h.7⟩⟩

/-- There is no fold before the first byte. -/
theorem SpelledLine.IsHeader.fst_eq_none {l : SpelledLine} (h : l.IsHeader) {y : SpelledByte}
    (hy : y ∈ l.line.head?) : y.1 = none := by
  have hfirst : isFold y.2 = false := by
    refine h.first y.2 ?_
    rw [text, unfolded, List.head?_map, hy]
    rfl
  cases hfold : y.1 with
  | none => rfl
  | some e =>
    rw [h.folds y (List.mem_of_mem_head? hy) (by rw [hfold]; rfl)] at hfirst
    cases hfirst

/-- A header line does not start with white space, so it does not continue another one, and not
with a line feed, so it does not end another one. -/
theorem SpelledLine.IsHeader.exists_cons {l : SpelledLine} (h : l.IsHeader) (u : List UInt8) :
    ∃ b v, l.bytes ++ u = b :: v ∧ isFold b = false ∧ b ≠ lf := by
  obtain ⟨line, lineEnd⟩ := l
  cases line with
  | nil => exact absurd rfl h.ne_nil
  | cons y line =>
    obtain ⟨fold, b⟩ := y
    obtain rfl : fold = none := h.fst_eq_none rfl
    exact ⟨b, _, by rw [bytes, spell_cons]; rfl, h.first b rfl,
      (h.no_break b (List.mem_cons_self ..)).2⟩

/-- A line with bytes and without a marker says what its text says. -/
theorem leads_readHeaderLine_of_readLine {line v : List UInt8} {header : Option (String × String)}
    (hline : Leads behind (readLine .header) v (pure line) u) (hne : line ≠ [])
    (hplain : IsPlain line) (hheader : headerOf (decodeLine line) = .ok header) :
    Leads behind readHeaderLine v
      (pure (header.elim (.blank (decodeLine line)) fun (key, value) =>
        .header (decodeLine line) key value)) u := by
  refine (hline.bind_pure _).trans ?_
  rw [if_neg hne, splitAtMarker_eq_none_iff.2 hplain]
  dsimp only
  rw [hheader]
  cases header <;> exact leads_refl _

theorem leads_readHeaderLine {l : SpelledLine} (h : l.IsHeader) (he : l.lineEnd.Fits u behind)
    (hnext : ∃ b v, u = b :: v ∧ isFold b = false) :
    Leads behind readHeaderLine (l.bytes ++ u)
      (pure (.header (decodeLine l.text) (entryOf l.text).1 (entryOf l.text).2)) u := by
  have hline : Leads behind (readLine .header) (spell l.line ++ (l.lineEnd.bytes ++ u))
      (pure l.text) u := by
    refine leads_readLine_spell ?_ ?_ (fun y hy hsome => ⟨rfl, h.folds y hy hsome⟩)
      (fun y hy => h.fst_eq_none hy) (fun _ => h.plain) he (fun _ _ => hnext)
    · simpa [SpelledLine.text, unfolded] using h.length_le
    · exact fun y hy => h.no_break y.2 (List.mem_map_of_mem hy)
  rw [SpelledLine.bytes, List.append_assoc]
  exact leads_readHeaderLine_of_readLine hline h.ne_nil h.plain (headerOf_decodeLine h.colon)

theorem leads_readHeaderLine_blank (he : e.Fits u behind) :
    Leads behind readHeaderLine (e.bytes ++ u) (pure .empty) u := by
  have hline : Leads behind (readLine .header) (spell [] ++ (e.bytes ++ u)) (pure (unfolded []))
      u :=
    leads_readLine_spell (Nat.zero_le _) nofun nofun nofun (fun _ => isPlain_nil) he
      fun _ h => absurd rfl h
  exact (hline.bind_pure _).trans (leads_refl _)

/-! ### Header blocks -/

/-- A header block as it is sent, with the blank line behind it. -/
def blockBytes (blankEnd : LineEnd) : List SpelledLine → List UInt8
  | [] => blankEnd.bytes
  | l :: ls => l.bytes ++ blockBytes blankEnd ls

/-- No line break of a block is the first half of a longer one. -/
def BlockFits (blankEnd : LineEnd) (u : List UInt8) (behind : ByteStream) :
    List SpelledLine → Prop
  | [] => blankEnd.Fits u behind
  | l :: ls => l.lineEnd.Fits (blockBytes blankEnd ls ++ u) behind ∧ BlockFits blankEnd u behind ls

/-- The headers that lines tell, one after the other. -/
def setLines (headers : Headers) (ls : List SpelledLine) : Headers :=
  ls.foldl (fun headers l => headers.set (entryOf l.text).1 (entryOf l.text).2) headers

/-- What follows a header line is the next one or the blank line. -/
theorem exists_cons_blockBytes {ls : List SpelledLine} (blankEnd : LineEnd)
    (h : ∀ l ∈ ls, l.IsHeader) (u : List UInt8) :
    ∃ b v, blockBytes blankEnd ls ++ u = b :: v ∧ isFold b = false := by
  cases ls with
  | nil =>
    cases blankEnd with
    | crlf => exact ⟨cr, _, rfl, rfl⟩
    | lf => exact ⟨lf, _, rfl, rfl⟩
    | cr => exact ⟨cr, _, rfl, rfl⟩
  | cons l ls =>
    obtain ⟨b, v, hrest, hb, -⟩ := (h l (List.mem_cons_self ..)).exists_cons
      (blockBytes blankEnd ls ++ u)
    exact ⟨b, v, by rw [blockBytes, List.append_assoc, hrest], hb⟩

/-- One line of a block is read, and then the others. -/
theorem leads_readHeadersFrom_line {headers : Headers} {lines : List String} {l : SpelledLine}
    (h : l.IsHeader) (he : l.lineEnd.Fits u behind) (hnext : ∃ b v, u = b :: v ∧ isFold b = false) :
    Leads behind (readHeadersFrom (room + 1) headers lines) (l.bytes ++ u)
      (readHeadersFrom room (headers.set (entryOf l.text).1 (entryOf l.text).2)
        (decodeLine l.text :: lines)) u := by
  rw [readHeadersFrom_succ]
  exact (leads_readHeaderLine h he hnext).bind_pure _

theorem leads_readHeadersFrom {ls : List SpelledLine} {blankEnd : LineEnd} (room : Nat)
    (headers : Headers) (lines : List String) (h : ∀ l ∈ ls, l.IsHeader)
    (hfits : BlockFits blankEnd u behind ls) :
    Leads behind (readHeadersFrom (ls.length + room) headers lines) (blockBytes blankEnd ls ++ u)
      (pure ⟨setLines headers ls, lines.reverse ++ ls.map (decodeLine ·.text), false⟩) u := by
  induction ls generalizing headers lines with
  | nil =>
    have hblank := leads_readHeaderLine_blank (e := blankEnd) hfits
    obtain ⟨next, hnext⟩ := exists_readHeadersFrom_eq room
    rw [List.length_nil, Nat.zero_add, List.map_nil, List.append_nil, hnext]
    exact hblank.bind_pure _
  | cons l ls ih =>
    have hls : ∀ l ∈ ls, l.IsHeader := fun l hl => h l (List.mem_cons_of_mem _ hl)
    have hrest := ih (headers.set (entryOf l.text).1 (entryOf l.text).2)
      (decodeLine l.text :: lines) hls hfits.2
    rw [List.reverse_cons, List.append_assoc] at hrest
    rw [List.length_cons, Nat.add_right_comm, blockBytes, List.append_assoc]
    exact (leads_readHeadersFrom_line (h l (List.mem_cons_self ..)) hfits.1
      (exists_cons_blockBytes blankEnd hls u)).trans hrest

/-! ### Heads -/

/-- A head with a choice of line breaks and folds. -/
structure Spelling where
  statusLine : List UInt8
  statusEnd : LineEnd
  headers : List SpelledLine
  blankEnd : LineEnd
  deriving DecidableEq, Repr

namespace Spelling

/-- The head as it is sent. -/
def bytes (w : Spelling) : List UInt8 :=
  w.statusLine ++ (w.statusEnd.bytes ++ blockBytes w.blankEnd w.headers)

/-- What heads are made of. -/
structure IsHead (w : Spelling) (status : Nat) : Prop where
  length_le : w.statusLine.length ≤ maxLineLength
  no_break : ∀ b ∈ w.statusLine, b ≠ cr ∧ b ≠ lf
  statusOf_eq : statusOf (decodeLine w.statusLine) = .ok status
  ne_continue : status ≠ continueStatus
  length_headers_le : w.headers.length ≤ maxHeaders
  headers : ∀ l ∈ w.headers, l.IsHeader

/-- No line break of the head is the first half of a longer one. -/
def Fits (w : Spelling) (u : List UInt8) (behind : ByteStream) : Prop :=
  w.statusEnd.Fits (blockBytes w.blankEnd w.headers ++ u) behind ∧
    BlockFits w.blankEnd u behind w.headers

/-- The head that is to be read. -/
def head (w : Spelling) (status : Nat) : Head where
  status
  headers := setLines ∅ w.headers
  lines := decodeLine w.statusLine :: w.headers.map (decodeLine ·.text)

end Spelling

variable {w : Spelling} {status : Nat}

/-- A head is its status line, and the block behind it. -/
theorem leads_readOne_of_block {block : HeaderBlock} {rest : List UInt8}
    (hlength : line.length ≤ maxLineLength) (hbreak : ∀ b ∈ line, b ≠ cr ∧ b ≠ lf)
    (hstatus : statusOf (decodeLine line) = .ok status) (he : e.Fits rest behind)
    (hblock : Leads behind readHeaders rest (pure block) u) :
    Leads behind readOne (line ++ (e.bytes ++ rest))
      (pure (⟨status, block.headers, decodeLine line :: block.lines⟩, block.bodyStarted)) u := by
  have hline : Leads behind (readLine .status) (line ++ (e.bytes ++ rest)) (pure line) rest :=
    leads_readLine_bytes hlength hbreak nofun he nofun
  refine (hline.bind_pure _).trans ?_
  dsimp only
  rw [hstatus, accept, pure_bind]
  refine Leads.trans (Leads.bind_pure (leads_note _ _ _) _) ?_
  exact hblock.bind_pure _

theorem leads_readOne (h : w.IsHead status) (hfits : w.Fits u behind) :
    Leads behind readOne (w.bytes ++ u) (pure (w.head status, false)) u := by
  obtain ⟨room, hroom⟩ := Nat.exists_eq_add_of_le h.length_headers_le
  have hblock := leads_readHeadersFrom room ∅ [] h.headers hfits.2
  rw [← hroom] at hblock
  rw [Spelling.bytes, List.append_assoc, List.append_assoc]
  exact leads_readOne_of_block h.length_le h.no_break h.statusOf_eq hfits.1 hblock

/-- A head that is not skipped is the one that is looked for, however it ended. -/
theorem leads_readHead_of_readOne {head : Head} {bodyStarted : Bool} {v : List UInt8}
    (hone : Leads behind readOne v (pure (head, bodyStarted)) u)
    (hstatus : head.status ≠ continueStatus) : Leads behind readHead v (pure head) u := by
  rw [readHead, maxInterim, readHeadFrom_succ]
  refine (hone.bind_pure _).trans ?_
  rw [afterHead, if_pos hstatus]
  cases bodyStarted with
  | false => exact leads_refl _
  | true => exact (leads_note _ _ _).bind_pure _

theorem leads_readHead (h : w.IsHead status) (hfits : w.Fits u behind) :
    Leads behind readHead (w.bytes ++ u) (pure (w.head status)) u :=
  leads_readHead_of_readOne (leads_readOne h hfits) h.ne_continue

end Head

open Head

/-- **The spelling does not matter.** A head in any spelling is read as the head that it spells,
and what follows the blank line is left: all of it, and nothing else. -/
theorem readHead_of_spelling {w : Spelling} {status : Nat} (h : w.IsHead status)
    (body : List UInt8) {behind : ByteStream} (hfits : w.Fits body behind) {s : Session}
    (hs : s.reader.Offers (w.bytes ++ body) behind) :
    ∃ s', readHead s = (.ok (w.head status), s') ∧ s'.reader.Offers body behind :=
  leads_readHead h hfits s hs

/-- A head with each kind of line break, and a header line in two parts. -/
def Head.Spelling.folded : Spelling where
  statusLine := asciiBytes "H 200"
  statusEnd := .cr
  headers :=
    [⟨(asciiBytes "Content-Length:").map (none, ·) ++ [(some .lf, 9), (none, 50)], .crlf⟩]
  blankEnd := .lf

theorem Head.Spelling.isHead_folded : Spelling.folded.IsHead 200 where
  length_le := by decide
  no_break := by decide +kernel
  statusOf_eq := by rfl
  ne_continue := by decide
  length_headers_le := by decide
  headers := by decide +kernel

/-- The body starts with a line feed, right behind the blank line. -/
theorem readHead_of_spelling_folded :
    let s : Session := { reader := { source := [.bytes (Spelling.folded.bytes ++ [lf])] } }
    ∃ s', readHead s
        = (.ok ⟨200, ⟨[("Content-Length", "2")]⟩, ["H 200", "Content-Length:\t2"]⟩, s') ∧
      s'.reader.Offers [lf] [] := by
  intro s
  have hfits : Spelling.folded.Fits [lf] [] :=
    ⟨LineEnd.fits_cr.2 (by decide), LineEnd.fits_crlf, LineEnd.fits_lf⟩
  have hhead : Spelling.folded.head 200
      = ⟨200, ⟨[("Content-Length", "2")]⟩, ["H 200", "Content-Length:\t2"]⟩ := by decide +kernel
  rw [← hhead]
  exact readHead_of_spelling Spelling.isHead_folded [lf] hfits (Reader.offers_bytes _)

end WireFetch
