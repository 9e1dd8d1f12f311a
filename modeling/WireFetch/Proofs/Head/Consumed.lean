import WireFetch.Proofs.Head.Line
import WireFetch.Proofs.Reader.Queue
import WireFetch.Proofs.Reading.Steps

/-!
# What a line takes from the reader

A line that was read is not what was taken from the reader: line breaks are gone, and a fold stands
for the break before it. Nothing can be recovered of these in general. One thing can, and it is
what is needed when markup is handed back: the marker with which a line ends was taken just so,
byte for byte, as the last thing.

The induction keeps the line in two parts. `tail` is what was taken without a break, up to now;
`rest` begins with a fold. A marker holds no white space, so at the end of the line it lies in
`tail`.

## Main results

* `Head.taken_of_readLine` — what a line takes
* `Head.exists_readAs`, `exists_of_readOne` — what a header line and a head were read from
* `Head.suffix_of_readHeaderLine` — a header line leaves an end of what was there before
-/

namespace WireFetch.Head

open Reading Text

variable {kind : LineKind} {s s' : Session} {b : UInt8} {line before markup : List UInt8}

/-! ### Line breaks -/

theorem content_of_readByte (h : readByte s = (.ok (some b), s')) :
    s.reader.content = b :: s'.reader.content := by
  rw [readByte_apply] at h
  obtain ⟨hresult, rfl⟩ := Prod.mk.inj h
  exact Reader.content_of_readByte (Prod.ext hresult rfl)

theorem content_of_peekByte {next : Option UInt8} (h : peekByte s = (.ok next, s')) :
    s'.reader.content = s.reader.content := by
  rw [peekByte_apply] at h
  obtain ⟨-, rfl⟩ := Prod.mk.inj h
  exact Reader.content_peekByte _

/-- What was peeked at is read next. -/
theorem readByte_of_peekByte {s'' : Session} {next : Option UInt8}
    (h : peekByte s = (.ok (some b), s')) (h' : readByte s' = (.ok next, s'')) :
    s.reader.content = b :: s''.reader.content := by
  have hcontent := content_of_peekByte h
  rw [peekByte_apply] at h
  obtain ⟨hpeek, rfl⟩ := Prod.mk.inj h
  obtain ⟨r'', hread⟩ := Reader.readByte_of_peekByte (Prod.ext hpeek rfl)
  have hnext : next = some b := by
    rw [readByte_apply, hread] at h'
    exact (Except.ok.inj (Prod.mk.inj h').1).symm
  rw [← hcontent, content_of_readByte (hnext ▸ h')]

theorem content_of_skipLineFeed (h : skipLineFeed s = (.ok (), s')) :
    s.reader.content = s'.reader.content ∨ s.reader.content = lf :: s'.reader.content := by
  obtain ⟨next, s₁, hpeek, h⟩ := exists_of_bind_eq_ok h
  split at h
  · next hlf =>
    subst hlf
    obtain ⟨next, s₂, hread, h⟩ := exists_of_bind_eq_ok h
    cases h
    exact .inr (readByte_of_peekByte hpeek hread)
  · cases h
    exact .inl (content_of_peekByte hpeek).symm

/-- What is skipped is the rest of a line break. -/
theorem exists_lineEnd_of_skipBreak (hb : b = cr ∨ b = lf) (h : skipBreak b s = (.ok (), s')) :
    ∃ e : LineEnd, b :: s.reader.content = e.bytes ++ s'.reader.content := by
  unfold skipBreak at h
  split at h
  · next hcr =>
    subst hcr
    rcases content_of_skipLineFeed h with h | h <;> rw [h]
    · exact ⟨.cr, rfl⟩
    · exact ⟨.crlf, rfl⟩
  · next hcr =>
    cases h
    exact ⟨.lf, by rw [hb.resolve_left hcr]; rfl⟩

theorem content_of_skipBreak (h : skipBreak b s = (.ok (), s')) :
    ∃ taken, s.reader.content = taken ++ s'.reader.content := by
  unfold skipBreak at h
  split at h
  · rcases content_of_skipLineFeed h with h | h <;> rw [h]
    · exact ⟨[], rfl⟩
    · exact ⟨[lf], rfl⟩
  · cases h
    exact ⟨[], rfl⟩

theorem content_of_takeFold {fold : Option UInt8} (h : takeFold s = (.ok fold, s')) :
    s.reader.content = fold.toList ++ s'.reader.content ∧ ∀ b ∈ fold, isFold b := by
  obtain ⟨next, s₁, hpeek, h⟩ := exists_of_bind_eq_ok h
  cases next with
  | none =>
    cases h
    exact ⟨(content_of_peekByte hpeek).symm, nofun⟩
  | some b =>
    dsimp only at h
    split at h
    · next hfold =>
      obtain ⟨next, s₂, hread, h⟩ := exists_of_bind_eq_ok h
      cases h
      exact ⟨readByte_of_peekByte hpeek hread, fun c hc => by cases hc; exact hfold⟩
    · cases h
      exact ⟨(content_of_peekByte hpeek).symm, nofun⟩

/-! ### Lines -/

/-- A prefix without white space ends before the first white space. -/
theorem prefix_of_prefix_append {tail rest m : List UInt8} (hm : ∀ b ∈ m, isFold b = false)
    (hrest : ∀ b ∈ rest.head?, isFold b) (h : m <+: tail ++ rest) : m <+: tail := by
  rcases Nat.le_total m.length tail.length with hle | hle
  · exact List.prefix_of_prefix_length_le h (List.prefix_append ..) hle
  · obtain ⟨x, rfl⟩ := List.prefix_of_prefix_length_le (List.prefix_append ..) h hle
    rw [List.prefix_append_right_inj] at h
    cases x with
    | nil => simp
    | cons b x =>
      obtain ⟨y, rfl⟩ := h
      have hfold := hrest b rfl
      rw [hm b (by simp)] at hfold
      cases hfold

/-- How a line that was read relates to what was taken for it. -/
structure Taken (kind : LineKind) (tail line taken : List UInt8) : Prop where
  /-- a header line has no marker but one at its very end, and that one was taken as it is -/
  header : kind = .header → IsPlain line ∨ ∃ line' b, line = line' ++ [b] ∧ IsPlain line' ∧
    ∀ m ∈ markers, m <:+ line → m <:+ tail.reverse ++ taken

theorem Taken.longer {tail tail' taken taken' : List UInt8} (h : Taken kind tail line taken)
    (happend : tail.reverse ++ taken <:+ tail'.reverse ++ taken') :
    Taken kind tail' line taken' := by
  refine ⟨fun hkind => (h.header hkind).imp_right ?_⟩
  rintro ⟨line', b, rfl, hplain, hmarker⟩
  exact ⟨line', b, rfl, hplain, fun m hm hsuffix => (hmarker m hm hsuffix).trans happend⟩

theorem taken_of_readLineFrom (room : Nat) (tail rest : List UInt8)
    (hrest : ∀ b ∈ rest.head?, isFold b)
    (hplain : kind = .header → IsPlain (tail ++ rest).reverse)
    (h : readLineFrom kind room (tail ++ rest) s = (.ok line, s')) :
    ∃ taken, s.reader.content = taken ++ s'.reader.content ∧ Taken kind tail line taken := by
  induction room generalizing tail rest s with
  | zero => cases h
  | succ room ih =>
    rw [readLineFrom_succ] at h
    obtain ⟨next, s₁, hread, h⟩ := exists_of_bind_eq_ok h
    cases next with
    | none => cases h
    | some b =>
      rw [content_of_readByte hread]
      rw [afterByte] at h
      split at h
      · obtain ⟨⟨⟩, s₂, hskip, h⟩ := exists_of_bind_eq_ok h
        obtain ⟨skipped, hskipped⟩ := content_of_skipBreak hskip
        rw [hskipped]
        rw [afterBreak] at h
        split at h
        · next hheader =>
          obtain ⟨fold, s₃, htake, h⟩ := exists_of_bind_eq_ok h
          obtain ⟨hfolded, hfold⟩ := content_of_takeFold htake
          rw [hfolded]
          cases fold with
          | none =>
            cases h
            exact ⟨b :: skipped, rfl, ⟨fun hkind => .inl (hplain hkind)⟩⟩
          | some fold =>
            -- from here on nothing is known of the bytes before the fold
            have hplain' : kind = .header → IsPlain ([] ++ fold :: (tail ++ rest)).reverse := by
              intro hkind
              simpa using (hplain hkind).concat_fold (hfold fold rfl)
            obtain ⟨taken, hcontent, htaken⟩ :=
              ih [] (fold :: (tail ++ rest)) (by simpa using hfold fold rfl) hplain' h
            refine ⟨b :: (skipped ++ fold :: taken), by rw [hcontent]; simp, ?_⟩
            exact htaken.longer ⟨tail.reverse ++ b :: (skipped ++ [fold]), by simp⟩
        · cases h
          exact ⟨b :: skipped, rfl, ⟨fun hkind => .inl (hplain hkind)⟩⟩
      · split at h
        · next hmarker =>
          cases h
          refine ⟨[b], rfl, ⟨fun hkind => .inr ⟨_, b, List.reverse_cons, hplain hkind, ?_⟩⟩⟩
          intro m hm hsuffix
          rw [← List.reverse_prefix, List.reverse_reverse] at hsuffix
          have hword : ∀ c ∈ m.reverse, isFold c = false := fun c hc =>
            (mem_of_mem_markers hm (List.mem_reverse.1 hc)).1
          have hfront : m.reverse <+: b :: tail := prefix_of_prefix_append hword hrest hsuffix
          rw [← List.reverse_cons, ← List.reverse_prefix, List.reverse_reverse]
          exact hfront
        · next hmarker =>
          have hplain' : kind = .header → IsPlain (b :: tail ++ rest).reverse := by
            intro hkind
            rw [List.cons_append, List.reverse_cons]
            refine (hplain hkind).concat fun hends => hmarker ⟨hkind, ?_⟩
            rwa [List.reverse_reverse] at hends
          obtain ⟨taken, hcontent, htaken⟩ := ih (b :: tail) rest hrest hplain' h
          exact ⟨b :: taken, by rw [hcontent]; rfl, htaken.longer (by simp)⟩

/-- A line takes something from the front. -/
theorem taken_of_readLine (h : readLine kind s = (.ok line, s')) :
    ∃ taken, s.reader.content = taken ++ s'.reader.content ∧ Taken kind [] line taken :=
  taken_of_readLineFrom _ [] [] nofun (fun _ => isPlain_nil) h

/-- The marker where a line is cut is the last that was taken for it. -/
theorem markup_suffix_taken {taken : List UInt8} (h : Taken .header [] line taken)
    (hsplit : splitAtMarker line = some (before, markup)) : markup <:+ taken := by
  rcases h.header rfl with hplain | ⟨line', b, rfl, hplain, hmarker⟩
  · rw [splitAtMarker_eq_none_iff.2 hplain] at hsplit
    cases hsplit
  · refine hmarker markup (mem_markers_of_splitAtMarker hsplit hplain) ?_
    rw [(splitAtMarker_eq_some hsplit).1]
    exact List.suffix_append ..

/-! ### Header lines -/

theorem eq_ok_of_accept {α : Type} {parsed : Except FetchError α} {a : α}
    (h : accept parsed s = (.ok a, s')) : parsed = .ok a ∧ s' = s := by
  cases parsed with
  | ok a =>
    cases h
    exact ⟨rfl, rfl⟩
  | error e => cases h

/-- What comes of a line that was read, and what is left then; `s` is what the line left. -/
inductive ReadAs (s : Session) (line : List UInt8) : HeaderLine → Session → Prop
  | empty (h : line = []) : ReadAs s line .empty s
  | fragment {before markup : List UInt8} (h : splitAtMarker line = some (before, markup)) :
    ReadAs s line (.fragment (decodeLine before)) { s with reader := s.reader.unread markup }
  | blank (hne : line ≠ []) (hsplit : splitAtMarker line = none)
      (h : headerOf (decodeLine line) = .ok none) : ReadAs s line (.blank (decodeLine line)) s
  | header {key value : String} (hne : line ≠ []) (hsplit : splitAtMarker line = none)
      (h : headerOf (decodeLine line) = .ok (some (key, value))) :
    ReadAs s line (.header (decodeLine line) key value) s

theorem exists_readAs {parsed : HeaderLine} (h : readHeaderLine s = (.ok parsed, s')) :
    ∃ line s₁, readLine .header s = (.ok line, s₁) ∧ ReadAs s₁ line parsed s' := by
  obtain ⟨line, s₁, hline, h⟩ := exists_of_bind_eq_ok h
  refine ⟨line, s₁, hline, ?_⟩
  split at h
  · next hnil =>
    cases h
    exact .empty hnil
  · next hne =>
    cases hsplit : splitAtMarker line with
    | some parts =>
      simp only [hsplit] at h
      obtain ⟨⟨⟩, s₂, hunread, h⟩ := exists_of_bind_eq_ok h
      cases hunread
      cases h
      exact .fragment hsplit
    | none =>
      simp only [hsplit] at h
      obtain ⟨entry, s₂, haccept, h⟩ := exists_of_bind_eq_ok h
      obtain ⟨hheader, rfl⟩ := eq_ok_of_accept haccept
      cases entry with
      | none =>
        cases h
        exact .blank hne hsplit hheader
      | some entry =>
        cases h
        exact .header hne hsplit hheader

/-- What comes of a line leaves an end of what was there before the line, markup that was handed
back included. -/
theorem suffix_of_readAs {s₁ : Session} {taken : List UInt8} {parsed : HeaderLine}
    (h : ReadAs s₁ line parsed s') (hcontent : s.reader.content = taken ++ s₁.reader.content)
    (htaken : Taken .header [] line taken) : s'.reader.content <:+ s.reader.content := by
  cases h with
  | empty => exact ⟨taken, hcontent.symm⟩
  | fragment hsplit =>
    obtain ⟨front, rfl⟩ := markup_suffix_taken htaken hsplit
    exact ⟨front, by rw [hcontent, Reader.content_unread, List.append_assoc]⟩
  | blank => exact ⟨taken, hcontent.symm⟩
  | header => exact ⟨taken, hcontent.symm⟩

theorem suffix_of_readHeaderLine {parsed : HeaderLine} (h : readHeaderLine s = (.ok parsed, s')) :
    s'.reader.content <:+ s.reader.content := by
  obtain ⟨line, s₁, hline, h⟩ := exists_readAs h
  obtain ⟨taken, hcontent, htaken⟩ := taken_of_readLine hline
  exact suffix_of_readAs h hcontent htaken

/-! ### Heads -/

/-- What the parts of a head were read from. -/
theorem exists_of_readOne {head : Head} {bodyStarted : Bool}
    (h : readOne s = (.ok (head, bodyStarted), s')) :
    ∃ line s₁ s₂ block, readLine .status s = (.ok line, s₁) ∧
      statusOf (decodeLine line) = .ok head.status ∧ readHeaders s₂ = (.ok block, s') ∧
      head = ⟨head.status, block.headers, decodeLine line :: block.lines⟩ ∧
      bodyStarted = block.bodyStarted := by
  obtain ⟨line, s₁, hline, h⟩ := exists_of_bind_eq_ok h
  obtain ⟨status, s₂, haccept, h⟩ := exists_of_bind_eq_ok h
  obtain ⟨⟨⟩, s₃, -, h⟩ := exists_of_bind_eq_ok h
  obtain ⟨block, s₄, hblock, h⟩ := exists_of_bind_eq_ok h
  cases h
  exact ⟨line, s₁, s₃, block, hline, (eq_ok_of_accept haccept).1, hblock, rfl, rfl⟩

end WireFetch.Head
