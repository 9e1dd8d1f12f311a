import WireFetch.Proofs.Head.Equations
import WireFetch.Proofs.Head.Markup
import WireFetch.Proofs.Reading.Steps

/-!
# Lines step by step

The steps of `readLineFrom` on a reader of which it is known what it offers next: a byte that
belongs to the line, the byte that completes a marker, a line break, and what is behind a line
break. A line break of CR alone is known only from the byte behind it, or from the end of the
stream; this is the one condition there is (`LineEnd.Fits`).

## Main definitions

* `Head.LineEnd` — the three line breaks

## Main results

* `Head.leads_readLineFrom_byte`, `leads_readLineFrom_plain`, `leads_readLineFrom_marker`,
  `leads_readLineFrom_break`
* `Head.leads_afterBreak_fold`, `leads_afterBreak_byte`, `leads_afterBreak_nil`
-/

namespace WireFetch.Head

open Reading

/-- How a line ends. -/
inductive LineEnd where
  | crlf
  | lf
  | cr
  deriving DecidableEq, Repr

namespace LineEnd

/-- The bytes of a line break. -/
def bytes : LineEnd → List UInt8
  | crlf => [Head.cr, Head.lf]
  | lf => [Head.lf]
  | cr => [Head.cr]

/-- The line break ends where its bytes end, whatever is behind. -/
def Fits (e : LineEnd) (u : List UInt8) (behind : ByteStream) : Prop :=
  e = cr → u.head? ≠ some Head.lf ∧ (u = [] → behind = [])

section

variable {u : List UInt8} {behind : ByteStream}

@[simp] theorem fits_crlf : crlf.Fits u behind := by
  simp [Fits]

@[simp] theorem fits_lf : lf.Fits u behind := by
  simp [Fits]

@[simp] theorem fits_cr : cr.Fits u behind ↔ u.head? ≠ some Head.lf ∧ (u = [] → behind = []) := by
  simp [Fits]

end

end LineEnd

variable {kind : LineKind} {room : Nat} {b : UInt8} {line u : List UInt8} {behind : ByteStream}

/-! ### Within a line -/

/-- A byte that is no part of a line break and completes no marker belongs to the line. -/
theorem leads_readLineFrom_byte (hcr : b ≠ cr) (hlf : b ≠ lf)
    (hmarker : kind = .header → ¬ endsWithMarker (b :: line)) :
    Leads behind (readLineFrom kind (room + 1) line) (b :: u) (readLineFrom kind room (b :: line))
      u := by
  rw [readLineFrom_succ]
  have hbyte : afterByte kind room line (some b) = readLineFrom kind room (b :: line) := by
    rw [afterByte, if_neg (fun h => h.elim hcr hlf), if_neg (fun h => hmarker h.1 h.2)]
  rw [← hbyte]
  exact leads_readByte.bind_pure _

/-- A byte of a line without a marker belongs to the line. -/
theorem leads_readLineFrom_plain {x : List UInt8} (hb : b ≠ cr ∧ b ≠ lf)
    (hplain : kind = .header → IsPlain ((b :: line).reverse ++ x)) :
    Leads behind (readLineFrom kind (room + 1) line) (b :: u) (readLineFrom kind room (b :: line))
      u := by
  refine leads_readLineFrom_byte hb.1 hb.2 fun hkind => ?_
  have hinit : IsPlain (line.reverse ++ [b]) := (hplain hkind).of_part ⟨[], x, by simp⟩
  simpa using not_endsWithMarker_of_isPlain hinit

theorem leads_readLineFrom_marker (hcr : b ≠ cr) (hlf : b ≠ lf)
    (hmarker : endsWithMarker (b :: line)) :
    Leads behind (readLineFrom .header (room + 1) line) (b :: u) (pure (b :: line).reverse) u := by
  rw [readLineFrom_succ]
  have hbyte : afterByte .header room line (some b) = pure (b :: line).reverse := by
    rw [afterByte, if_neg (fun h => h.elim hcr hlf), if_pos ⟨rfl, hmarker⟩]
  rw [← hbyte]
  exact leads_readByte.bind_pure _

theorem leads_readLineFrom_nil :
    Leads [] (readLineFrom kind (room + 1) line) [] (fail .unexpectedEof) [] := by
  rw [readLineFrom_succ]
  exact leads_readByte_nil.bind_pure _

/-! ### Line breaks -/

theorem leads_skipLineFeed_lf : Leads behind skipLineFeed (lf :: u) (pure ()) u :=
  (leads_peekByte.bind_pure _).trans (leads_readByte.bind_pure _)

theorem leads_skipLineFeed_of_head?_ne (h : u.head? ≠ some lf) (hend : u = [] → behind = []) :
    Leads behind skipLineFeed u (pure ()) u := by
  cases u with
  | nil =>
    obtain rfl := hend rfl
    exact leads_peekByte_nil.bind_pure _
  | cons b u =>
    have hskip : (if some b = some lf then readByte >>= fun _ => pure () else pure ())
        = (pure () : Reading Unit) := if_neg h
    rw [← hskip]
    exact leads_peekByte.bind_pure _

/-- A line break is skipped as a whole. -/
theorem leads_readLineFrom_break {e : LineEnd} (h : e.Fits u behind) :
    Leads behind (readLineFrom kind (room + 1) line) (e.bytes ++ u) (afterBreak kind room line)
      u := by
  have hbreak : ∀ b, b = cr ∨ b = lf → afterByte kind room line (some b)
      = skipBreak b >>= fun _ => afterBreak kind room line := fun b hb => if_pos hb
  rw [readLineFrom_succ]
  cases e with
  | crlf =>
    refine (leads_readByte.bind_pure _).trans ?_
    rw [hbreak cr (.inl rfl)]
    exact leads_skipLineFeed_lf.bind_pure _
  | lf =>
    refine (leads_readByte.bind_pure _).trans ?_
    rw [hbreak lf (.inr rfl)]
    exact leads_refl _
  | cr =>
    refine (leads_readByte.bind_pure _).trans ?_
    rw [hbreak cr (.inl rfl)]
    exact (leads_skipLineFeed_of_head?_ne (h rfl).1 (h rfl).2).bind_pure _

/-! ### Behind a line break -/

/-- An empty line, and any status line, ends with its first line break. -/
theorem afterBreak_of_not (h : ¬ (kind = .header ∧ line ≠ [])) :
    afterBreak kind room line = pure line.reverse := if_neg h

theorem afterBreak_header (h : line ≠ []) : afterBreak .header room line
    = (takeFold >>= fun fold => match fold with
        | some fold => readLineFrom .header room (fold :: line)
        | none => pure line.reverse) := if_pos ⟨rfl, h⟩

theorem leads_takeFold (h : isFold b) : Leads behind takeFold (b :: u) (pure (some b)) u := by
  refine (leads_peekByte.bind_pure _).trans ?_
  dsimp only
  rw [if_pos h]
  exact leads_readByte.bind_pure _

theorem leads_takeFold_of_not (h : isFold b = false) :
    Leads behind takeFold (b :: u) (pure none) (b :: u) := by
  refine (leads_peekByte.bind_pure _).trans ?_
  dsimp only
  rw [h]
  exact leads_refl _

/-- White space behind the line break continues the line. -/
theorem leads_afterBreak_fold (hline : line ≠ []) (h : isFold b) :
    Leads behind (afterBreak .header room line) (b :: u) (readLineFrom .header room (b :: line))
      u := by
  rw [afterBreak_header hline]
  exact (leads_takeFold h).bind_pure _

/-- Any other byte behind the line break stays where it is. -/
theorem leads_afterBreak_byte (h : kind = .header → line ≠ [] → isFold b = false) :
    Leads behind (afterBreak kind room line) (b :: u) (pure line.reverse) (b :: u) := by
  by_cases hheader : kind = .header ∧ line ≠ []
  · obtain ⟨rfl, hline⟩ := hheader
    rw [afterBreak_header hline]
    exact (leads_takeFold_of_not (h rfl hline)).bind_pure _
  · rw [afterBreak_of_not hheader]
    exact leads_refl _

/-- At the end of the stream nothing continues the line. -/
theorem leads_afterBreak_nil : Leads [] (afterBreak kind room line) [] (pure line.reverse) [] := by
  by_cases hheader : kind = .header ∧ line ≠ []
  · obtain ⟨rfl, hline⟩ := hheader
    rw [afterBreak_header hline]
    have htake : Leads [] takeFold [] (pure none) [] := leads_peekByte_nil.bind_pure _
    exact htake.bind_pure _
  · rw [afterBreak_of_not hheader]
    exact leads_refl _

end WireFetch.Head
