import WireFetch.Proofs.Head.Consumed
import WireFetch.Proofs.Head.Line
import WireFetch.Proofs.Reading.Decided

/-!
# Heads that are complete

To read a line is to look ahead: behind CR for LF, and behind the line break for white space. So a
line alone does not say that it is complete. A blank line does. Bytes that end with a blank line
decide on the head they begin with (`decided_readHead`): not even one byte behind them is looked
at.

What carries the proof is a remark about the end of such bytes. A line that is not empty never ends
with their last line break, for this one belongs to the blank line; so behind the line break of
such a line there is always another byte of them to look at. In the induction on the bytes this is
the condition that in the middle of a line the bytes left are not just a blank line.

## Main definitions

* `Head.EndsBlank` — bytes that end with a blank line

## Main results

* `Head.decided_readLine`, `Head.decided_readHeaderLine`, `decided_readHead`
-/

namespace WireFetch

open Reading Text

namespace Head

variable {kind : LineKind} {b : UInt8} {line u v : List UInt8}

/-- A line break and a blank line behind it, which ends with LF or with CR LF. -/
def blankEnds : List (List UInt8) := [[lf, lf], [lf, cr, lf], [cr, cr, lf]]

/-- The bytes end with a blank line. -/
def EndsBlank (u : List UInt8) : Prop := ∃ z ∈ blankEnds, z <:+ u

/-! ### Bytes that end with a blank line -/

theorem EndsBlank.eq_lf (hu : EndsBlank u) (h : [b] <:+ u) : b = lf := by
  obtain ⟨z, hz, hsuffix⟩ := hu
  have hlength : ∀ z ∈ blankEnds, 1 ≤ z.length := by decide
  have hlast : ∀ z ∈ blankEnds, z.getLast? = some lf := by decide
  obtain ⟨p, rfl⟩ := List.suffix_of_suffix_length_le h hsuffix (hlength z hz)
  simpa using hlast _ hz

/-- Before the blank line stands a line break. -/
theorem EndsBlank.ne_blank (hu : EndsBlank u) (h : b :: v <:+ u) (hcr : b ≠ cr) (hlf : b ≠ lf) :
    v ≠ [lf] ∧ v ≠ [cr, lf] := by
  obtain ⟨z, hz, hsuffix⟩ := hu
  simp only [blankEnds, List.mem_cons, List.not_mem_nil, or_false] at hz
  constructor
  · rintro rfl
    rcases hz with rfl | rfl | rfl
    all_goals
      have h' := List.suffix_of_suffix_length_le h hsuffix (by simp)
      simp [List.suffix_cons_iff, hcr, hlf] at h'
  · rintro rfl
    rcases hz with rfl | rfl | rfl
    · have h' := List.suffix_of_suffix_length_le hsuffix h (by simp)
      revert h'
      simp [List.suffix_cons_iff, cr, lf]
    all_goals
      have h' := List.suffix_of_suffix_length_le h hsuffix (by simp)
      simp [List.suffix_cons_iff, hcr, hlf] at h'

/-! ### Lines -/

/-- Behind a line break that is not the last one of a line with something in it, it is seen whether
the line goes on. -/
theorem decided_afterBreak {room : Nat} (hu : EndsBlank u) (hv : v <:+ u)
    (hline : line ≠ [] → v ≠ [])
    (ih : ∀ b x, x <:+ u → x ≠ [lf] ∧ x ≠ [cr, lf] →
      Decided u (readLineFrom kind room (b :: line)) x) :
    Decided u (afterBreak kind room line) v := by
  by_cases hheader : kind = .header ∧ line ≠ []
  · obtain ⟨rfl, hne⟩ := hheader
    cases v with
    | nil => exact absurd rfl (hline hne)
    | cons b v =>
      cases hfold : isFold b with
      | true =>
        have hcr : b ≠ cr := by
          rintro rfl
          exact absurd hfold (by decide)
        have hlf : b ≠ lf := by
          rintro rfl
          exact absurd hfold (by decide)
        refine .of_leads (fun w behind => leads_afterBreak_fold hne hfold) ?_
        exact ih b v ((List.suffix_cons b v).trans hv) (hu.ne_blank hv hcr hlf)
      | false =>
        refine .result line.reverse _ hv fun w behind => ?_
        exact leads_afterBreak_byte fun _ _ => hfold
  · rw [afterBreak_of_not hheader]
    exact decided_pure _ hv

/-- A line is read without a look behind the bytes, or they end within it. In the middle of a line
more than a blank line is left. -/
theorem decided_readLineFrom (hu : EndsBlank u) (room : Nat) (hv : v <:+ u)
    (hline : line ≠ [] → v ≠ [lf] ∧ v ≠ [cr, lf]) :
    Decided u (readLineFrom kind room line) v := by
  induction room generalizing line v with
  | zero => exact decided_fail _ hv
  | succ room ih =>
    have hbreak : ∀ {x}, x <:+ u → (line ≠ [] → x ≠ []) →
        Decided u (afterBreak kind room line) x := fun hx hne =>
      decided_afterBreak hu hx hne fun _ _ hy hblank => ih hy fun _ => hblank
    cases v with
    | nil => exact .ended leads_readLineFrom_nil
    | cons b v =>
      have hv' : v <:+ u := (List.suffix_cons b v).trans hv
      by_cases hlf : b = lf
      · subst hlf
        refine .of_leads (fun w behind => leads_readLineFrom_break LineEnd.fits_lf)
          (hbreak hv' ?_)
        exact fun hne hnil => (hline hne).1 (by rw [hnil])
      by_cases hcr : b = cr
      · subst hcr
        cases v with
        | nil => exact absurd (hu.eq_lf hv) (by decide)
        | cons c v =>
          by_cases hc : c = lf
          · subst hc
            refine .of_leads (fun w behind => leads_readLineFrom_break LineEnd.fits_crlf)
              (hbreak ((List.suffix_cons lf v).trans hv') ?_)
            exact fun hne hnil => (hline hne).2 (by rw [hnil])
          · have hfits : ∀ w behind, LineEnd.cr.Fits (c :: v ++ w) behind := by
              simpa using hc
            exact .of_leads (fun w behind => leads_readLineFrom_break (hfits w behind))
              (hbreak hv' fun _ => nofun)
      by_cases hmarker : kind = .header ∧ endsWithMarker (b :: line)
      · obtain ⟨rfl, hmarker⟩ := hmarker
        refine .result (b :: line).reverse v hv' fun w behind => ?_
        exact leads_readLineFrom_marker hcr hlf hmarker
      · have hrest : Decided u (readLineFrom kind room (b :: line)) v :=
          ih hv' fun _ => hu.ne_blank hv hcr hlf
        refine .of_leads (fun w behind => ?_) hrest
        exact leads_readLineFrom_byte hcr hlf fun hkind hends => hmarker ⟨hkind, hends⟩

theorem decided_readLine (hu : EndsBlank u) (hv : v <:+ u) : Decided u (readLine kind) v :=
  decided_readLineFrom hu _ hv fun h => absurd rfl h

/-! ### Header blocks -/

theorem decided_accept {α : Type} (parsed : Except FetchError α) (hv : v <:+ u) :
    Decided u (accept parsed) v := by
  cases parsed with
  | ok a => exact decided_pure a hv
  | error e => exact decided_fail e hv

theorem decided_withFragment (fragment : String) (headers : Headers) (hv : v <:+ u) :
    Decided u (withFragment fragment headers) v := by
  unfold withFragment
  split
  · exact decided_pure _ hv
  · exact decided_pure _ hv
  · exact (decided_note _ _ _ hv).bind fun _ _ hx _ => decided_pure _ hx

/-- Markup that is handed back was among the bytes before. -/
theorem markup_append_suffix {before markup x : List UInt8}
    (h : Leads [] (readLine .header) v (pure line) x)
    (hsplit : splitAtMarker line = some (before, markup)) : markup ++ x <:+ v := by
  obtain ⟨s', hline, hs'⟩ := h.alone
  obtain ⟨taken, hcontent, htaken⟩ := taken_of_readLine hline
  obtain ⟨front, rfl⟩ := markup_suffix_taken htaken hsplit
  rw [(Reader.offers_bytes v).content_eq, hs'] at hcontent
  exact ⟨front, by rw [hcontent, List.append_assoc]⟩

theorem decided_readHeaderLine (hu : EndsBlank u) (hv : v <:+ u) :
    Decided u readHeaderLine v := by
  refine (decided_readLine hu hv).bind fun line x hx hline => ?_
  split
  · exact decided_pure _ hx
  · cases hsplit : splitAtMarker line with
    | some parts =>
      obtain ⟨before, markup⟩ := parts
      dsimp only
      have hback : markup ++ x <:+ u := (markup_append_suffix (leads_nil hline) hsplit).trans hv
      refine .of_leads (fun w behind => ?_) (decided_pure (.fragment (decodeLine before)) hback)
      rw [List.append_assoc]
      exact (leads_unread markup).bind_pure _
    | none =>
      refine (decided_accept _ hx).bind fun entry y hy _ => ?_
      cases entry with
      | none => exact decided_pure _ hy
      | some entry => exact decided_pure _ hy

theorem decided_afterHeaderLine {next : Headers → List String → Reading HeaderBlock}
    (hnext : ∀ headers lines, Decided u (next headers lines) v) (headers : Headers)
    (lines : List String) (hv : v <:+ u) (line : HeaderLine) :
    Decided u (afterHeaderLine next headers lines line) v := by
  cases line with
  | empty => exact decided_pure _ hv
  | blank text => exact decided_pure _ hv
  | fragment text =>
    exact (decided_withFragment _ _ hv).bind fun _ _ hx _ => decided_pure _ hx
  | header text key value => exact hnext _ _

theorem decided_readHeadersFrom (hu : EndsBlank u) (room : Nat) (headers : Headers)
    (lines : List String) (hv : v <:+ u) : Decided u (readHeadersFrom room headers lines) v := by
  induction room generalizing headers lines v with
  | zero =>
    rw [readHeadersFrom_zero]
    exact (decided_readHeaderLine hu hv).bind fun line x hx _ =>
      decided_afterHeaderLine (fun _ _ => decided_fail _ hx) _ _ hx line
  | succ room ih =>
    rw [readHeadersFrom_succ]
    exact (decided_readHeaderLine hu hv).bind fun line x hx _ =>
      decided_afterHeaderLine (fun _ _ => ih _ _ hx) _ _ hx line

/-! ### Heads -/

theorem decided_readOne (hu : EndsBlank u) (hv : v <:+ u) : Decided u readOne v :=
  (decided_readLine hu hv).bind fun _ _ hx _ =>
    (decided_accept _ hx).bind fun _ _ hx _ => (decided_note _ _ _ hx).bind fun _ _ hx _ =>
      (decided_readHeadersFrom hu _ _ _ hx).bind fun _ _ hx _ => decided_pure _ hx

theorem decided_afterHead {next : Reading Head} (hv : v <:+ u) (hnext : Decided u next v)
    (head : Head × Bool) : Decided u (afterHead next head) v := by
  obtain ⟨head, bodyStarted⟩ := head
  rw [afterHead]
  split
  · split
    · exact (decided_note _ _ _ hv).bind fun _ _ hx _ => decided_pure _ hx
    · exact decided_pure _ hv
  · exact hnext

theorem decided_readHeadFrom (hu : EndsBlank u) (room : Nat) (hv : v <:+ u) :
    Decided u (readHeadFrom room) v := by
  induction room generalizing v with
  | zero =>
    rw [readHeadFrom_zero]
    exact (decided_readOne hu hv).bind fun head x hx _ =>
      decided_afterHead hx (decided_fail _ hx) head
  | succ room ih =>
    rw [readHeadFrom_succ]
    exact (decided_readOne hu hv).bind fun head x hx _ =>
      decided_afterHead hx ((decided_note _ _ _ hx).bind fun _ _ hy _ => ih hy) head

end Head

/-- Bytes that end with a blank line decide on the head, unless they end within it. -/
theorem decided_readHead {u : List UInt8} (hu : Head.EndsBlank u) : Decided u readHead u :=
  Head.decided_readHeadFrom hu _ (List.suffix_refl u)

end WireFetch
