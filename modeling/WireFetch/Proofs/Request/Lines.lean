import Mathlib.Data.List.Basic
import WireFetch.Fetch.Direct
import WireFetch.Proofs.Url.Visible

/-!
# The lines of a request

A request is a line that names the resource, a line for each header that is sent, in a fixed order,
and an empty line. Whether whoever receives it sees these lines and no others depends on the values
alone: the texts of a target, the codings and a date hold no line end, but the other values are
sent as the caller gives them. So a request has just its lines if and only if none of the values
that the caller gives holds a line end. Then the lines give back the names and values, and a value
shows in no line but its own.

## Main definitions

* `Text.lineEnd`, `Text.splitLines`, `Text.splitField` — a request as it is received
* `Request.Field`, `Field.value?`, `Field.line?` — the headers by their names
* `Request.IsOfTarget`, `Request.HasSingleLines` — what a request is made of

## Main results

* `Text.splitLines_append`, `Text.flatMap_splitLines_eq_iff` — lines that are put together
* `Time.isClean_httpDate` — a date is clean
* `Request.IsOfTarget.splitLines_render_iff` — when a request has just its lines
* `Request.lines_render` — all of this
* `Fetch.isOfTarget_requestFor` — the requests that are sent
-/

namespace WireFetch

/-! ### Lines of text -/

namespace Text

variable {s t : List Char}

/-- The end of a line of a request. -/
def lineEnd : List Char := ['\r', '\n']

/-- The pieces between the line ends; one more than there are line ends. -/
def splitLines : List Char → List (List Char)
  | [] => [[]]
  | '\r' :: '\n' :: s => [] :: splitLines s
  | c :: s =>
    match splitLines s with
    | line :: lines => (c :: line) :: lines
    | [] => [[c]]

/-- What stands before and behind the first colon with a blank behind it. -/
def splitField : List Char → Option (List Char × List Char)
  | [] => none
  | ':' :: ' ' :: s => some ([], s)
  | c :: s => (splitField s).map fun (name, value) => (c :: name, value)

theorem splitLines_ne_nil (s : List Char) : splitLines s ≠ [] := by
  fun_cases splitLines s <;> simp_all

theorem length_splitLines_pos (s : List Char) : 0 < (splitLines s).length :=
  List.length_pos_iff.2 (splitLines_ne_nil s)

/-- A character that does not open a line end belongs to the first line. -/
theorem exists_splitLines_cons {c : Char} (h : c = '\r' → s.head? ≠ some '\n') :
    ∃ line lines, splitLines s = line :: lines ∧ splitLines (c :: s) = (c :: line) :: lines := by
  obtain ⟨line, lines, hs⟩ := List.exists_cons_of_ne_nil (splitLines_ne_nil s)
  refine ⟨line, lines, hs, ?_⟩
  rw [splitLines.eq_3 c s fun s' hc hs' => h hc (by rw [hs']; rfl), hs]

/-- A line end separates what stands before it from what stands behind, even if there is a carriage
return in front of it. -/
theorem splitLines_append (s t : List Char) :
    splitLines (s ++ lineEnd ++ t) = splitLines s ++ splitLines t := by
  fun_induction splitLines s with
  | case1 => rfl
  | case2 s ih => exact congrArg ([] :: ·) ih
  | case3 c s hnot line lines hs ih =>
    have hopens : c = '\r' → (s ++ lineEnd ++ t).head? ≠ some '\n' := fun hc => by
      cases s with
      | nil => exact show some '\r' ≠ some '\n' by decide
      | cons x s => exact fun hx => hnot s hc (by rw [Option.some.inj hx])
    obtain ⟨line', lines', hboth, hcons⟩ := exists_splitLines_cons hopens
    rw [ih, hs, List.cons_append, List.cons.injEq] at hboth
    rw [List.cons_append, List.cons_append, hcons, ← hboth.1, ← hboth.2, List.cons_append]
  | case4 c s hnot hs => exact absurd hs (splitLines_ne_nil s)

theorem splitLines_of_not_infix (h : ¬ lineEnd <:+: s) : splitLines s = [s] := by
  induction s with
  | nil => rfl
  | cons c s ih =>
    rw [List.infix_cons_iff, not_or] at h
    have hopens : c = '\r' → s.head? ≠ some '\n' := fun hc hs => by
      obtain ⟨s', rfl⟩ := List.head?_eq_some_iff.1 hs
      exact h.1 ⟨s', hc ▸ rfl⟩
    obtain ⟨line, lines, hs, hcons⟩ := exists_splitLines_cons hopens
    rw [ih h.2, List.cons.injEq] at hs
    rw [hcons, ← hs.1, ← hs.2]

theorem two_le_length_splitLines (h : lineEnd <:+: s) : 2 ≤ (splitLines s).length := by
  obtain ⟨before, behind, rfl⟩ := h
  rw [splitLines_append, List.length_append]
  exact Nat.add_le_add (length_splitLines_pos before) (length_splitLines_pos behind)

/-- Lines with a line end behind each. -/
theorem splitLines_flatMap (lines : List (List Char)) :
    splitLines (lines.flatMap (· ++ lineEnd)) = lines.flatMap splitLines ++ [[]] := by
  induction lines with
  | nil => rfl
  | cons line lines ih =>
    rw [List.flatMap_cons, List.flatMap_cons, splitLines_append, ih, List.append_assoc]

theorem length_le_flatMap_splitLines (lines : List (List Char)) :
    lines.length ≤ (lines.flatMap splitLines).length := by
  induction lines with
  | nil => exact Nat.le_refl 0
  | cons line lines ih =>
    have hline := length_splitLines_pos line
    rw [List.flatMap_cons, List.length_append, List.length_cons]
    omega

/-- Lines stay as they are if and only if none holds a line end: a line end makes one more, and
lines never become fewer. -/
theorem flatMap_splitLines_eq_iff {lines : List (List Char)} :
    lines.flatMap splitLines = lines ↔ ∀ line ∈ lines, ¬ lineEnd <:+: line := by
  constructor
  · intro h line hline hend
    obtain ⟨before, behind, rfl⟩ := List.append_of_mem hline
    have htwo := two_le_length_splitLines hend
    have hbefore := length_le_flatMap_splitLines before
    have hbehind := length_le_flatMap_splitLines behind
    have hlength := congrArg List.length h
    simp only [List.flatMap_append, List.flatMap_cons, List.length_append, List.length_cons]
      at hlength
    omega
  · intro h
    induction lines with
    | nil => rfl
    | cons line lines ih =>
      rw [List.forall_mem_cons] at h
      rw [List.flatMap_cons, splitLines_of_not_infix h.1, ih h.2, List.singleton_append]

/-- Behind a text without a carriage return, line ends are where they were. -/
theorem lineEnd_infix_append (h : '\r' ∉ s) : lineEnd <:+: s ++ t ↔ lineEnd <:+: t := by
  induction s with
  | nil => rfl
  | cons c s ih =>
    rw [List.mem_cons, not_or] at h
    have hopens : ¬ lineEnd <+: c :: (s ++ t) := fun hstart =>
      h.1 (List.cons_prefix_cons.1 hstart).1
    rw [List.cons_append, List.infix_cons_iff, ih h.2]
    exact or_iff_right hopens

theorem not_lineEnd_infix (h : '\r' ∉ s) : ¬ lineEnd <:+: s :=
  fun hend => h (hend.subset (List.mem_cons_self ..))

/-- A name without a colon, and its value. -/
theorem splitField_append (h : ':' ∉ s) : splitField (s ++ ": ".toList ++ t) = some (s, t) := by
  induction s with
  | nil => rfl
  | cons c s ih =>
    rw [List.mem_cons, not_or] at h
    rw [List.cons_append, List.cons_append, splitField.eq_3 _ _ fun _ hc _ => h.1 hc.symm, ih h.2]
    rfl

theorem IsClean.not_mem_return {text : String} (h : IsClean text) : '\r' ∉ text.toList :=
  fun hmem => (h '\r' hmem).elim (by decide) (by decide)

end Text

/-! ### Dates -/

namespace Time

open Text

theorem isClean_padded (width n : Nat) : IsClean (padded width n) := by
  intro c hc
  rw [padded, String.toList_ofList] at hc
  exact .inr (Duration.isControl_of_mem_zeros_append hc)

theorem isClean_getD {names : List String} (h : ∀ name ∈ names, IsClean name) (n : Nat) :
    IsClean (names.getD n "") := by
  rw [List.getD_eq_getElem?_getD]
  cases hname : names[n]? with
  | none => exact nofun
  | some name => exact h name (List.mem_of_getElem? hname)

/-- A date has no control character. -/
theorem isClean_httpDate (t : Timestamp) : IsClean (httpDate t) := by
  have hyear : IsClean (yearText t.date.year) := by
    unfold yearText
    split
    · exact isClean_append.2 ⟨by decide, isClean_padded _ _⟩
    · split
      · exact isClean_append.2 ⟨by decide, isClean_padded _ _⟩
      · exact isClean_padded _ _
  have hweekday : IsClean (weekdayNames.getD (weekday t.dayNumber) "") :=
    isClean_getD (by decide) _
  have hmonth : IsClean (monthNames.getD (t.date.month - 1) "") := isClean_getD (by decide) _
  have hmark : IsClean ", " ∧ IsClean " " ∧ IsClean ":" ∧ IsClean " GMT" := by decide
  simp only [httpDate, isClean_append, hyear, hweekday, hmonth, hmark, isClean_padded, and_self]

end Time

/-! ### Headers -/

namespace Request

open Text

/-- The headers of a request. -/
inductive Field where
  | host
  | acceptEncoding
  | userAgent
  | acceptLanguage
  | acceptCharset
  | accept
  | cookie
  | ifModifiedSince
  deriving DecidableEq, Repr

namespace Field

/-- The name of a header. -/
def name : Field → String
  | host => "Host"
  | acceptEncoding => "Accept-Encoding"
  | userAgent => "User-Agent"
  | acceptLanguage => "Accept-Language"
  | acceptCharset => "Accept-Charset"
  | accept => "Accept"
  | cookie => "Cookie"
  | ifModifiedSince => "If-Modified-Since"

/-- The headers, in the order in which they are sent. -/
def all : List Field :=
  [host, acceptEncoding, userAgent, acceptLanguage, acceptCharset, accept, cookie, ifModifiedSince]

/-- A header whose value the caller gives as a text. -/
def isGiven : Field → Bool
  | host | acceptEncoding | ifModifiedSince => false
  | userAgent | acceptLanguage | acceptCharset | accept | cookie => true

/-- The value that a request sends, if it does; a blank user agent is not sent. -/
def value? (r : Request) : Field → Option String
  | host => some r.host
  | acceptEncoding => some acceptedCodings
  | userAgent => if r.isAnonymous then none else some r.userAgent
  | acceptLanguage => r.acceptLanguage
  | acceptCharset => r.acceptCharset
  | accept => r.accept
  | cookie => r.cookie
  | ifModifiedSince => r.ifModifiedSince.map Time.httpDate

/-- The line of a header with its value. -/
def line (f : Field) (value : String) : List Char := f.name.toList ++ ": ".toList ++ value.toList

/-- The line of a header, if it is sent. -/
def line? (r : Request) (f : Field) : Option (List Char) := (f.value? r).map f.line

theorem mem_all (f : Field) : f ∈ all := by cases f <;> decide

theorem nodup_all : all.Nodup := by decide

theorem splitField_line (f : Field) (value : String) :
    splitField (f.line value) = some (f.name.toList, value.toList) :=
  splitField_append (by cases f <;> decide)

/-- A line of a header holds a line end just if the value does. -/
theorem lineEnd_infix_line {f : Field} {value : String} :
    lineEnd <:+: f.line value ↔ lineEnd <:+: value.toList := by
  have hname : '\r' ∉ f.name.toList ++ ": ".toList := by cases f <;> decide
  exact lineEnd_infix_append hname

end Field

theorem headers_eq (r : Request) :
    r.headers = Field.all.filterMap fun f => (f.value? r).map (f.name, ·) := rfl

/-- The line that names the resource, without its end. -/
def firstLine (r : Request) : List Char :=
  "GET ".toList ++ (if r.target = "" then "/" else r.target).toList ++ " HTTP/1.0".toList

/-- The lines of a request, and the empty one behind them. -/
def lines (r : Request) : List (List Char) := r.firstLine :: Field.all.filterMap (·.line? r) ++ [[]]

theorem filterMap_line? (r : Request) : Field.all.filterMap (·.line? r)
    = r.headers.map fun header => header.1.toList ++ ": ".toList ++ header.2.toList := by
  rw [headers_eq, List.map_filterMap]
  simp only [Option.map_map]
  rfl

theorem toList_headerLine (header : String × String) : (headerLine header).toList
    = header.1.toList ++ ": ".toList ++ header.2.toList ++ lineEnd := by
  simp only [headerLine, String.toList_append]
  rfl

theorem toList_requestLine (r : Request) : r.requestLine.toList = r.firstLine ++ lineEnd := by
  have happend (a b c : String) : (a ++ b ++ c).toList = a.toList ++ b.toList ++ c.toList := by
    rw [String.toList_append, String.toList_append]
  exact (happend "GET " _ " HTTP/1.0\r\n").trans
    (List.append_assoc _ " HTTP/1.0".toList lineEnd).symm

/-- A request is sent as its lines, with a line end behind each. -/
theorem toList_render (r : Request) : r.render.toList = r.lines.flatMap (· ++ lineEnd) := by
  rw [render, String.toList_append, String.toList_append, toList_requestLine, String.toList_join,
    List.flatMap_map]
  simp only [lines, filterMap_line?, toList_headerLine, List.cons_append, List.flatMap_cons,
    List.flatMap_append, List.flatMap_map, List.append_assoc, List.flatMap_nil, List.nil_append]
  rfl

/-! ### Requests for a target -/

theorem mem_lines {r : Request} {line : List Char} : line ∈ r.lines ↔
    line = r.firstLine ∨ (∃ f value, Field.value? r f = some value ∧ f.line value = line) ∨
      line = [] := by
  simp only [lines, List.cons_append, List.mem_cons, List.mem_append, List.mem_filterMap,
    Field.mem_all, true_and, Field.line?, Option.map_eq_some_iff, List.not_mem_nil, or_false]

/-- A request whose resource and host are those of a target: of a URL that was read. -/
def IsOfTarget (r : Request) : Prop :=
  ∃ text url t, Url.parseUrl text = some url ∧ Target.ofUrl url = .ok t ∧
    (r.target = t.path ∨ r.target = t.absoluteUri) ∧ r.host = t.hostHeader

/-- None of the values that the caller gives holds a line end. -/
def HasSingleLines (r : Request) : Prop :=
  ∀ f : Field, f.isGiven → ∀ value, f.value? r = some value → ¬ lineEnd <:+: value.toList

variable {r r' : Request} {f : Field} {value : String}

theorem IsOfTarget.visible_target (h : r.IsOfTarget) : Url.Visible r.target.toList := by
  obtain ⟨text, url, t, hurl, ht, htarget, -⟩ := h
  rcases htarget with heq | heq <;> rw [heq]
  · exact Target.visible_path hurl ht
  · exact Target.visible_absoluteUri hurl ht

theorem IsOfTarget.target_ne_empty (h : r.IsOfTarget) : r.target ≠ "" := by
  obtain ⟨text, url, t, -, ht, htarget, -⟩ := h
  have hpath := Target.path_ne_empty ht
  rcases htarget with heq | heq <;> rw [heq]
  · exact hpath
  · rw [Target.absoluteUri, ne_eq, String.append_eq_empty_iff]
    exact fun h => hpath h.2

theorem IsOfTarget.visible_host (h : r.IsOfTarget) : Url.Visible r.host.toList := by
  obtain ⟨text, url, t, hurl, ht, -, hhost⟩ := h
  exact hhost ▸ Target.visible_hostHeader hurl ht

/-- What the caller does not give holds no line end. -/
theorem IsOfTarget.not_lineEnd_infix (h : r.IsOfTarget) (hgiven : f.isGiven = false)
    (hvalue : f.value? r = some value) : ¬ lineEnd <:+: value.toList := by
  refine Text.not_lineEnd_infix ?_
  cases f with
  | host =>
    cases hvalue
    exact h.visible_host.not_mem (by decide)
  | acceptEncoding =>
    cases hvalue
    decide
  | ifModifiedSince =>
    obtain ⟨time, -, rfl⟩ := Option.map_eq_some_iff.1 hvalue
    exact (Time.isClean_httpDate time).not_mem_return
  | _ => cases hgiven

theorem IsOfTarget.firstLine_eq (h : r.IsOfTarget) :
    r.firstLine = "GET ".toList ++ r.target.toList ++ " HTTP/1.0".toList := by
  unfold firstLine
  split
  · next hempty => exact absurd hempty h.target_ne_empty
  · rfl

/-- The first line names a target without blanks. -/
theorem IsOfTarget.splitAll_firstLine (h : r.IsOfTarget) :
    splitAll ' ' r.firstLine = ["GET".toList, r.target.toList, "HTTP/1.0".toList] := by
  have hfirst : r.firstLine
      = "GET".toList ++ ' ' :: (r.target.toList ++ ' ' :: "HTTP/1.0".toList) := by
    rw [h.firstLine_eq, List.append_assoc]
    rfl
  rw [hfirst, splitAll_append, splitAll_append, splitAll_of_not_mem (by decide),
    splitAll_of_not_mem (h.visible_target.not_mem (by decide)), splitAll_of_not_mem (by decide)]
  rfl

theorem IsOfTarget.not_lineEnd_infix_firstLine (h : r.IsOfTarget) :
    ¬ lineEnd <:+: r.firstLine := by
  refine Text.not_lineEnd_infix ?_
  rw [h.firstLine_eq]
  simp only [List.mem_append, not_or]
  exact ⟨⟨by decide, h.visible_target.not_mem (by decide)⟩, by decide⟩

/-- A request has just its lines if and only if no value that the caller gives holds a line end. -/
theorem IsOfTarget.splitLines_render_iff (h : r.IsOfTarget) :
    splitLines r.render.toList = r.lines ++ [[]] ↔ r.HasSingleLines := by
  rw [toList_render, splitLines_flatMap, List.append_left_inj, flatMap_splitLines_eq_iff]
  constructor
  · intro hlines f _ value hvalue hend
    refine hlines (f.line value) ?_ (Field.lineEnd_infix_line.2 hend)
    exact mem_lines.2 (.inr (.inl ⟨f, value, hvalue, rfl⟩))
  · intro hsingle line hline
    rcases mem_lines.1 hline with rfl | ⟨f, value, hvalue, rfl⟩ | rfl
    · exact h.not_lineEnd_infix_firstLine
    · rw [Field.lineEnd_infix_line]
      cases hgiven : f.isGiven with
      | true => exact hsingle f hgiven value hvalue
      | false => exact h.not_lineEnd_infix hgiven hvalue
    · decide

/-- The lines of the headers before and behind one of them do not depend on its value. -/
theorem exists_lines_eq (f : Field) (hothers : ∀ g ≠ f, g.value? r = g.value? r') :
    ∃ before behind,
      r.lines = r.firstLine :: before ++ (f.line? r).toList ++ behind ∧
        r'.lines = r'.firstLine :: before ++ (f.line? r').toList ++ behind := by
  obtain ⟨before, behind, hall⟩ := List.append_of_mem f.mem_all
  obtain ⟨-, hnodup, hapart⟩ := List.nodup_append.1 (hall ▸ Field.nodup_all)
  have hbefore : f ∉ before := fun hf => hapart f hf f (List.mem_cons_self ..) rfl
  have hbehind : f ∉ behind := (List.nodup_cons.1 hnodup).1
  have hsame : ∀ fields : List Field, f ∉ fields →
      fields.filterMap (·.line? r) = fields.filterMap (·.line? r') := fun fields hf =>
    List.filterMap_congr fun g hg => by
      rw [Field.line?, Field.line?, hothers g fun heq => hf (heq ▸ hg)]
  have hsplit : ∀ r : Request, Field.all.filterMap (·.line? r) = before.filterMap (·.line? r) ++
      ((f.line? r).toList ++ behind.filterMap (·.line? r)) := fun r => by
    rw [hall, List.filterMap_append, List.filterMap_cons]
    cases f.line? r <;> rfl
  refine ⟨before.filterMap (·.line? r), behind.filterMap (·.line? r) ++ [[]], ?_, ?_⟩
  · rw [lines, hsplit]
    simp only [List.cons_append, List.append_assoc]
  · rw [lines, hsplit, hsame before hbefore, hsame behind hbehind]
    simp only [List.cons_append, List.append_assoc]

/-- **A request has just its lines.** Its first line names the resource, without a blank; every
value that is sent can be read off its line. What is received are these lines in their order, with
an empty one behind them, if and only if no value that the caller gives holds a line end; and then a
value shows in no line but its own. -/
theorem lines_render (h : r.IsOfTarget) :
    splitAll ' ' r.firstLine = ["GET".toList, r.target.toList, "HTTP/1.0".toList] ∧
      (∀ (f : Field) line, f.line? r = some line → ∃ value, f.value? r = some value ∧
        splitField line = some (f.name.toList, value.toList)) ∧
      (splitLines r.render.toList
          = r.firstLine :: Field.all.filterMap (·.line? r) ++ [[], []] ↔ r.HasSingleLines) ∧
      ∀ r' : Request, r'.IsOfTarget → r.HasSingleLines → r'.HasSingleLines → ∀ f : Field,
        (∀ g ≠ f, g.value? r = g.value? r') → ∃ before behind,
          splitLines r.render.toList = r.firstLine :: before ++ (f.line? r).toList ++ behind ∧
            splitLines r'.render.toList
              = r'.firstLine :: before ++ (f.line? r').toList ++ behind := by
  refine ⟨h.splitAll_firstLine, fun f line hline => ?_, ?_, ?_⟩
  · obtain ⟨value, hvalue, rfl⟩ := Option.map_eq_some_iff.1 hline
    exact ⟨value, hvalue, f.splitField_line value⟩
  · rw [← h.splitLines_render_iff, lines, List.append_assoc]
    rfl
  · intro r' h' hsingle hsingle' f hothers
    obtain ⟨before, behind, hlines, hlines'⟩ := exists_lines_eq f hothers
    refine ⟨before, behind ++ [[]], ?_, ?_⟩
    · rw [h.splitLines_render_iff.2 hsingle, hlines, List.append_assoc _ behind]
    · rw [h'.splitLines_render_iff.2 hsingle', hlines', List.append_assoc _ behind]

/-- A request for a document on this host, with a cookie. -/
def withCookie (cookie : String) : Request where
  target := "/a.pdf"
  host := "[::1]"
  userAgent := "rawfetch-test"
  cookie := some cookie

theorem isOfTarget_withCookie (cookie : String) : (withCookie cookie).IsOfTarget :=
  ⟨"http://[::1]/a.pdf",
    ⟨"http", some { host := .ipv6 [0, 0, 0, 0, 0, 0, 0, 1] }, "/a.pdf", none, none⟩,
    ⟨.http, "[::1]", "::1", 80, false, "/a.pdf"⟩, by rfl, rfl, .inl rfl, rfl⟩

/-- A cookie with a colon and a blank in it. -/
theorem lines_render_cookie :
    (withCookie "a: 1").IsOfTarget ∧ (withCookie "a: 1").HasSingleLines ∧
      splitLines (withCookie "a: 1").render.toList
        = ["GET /a.pdf HTTP/1.0", "Host: [::1]", "Accept-Encoding: x-gzip, gzip, deflate",
          "User-Agent: rawfetch-test", "Cookie: a: 1", "", ""].map String.toList ∧
      splitField "Cookie: a: 1".toList = some ("Cookie".toList, "a: 1".toList) := by
  have hsingle : (withCookie "a: 1").HasSingleLines := by
    have hall : ∀ f ∈ Field.all,
        (f.value? (withCookie "a: 1")).all fun value => !value.toList.contains '\r' := by decide
    intro f _ value hvalue
    have hreturn := hall f f.mem_all
    rw [hvalue] at hreturn
    exact not_lineEnd_infix (by simpa using hreturn)
  have hcopy : (withCookie "a: 1").firstLine ::
        Field.all.filterMap (·.line? (withCookie "a: 1")) ++ [[], []]
      = ["GET /a.pdf HTTP/1.0", "Host: [::1]", "Accept-Encoding: x-gzip, gzip, deflate",
        "User-Agent: rawfetch-test", "Cookie: a: 1", "", ""].map String.toList := by decide
  obtain ⟨-, hfields, hlines, -⟩ := lines_render (isOfTarget_withCookie "a: 1")
  refine ⟨isOfTarget_withCookie _, hsingle, (hlines.2 hsingle).trans hcopy, ?_⟩
  obtain ⟨value, hvalue, hfield⟩ := hfields .cookie "Cookie: a: 1".toList (by decide)
  cases hvalue
  exact hfield

/-- A cookie with a line end in it makes a line of its own. -/
theorem lines_render_lineEnd :
    let r := withCookie "a=1\r\nX-Injected: 1"
    r.IsOfTarget ∧
      splitLines r.render.toList
        = ["GET /a.pdf HTTP/1.0", "Host: [::1]", "Accept-Encoding: x-gzip, gzip, deflate",
          "User-Agent: rawfetch-test", "Cookie: a=1", "X-Injected: 1", "", ""].map String.toList ∧
      splitLines r.render.toList
        ≠ r.firstLine :: Field.all.filterMap (·.line? r) ++ [[], []] := by
  have hlines : (withCookie "a=1\r\nX-Injected: 1").lines
      = ["GET /a.pdf HTTP/1.0", "Host: [::1]", "Accept-Encoding: x-gzip, gzip, deflate",
        "User-Agent: rawfetch-test", "Cookie: a=1\r\nX-Injected: 1", ""].map String.toList := by
    decide
  refine ⟨isOfTarget_withCookie _, ?_, ?_⟩ <;> rw [toList_render, splitLines_flatMap, hlines]
  · decide
  · decide

end Request

/-- What a fetch sends is a request for the target of its URL. -/
theorem Fetch.isOfTarget_requestFor {text : String} {url : Url} {target : Target}
    (hurl : Url.parseUrl text = some url) (h : Target.ofUrl url = .ok target) (config : Config)
    (request : FetchRequest) : (requestFor config request target).IsOfTarget := by
  refine ⟨text, url, target, hurl, h, ?_, rfl⟩
  unfold requestFor
  dsimp only
  split
  · exact .inr rfl
  · exact .inl rfl

end WireFetch
