import WireFetch.Certificate.Name

/-!
# Certificates

A peer says who it is with a certificate. Of it only the names are kept: whom it is for, who
vouches for that, and the host names it is good for. The rest is checked for its form, so that bytes
that are no certificate are not taken for one; nothing here says whether a certificate is to be
trusted.

## Main definitions

* `Certificate`, `Certificate.parse?`
-/

namespace WireFetch

/-- The names in a certificate. -/
structure Certificate where
  subject : String
  issuer : String
  dnsNames : List String
  deriving DecidableEq, Repr

namespace Certificate

open Text Der

/-! ### Dates -/

/-- Universal tag number of dates whose years have two digits. -/
def shortDateTag : Nat := 23

/-- Universal tag number of dates whose years have four digits. -/
def longDateTag : Nat := 24

/-- Pairs of decimal digits: the first `n` of them as numbers, and what follows. -/
def pairs? (n : Nat) (s : List Char) : Option (List Nat × List Char) :=
  match n, s with
  | 0, s => some ([], s)
  | n + 1, a :: b :: s =>
    if a.isDigit && b.isDigit then
      (pairs? n s).map fun (more, rest) =>
        ((10 * (a.toNat - '0'.toNat) + (b.toNat - '0'.toNat)) :: more, rest)
    else none
  | _ + 1, _ => none

/-- The number of days of a month. -/
def daysOf (year month : Nat) : Nat :=
  match month with
  | 2 => if year % 4 = 0 && (year % 100 ≠ 0 || year % 400 = 0) then 29 else 28
  | 4 | 6 | 9 | 11 => 30
  | _ => 31

/-- Whether the parts make a point in time. -/
def isMoment (year month day hour minute second : Nat) : Bool :=
  1 ≤ month && month ≤ 12 && 1 ≤ day && day ≤ daysOf year month && hour ≤ 23 && minute ≤ 59 &&
    second ≤ 59

/-- An offset from universal time, or `Z`. -/
def isZone : List Char → Bool
  | ['Z'] => true
  | sign :: offset =>
    (sign = '+' || sign = '-') &&
      match pairs? 2 offset with
      | some ([hours, minutes], []) => hours ≤ 25 && minutes ≤ 59
      | _ => false
  | [] => false

/-- Seconds, which may be missing, and what follows them. -/
def seconds? (s : List Char) : Option (Nat × List Char) :=
  match s with
  | _ :: _ :: _ => (pairs? 1 s).map fun (pair, rest) => (pair.headD 0, rest)
  | _ => some (0, s)

/-- A date with two digits for the year. -/
def isShortDate (s : List Char) : Bool :=
  match pairs? 5 s with
  | some ([year, month, day, hour, minute], rest) =>
    match seconds? rest with
    | some (second, zone) => isMoment (2000 + year) month day hour minute second && isZone zone
    | none => false
  | _ => false

/-- What follows the seconds of a date with four digits for the year: one to three digits of a
fraction, if any, and `Z`. -/
def isFractionAndZone : List Char → Bool
  | ['Z'] => true
  | '.' :: s =>
    let digits := s.takeWhile Char.isDigit
    1 ≤ digits.length && digits.length ≤ 3 && s.dropWhile Char.isDigit = ['Z']
  | _ => false

/-- A date with four digits for the year. -/
def isLongDate (s : List Char) : Bool :=
  match pairs? 6 s with
  | some ([century, year, month, day, hour, minute], rest) =>
    match seconds? rest with
    | some (second, rest) =>
      isMoment (100 * century + year) month day hour minute second && isFractionAndZone rest
    | none => false
  | _ => false

/-- Whether an element is a date. -/
def isDate (e : Element) : Bool :=
  let text := e.content.map latin1
  e.tagClass = .universal &&
    (e.tag = shortDateTag && isShortDate text || e.tag = longDateTag && isLongDate text)

/-! ### Parts of a certificate

Each of these takes a part from the front and gives back what follows. -/

/-- An element that comes before others if it is there. -/
def skipOptional (n : Nat) (isValid : List UInt8 → Bool) (bytes : List UInt8) :
    Option (List UInt8) :=
  match Element.read? bytes with
  | some (e, rest) =>
    if e.isOptional n then if isValid e.content then some rest else none else some bytes
  | none => if bytes = [] then some [] else none

/-- A version is a number below 2^32. -/
def isVersion (content : List UInt8) : Bool :=
  match take? integerTag content with
  | some (n, _) => isInteger n && n.headD 0 < 128 && bigEndian n < Nat.pow 2 32
  | none => false

/-- The name of a method: an object identifier, with anything behind it. -/
def skipMethod (bytes : List UInt8) : Option (List UInt8) := do
  let (content, rest) ← sequence? bytes
  let _ ← take? identifierTag content
  return rest

/-- A string of bits. -/
def skipBits (bytes : List UInt8) : Option (List UInt8) := do
  let (content, rest) ← take? bitStringTag bytes
  if isBitString content then return rest else none

/-- The two dates between which a certificate is good. -/
def skipValidity (bytes : List UInt8) : Option (List UInt8) := do
  let (content, rest) ← sequence? bytes
  let (first, more) ← Element.read? content
  let (last, _) ← Element.read? more
  if isDate first && isDate last then return rest else none

/-- A key: its method, and its bits. -/
def skipKey (bytes : List UInt8) : Option (List UInt8) := do
  let (content, rest) ← sequence? bytes
  let _ ← skipBits (← skipMethod content)
  return rest

/-! ### Extensions -/

/-- The kind of an extension, and its content. -/
structure Extension where
  kind : List UInt8
  content : List UInt8
  deriving DecidableEq, Repr

/-- Universal tag number of truth values. -/
def booleanTag : Nat := 1

/-- A truth value in front may be left out. -/
def skipFlag (bytes : List UInt8) : List UInt8 :=
  match take? booleanTag bytes with
  | some ([_], rest) => rest
  | _ => bytes

/-- The extension that an element holds. -/
def extension? (e : Element) : Option Extension := do
  let content ← e.contentOf? sequenceTag
  let (kind, rest) ← take? identifierTag content
  let (content, _) ← take? octetStringTag (skipFlag rest)
  return ⟨kind, content⟩

/-- What `f` makes of all elements in `bytes`, if there is nothing else. -/
def allOf? {α : Type} (f : Element → Option α) (bytes : List UInt8) : Option (List α) :=
  match elements bytes with
  | (items, []) => items.mapM f
  | _ => none

/-- The extensions; nothing follows them. -/
def extensions? (bytes : List UInt8) : Option (List Extension) := do
  if bytes = [] then return []
  let ((_, n), rest) ← tag? bytes
  let (_, rest) ← length? rest
  if n ≠ 3 then none
  let (content, rest) ← sequence? rest
  if rest = [] then allOf? extension? content else none

/-- The kind of the extension with further names of the subject. -/
def otherNamesKind : List Nat := [2, 5, 29, 17]

/-- One of the further names: a host name, or a name of another kind. -/
def otherName? (e : Element) : Option (Option String) :=
  if e.tagClass ≠ .context then none
  else
    match e.tag with
    | 0 => (take? identifierTag e.content).map fun _ => none
    | 2 => some (decodeUtf8? e.content)
    | 4 =>
      match sequence? e.content with
      | some (_, []) => some none
      | _ => none
    | 1 | 3 | 5 | 6 | 7 | 8 => some none
    | _ => none

/-- The host names in an extension; none if it is not well formed. -/
def dnsNamesOf (e : Extension) : List String :=
  if arcs e.kind ≠ otherNamesKind then []
  else
    match sequence? e.content with
    | some (content, _) => ((allOf? otherName? content).getD []).filterMap id
    | none => []

/-! ### The whole -/

/-- The names in the part of a certificate that is signed. -/
def parseSigned? (bytes : List UInt8) : Option Certificate := do
  let bytes ← skipOptional 0 isVersion bytes
  let (_, bytes) ← take? integerTag bytes
  let bytes ← skipMethod bytes
  let (issuer, bytes) ← sequence? bytes
  let bytes ← skipValidity bytes
  let (subject, bytes) ← sequence? bytes
  let bytes ← skipKey bytes
  let bytes ← skipOptional 1 isBitString bytes
  let bytes ← skipOptional 2 isBitString bytes
  let extensions ← extensions? bytes
  return {
    subject := (Name.ofContent subject).text
    issuer := (Name.ofContent issuer).text
    dnsNames := extensions.flatMap dnsNamesOf }

/-- The names in a certificate: a signed part, the method of the signature, and the signature. What
follows the certificate is ignored. -/
def parse? (bytes : List UInt8) : Option Certificate := do
  let (content, _) ← sequence? bytes
  let (signed, rest) ← sequence? content
  let certificate ← parseSigned? signed
  let _ ← skipBits (← skipMethod rest)
  return certificate

end Certificate

end WireFetch
