import WireFetch.Certificate.Der
import WireFetch.Text.Ascii
import WireFetch.Text.Utf8

/-!
# Names in certificates

A name is a list of groups of attributes, the most general group first. It is shown on one line:
groups are separated by a comma, the attributes of a group by a plus sign, and an attribute is its
kind and its value with an equals sign between them. Nothing is escaped. A value that is no string
is shown in hexadecimal; a string that is not well formed makes the whole name unprintable.

## Main definitions

* `Attribute`, `Name`, `Name.ofContent`
* `Attribute.kindText`, `valueText?` — how an attribute is shown
* `Name.text` — how a name is shown
-/

namespace WireFetch.Certificate

open Text Der

/-- A kind, as an object identifier, with a value. -/
structure Attribute where
  kind : List UInt8
  value : Element
  deriving DecidableEq, Repr

/-- The groups of a name. -/
abbrev Name : Type := List (List Attribute)

/-- What `f` makes of the items at the front, up to the first of which it makes nothing. -/
def leading {α β : Type} (f : α → Option β) : List α → List β
  | [] => []
  | a :: items =>
    match f a with
    | some b => b :: leading f items
    | none => []

/-- The attribute that an element holds. -/
def attribute? (e : Element) : Option Attribute := do
  let content ← e.contentOf? sequenceTag
  let (kind, rest) ← take? identifierTag content
  let (value, _) ← Element.read? rest
  return ⟨kind, value⟩

/-- The group that an element holds; it is not empty. -/
def group? (e : Element) : Option (List Attribute) := do
  let content ← e.contentOf? setTag
  let attributes := leading attribute? (elements content).1
  if attributes = [] then none else return attributes

namespace Name

/-- The name with this content; it ends with the first element that is no group. -/
def ofContent (content : List UInt8) : Name := leading group? (elements content).1

end Name

/-! ### Kinds of attributes -/

/-- The short name of a kind. -/
def shortName? (kind : List Nat) : Option String :=
  match kind with
  | [2, 5, 4, 3] => some "CN"
  | [2, 5, 4, 4] => some "surname"
  | [2, 5, 4, 5] => some "serialNumber"
  | [2, 5, 4, 6] => some "C"
  | [2, 5, 4, 7] => some "L"
  | [2, 5, 4, 8] => some "ST"
  | [2, 5, 4, 9] => some "street"
  | [2, 5, 4, 10] => some "O"
  | [2, 5, 4, 11] => some "OU"
  | [2, 5, 4, 12] => some "title"
  | [2, 5, 4, 13] => some "description"
  | [2, 5, 4, 15] => some "businessCategory"
  | [2, 5, 4, 16] => some "postalAddress"
  | [2, 5, 4, 17] => some "postalCode"
  | [2, 5, 4, 41] => some "name"
  | [2, 5, 4, 42] => some "givenName"
  | [2, 5, 4, 43] => some "initials"
  | [2, 5, 4, 44] => some "generationQualifier"
  | [2, 5, 4, 45] => some "uniqueIdentifier"
  | [2, 5, 4, 46] => some "dnQualifier"
  | [0, 9, 2342, 19200300, 100, 1, 1] => some "userId"
  | [0, 9, 2342, 19200300, 100, 1, 25] => some "DC"
  | [1, 2, 840, 113549, 1, 9, 1] => some "Email"
  | _ => none

namespace Attribute

/-- How the kind of an attribute is shown. -/
def kindText (a : Attribute) : String :=
  let kind := arcs a.kind
  (shortName? kind).getD ("OID(" ++ join "." (kind.map toString) ++ ")")

end Attribute

/-! ### Values of attributes -/

/-- The tag numbers of the strings that are UTF-8 or a part of it. -/
def textTags : List Nat := [7, 12, 18, 19, 20, 21, 22, 25, 26, 27]

/-- The tag number of strings of two bytes for a character. -/
def wideTag : Nat := 30

/-- The units of two bytes; a single byte at the end is a unit of its own. -/
def units : List UInt8 → List Nat
  | [] => []
  | [a] => [a.toNat]
  | a :: b :: bytes => (256 * a.toNat + b.toNat) :: units bytes

/-- A unit that begins a pair. -/
def isHigh (u : Nat) : Bool := 0xd800 ≤ u && u < 0xdc00

/-- A unit that ends a pair. -/
def isLow (u : Nat) : Bool := 0xdc00 ≤ u && u < 0xe000

/-- The characters of units of sixteen bits; a pair of units makes one character. -/
def wideChars? : List Nat → Option (List Char)
  | [] => some []
  | [u] => if isHigh u || isLow u then none else some [Char.ofNat u]
  | u :: v :: rest =>
    if isHigh u then
      if isLow v then
        (wideChars? rest).map (Char.ofNat (0x10000 + 0x400 * (u - 0xd800) + (v - 0xdc00)) :: ·)
      else none
    else if isLow u then none
    else (wideChars? (v :: rest)).map (Char.ofNat u :: ·)

/-- Bytes in hexadecimal, in capitals. -/
def upperHex (bytes : List UInt8) : String :=
  String.ofList <| bytes.flatMap fun b =>
    [(b.toNat / 16).digitChar.toUpper, (b.toNat % 16).digitChar.toUpper]

/-- How a value is shown, if it can be. -/
def valueText? (value : Element) : Option String :=
  if textTags.contains value.tag then decodeUtf8? value.content
  else if value.tag = wideTag then (wideChars? (units value.content)).map String.ofList
  else some (upperHex value.content)

namespace Attribute

/-- How an attribute is shown, if it can be. -/
def text? (a : Attribute) : Option String :=
  (valueText? a.value).map fun value => a.kindText ++ "=" ++ value

end Attribute

namespace Name

/-- What is shown of a name that cannot be. -/
def unprintable : String := "<X509Error: Invalid X.509 name>"

/-- How a group is shown, if it can be. -/
def groupText? (group : List Attribute) : Option String :=
  (group.mapM Attribute.text?).map (join " + ")

/-- How a name is shown. -/
def text (name : Name) : String :=
  ((name.mapM groupText?).map (join ", ")).getD unprintable

end Name

end WireFetch.Certificate
