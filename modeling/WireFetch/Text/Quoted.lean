import WireFetch.Text.Ascii
import WireFetch.Text.Printable

/-!
# Quoted text

A list of names in a message is written with each name in double quotes, so that its ends and its
invisible characters show. Backslash and double quote have a backslash in front; tab, carriage
return, line feed and the null character have a letter of their own; any other character that
cannot be shown, or that extends the one before it, is written as its number.

## Main definitions

* `quote` — one text in quotes
* `quoteList` — a list of quoted texts
-/

namespace WireFetch.Text

/-- A number in small hexadecimal digits, without leading zeros. -/
def hexText (n : Nat) : String := String.ofList (Nat.toDigits 16 n)

/-- One character inside quotes. -/
def quoteChar (c : Char) : String :=
  match c with
  | '\x00' => "\\0"
  | '\t' => "\\t"
  | '\r' => "\\r"
  | '\n' => "\\n"
  | '"' => "\\\""
  | '\\' => "\\\\"
  | _ =>
    if isExtending c || !isPrintable c then "\\u\x7b" ++ hexText c.toNat ++ "\x7d"
    else c.toString

/-- A text in quotes. -/
def quote (s : String) : String := "\"" ++ String.join (s.toList.map quoteChar) ++ "\""

/-- A list of texts in quotes. -/
def quoteList (texts : List String) : String := "[" ++ join ", " (texts.map quote) ++ "]"

end WireFetch.Text
