import WireFetch.Text.Quoted

/-!
# Texts in JSON

A text in JSON stands in double quotes. Quotation marks, backslashes and the characters below the
space are escaped; five of those have a letter of their own, the others are numbers of four digits.

## Main definitions

* `jsonText` — a text in quotes
-/

namespace WireFetch.Text

/-- One character inside quotes. -/
def jsonChar (c : Char) : String :=
  match c with
  | '"' => "\\\""
  | '\\' => "\\\\"
  | '\x08' => "\\b"
  | '\x0c' => "\\f"
  | '\n' => "\\n"
  | '\r' => "\\r"
  | '\t' => "\\t"
  | _ =>
    if c < ' ' then
      let digits := hexText c.toNat
      "\\u" ++ String.ofList (List.replicate (4 - digits.length) '0') ++ digits
    else c.toString

/-- A text in quotes. -/
def jsonText (s : String) : String := "\"" ++ String.join (s.toList.map jsonChar) ++ "\""

end WireFetch.Text
