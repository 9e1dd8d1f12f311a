import WireFetch.Coding.Gzip
import WireFetch.Coding.Zlib
import WireFetch.Text.Ascii
import WireFetch.Text.Blank

/-!
# Content codings

A body may be sent in a coding, named in a header. Gzip has two names. Under the name deflate some
servers send framed data and some bare data; so the frame is tried first, and the bare form second.
An unknown coding is no coding.

A body that was cut short on purpose (`cut`) keeps what its bytes decode to: it is no failure that
its data end early. The bare form is then not tried once the framed form has given any output, as
the rest of it may be missing for that reason alone.

## Main definitions

* `ContentCoding`, `ContentCoding.ofHeader` — the codings, and their names in headers
* `ContentCoding.inflate` — everything a body decodes to, and the fault behind it
* `ContentCoding.decode` — the body, or why there is none
-/

namespace WireFetch

/-- The coding of a body. -/
inductive ContentCoding where
  | gzip
  | deflate
  | identity
  deriving DecidableEq, Repr, Inhabited

namespace ContentCoding

open Coding Text

/-- The name of each coding. -/
def name : ContentCoding → String
  | gzip => "gzip"
  | deflate => "deflate"
  | identity => "identity"

/-- The coding that a header names, without regard to case and white space around the name. -/
def ofHeader (value : Option String) : ContentCoding :=
  match value.map fun v => String.ofList (lower (trim v.toList)) with
  | some "gzip" => gzip
  | some "x-gzip" => gzip
  | some "deflate" => deflate
  | _ => identity

/-- What a body decodes to, as far as `limit` asks. -/
def inflate (coding : ContentCoding) (limit : Option Nat) (cut : Bool) (body : List UInt8) :
    Inflated :=
  match coding with
  | identity => ⟨body, none⟩
  | gzip => gunzip limit body
  | deflate =>
    let framed := inflateFramed limit body
    if framed.fault = none || (cut && !framed.output.isEmpty) then framed
    else inflateBare limit body

/-- The decoded body of at most `limit` bytes. Without a coding the body is left as it is. -/
def decode (coding : ContentCoding) (limit : Option Nat) (cut : Bool) (body : List UInt8) :
    Except DecodeFault (List UInt8) :=
  (coding.inflate limit cut body).accept cut

end ContentCoding

end WireFetch
