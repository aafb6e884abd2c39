import RequestRunner.Url.Relative

/-!
# Readers of addresses

A client is given a reader: it tells which texts are absolute addresses, and which address a text
names within another one. Whatever the client does with an address rests on its parts alone, not on
how the reader found them.

The reader of the program follows the rules for all parts of an address. Of the rules for letters
beyond ASCII in host names it knows the common ones only, see `Url.Domain`.

## Main definitions

* `Url.Reader` — who reads texts as addresses.
* `Url.Reader.standard` — the reader of the program.
-/

namespace RequestRunner.Url

/-- Who reads texts as addresses. -/
structure Reader where
  /-- The absolute address that a text is, or in words why it is none. -/
  parse : String → Except String Url
  /-- The address that a text names within an address of the web. -/
  join : Url → String → Option Url

/-- The reader of the program. -/
def Reader.standard : Reader where
  parse text := (ofText text).mapError Fault.message
  join url text := (url.resolve text).toOption

end RequestRunner.Url
