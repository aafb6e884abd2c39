import RequestRunner.Url.Reading

/-!
# Relative addresses

A text without a scheme, or with the scheme of the address in which it stands, is read as seen from
that address: a path from the root, a path from the last slash, a query or a fragment.

## Main definitions

* `Url.resolve` — the address that a text names within an address of the web.
-/

namespace RequestRunner.Url

/-- The segments of an address, last one first, without the last one. -/
def above (url : Url) : List String :=
  match url.path with
  | .segments parts => parts.dropLast.reverse
  | .plain _ => []

/-- The address with another path, query and fragment, where `cs` is the text of these and `above`
are the segments, last one first, from which the path starts. -/
def withPath (url : Url) (above : List String) (cs : List Char) : Url :=
  let path := (cs.takeWhile (!endsPath ·)).map fun c => if c = '\\' then '/' else c
  let (query, fragment) := readTail .web (cs.dropWhile (!endsPath ·))
  { url with
    path := .segments (addSegments .web above (Text.split '/' path)).reverse
    query := query
    fragment := fragment }

/-- The address that a text without a scheme names within an address of the web. -/
def resolveRelative (url : Url) (cs : List Char) : Except Fault Url :=
  match cs with
  | [] => .ok { url with fragment := none }
  | '#' :: _ => .ok { url with fragment := (readTail .web cs).2 }
  | '?' :: _ =>
    let (query, fragment) := readTail .web cs
    .ok { url with query := query, fragment := fragment }
  | c :: rest =>
    if isSlash true c then
      if rest.head?.any (isSlash true) then ofHosted url.scheme .web (rest.dropWhile (isSlash true))
      else .ok (url.withPath [] rest)
    else .ok (url.withPath url.above cs)

/-- The address that a text names within an address of the web. -/
def resolve (url : Url) (text : String) : Except Fault Url :=
  let cs := significant text.toList
  match readScheme? cs with
  | none => url.resolveRelative cs
  | some (scheme, rest) =>
    if scheme = url.scheme ∧ (rest.takeWhile (isSlash true)).length < 2 then url.resolveRelative rest
    else ofText text

end RequestRunner.Url
