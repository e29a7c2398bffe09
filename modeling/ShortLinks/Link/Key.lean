import ShortLinks.Url.Address

/-!
Keys. A short link may be written as its bare key, as a path, or as a full address; `keyOf` gives
the key in each case.
-/

namespace ShortLinks

/-- A text without the slashes at its ends. -/
def trimSlashes (cs : List Char) : List Char := Text.trimBoth (· = '/') cs

/-- What follows the last slash, all of the text if there is none. -/
def lastSegment (cs : List Char) : List Char := (cs.reverse.takeWhile (· ≠ '/')).reverse

/-- The key that a short link names: the last segment of its path, or of the text itself when it
is no address with a host. -/
def keyOf (shortUrl : String) : String :=
  let text := shortUrl.toList
  String.ofList (lastSegment (trimSlashes ((Url.hostedPath? text).getD text)))

end ShortLinks
