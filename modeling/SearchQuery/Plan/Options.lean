import SearchQuery.Json.Typed
import SearchQuery.Json.Writer
import SearchQuery.Text.Case

/-!
# Search options

The options with which a search is run.  Options that are not known here are kept as they are.
-/

set_option autoImplicit false
namespace SearchQuery

structure Options where
  explain : Bool := false
  score : String := ""
  includeTermVectors : Bool := false
  extra : List (String × Json) := []

namespace Options

def skipScoring (o : Options) : Bool := sameIgnoringAsciiCase o.score "none"

def toJson (o : Options) : Json :=
  .object (("explain", .boolean o.explain) ::
    (if o.score.isEmpty then [] else [("score", .string o.score)]) ++
    ("include_term_vectors", .boolean o.includeTermVectors) :: o.extra)

def write (o : Options) : String := o.toJson.write

def isDefault (o : Options) : Bool :=
  !o.explain && o.score.isEmpty && !o.includeTermVectors && o.extra.isEmpty

open Json (Cursor TextError)

def known : List (Cursor.Member Options) := [
  ("explain", fun o c => do
    let (b, c) ← c.readFlag
    return ({ o with explain := b }, c)),
  ("score", fun o c => do
    let (s, c) ← c.readText "a string"
    return ({ o with score := s }, c)),
  ("include_term_vectors", fun o c => do
    let (b, c) ← c.readFlag
    return ({ o with includeTermVectors := b }, c))]

/-- Other options are kept in the order of their keys, of several with one key the last. -/
def keep (key : String) (v : Json) (o : Options) : Options :=
  { o with extra := Json.putMember key v.normalize o.extra }

def read (bytes : List UInt8) : Except TextError Options :=
  Cursor.complete ((Cursor.ofBytes bytes).readObject "struct SearcherOptions" known keep {})

end Options

end SearchQuery
