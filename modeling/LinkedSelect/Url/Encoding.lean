import LinkedSelect.Text.Percent

/-!
# Percent-encoding in the parts of a URL

Each part has its own set of characters that are escaped; characters outside ASCII are escaped in every part, and
percent signs are left as they are.
-/

namespace LinkedSelect.Url.Encoding

/-- The parts of a URL by what they escape. -/
inductive Component
  /-- controls only -/
  | control
  | fragment
  | query
  /-- the query of a URL with domains -/
  | domainQuery
  | path
  | userinfo
  deriving DecidableEq, Repr

/-- The printable characters that a part escapes. -/
def Component.escaped : Component → List Char
  | .control => []
  | .fragment => [' ', '"', '<', '>', '`']
  | .query => [' ', '"', '#', '<', '>']
  | .domainQuery => [' ', '"', '#', '<', '>', '\'']
  | .path => [' ', '"', '#', '<', '>', '?', '`', '\x7b', '\x7d']
  | .userinfo =>
    [' ', '"', '#', '<', '>', '?', '`', '\x7b', '\x7d', '/', ':', ';', '=', '@', '[', '\\', ']', '^', '|']

/-- An octet that stands for itself in a part. -/
def isPlain (part : Component) (b : UInt8) : Bool :=
  32 ≤ b.toNat && b.toNat < 127 && !part.escaped.any fun c => c.toNat == b.toNat

/-- A text as it stands in a part. -/
def encode (part : Component) (cs : List Char) : List Char :=
  Percent.encodeWith (isPlain part) (Utf8.encode cs)

end LinkedSelect.Url.Encoding
