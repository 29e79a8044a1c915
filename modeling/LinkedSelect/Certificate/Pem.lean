import LinkedSelect.Text.Base64
import LinkedSelect.Text.Split

/-!
# PEM blocks

A text holds blocks between a line `-----BEGIN kind-----` and a line `-----END kind-----`, in which octets are
written in base 64; what stands outside is ignored. `certificates?` gives the octets of the certificates, and fails if
a block of any kind has no end, is opened by a malformed line, or is not base 64.
-/

namespace LinkedSelect.Pem

/-- Where a reader of lines stands: outside, or in a block of a kind with this text so far. -/
inductive State
  | outside
  | inside (kind : List Char) (text : List Char)

/-- The dashes around the first and the last line of a block. -/
def dashes : List Char :=
  ['-', '-', '-', '-', '-']

/-- What a first line begins with. -/
def beginMark : List Char :=
  dashes ++ "BEGIN ".toList

/-- What the last line of a block begins with. -/
def endMark (kind : List Char) : List Char :=
  dashes ++ "END ".toList ++ kind ++ dashes

/-- A space or a line break. -/
def isBlank (c : Char) : Bool :=
  c == ' ' || c == '\r' || c == '\n'

/-- The line without blanks at its end. -/
def trimEnd (line : List Char) : List Char :=
  (line.reverse.dropWhile isBlank).reverse

/-- The kind of the block that this line opens; five dashes stand behind it, with blanks among them. -/
def kind? (line : List Char) : Option (List Char) :=
  let back := (line.reverse.takeWhile fun c => c == '-' || isBlank c).reverse
  if back.count '-' = 5 then
    some ((line.take (line.length - back.length) ++ back.takeWhile isBlank).drop beginMark.length)
  else none

/-- Reads lines and collects certificates. -/
def read : State → List (List Char) → Option (List (List UInt8))
  | .outside, [] => some []
  | .inside _ _, [] => none
  | state, line :: rest =>
    if beginMark.isPrefixOf line then
      match kind? line with
      | none => none
      | some kind =>
        let text := match state with | .outside => [] | .inside _ text => text
        read (.inside kind text) rest
    else
      match state with
      | .outside => read .outside rest
      | .inside kind text =>
        if (endMark kind).isPrefixOf line then
          match Base64.decode? text with
          | none => none
          | some octets =>
            let found := if kind = "CERTIFICATE".toList then [octets] else []
            (read .outside rest).map (found ++ ·)
        else read (.inside kind (text ++ trimEnd line)) rest

/-- The octets of the certificates in a text. -/
def certificates? (text : String) : Option (List (List UInt8)) :=
  read .outside (Split.splitOn (fun c => c == '\n' || c == '\r') text.toList)

end LinkedSelect.Pem
