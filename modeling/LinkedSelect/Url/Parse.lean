import LinkedSelect.Url.Basic

/-!
# Reading URLs

`Url.parse` reads an absolute URL, and `Url.join` one that may be relative to a base. A text is freed of blanks
around it and of tabs and line breaks inside; then comes a scheme, or what is missing is taken from the base.

* `authority` reads user information, host and port;
* `addSegments` follows the dots of a path;
* `tail` cuts off query and fragment.

A segment of a letter and a colon or a bar is a drive: two dots do not lead above it. In a file, a drive that begins
the path is written with a colon and takes the place of the host, and a tab or a line break behind it separates as a
slash does. Where no host stands between the two slashes of a file and its path, the path begins with the empty segment
in front of that slash, and what comes next is no drive that begins it.
-/

namespace LinkedSelect.Url

/-! ## Cutting -/

/-- The text without controls and spaces around it. -/
def trim (cs : List Char) : List Char :=
  let blank (c : Char) : Bool := c.toNat ≤ 32
  ((cs.dropWhile blank).reverse.dropWhile blank).reverse

/-- A tab or a line break. -/
def isIgnored (c : Char) : Bool :=
  c == '\t' || c == '\n' || c == '\r'

/-- The characters that count. -/
def strip (cs : List Char) : List Char :=
  cs.filter fun c => !isIgnored c

/-- What is left behind so many characters that count, and behind ignored ones there. -/
def dropCounted : Nat → List Char → List Char
  | 0, cs => cs.dropWhile isIgnored
  | _, [] => []
  | n + 1, c :: cs => if isIgnored c then dropCounted (n + 1) cs else dropCounted n cs

/-- A character of a scheme behind its first letter. -/
def isSchemeChar (c : Char) : Bool :=
  c.isAlphanum || c == '+' || c == '-' || c == '.'

/-- The scheme in lower case and what follows its colon. -/
def scheme? (cs : List Char) : Option (String × List Char) :=
  match cs with
  | [] => none
  | c :: _ =>
    if c.isAlpha then
      match cs.dropWhile isSchemeChar with
      | ':' :: rest => some (String.ofList ((cs.takeWhile isSchemeChar).map Char.toLower), rest)
      | _ => none
    else none

/-- A slash, or in a URL with domains a backslash. -/
def isSlash (special : Bool) (c : Char) : Bool :=
  c == '/' || (special && c == '\\')

/-- A slash or a backslash. -/
def isAnySlash (c : Char) : Bool :=
  c == '/' || c == '\\'

/-- What stands before and after the last of a character. -/
def cutAtLast? (mark : Char) (cs : List Char) : Option (List Char × List Char) :=
  if mark ∈ cs then
    let after := (cs.reverse.takeWhile (· != mark)).reverse
    some (cs.take (cs.length - after.length - 1), after)
  else none

/-- What ends a path. -/
def isPathEnd (c : Char) : Bool :=
  c == '?' || c == '#'

/-- The query and the fragment of what follows a path. -/
def tail (special : Bool) (cs : List Char) : Option String × Option String :=
  let fragment (cs : List Char) : Option String :=
    match cs with
    | '#' :: cs => some (String.ofList (Encoding.encode .fragment cs))
    | _ => none
  match cs with
  | '?' :: cs =>
    let part := if special then Encoding.Component.domainQuery else .query
    (some (String.ofList (Encoding.encode part (cs.takeWhile (· != '#')))), fragment (cs.dropWhile (· != '#')))
  | cs => (none, fragment cs)

/-! ## Paths -/

/-- A letter and a colon or a bar. -/
def isDrive (cs : List Char) : Bool :=
  match cs with
  | [a, b] => a.isAlpha && (b == ':' || b == '|')
  | _ => false

/-- A letter and a colon. -/
def isPlainDrive (cs : List Char) : Bool :=
  isDrive cs && cs.contains ':'

/-- A text that begins with a drive, as a segment of its own. -/
def startsWithDrive (cs : List Char) : Bool :=
  isDrive (cs.take 2) && (cs.drop 2).head?.all fun c => isAnySlash c || isPathEnd c

/-- The segment in lower case with percent-encoded dots undone. -/
def dots (segment : List Char) : List Char :=
  match segment with
  | '%' :: '2' :: c :: rest => if c.toLower = 'e' then '.' :: dots rest else '%' :: dots ('2' :: c :: rest)
  | c :: rest => c :: dots rest
  | [] => []

/-- The path without its last segment; a drive stays. -/
def goUp (path : List String) : List String :=
  match path.getLast? with
  | some last => if startsWithDrive last.toList then path else path.dropLast
  | none => []

/-- A drive and what stands in the same segment behind it and behind a tab or a line break. -/
def cutAtDrive? (segment : List Char) : Option (List Char × List Char) :=
  let (drive, rest) := (strip segment).splitAt 2
  let behind := (segment.dropWhile (· != ':')).drop 1
  if isPlainDrive drive ∧ rest ≠ [] ∧ behind.head?.any isIgnored then some (drive, rest) else none

/-- Begins the path of a file with a segment that is not made of dots. -/
def beginFile (segment : List Char) : List (List Char) :=
  match cutAtDrive? segment with
  | some (drive, rest) => [drive, rest]
  | none => if isDrive (strip segment) then [(strip segment).take 1 ++ [':']] else [strip segment]

/-- Adds a segment that is not made of dots. -/
def addSegment (file : Bool) (path : List String) (segment : List Char) : List String :=
  let new := if file ∧ path = [] then beginFile segment else [strip segment]
  path ++ new.map fun cs => String.ofList (Encoding.encode .path cs)

/-- Adds segments to a path: one dot stays where it is, two dots go up. -/
def addSegments (file : Bool) (path : List String) : List (List Char) → List String
  | [] => path
  | [last] =>
    let name := dots (strip last)
    if name = ['.', '.'] then goUp path ++ [""]
    else if name = ['.'] then path ++ [""]
    else addSegment file path last
  | segment :: rest =>
    let name := dots (strip segment)
    if name = ['.', '.'] then addSegments file (goUp path) rest
    else if name = ['.'] then addSegments file path rest
    else addSegments file (addSegment file path segment) rest

/-- Adds a text of segments between slashes to a path. -/
def addPath (scheme : String) (path : List String) (cs : List Char) : List String :=
  addSegments (scheme == "file") path (Split.splitOn (isSlash (isSpecial scheme)) cs)

/-- The segments behind an authority. -/
def rootedSegments (scheme : String) (cs : List Char) : List String :=
  match cs with
  | [] => if isSpecial scheme then [""] else []
  | c :: rest => addPath scheme [] (if isSlash (isSpecial scheme) c then rest else cs)

/-- The path, query and fragment behind an authority. -/
def addRooted (u : Url) (cs : List Char) : Url :=
  let (query, fragment) := tail (isSpecial u.scheme) (strip (cs.dropWhile fun c => !isPathEnd c))
  { u with path := .rooted (rootedSegments u.scheme (cs.takeWhile fun c => !isPathEnd c)), query, fragment }

/-! ## Authorities -/

/-- The user name and the password of user information. -/
def userinfo (cs : List Char) : String × Option String :=
  let encode (cs : List Char) : String := String.ofList (Encoding.encode .userinfo cs)
  let password :=
    match cs.dropWhile (· != ':') with
    | _ :: c :: rest => some (encode (c :: rest))
    | _ => none
  (encode (cs.takeWhile (· != ':')), password)

/-- Where the host ends: at the first colon outside brackets. -/
def hostLength (inside : Bool) : List Char → Nat
  | [] => 0
  | c :: cs =>
    if c = ':' ∧ !inside then 0
    else 1 + hostLength (if c = '[' then true else if c = ']' then false else inside) cs

/-- The port of its digits; none if it is that of the scheme. -/
def port? (scheme : String) (cs : List Char) : Except ParseError (Option Nat) :=
  match number? 10 cs with
  | none => .error .invalidPort
  | some n =>
    if 65535 < n then .error .invalidPort
    else if cs = [] ∨ defaultPort? scheme = some n then .ok none
    else .ok (some n)

/-- Reads what follows the two slashes of an authority. -/
def authority (scheme : String) (cs : List Char) : Except ParseError Url :=
  let special := isSpecial scheme
  let inside (c : Char) : Bool := !(isSlash special c || isPathEnd c)
  let whole := cs.takeWhile inside
  let rest := cs.dropWhile inside
  let cut := cutAtLast? '@' whole
  let (user, address) := cut.getD ([], whole)
  let (username, password) := userinfo user
  let named := username != "" || password.isSome
  let hostChars := address.take (hostLength false address)
  let portChars := address.drop (hostLength false address)
  -- a mark without user information needs a host, unless nothing follows it
  let bare := cut.any (·.1.isEmpty)
  if hostChars = [] ∧ (special ∨ named ∨ portChars ≠ [] ∨ (bare ∧ rest ≠ [])) then .error .emptyHost
  else
    match if special then Host.parse hostChars else Host.parseOther hostChars with
    | .error e => .error e
    | .ok host =>
      -- outside schemes with domains, a backslash ends the port and begins the path
      let digits := (portChars.drop 1).takeWhile (· != '\\')
      let rest := (portChars.drop 1).dropWhile (· != '\\') ++ rest
      match port? scheme digits with
      | .error e => .error e
      | .ok port => .ok (addRooted { scheme, username, password, host, port, path := .rooted [] } rest)

/-! ## Files -/

/-- The host of a file; the local one is none. -/
def fileHost (cs : List Char) : Except ParseError Host :=
  match cs with
  | [] => .ok .empty
  | _ => (Host.parse cs).map fun host => if host = .domain "localhost" then .empty else host

/-- A file whose path begins with a drive has no host; one that had to be cut out of its segment does not count. -/
def dropHostOfDrive (cs : List Char) (u : Url) : Url :=
  let segments := Split.splitOn isAnySlash (cs.takeWhile fun c => !isPathEnd c)
  let cut := (segments.find? fun segment => isDrive ((strip segment).take 2)).bind cutAtDrive?
  match u.path with
  | .rooted (first :: _) => if isPlainDrive first.toList ∧ cut.isNone then { u with host := some .empty } else u
  | _ => u

/-- The path of a file has no empty segments in front. -/
def trimFront (u : Url) : Url :=
  match u.path with
  | .rooted segments =>
    match segments.dropWhile (· == "") with
    | [] => { u with path := .rooted [""] }
    | trimmed => { u with path := .rooted trimmed }
  | .rootless _ => u

/-- A file without a host. -/
def localFile : Url :=
  { scheme := "file", host := some .empty, path := .rooted [] }

/-- Keeps of the path of a base what a path from the root keeps: its drive. -/
def driveOf (base : Url) : List String :=
  match base.path with
  | .rooted (first :: _) => if isPlainDrive first.toList then [first] else []
  | _ => []

/-- The URL with this path added, and the query and fragment behind it. -/
def withPath (u : Url) (path : List String) (cs : List Char) : Url :=
  let (query, fragment) := tail (isSpecial u.scheme) (strip (cs.dropWhile fun c => !isPathEnd c))
  { u with path := .rooted (addPath u.scheme path (cs.takeWhile fun c => !isPathEnd c)), query, fragment }

/-- The segments of a path. -/
def segmentsOf (u : Url) : List String :=
  match u.path with
  | .rooted segments => segments
  | .rootless _ => []

/-- The segments of a path but for the last; the drive of a file stays. -/
def withoutLast (u : Url) : List String :=
  match segmentsOf u with
  | [only] => if u.scheme = "file" ∧ isPlainDrive only.toList then [only] else []
  | segments => segments.dropLast

/-- Takes what is missing from the base: everything, or all but the query, or all but the last segment. -/
def relative (base : Url) (cs : List Char) : Url :=
  match cs with
  | [] => { base with fragment := none }
  | '?' :: _ | '#' :: _ =>
    let (query, fragment) := tail (isSpecial base.scheme) (strip cs)
    { base with query := if cs.head? = some '?' then query else base.query, fragment }
  | _ => withPath base (withoutLast base) cs

/-- Reads a file without two slashes in front. -/
def fileWithoutHost (base : Option Url) (cs : List Char) : Url :=
  match cs, base with
  | [], some base => relative base []
  | [], none => withPath localFile [] []
  | c :: rest, none => withPath localFile [] (if isAnySlash c then rest else c :: rest)
  | c :: rest, some base =>
    if isAnySlash c then
      if startsWithDrive (strip rest) then withPath localFile [] rest
      else
        let start := driveOf base
        withPath { localFile with host := if start = [] then base.host else some .empty } start rest
    else if startsWithDrive (strip (c :: rest)) then withPath localFile [] (c :: rest)
    else relative base (c :: rest)

/-- Reads a file behind its two slashes. -/
def fileBehindSlashes (cs : List Char) : Except ParseError Url :=
  let host := (strip cs).takeWhile fun c => !(isAnySlash c || isPathEnd c)
  if isDrive host then .ok (withPath localFile [] cs)
  else
    let rest := dropCounted host.length cs
    (fileHost host).map fun h =>
      if h = .empty then withPath localFile [] rest
      else dropHostOfDrive rest (addRooted { localFile with host := some h } rest)

/-- Reads what follows the scheme of a file, or a file relative to another. -/
def file (base : Option Url) (cs : List Char) : Except ParseError Url :=
  let cs := dropCounted 0 cs
  let read :=
    match strip cs with
    | c :: d :: _ =>
      if isAnySlash c ∧ isAnySlash d then fileBehindSlashes (dropCounted 2 cs) else .ok (fileWithoutHost base cs)
    | _ => .ok (fileWithoutHost base cs)
  read.map trimFront

/-! ## Whole URLs -/

/-- Reads what follows a scheme without domains. -/
def otherScheme (scheme : String) (cs : List Char) : Except ParseError Url :=
  match cs with
  | '/' :: '/' :: rest => authority scheme rest
  | '/' :: rest => .ok (withPath { scheme, path := .rooted [] } [] rest)
  | _ =>
    let text := Encoding.encode .control (cs.takeWhile fun c => !isPathEnd c)
    let (query, fragment) := tail false (cs.dropWhile fun c => !isPathEnd c)
    .ok { scheme, path := .rootless (String.ofList text), query, fragment }

/-- Reads what has no scheme of its own, relative to a base that is no file and whose path has segments. -/
def joinRooted (base : Url) (cs : List Char) : Except ParseError Url :=
  match cs with
  | '/' :: '/' :: rest => authority base.scheme rest
  | c :: rest =>
    if isAnySlash c then
      if rest.head?.any isAnySlash then authority base.scheme (rest.dropWhile isAnySlash)
      else .ok (withPath base [] rest)
    else .ok (relative base cs)
  | [] => .ok (relative base [])

/-- Reads what follows a scheme that is not that of files. -/
def afterScheme (base : Option Url) (scheme : String) (cs : List Char) : Except ParseError Url :=
  if isSpecial scheme then
    let slashes := (cs.takeWhile isAnySlash).length
    match base.filter fun base => slashes < 2 ∧ base.scheme = scheme with
    | some base => joinRooted base cs
    | none => authority scheme (cs.drop slashes)
  else otherScheme scheme cs

/-- Reads a URL that may be relative to a base. -/
def parseWith (base : Option Url) (text : String) : Except ParseError Url :=
  let whole := trim text.toList
  let cs := strip whole
  match scheme? cs with
  | some (scheme, rest) =>
    if scheme = "file" then file (base.filter (·.scheme = "file")) ((whole.dropWhile (· != ':')).drop 1)
    else afterScheme base scheme rest
  | none =>
    match base with
    | none => .error .relativeWithoutBase
    | some base =>
      if cs.head? = some '#' then .ok (relative base cs)
      else
        match base.path with
        | .rootless _ => .error .relativeWithRootlessBase
        | .rooted _ => if base.scheme = "file" then file (some base) whole else joinRooted base cs

/-- Reads an absolute URL. -/
def parse (text : String) : Except ParseError Url :=
  parseWith none text

/-- Reads a URL relative to this one. -/
def join (base : Url) (text : String) : Except ParseError Url :=
  parseWith (some base) text

end LinkedSelect.Url
