import LinkedSelect.Assoc
import LinkedSelect.Text.Split
import LinkedSelect.Url.Basic

/-!
# Cookies

A `Jar` keeps the cookies that answers set and gives out those that belong to a URL. A cookie belongs to a host, or
to a domain and all below it, and to a path and all below it; a secure one is never sent over plain HTTP. Setting a
cookie with no lifetime left takes it out.
-/

namespace LinkedSelect.Http

/-- What tells cookies apart. -/
structure CookieKey where
  domain : String
  path : String
  name : String
  deriving DecidableEq, Repr

/-- What else is kept of a cookie. -/
structure CookieState where
  value : String
  /-- sent to the host that set it, and not below it -/
  hostOnly : Bool
  secure : Bool
  deriving DecidableEq, Repr

/-- The cookies of a client. -/
structure Jar where
  cookies : List (CookieKey × CookieState) := []
  deriving DecidableEq, Repr

/-- The text of a header that sets a cookie, in its parts. -/
structure SetCookie where
  name : String
  value : String
  /-- attributes, their names in lower case -/
  attributes : List (String × String)
  deriving DecidableEq, Repr

namespace SetCookie

/-- The text without spaces and tabs around it. -/
def trim (cs : List Char) : List Char :=
  let blank (c : Char) : Bool := c == ' ' || c == '\t'
  ((cs.dropWhile blank).reverse.dropWhile blank).reverse

/-- What stands before and after the first equals sign. -/
def pair (cs : List Char) : List Char × List Char :=
  (trim (cs.takeWhile (· != '=')), trim ((cs.dropWhile (· != '=')).drop 1))

/-- A value without the quotes around it. -/
def unquote (cs : List Char) : List Char :=
  match cs with
  | '"' :: rest => if rest.getLast? = some '"' then rest.dropLast else cs
  | _ => cs

/-- Reads the header; there is no cookie without an equals sign or without a name. -/
def parse? (text : String) : Option SetCookie :=
  match Split.splitOn (· == ';') text.toList with
  | [] => none
  | first :: rest =>
    let (name, value) := pair first
    if '=' ∈ first ∧ name ≠ [] then
      some
        { name := String.ofList name
          value := String.ofList (unquote value)
          attributes := rest.map fun part =>
            (String.ofList ((pair part).1.map Char.toLower), String.ofList (pair part).2) }
    else none

/-- The last text of an attribute. -/
def attribute? (s : SetCookie) (name : String) : Option String :=
  s.attributes.reverse.lookup name

/-- No lifetime is left. -/
def isExpired (s : SetCookie) : Bool :=
  match (s.attribute? "max-age").map String.toList with
  | some ('-' :: digits) => digits.all Char.isDigit
  | some digits => digits != [] && digits.all (· == '0')
  | none => false

/-- The domain that is asked for, without a leading dot. -/
def domain? (s : SetCookie) : Option String :=
  match (s.attribute? "domain").map String.toList with
  | none | some [] | some ['.'] => none
  | some ('.' :: cs) => some (String.ofList (cs.map Char.toLower))
  | some cs => some (String.ofList (cs.map Char.toLower))

end SetCookie

namespace Jar

/-- The path of a URL. -/
def pathOf (url : Url) : String :=
  url.pathText

/-- The directory of a path. -/
def defaultPath (url : Url) : String :=
  let cs := (pathOf url).toList
  let directory := (cs.reverse.dropWhile (· != '/')).drop 1
  if directory = [] then "/" else String.ofList directory.reverse

/-- A host is a domain or lies below it. -/
def isWithin (host domain : String) : Bool :=
  host == domain || ('.' :: domain.toList).isSuffixOf host.toList

/-- A path is another one or lies below it. -/
def isBelow (path parent : String) : Bool :=
  path == parent ||
    (parent.toList.isPrefixOf path.toList &&
      (parent.toList.getLast? == some '/' || (path.toList.drop parent.toList.length).head? == some '/'))

/-- The host of a URL, and whether it has domains below it. -/
def hostOf (url : Url) : String × Bool :=
  match url.host with
  | some (.domain name) => (name, true)
  | some host => (host.text, false)
  | none => ("", false)

/-- Keeps a cookie that an answer from this URL sets; one for a foreign domain is refused. -/
def store (jar : Jar) (url : Url) (s : SetCookie) : Jar :=
  let (host, hasDomains) := hostOf url
  let domain := s.domain?.getD host
  let allowed := domain == host || (hasDomains && isWithin host domain)
  let path :=
    match s.attribute? "path" with
    | some p => if p.toList.head? = some '/' then p else defaultPath url
    | none => defaultPath url
  let key : CookieKey := { domain, path, name := s.name }
  if !allowed then jar
  else if s.isExpired then ⟨jar.cookies.filter (·.1 ≠ key)⟩
  else
    let state := { value := s.value, hostOnly := s.domain?.isNone, secure := (s.attribute? "secure").isSome }
    ⟨Assoc.put key state jar.cookies⟩

/-- Keeps the cookies of all these headers. -/
def storeAll (jar : Jar) (url : Url) (headers : List String) : Jar :=
  (headers.filterMap SetCookie.parse?).foldl (fun jar s => jar.store url s) jar

/-- A cookie belongs to a URL. -/
def belongs (url : Url) (key : CookieKey) (state : CookieState) : Bool :=
  let (host, hasDomains) := hostOf url
  let within := host == key.domain || (!state.hostOnly && hasDomains && isWithin host key.domain)
  within && isBelow (pathOf url) key.path && (!state.secure || url.scheme == "https")

/-- The text of the header for a URL, if any cookie belongs to it. -/
def header? (jar : Jar) (url : Url) : Option String :=
  match jar.cookies.filter fun (key, state) => belongs url key state with
  | [] => none
  | cookies => some (String.intercalate "; " (cookies.map fun (key, state) => key.name ++ "=" ++ state.value))

end Jar

end LinkedSelect.Http
