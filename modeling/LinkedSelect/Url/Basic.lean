import LinkedSelect.Url.Host

/-!
# URLs

A `Url` is kept in its parts, each already percent-encoded. `Url.text` writes it; `Url.withoutSecrets` is what is sent
to a server, without user information and fragment.
-/

namespace LinkedSelect

/-- What follows the authority of a URL. -/
inductive UrlPath
  /-- a text without structure, as in `mailto:someone` -/
  | rootless (text : String)
  /-- segments, each behind a slash -/
  | rooted (segments : List String)
  deriving DecidableEq, Repr

/-- A URL in its parts. -/
structure Url where
  scheme : String
  username : String := ""
  password : Option String := none
  /-- none if the URL has no authority -/
  host : Option Url.Host := none
  /-- none if it is that of the scheme -/
  port : Option Nat := none
  path : UrlPath
  query : Option String := none
  fragment : Option String := none
  deriving DecidableEq, Repr

namespace Url

/-- The schemes whose URLs have domains and paths, by their port. -/
def specialPorts : List (String × Option Nat) :=
  [("http", some 80), ("https", some 443), ("ws", some 80), ("wss", some 443), ("ftp", some 21), ("file", none)]

/-- A scheme whose URLs have domains and paths. -/
def isSpecial (scheme : String) : Bool :=
  (specialPorts.lookup scheme).isSome

/-- The port that a scheme has by itself. -/
def defaultPort? (scheme : String) : Option Nat :=
  (specialPorts.lookup scheme).join

/-- The port to connect to. -/
def effectivePort? (u : Url) : Option Nat :=
  u.port <|> defaultPort? u.scheme

/-- Requests are sent for URLs of this scheme, over plain connections or over secured ones. -/
def isSentFor (scheme : String) : Bool :=
  scheme == "http" || scheme == "https"

/-- There is a host that can be connected to. -/
def hasHost (u : Url) : Bool :=
  match u.host with
  | none | some .empty => false
  | _ => true

/-- The user information with its sign, if there is any. -/
def userinfoText (u : Url) : String :=
  match u.username, u.password with
  | "", none => ""
  | name, none => name ++ "@"
  | name, some password => name ++ ":" ++ password ++ "@"

/-- The port with its colon, if it is not that of the scheme. -/
def portText (u : Url) : String :=
  match u.port with
  | none => ""
  | some port => ":" ++ toString port

/-- Host and port. -/
def hostText (u : Url) : String :=
  match u.host with
  | none => ""
  | some host => host.text ++ u.portText

/-- The path; one that would read as an authority is marked by a dot. -/
def pathText (u : Url) : String :=
  match u.path with
  | .rootless text => text
  | .rooted segments =>
    let marked := u.host.isNone && 1 < segments.length && segments.head? == some ""
    (if marked then "/." else "") ++ String.join (segments.map ("/" ++ ·))

/-- The query with its sign, if there is one. -/
def queryText (u : Url) : String :=
  match u.query with
  | none => ""
  | some q => "?" ++ q

/-- The fragment with its sign, if there is one. -/
def fragmentText (u : Url) : String :=
  match u.fragment with
  | none => ""
  | some f => "#" ++ f

/-- The whole URL. -/
def text (u : Url) : String :=
  let authority := if u.host.isSome then "//" ++ u.userinfoText ++ u.hostText else ""
  u.scheme ++ ":" ++ authority ++ u.pathText ++ u.queryText ++ u.fragmentText

/-- The URL as a server learns it. -/
def withoutSecrets (u : Url) : Url :=
  { u with username := "", password := none, fragment := none }

/-- Both URLs lead to one host and port. -/
def sameOrigin (u v : Url) : Bool :=
  u.host = v.host && u.effectivePort? = v.effectivePort?

end Url

end LinkedSelect
