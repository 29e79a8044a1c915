import LinkedSelect.Certificate.Der
import LinkedSelect.Certificate.Pem
import LinkedSelect.Http.Client
import LinkedSelect.Reply
import LinkedSelect.Session

/-!
# Options from an HTTP server

* `Settings` are what a host configures. `Settings.build` checks them in a fixed order and reports the first fault:
  the base URL, the cookie, each header's name and value in turn, and last the certificates.
* A `Server` is what comes of it: a base URL, the header fields of every request, and the cookies so far.
* `Server.fetch` asks for options. It joins the target of the request to the base, follows redirects, and reads the
  body of a success as a choice list.
-/

namespace LinkedSelect.Http

/-- What a host configures. -/
structure Settings where
  /-- texts with certificates to trust -/
  certificates : List String := []
  trustsAnyCertificate : Bool := false
  /-- milliseconds until a request is given up -/
  timeout : Option Nat := none
  cookie : Option String := none
  /-- more header fields, in order -/
  headers : List (String × String) := []
  deriving DecidableEq, Repr

/-- A server that is asked for options. -/
structure Server where
  base : Url
  headers : Headers
  timeout : Option Nat
  jar : Jar
  deriving DecidableEq, Repr

/-- The header fields that every request has unless others take their place. -/
def standardHeaders : Headers :=
  (Headers.set {} "x-requested-with" "XMLHttpRequest").set "accept" "application/json"

/-- Adds header fields in turn, up to the first that is malformed. -/
def addHeaders : Headers → List (String × String) → Except FetchError Headers
  | h, [] => .ok h
  | h, (name, value) :: rest =>
    match headerName? name with
    | none => .error (.config (.headerName name))
    | some key =>
      match headerValue? value with
      | none => .error (.config (.headerValue key))
      | some value => addHeaders (h.set key value) rest

/-- Adds the configured cookie. -/
def addCookie (h : Headers) : Option String → Except FetchError Headers
  | none => .ok h
  | some cookie =>
    match headerValue? cookie with
    | none => .error (.config .cookie)
    | some cookie => .ok (h.set "cookie" cookie)

/-- All certificates of a text are certificates. -/
def acceptsCertificates (text : String) : Bool :=
  match Pem.certificates? text with
  | none => false
  | some blocks => blocks.all Der.isCertificate

namespace Settings

/-- The header fields of every request. -/
def allHeaders (s : Settings) : Except FetchError Headers :=
  match addCookie standardHeaders s.cookie with
  | .error e => .error e
  | .ok h => addHeaders h s.headers

/-- Checks the settings and builds a server whose endpoints are relative to the base URL. -/
def build (s : Settings) (base : String) : Except FetchError Server :=
  match Url.parse base with
  | .error e => .error (.url e)
  | .ok base =>
    match s.allHeaders with
    | .error e => .error e
    | .ok headers =>
      if s.certificates.all acceptsCertificates then .ok { base, headers, timeout := s.timeout, jar := {} }
      else .error (.client .transport)

end Settings

/-- What a fetch gives, what it has sent, and the server with its cookies then. -/
structure Fetched where
  reply : Reply
  sent : List Get
  server : Server

/-- The value of the header that carries user information, if a URL has any. -/
def authorization? (url : Url) : Option String :=
  let plain (s : String) : Option String :=
    ((Utf8.decode (Percent.decode (Utf8.encode s.toList))).toOption).map String.ofList
  match plain url.username, url.password.bind plain with
  | none, _ => none
  | some "", none => none
  | some name, password =>
    let pair := name.toList ++ ':' :: (password.getD "").toList
    some ("Basic " ++ String.ofList (Base64.encode (Utf8.encode pair)))

/-- What an answer with a body comes to. -/
def replyOf (r : Response) : Reply :=
  if Status.isSuccess r.status then Reply.ofBody (if Status.hasBody r.status then r.body else [])
  else .error (.status r.status (Status.text r.status))

namespace Server

/-- The first request for a URL. -/
def get (s : Server) (url : Url) : Get :=
  let own : Headers :=
    match authorization? url with
    | none => {}
    | some value => Headers.set {} "authorization" value
  let headers := own.orElse s.headers
  let headers := if (headers.get? "cookie").isSome then headers else withCookies headers s.jar url
  { url := { url with username := "", password := none }, headers }

/-- Asks for options. -/
def fetch (net : Network) (s : Server) (r : Request) : Fetched :=
  match s.base.join r.target with
  | .error e => ⟨.error (.url e), [], s⟩
  | .ok url =>
    let trip := follow net maxRedirects [] s.jar (s.get url)
    let reply :=
      match trip.response with
      | none => .error (.client .transport)
      | some response => replyOf response
    ⟨reply, trip.sent, { s with jar := trip.jar }⟩

end Server

/-- A server together with all that was sent to it. -/
structure Dialogue where
  server : Server
  sent : List Get := []

/-- Answers each request at once, from a server over a network. -/
def source (net : Network) : Source Dialogue :=
  ⟨fun d r =>
    let fetched := d.server.fetch net r
    (some fetched.reply, { server := fetched.server, sent := d.sent ++ fetched.sent })⟩

end LinkedSelect.Http
