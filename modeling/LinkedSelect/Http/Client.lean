import LinkedSelect.Http.Cookie
import LinkedSelect.Http.Network
import LinkedSelect.Http.Status
import LinkedSelect.Url.Parse

/-!
# Following redirects

`follow` sends a request and goes on where the answers point, as long as redirects are left. Requests are sent for
`http` and `https` URLs only. Every answer may set cookies, whatever becomes of the fetch. A request that goes on keeps
its header fields, names the URL it came from unless it leaves a secured connection for a plain one, and loses what was
meant for another host; cookies that the jar has for the new URL take the place of any others.
-/

namespace LinkedSelect.Http

/-- What a client has sent, the cookies it has then, and the last answer, if there is a complete one. -/
structure Trip where
  sent : List Get
  jar : Jar
  response : Option Response
  deriving DecidableEq, Repr

/-- The URL that an answer points to, if it is a redirect to one. -/
def Response.redirect? (r : Response) (url : Url) : Option Url :=
  if Status.isRedirect r.status then
    ((r.values "location").head?).bind fun location => (url.join location).toOption
  else none

/-- The answer is of use: the body of a success is whole, unless its status allows none, and the body of another
answer is not read. -/
def Response.isUsable (r : Response) : Bool :=
  r.complete || !Status.hasBody r.status || !Status.isSuccess r.status

/-- The header fields with the cookies of the jar for this URL, if it has any. -/
def withCookies (headers : Headers) (jar : Jar) (url : Url) : Headers :=
  match jar.header? url with
  | none => headers
  | some cookies => headers.set "cookie" cookies

/-- The header fields without those meant for one host. -/
def withoutCredentials (headers : Headers) : Headers :=
  ["authorization", "cookie", "cookie2", "proxy-authorization", "www-authenticate"].foldl Headers.erase headers

/-- The header fields with the URL that is left; one with a secured connection is not named over a plain one. -/
def withReferer (headers : Headers) (left url : Url) : Headers :=
  if left.scheme = "https" ∧ url.scheme = "http" then headers else headers.set "referer" left.withoutSecrets.text

/-- The request that follows a redirect. -/
def Get.redirected (g : Get) (jar : Jar) (url : Url) : Get :=
  let headers := withReferer g.headers g.url url
  let headers := if g.url.sameOrigin url then headers else withoutCredentials headers
  { url, headers := withCookies headers jar url }

/-- Sends a request that follows those sent before, and goes on while redirects are left. -/
def follow (net : Network) : Nat → List Get → Jar → Get → Trip
  | left, sent, jar, g =>
    if !Url.isSentFor g.url.scheme then ⟨sent, jar, none⟩
    else
      match net sent g with
      | .unreachable => ⟨sent, jar, none⟩
      | .dropped => ⟨sent ++ [g], jar, none⟩
      | .response r =>
        let jar := jar.storeAll g.url (r.values "set-cookie")
        match r.redirect? g.url with
        | none => ⟨sent ++ [g], jar, if r.isUsable then some r else none⟩
        | some url =>
          match left with
          | 0 => ⟨sent ++ [g], jar, none⟩
          | left + 1 => follow net left (sent ++ [g]) jar (g.redirected jar url)

/-- Redirects that are followed. -/
def maxRedirects : Nat := 9

end LinkedSelect.Http
