/-
gramnet/http.c: the request line of an HTTP request and the page that port
11888 answers with. The response is built here as one byte list; the console
output and the static buffers it is assembled in are left out.
-/
import Mathlib.Algebra.GroupWithZero.Nat
import Mathlib.Algebra.Ring.Int.Defs
import Mathlib.Data.List.Basic

namespace Gramado.Gramnet.Http

def bytes (text : String) : List UInt8 :=
  text.toUTF8.data.toList

/-- One copy loop of `__parse_http_request_line`: it stops at a stop character,
    at the end of the payload or when the field is full. -/
def copyField (stops : List UInt8) : Nat → List UInt8 → List UInt8 × List UInt8
  | 0, payload => ([], payload)
  | _ + 1, [] => ([], [])
  | room + 1, c :: rest =>
      if c ∈ stops then
        ([], c :: rest)
      else
        let copied := copyField stops room rest
        (c :: copied.1, copied.2)

structure RequestLine where
  method : List UInt8
  uri : List UInt8
  version : List UInt8
  deriving DecidableEq, Repr

/-- `none` is the return value -1. The sizes are those of the three buffers. -/
def parseHttpRequestLine (payload : List UInt8) (msz usz vsz : Nat) : Option RequestLine :=
  if payload = [] then
    none
  else
    match copyField [32] (msz - 1) payload with
    | (method, 32 :: afterMethod) =>
        match copyField [32, 13] (usz - 1) afterMethod with
        | (uri, 32 :: afterUri) =>
            some ⟨method, uri, (copyField [13, 10] (vsz - 1) afterUri).1⟩
        | _ => none
    | _ => none

inductive Method where
  | null
  | get
  | post
  deriving DecidableEq, Repr

/-- The routes of http.c; 0 is what an unknown path leaves. -/
inductive Route where
  | unknown
  | root
  | id (parameter : Nat)
  | about
  | faviconIco
  | indexHtml
  deriving DecidableEq, Repr

/-- `gramado_strncmp(field, text, strlen(text)) == 0` on a buffer that ends in
    a zero byte: the strings are the same and end together. -/
def same (field : List UInt8) (text : String) : Bool :=
  field.takeWhile (· ≠ 0) = bytes text

def methodId (method : List UInt8) : Method :=
  if same method "POST" then .post
  else if same method "GET" then .get
  else .null

def routeId (uri : List UInt8) : Route :=
  if same uri "/" then .root
  else if same uri "/id=0" then .id 0
  else if same uri "/id=1" then .id 1
  else if same uri "/id=2" then .id 2
  else if same uri "/id=3" then .id 3
  else if same uri "/id=4" then .id 4
  else if same uri "/about" then .about
  else if same uri "/favicon.ico" then .faviconIco
  else if same uri "/index.html" then .indexHtml
  else .unknown

/-- `__http_parse_first_line`, with the sizes of the three static buffers. -/
def httpParseFirstLine (payload : List UInt8) : Option (Method × Route) :=
  match parseHttpRequestLine payload 8 256 16 with
  | none => none
  | some line => some (methodId line.method, routeId line.uri)

/-- `body1` of `__build_root_view` and of `__build_index_view`. -/
def rootBody : String :=
  "<!DOCTYPE html>\n" ++
  "<html lang=\"en\">\n" ++
  "<head>\n" ++
  "<meta charset=\"utf-8\">\n" ++
  "<title>Gramado OS</title>\n" ++
  "<style>\n" ++
  "  body \x7b font-family: system-ui, sans-serif; margin: 0; padding: 0; background: #f5f5f5; \x7d\n" ++
  "  .container \x7b\n" ++
  "    max-width: 640px;\n" ++
  "    margin: 40px auto;\n" ++
  "    padding: 24px;\n" ++
  "    background: #fff;\n" ++
  "    border-radius: 8px;\n" ++
  "    box-shadow: 0 2px 8px rgba(0,0,0,0.08);\n" ++
  "    text-align: center;\n" ++
  "  \x7d\n" ++
  "  hr \x7b border: none; border-top: 1px solid #ddd; margin: 20px 0; \x7d\n" ++
  "  ul \x7b list-style: none; padding: 0; \x7d\n" ++
  "  li \x7b margin: 8px 0; \x7d\n" ++
  "  a \x7b color: #0066cc; text-decoration: none; \x7d\n" ++
  "  a:hover \x7b text-decoration: underline; \x7d\n" ++
  "</style>\n" ++
  "</head>\n" ++
  "<body>\n" ++
  "<div class=\"container\">\n" ++
  "<h1>Hello from Gramado OS!</h1>\n" ++
  "<hr>\n" ++
  "<p>This page was served directly from the <b>kernel</b>.</p>\n" ++
  "<p>Try exploring:</p>\n" ++
  "<ul>\n" ++
  "  <li><a href=\"/index.html\">Home</a></li>\n" ++
  "  <li><a href=\"/about\">About Gramado</a></li>\n" ++
  "  <li><a href=\"/id=1\">Special ID=1 page</a></li>\n" ++
  "</ul>\n" ++
  "<hr>\n" ++
  "<p>Port 11888 &mdash; Built by Fred Nora</p>\n" ++
  "</div>\n" ++
  "</body>\n" ++
  "</html>\n"

def idBody : String :=
  "<!DOCTYPE html>\n" ++
  "<html><head><title>ID Route</title></head>\n" ++
  "<body>\n" ++
  "<h1>Special ID Route</h1>\n" ++
  "<p>You requested /id=N. Each ID demonstrates a different status code.</p>\n" ++
  "<p>Try /id=2 for Created, /id=3 for Not Found, /id=4 for Server Error.</p>\n" ++
  "</body></html>\n"

def invalidIdBody : String :=
  "<!DOCTYPE html>\n" ++
  "<html lang=\"en\">\n" ++
  "<head>\n" ++
  "<meta charset=\"utf-8\">\n" ++
  "<title>Error</title>\n" ++
  "</head>\n" ++
  "<body>\n" ++
  "<h2>Oops! Invalid id</h2>\n" ++
  "<p>The server could not process your request.</p>\n" ++
  "</body>\n" ++
  "</html>\n"

def aboutBody : String :=
  "<!DOCTYPE html>\n" ++
  "<html><head><title>About Gramado</title></head>\n" ++
  "<body>\n" ++
  "<h1>About Gramado OS</h1>\n" ++
  "<p>Gramado is a hobby operating system built with curiosity and passion.</p>\n" ++
  "<p>It runs its own kernel, TCP/IP stack, and now serves web pages!</p>\n" ++
  "</body></html>\n"

def faviconBody : String :=
  "<!DOCTYPE html>\n" ++
  "<html><head><title>Favicon</title></head>\n" ++
  "<body>\n" ++
  "<h1>Favicon Placeholder</h1>\n" ++
  "<p>This route should serve an icon file, but for now it’s just a test page.</p>\n" ++
  "</body></html>\n"

def invalidBody : String :=
  "<!DOCTYPE html>\n" ++
  "<html><head><title>Error</title></head>\n" ++
  "<body>\n" ++
  "<h1>Error</h1>\n" ++
  "<p>Oops! The route you tried doesn’t exist.</p>\n" ++
  "<p>Return to <a href=\"/\">root</a> or try <a href=\"/index.html\">index.html</a>.</p>\n" ++
  "</body></html>\n"

/-- What all the views share: the head with its status and server lines, the
    length of the body, the connection line and the body. -/
def view (status server body : String) (method : Method) : List UInt8 :=
  bytes status ++ bytes server ++
    bytes "Content-Type: text/html; charset=utf-8\r\n" ++
    bytes "Content-Length: " ++ bytes (toString (bytes body).length) ++ bytes "\r\n" ++
    (match method with
      | .post => bytes "Connection: keep-alive\r\n"
      | _ => bytes "Connection: close\r\n") ++
    bytes "\r\n" ++ bytes body

def okLine : String := "HTTP/1.1 200 OK\r\n"

def iisLine : String := "Server: Microsoft-IIS/10.0\r\n"

def buildIdView (method : Method) (parameter : Nat) : List UInt8 :=
  match parameter with
  | 0 => view okLine "Server: Gramnet/0.1 (Gramado)\r\n" idBody method
  | 1 => view okLine "Server: Gramnet/0.1 (Gramado)\r\n" idBody method
  | 2 => view "HTTP/1.1 201 Created\r\n" "Server: Kerenel/0.8 (Gramado)\r\n" idBody method
  | 3 => view "HTTP/1.1 404 Not Found\r\n" "Server: Apache/2.4.41 (Ubuntu)\r\n" idBody method
  | 4 => view "HTTP/1.1 500 Internal Server Error\r\n" iisLine idBody method
  | _ => view okLine "Server: Gramnet/0.1 (Gramado)\r\n" invalidIdBody method

def dispatchRoute (method : Method) : Route → List UInt8
  | .root => view okLine iisLine rootBody method
  | .id parameter => buildIdView method parameter
  | .about => view okLine iisLine aboutBody method
  | .faviconIco => view okLine iisLine faviconBody method
  | .indexHtml => view okLine iisLine rootBody method
  | .unknown => view okLine iisLine invalidBody method

def safeMss : Nat := 1400

/-- The part of `gramnet_handle_http` before the send: the page, when the
    payload parses and the page fits the peer's window and one segment. -/
def httpResponse (payload : List UInt8) (peerWindow : UInt16) : Option (List UInt8) :=
  if payload.length < 4 then
    none
  else
    match httpParseFirstLine payload with
    | none => none
    | some (method, route) =>
        let resp := dispatchRoute method route
        if peerWindow.toNat < resp.length then none
        else if safeMss < resp.length then none
        else some resp

theorem httpResponse_fits {payload resp : List UInt8} {peerWindow : UInt16}
    (answered : httpResponse payload peerWindow = some resp) :
    resp.length ≤ safeMss := by
  unfold httpResponse at answered
  split at answered
  · cases answered
  · split at answered
    · cases answered
    · rename_i method route parsed
      by_cases wide : peerWindow.toNat < (dispatchRoute method route).length
      · simp [wide] at answered
      · by_cases long : safeMss < (dispatchRoute method route).length
        · simp [wide, long] at answered
        · simp only [wide, long, if_false, Option.some.injEq] at answered
          subst answered
          exact Nat.not_lt.mp long

example : httpParseFirstLine (bytes "GET /id=2 HTTP/1.1\r\n") = some (.get, .id 2) := by
  decide

end Gramado.Gramnet.Http
