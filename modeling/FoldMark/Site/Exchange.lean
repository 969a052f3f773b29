import FoldMark.Site.Response

/-!
# Exchanges

A site answers the requests of one method. The path of a request is taken as it was sent, without
its query, and only where that is not known as it was decoded on the way. A path that differs in its
last slash from one that can be answered is sent there.
-/

namespace FoldMark.Site

open Text

/-- The path of a request, undecoded if it is known so. -/
def requestPath (raw : Option (List UInt8)) (decoded : List Char) : List Char :=
  match raw with
  | none | some [] => '/' :: decoded
  | some bytes => (Utf8.decodeLossy bytes).takeWhile (· != '?')

/-- The part of a decoded path that names a document, if the path is one that the site has: it
starts with a slash, and no line ends before its last character. -/
def documentPath? : List Char → Option (List Char)
  | '/' :: rest =>
    let line := rest.takeWhile (· != '\n')
    if line.length + 1 ≥ rest.length then some line else none
  | _ => none

/-- The path with a slash more at its end, or with none. -/
def otherEnding (path : List Char) : List Char :=
  if path.getLast? == some '/' then dropTrailing (· == '/') path else path ++ ['/']

/-- A JSON answer that tells what went wrong. -/
def detail (status : Nat) (phrase : String) : Response :=
  ⟨status, some "application/json", "\x7b\"detail\":\"" ++ phrase ++ "\"\x7d"⟩

/-- The answer to a path that the site does not have. -/
def unknownPath (path : List Char) : Response :=
  if path != ['/'] && (documentPath? (otherEnding path)).isSome then ⟨307, none, []⟩
  else detail 404 "Not Found"

/-- What a server sends back, and the fault that it hides, if there was one. -/
structure Exchange where
  /-- The answer. -/
  response : Response
  /-- The fault. -/
  fault : Option Fault

/-- What a server sends where there is no answer. -/
def faultResponse : Response :=
  ⟨500, some "text/plain; charset=utf-8", "Internal Server Error"⟩

/-- What a server sends for an answer, whose body must have bytes. -/
def Exchange.ofResponse (response : Response) : Exchange :=
  match response.body.chars? with
  | some _ => ⟨response, none⟩
  | none => ⟨faultResponse, some (.unencodable response.body)⟩

/-- Serves a request: its method, and the path with the query as it was sent. -/
def serve (tree : Tree) (extensions : Extensions) (root : Path) (index : List Char)
    (method : String) (target : List Char) : Exchange :=
  let raw := target.takeWhile (· != '?')
  let path := Percent.decode raw
  match documentPath? path with
  | none => ⟨unknownPath path, none⟩
  | some document =>
    if method != "GET" then ⟨detail 405 "Method Not Allowed", none⟩
    else
      match respond tree extensions root index (requestPath (some (Utf8.encode raw)) document) with
      | .ok response => .ofResponse response
      | .error fault => ⟨faultResponse, some fault⟩

end FoldMark.Site
