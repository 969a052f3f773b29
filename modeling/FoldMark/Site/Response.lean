import FoldMark.Fault
import FoldMark.Page.File
import FoldMark.Site.Request

/-!
# Responses

A request is answered with the document it names, read and rendered anew. A file counts only if it
lies below the root after all links are followed. What keeps a document from being written is a page
that tells its status; a few faults of front matter stop the answer altogether.
-/

namespace FoldMark.Site

open Text

/-- An answer. -/
structure Response where
  /-- The status. -/
  status : Nat
  /-- The media type, if there is a body. -/
  mediaType : Option String
  /-- The body. -/
  body : CodeText
  deriving DecidableEq, Repr

/-- The media type of pages. -/
def htmlType : String := "text/html; charset=utf-8"

/-- The media type of an output format. -/
def mediaTypeOf : PayloadFormat → String
  | .html => htmlType
  | .json => "application/json"
  | .yaml => "application/yaml"
  | .toml => "application/toml"

/-- Why a request has no document. -/
inductive Failure where
  /-- It leads out of the root. -/
  | forbidden
  /-- There is no such document. -/
  | notFound
  /-- The document cannot be rendered. -/
  | broken
  deriving DecidableEq, Repr

/-- The status of a failure and its phrase. -/
def Failure.status : Failure → Nat × String
  | forbidden => (403, "Forbidden")
  | notFound => (404, "Not Found")
  | broken => (500, "Internal Server Error")

/-- The page that tells a status. -/
def Failure.response (failure : Failure) : Response :=
  let (status, phrase) := failure.status
  let title := toString status ++ " " ++ phrase
  let page := "<!DOCTYPE html>\n<title>" ++ title ++ "</title>\n<h1>" ++ title ++ "</h1>\n"
  ⟨status, some htmlType, page⟩

/-- The path of a candidate, in which single dots do not count. -/
def pathBelow (root : Place) (names : List Name) : Path :=
  (Tree.pathOf root).append (names.filter (· != Name.here))

/-- The path that a candidate leads to: the index of a directory, or the candidate itself. -/
def candidatePath (tree : Tree) (root : Place) (index : List Char) (names : List Name) :
    Except FileError Path := do
  let path := pathBelow root names
  if ← tree.isDirectory path then .ok (path.join (Path.parse index)) else .ok path

/-- Whether a path leads to a document. -/
def isDocument (tree : Tree) (path : Path) : Except FileError Bool := do
  return (← tree.isFile path) && path.isMarkdown

/-- Whether a place lies below another. -/
def isBelow (root place : Place) : Bool := root.isPrefixOf place && place != root

/-- The place of the first candidate that is a document. It must lie below the root. -/
def findSource (tree : Tree) (root : Place) (index : List Char) :
    List (List Name) → Except Failure Place
  | [] => .error .notFound
  | names :: rest =>
    match candidatePath tree root index names with
    | .error _ => .error .notFound
    | .ok path =>
      match isDocument tree path with
      | .error _ => .error .notFound
      | .ok false => findSource tree root index rest
      | .ok true =>
        match tree.resolve path with
        | .error _ => .error .notFound
        | .ok place => if isBelow root place then .ok place else .error .forbidden

/-- The answer that a page is in an output format. -/
def Response.ofPage (page : Page) (format : PayloadFormat) : Except Fault Response :=
  match page.write format with
  | .ok body => .ok ⟨200, some (mediaTypeOf format), body⟩
  | .error error =>
    if error.isRefusal then .ok Failure.broken.response else .error (.writer error)

/-- The answer that the document at a place is. -/
def respondWith (tree : Tree) (extensions : Extensions) (place : Place) (format : PayloadFormat) :
    Except Fault Response :=
  match Page.ofFile tree extensions (Tree.pathOf place) with
  | .ok page => Response.ofPage page format
  | .error (.page (.stopped error)) => .error (.frontMatter error)
  | .error _ => .ok Failure.broken.response

/-- Answers a request for the path of a URL. -/
def respond (tree : Tree) (extensions : Extensions) (root : Path) (index url : List Char) :
    Except Fault Response :=
  match Request.ofUrl url with
  | .error _ => .ok Failure.forbidden.response
  | .ok request =>
    match tree.resolve root with
    | .error error => .error (.place error)
    | .ok root =>
      match findSource tree root index request.candidates with
      | .error failure => .ok failure.response
      | .ok place => respondWith tree extensions place request.format

end FoldMark.Site
