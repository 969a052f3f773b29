import FoldMark.Text.Case
import FoldMark.Text.Blank
import FoldMark.Text.Percent
import FoldMark.Text.Punycode

/-!
# Link destinations

A destination is taken apart into scheme, user, host, port and the rest, its host is written in
ASCII, and what no URL may hold is escaped (`normalize`). `display` goes the other way, for the
text of an automatic link. `isSafe` refuses the schemes that run code or read local data.
-/

namespace FoldMark.Markdown

open FoldMark.Text

/-- The parts of a destination that normalising changes, and the rest. -/
structure Url where
  /-- The scheme with its colon. -/
  scheme : List Char := []
  /-- Whether two slashes follow the scheme. -/
  slashes : Bool := false
  /-- What stands before the at sign of the authority. -/
  user : List Char := []
  /-- The host, without the brackets of a numeric address. -/
  host : List Char := []
  /-- The port. -/
  port : List Char := []
  /-- Path, query and fragment. -/
  tail : List Char := []

namespace Url

/-- Characters that end the authority. -/
def endsAuthority (c : Char) : Bool := c == '/' || c == '?' || c == '#'

/-- Characters that no host name holds. -/
def endsHost (c : Char) : Bool :=
  ['%', '/', '?', ';', '#', '\'', '\x7b', '\x7d', '|', '\\', '^', '\x60', '<', '>', '"', ' ', '\r',
    '\n', '\t'].contains c

/-- Characters of a host name's label. -/
def isLabelChar (c : Char) : Bool := isAsciiAlphanumeric c || c == '+' || c == '_' || c == '-'

/-- The longest label. -/
def maxLabel : Nat := 63

/-- The longest host name. -/
def maxHost : Nat := 255

/-- Characters of a scheme. Four letters outside ASCII are other cases of I, K and S and count as
these: the dotted and the dotless I, the Kelvin sign and the long S. -/
def isSchemeChar (c : Char) : Bool :=
  isAsciiAlphanumeric c ||
    ['.', '+', '-', '\u0130', '\u0131', '\u017F', '\u212A'].contains c

/-- The scheme at the front of a text with its colon, if there is one. -/
def splitScheme (text : List Char) : List Char × List Char :=
  let name := text.takeWhile isSchemeChar
  match text.drop name.length with
  | ':' :: rest => if name.isEmpty then ([], text) else (name ++ [':'], rest)
  | _ => ([], text)

/-- A scheme whose rest never names a host. -/
def isHostless (scheme : List Char) : Bool := scheme == "javascript:".toList

/-- A scheme that names a host only after two slashes. -/
def isSlashed (scheme : List Char) : Bool :=
  ["http:", "https:", "ftp:", "gopher:", "file:"].any fun name => scheme == name.toList

/-- Cuts a text after the last character that satisfies the test, which is dropped. -/
def cutAtLast (test : Char → Bool) (text : List Char) : Option (List Char × List Char) :=
  (cutAt test text.reverse).map fun (after, before) => (before.reverse, after.reverse)

/-- Takes the port, a colon and digits, off the end of a host. -/
def splitPort (host : List Char) : List Char × List Char :=
  match cutAtLast (· == ':') host with
  | some (name, digits) => if digits.all Char.isDigit then (name, digits) else (host, [])
  | none => (host, [])

/-- Whether a label is well formed when characters outside ASCII are taken for letters. -/
def isLabel (label : List Char) : Bool :=
  label.length ≤ maxLabel && label.all fun c => isLabelChar c || c.toNat > 127

/-- The leading labels that are well formed, and what follows them: the first that is not is cut
where it stops being one. -/
def splitHost : List (List Char) → List (List Char) × Option (List (List Char))
  | [] => ([], none)
  | label :: labels =>
    if isLabel label then
      let (valid, rest) := splitHost labels
      (label :: valid, rest)
    else
      let start := (label.takeWhile isLabelChar).take maxLabel
      ([start], some (label.drop start.length :: labels))

/-- Joins labels by full stops. -/
def joinLabels (labels : List (List Char)) : List Char := ['.'].intercalate labels

/-- The host at the front of a text with its port. A colon at its end is left to what follows. Where
no host stands, a colon at the end of the text does the same, and all before it is taken. -/
def hostWithPort (text : List Char) : List Char :=
  let host := text.takeWhile fun c => !endsHost c
  let taken := if host.isEmpty then text else host
  if taken.getLast? == some ':' then taken.dropLast else host

/-- Reads the authority at the front of a text into the parts of a destination. -/
def withAuthority (url : Url) (text : List Char) : Url :=
  let authority := text.takeWhile fun c => !endsAuthority c
  let (user, text) := match cutAtLast (· == '@') authority with
    | some (user, _) => (user, text.drop (user.length + 1))
    | none => ([], text)
  let host := hostWithPort text
  let tail := text.drop host.length
  let (host, port) := splitPort host
  if host.head? == some '[' && host.getLast? == some ']' then
    let host := if host.length > maxHost then [] else (host.drop 1).dropLast
    { url with user, host, port, tail }
  else
    let (valid, rest) := splitHost (splitAt (· == '.') host)
    let host := joinLabels valid
    let host := if host.length > maxHost then [] else host
    let tail := match rest with
      | some labels => joinLabels labels ++ tail
      | none => tail
    { url with user, host, port, tail }

/-- Takes a destination apart. -/
def parse (text : List Char) : Url :=
  let (scheme, rest) := splitScheme (trim text)
  if isHostless scheme then { scheme, tail := rest }
  else
    match rest with
    | '/' :: '/' :: rest => withAuthority { scheme, slashes := true } rest
    | _ =>
      if !scheme.isEmpty && !isSlashed scheme then withAuthority { scheme } rest
      else { scheme, tail := rest }

/-- A host that holds a colon is a numeric address, which stands in brackets. -/
def isNumericHost (url : Url) : Bool := url.host.contains ':'

/-- The text before the host. -/
def beforeHost (url : Url) : List Char :=
  url.scheme ++ (if url.slashes then ['/', '/'] else []) ++
    (if url.user.isEmpty then [] else url.user ++ ['@'])

/-- The text after the host. -/
def afterHost (url : Url) : List Char :=
  (if url.port.isEmpty then [] else ':' :: url.port) ++ url.tail

/-- Puts a destination together. -/
def format (url : Url) : List Char :=
  url.beforeHost ++ (if url.isNumericHost then ['['] ++ url.host ++ [']'] else url.host) ++
    url.afterHost

/-- Schemes whose host is written in ASCII. -/
def hasName (url : Url) : Bool :=
  !url.host.isEmpty &&
    ["", "http:", "https:", "mailto:"].any fun name => url.scheme == name.toList

/-- The full stop and its ideographic and half-width forms. -/
def isLabelEnd (c : Char) : Bool := ['.', '\u3002', '\uFF0E', '\uFF61'].contains c

/-- The mark of a label in ASCII form. -/
def asciiMark : List Char := "xn--".toList

/-- A label in ASCII form. -/
def asciiLabel (label : List Char) : List Char :=
  if label.any fun c => c.toNat > 0x7E then asciiMark ++ Punycode.encode label else label

/-- The label that an ASCII form stands for. -/
def unicodeLabel? (label : List Char) : Option (List Char) :=
  if asciiMark.isPrefixOf label then Punycode.decode? (lower (label.drop asciiMark.length))
  else some label

/-- Writes the host in ASCII. -/
def toAscii (url : Url) : Url :=
  if url.hasName then
    { url with host := joinLabels ((splitAt isLabelEnd url.host).map asciiLabel) }
  else url

/-- Writes the host in Unicode, if all of its labels can be. -/
def toUnicode (url : Url) : Url :=
  if url.hasName then
    match (splitAt isLabelEnd url.host).mapM unicodeLabel? with
    | some labels => { url with host := joinLabels labels }
    | none => url
  else url

/-- Characters that escaping leaves alone. -/
def isUnescaped (c : Char) : Bool :=
  isAsciiAlphanumeric c || ";/?:@&=+$,-_.!~*'()#".toList.contains c

/-- Escapes what no destination may hold; an escape stays as it is. -/
def escape : List Char → List Char
  | '%' :: a :: b :: rest =>
    if isHexDigit a && isHexDigit b then '%' :: a :: b :: escape rest
    else Percent.escapeChar '%' ++ escape (a :: b :: rest)
  | c :: rest => (if isUnescaped c then [c] else Percent.escapeChar c) ++ escape rest
  | [] => []

/-- The bytes of the escapes at the front of a text. -/
def leadingBytes : List Char → List UInt8
  | '%' :: a :: b :: rest =>
    match Percent.byte? a b with
    | some byte => byte.toUInt8 :: leadingBytes rest
    | none => []
  | _ => []

/-- Characters whose escape has a meaning of its own, which displaying keeps. -/
def keepsEscape (c : Char) : Bool := ";/?:@&=+$,#%".toList.contains c

/-- Replaces escapes by what they stand for, in at most `fuel` steps. -/
def unescapeWithin : Nat → List Char → List Char
  | 0, text => text
  | _ + 1, [] => []
  | fuel + 1, c :: rest =>
    match leadingBytes (c :: rest) with
    | [] => c :: unescapeWithin fuel rest
    | bytes =>
      (Utf8.decodeBytewise bytes).flatMap
        (fun d => if keepsEscape d then Percent.escapeChar d else [d])
        ++ unescapeWithin fuel (rest.drop (3 * bytes.length - 1))

/-- Replaces escapes by what they stand for. -/
def unescape (text : List Char) : List Char := unescapeWithin text.length text

/-- A destination as it is written to an attribute. -/
def normalize (text : List Char) : List Char :=
  let url := (parse text).toAscii
  let host := if url.isNumericHost then ['['] ++ escape url.host ++ [']'] else escape url.host
  if url.isNumericHost then escape url.beforeHost ++ host ++ escape url.afterHost
  else escape url.format

/-- A destination as it is shown to a reader. -/
def display (text : List Char) : List Char := unescape (parse text).toUnicode.format

/-- Whether a text starts with another. -/
def startsWith (text : List Char) (start : String) : Bool := start.toList.isPrefixOf text

/-- Refuses destinations that run code or read local data, pictures apart. -/
def isSafe (text : List Char) : Bool :=
  let text := lower (trim text)
  if ["vbscript:", "javascript:", "file:", "data:"].any (startsWith text) then
    ["data:image/gif;", "data:image/png;", "data:image/jpeg;", "data:image/webp;"].any
      (startsWith text)
  else true

end Url

end FoldMark.Markdown
