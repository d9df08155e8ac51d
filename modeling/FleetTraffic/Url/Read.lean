import FleetTraffic.Text.Percent
import FleetTraffic.Url.Basic
import FleetTraffic.Url.Domain

/-!
# Reading URLs

A text is read as a URL without anything that it could be relative to. Control characters and spaces
around it and tabs and line breaks in it do not count. What may not stand as it is gets escaped, dots
that stand for the same or for the outer directory are resolved, and the usual port is left out.

Schemes of the web and of files tolerate more than other ones: backslashes are slashes, and any number
of slashes may stand before the host.
-/

namespace FleetTraffic.Url

open Text

/-- Whether a character ends the path of a URL. -/
def endsPath (c : Char) : Bool := c = '?' || c = '#'

/-- Whether a character is a slash for a kind of scheme. -/
def isSlash (kind : SchemeKind) (c : Char) : Bool := c = '/' || (c = '\\' && kind.isStandard)

/-- Whether a character ends the authority of a URL. -/
def endsAuthority (kind : SchemeKind) (c : Char) : Bool := isSlash kind c || endsPath c

/-- Whether a character is no printable ASCII character. -/
def isUnprintable (c : Char) : Bool := c.toNat < 0x20 || 0x7F ≤ c.toNat

/-- The characters that are escaped in a fragment. -/
def escapedInFragment (c : Char) : Bool := isUnprintable c || " \"<>\x60".toList.contains c

/-- The characters that are escaped in a path. -/
def escapedInPath (c : Char) : Bool := escapedInFragment c || "#?\x7b\x7d".toList.contains c

/-- The characters that are escaped in a user's name and password. -/
def escapedInUser (c : Char) : Bool := escapedInPath c || "/:;=@[\\]^|".toList.contains c

/-- The characters that are escaped in a query. -/
def escapedInQuery (kind : SchemeKind) (c : Char) : Bool :=
  isUnprintable c || " \"#<>".toList.contains c || (c = '\'' && kind.isStandard)

/-- The text that counts. -/
def significant (text : List Char) : List Char :=
  let isEdge (c : Char) : Bool := c.toNat ≤ 0x20
  let trimmed := ((text.dropWhile isEdge).reverse.dropWhile isEdge).reverse
  trimmed.filter fun c => c != '\t' && c != '\n' && c != '\r'

/-- The scheme of a URL in small letters, and what follows its colon. -/
def splitScheme? (text : List Char) : Option (String × List Char) :=
  let isPart (c : Char) : Bool := c.isAlphanum || c = '+' || c = '-' || c = '.'
  match text.takeWhile isPart, text.dropWhile isPart with
  | first :: rest, ':' :: after =>
    if first.isAlpha then some (String.ofList ((first :: rest).map Char.toLower), after) else none
  | _, _ => none

/-- Cut a text at its first character of a kind. -/
def cutAt (isEnd : Char → Bool) (text : List Char) : List Char × List Char :=
  (text.takeWhile fun c => !isEnd c, text.dropWhile fun c => !isEnd c)

/-- Cut the text of an authority after its last at sign, if it has one. -/
def cutUser (authority : List Char) : Option (List Char) × List Char :=
  let host := (authority.reverse.takeWhile (· != '@')).reverse
  if host.length = authority.length then (none, host)
  else (some (authority.take (authority.length - host.length - 1)), host)

/-- The written form of a user's name and password. -/
def readUser (written : List Char) : List Char :=
  let name := percentEncode escapedInUser (written.takeWhile (· != ':'))
  match written.dropWhile (· != ':') with
  | _ :: password =>
    if password = [] then name else name ++ ':' :: percentEncode escapedInUser password
  | [] => name

/-- Cut the text of a host and a port at the colon that is not in brackets. -/
def cutPort : Bool → List Char → List Char × List Char
  | _, [] => ([], [])
  | inBrackets, c :: rest =>
    if c = ':' && !inBrackets then ([], c :: rest)
    else
      let (host, port) := cutPort (c = '[' || (inBrackets && c != ']')) rest
      (c :: host, port)

/-- The port after a colon, if it is given and not the usual one. -/
def readPort (kind : SchemeKind) (written : List Char) : Except UrlError (Option Nat) :=
  match written with
  | [] => .ok none
  | _ :: [] => .ok none
  | _ :: port =>
    if port.all isDigit then
      if number port < UInt16.size then
        .ok (if kind = .web (number port) then none else some (number port))
      else .error .invalidPort
    else .error .invalidPort

/-- The address in brackets. -/
def readBrackets (written : List Char) : Except UrlError UrlHost :=
  if written.getLast? = some ']' then
    (Ipv6.ofText (written.drop 1).dropLast).map .ipv6
  else .error .invalidIpv6

/-- The host of a URL of the web or of a file, which is a domain name or an address. -/
def readDomain (written : List Char) : Except UrlError UrlHost := do
  if written.head? = some '[' then readBrackets written
  else
    match percentDecodeText? written with
    | none => .error .invalidDomain
    | some name => do
      let name ← Domain.toAscii name.toList
      if name = [] then .error .emptyHost
      else if Ipv4.looksLike name then return .ipv4 (← Ipv4.ofHost name)
      else return .name name

/-- The host of any other URL. -/
def readPlainHost (written : List Char) : Except UrlError UrlHost :=
  if written.head? = some '[' then readBrackets written
  else if written.any "\x00\t\n\r #/:<>?@[\\]^|".toList.contains then .error .invalidHostCharacter
  else .ok (.name (percentEncode isUnprintable written))

/-- The authority in front of a text, and what follows it. A backslash ends the port. Only at the end of
the text an at sign may stand alone. -/
def readAuthority (kind : SchemeKind) (text : List Char) :
    Except UrlError (UrlAuthority × List Char) := do
  let (written, after) := cutAt (endsAuthority kind) text
  let (user?, rest) := cutUser written
  let (host, port) := cutPort false rest
  let (port, afterPort) := cutAt (· = '\\') port
  let user := match user? with
    | some user => readUser user
    | none => []
  let isLoneSign := user? = some [] ∧ rest = [] ∧ after ≠ []
  if host = [] ∧ (kind.isStandard ∨ port ≠ [] ∨ user ≠ [] ∨ isLoneSign) then .error .emptyHost
  else
    let host ← if kind.isStandard then readDomain host else readPlainHost host
    return ({ user, host, port := ← readPort kind port }, afterPort ++ after)

/-- Whether a name stands for the directory that it is in. -/
def isSame (name : List Char) : Bool :=
  ["." , "%2e"].contains (String.ofList (name.map Char.toLower))

/-- Whether a name stands for the outer directory. -/
def isOuter (name : List Char) : Bool :=
  ["..", ".%2e", "%2e.", "%2e%2e"].contains (String.ofList (name.map Char.toLower))

/-- Whether a name stands for a drive: it is a letter with a colon or a bar. -/
def isDrive : List Char → Bool
  | [letter, mark] => letter.isAlpha && (mark = ':' || mark = '|')
  | _ => false

/-- How far a path has been followed. -/
structure PathWalk where
  /-- The names that have been entered. -/
  names : List (List Char)
  /-- Whether a drive has been entered from the root, so that the path is on no other host. -/
  onDrive : Bool := false

namespace PathWalk

/-- Go to the outer directory. A drive is not left. -/
def leave (walk : PathWalk) : PathWalk :=
  match walk.names.getLast? with
  | some last => if isDrive last then walk else { walk with names := walk.names.dropLast }
  | none => walk

/-- Enter a name. In a file system a drive at the root gets its usual form, and what follows the colon
in the same name is on the drive. -/
def enter (kind : SchemeKind) (walk : PathWalk) (name : List Char) : PathWalk :=
  let written := percentEncode escapedInPath name
  let same : PathWalk := { walk with names := walk.names ++ [written] }
  if kind = .file ∧ walk.names = [] then
    match written with
    | [letter, _] => if isDrive written then { names := [[letter, ':']], onDrive := true } else same
    | letter :: ':' :: rest =>
      if letter.isAlpha then { walk with names := [[letter, ':'], rest] } else same
    | _ => same
  else same

/-- Follow names. A path that ends with dots ends in a directory, which has an empty name in it. -/
def follow (kind : SchemeKind) : PathWalk → List (List Char) → PathWalk
  | walk, [] => walk
  | walk, name :: rest =>
    let inside (reached : PathWalk) : PathWalk :=
      if rest = [] then { reached with names := reached.names ++ [[]] } else reached
    if isOuter name then follow kind (inside walk.leave) rest
    else if isSame name then follow kind (inside walk) rest
    else follow kind (walk.enter kind name) rest

end PathWalk

/-- Names without the empty ones in front of another one. -/
def dropEmptyFront : List (List Char) → List (List Char)
  | [] :: name :: rest => dropEmptyFront (name :: rest)
  | names => names

/-- Follow a path from some names on. A first slash adds nothing. -/
def readPath (kind : SchemeKind) (start : List (List Char)) (written : List Char) : PathWalk :=
  let slashed := written.map fun c => if isSlash kind c then '/' else c
  let names := match slashed with
    | '/' :: rest => piecesBetween '/' rest
    | [] => if kind.isStandard then [[]] else []
    | _ => piecesBetween '/' slashed
  let walk := PathWalk.follow kind { names := start } names
  if kind = .file then { walk with names := dropEmptyFront walk.names } else walk

/-- The query and the fragment of a URL. -/
def readTail (kind : SchemeKind) (written : List Char) : Option (List Char) × Option (List Char) :=
  let (query, rest) := cutAt (· = '#') written
  let query := match query with
    | _ :: query => some (percentEncode (escapedInQuery kind) query)
    | [] => none
  let fragment := match rest with
    | _ :: fragment => some (percentEncode escapedInFragment fragment)
    | [] => none
  (query, fragment)

/-- A URL from its parts, of which the path is still to be read. -/
def ofParts (kind : SchemeKind) (scheme : String) (authority : Option UrlAuthority)
    (rest : List Char) : Url :=
  let (path, tail) := cutAt endsPath rest
  let (query, fragment) := readTail kind tail
  { scheme, authority, path := .names (readPath kind [] path).names, query, fragment }

/-- The URL of a scheme and what follows the slashes in front of its authority. -/
def readAfterSlashes (kind : SchemeKind) (scheme : String) (rest : List Char) :
    Except UrlError Url := do
  let (authority, rest) ← readAuthority kind rest
  return ofParts kind scheme (some authority) rest

/-- The authority of files on this host. -/
def thisHost : UrlAuthority := { host := .name [] }

/-- The URL of a file on a host. The path begins with some names. A drive is on this host. -/
def fileOn (host : UrlHost) (start : List (List Char)) (rest : List Char) : Url :=
  let (path, tail) := cutAt endsPath rest
  let (query, fragment) := readTail .file tail
  let walk := readPath .file start path
  { scheme := "file"
    authority := some (if walk.onDrive then thisHost else { host })
    path := .names walk.names
    query
    fragment }

/-- The URL of a file. Where the host is left out, the slash after it makes an empty name. -/
def readFile (rest : List Char) : Except UrlError Url := do
  match rest with
  | first :: second :: after =>
    if isSlash .file first && isSlash .file second then
      let (host, path) := cutAt (endsAuthority .file) after
      if isDrive host then return fileOn (.name []) [] after
      else if host = [] then return fileOn (.name []) [[]] path
      else
        let host ← readDomain host
        return fileOn (if host = .name "localhost".toList then .name [] else host) [] path
    else return fileOn (.name []) [] rest
  | _ => return fileOn (.name []) [] rest

/-- The URL of a scheme that is none of the web or of files. -/
def readOther (scheme : String) (rest : List Char) : Except UrlError Url :=
  match rest with
  | '/' :: '/' :: rest => readAfterSlashes .other scheme rest
  | '/' :: _ => .ok (ofParts .other scheme none rest)
  | _ =>
    let (path, tail) := cutAt endsPath rest
    let (query, fragment) := readTail .other tail
    .ok { scheme, path := .flat (percentEncode isUnprintable path), query, fragment }

/-- Read a URL. -/
def ofText (written : String) : Except UrlError Url :=
  match splitScheme? (significant written.toList) with
  | none => .error .noScheme
  | some (scheme, rest) =>
    match SchemeKind.ofName scheme with
    | .file => readFile rest
    | .web port => readAfterSlashes (.web port) scheme (rest.dropWhile (isSlash (.web port)))
    | .other => readOther scheme rest

end FleetTraffic.Url
