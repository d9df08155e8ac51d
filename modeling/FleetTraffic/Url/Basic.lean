import FleetTraffic.Url.Address

/-!
# URLs

The parts of a URL and its written form. Texts in the parts are written as they stand in the URL, with
their escapes.
-/

namespace FleetTraffic

open Text

/-- What kind of scheme a URL has. -/
inductive SchemeKind where
  /-- Files on some host, which may be this one. -/
  | file
  /-- A scheme of the web, with the port that it uses if no other one is given. -/
  | web (port : Nat)
  | other
  deriving DecidableEq

namespace SchemeKind

/-- The kind of a scheme. -/
def ofName (scheme : String) : SchemeKind :=
  match scheme with
  | "file" => .file
  | "http" => .web 80
  | "ws" => .web 80
  | "https" => .web 443
  | "wss" => .web 443
  | "ftp" => .web 21
  | _ => .other

/-- Whether a URL of this kind always has a host and a hierarchy. -/
def isStandard (kind : SchemeKind) : Bool := kind != .other

end SchemeKind

/-- The host of a URL. -/
inductive UrlHost where
  | name (written : List Char)
  | ipv4 (address : Ipv4)
  | ipv6 (address : Ipv6)
  deriving DecidableEq

namespace UrlHost

/-- The written form of a host. -/
def text : UrlHost → List Char
  | .name written => written
  | .ipv4 address => address.text
  | .ipv6 address => '[' :: address.text ++ [']']

end UrlHost

/-- Where a URL leads: the host, the port if it is not the usual one, and who asks. -/
structure UrlAuthority where
  /-- The user's name and password, with a colon before the password. -/
  user : List Char := []
  host : UrlHost
  port : Option Nat := none
  deriving DecidableEq

namespace UrlAuthority

/-- The written form of an authority. -/
def text (authority : UrlAuthority) : List Char :=
  let user := if authority.user = [] then [] else authority.user ++ ['@']
  let port := match authority.port with
    | some port => ':' :: digits port
    | none => []
  user ++ authority.host.text ++ port

end UrlAuthority

/-- The path of a URL. -/
inductive UrlPath where
  /-- Names from the root on, the last of which may be empty. -/
  | names (names : List (List Char))
  /-- A text without a hierarchy. -/
  | flat (written : List Char)
  deriving DecidableEq

/-- A URL. -/
structure Url where
  scheme : String
  authority : Option UrlAuthority := none
  path : UrlPath
  query : Option (List Char) := none
  fragment : Option (List Char) := none
  deriving DecidableEq

namespace Url

/-- The written form of a path. Without an authority, a path that begins with an empty name is marked
by a dot, because two slashes would announce an authority. -/
def pathText (url : Url) : List Char :=
  match url.path with
  | .flat written => written
  | .names names =>
    let written := names.flatMap ('/' :: ·)
    match url.authority, names with
    | none, [] :: _ :: _ => '/' :: '.' :: written
    | _, _ => written

/-- The written form of a URL. -/
def text (url : Url) : String :=
  let authority := match url.authority with
    | some authority => '/' :: '/' :: authority.text
    | none => []
  let query := match url.query with
    | some query => '?' :: query
    | none => []
  let fragment := match url.fragment with
    | some fragment => '#' :: fragment
    | none => []
  String.ofList (url.scheme.toList ++ ':' :: authority ++ url.pathText ++ query ++ fragment)

/-- Whether a name is a letter with a colon, the usual form of a drive. -/
def isUsualDrive : List Char → Bool
  | [letter, ':'] => letter.isAlpha
  | _ => false

/-- The names of a path with another name beside the last one. In a file system a last name that is a
drive is not replaced: the other name is on the drive if that is all of the path, and otherwise becomes
part of the last name. -/
def besideLast (kind : SchemeKind) (names : List (List Char)) (name : List Char) :
    List (List Char) :=
  match names.getLast? with
  | none => [name]
  | some last =>
    if kind = .file ∧ isUsualDrive last then
      if names.length = 1 then [last, name] else names.dropLast ++ [last ++ name]
    else names.dropLast ++ [name]

/-- The URL of a name beside the last one of a path. -/
def sibling (url : Url) (name : String) : Except UrlError Url :=
  match url.path with
  | .flat _ => .error .noHierarchy
  | .names names =>
    .ok { url with
      path := .names (besideLast (.ofName url.scheme) names name.toList)
      query := none
      fragment := none }

end Url

end FleetTraffic
