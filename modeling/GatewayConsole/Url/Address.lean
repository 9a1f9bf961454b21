import GatewayConsole.Text.Blank
import GatewayConsole.Url.Host

/-!
# Addresses

Addresses of the web and of other schemes: a scheme, a host where there is one, a path, and
perhaps a query and a fragment. Reading an address brings it into one normal form: schemes
and hosts small, ports left out where they are the usual ones, steps up and steps in place
taken out of the path.
-/

namespace GatewayConsole

/-! ## Parts -/

structure Authority where
  /-- A name and a password, escaped, with the mark that ends them. -/
  user : String
  host : Option Host
  port : Option Nat
deriving DecidableEq, Repr

/-- Where an address leads: along a path, perhaps on a host, or to a text that is no
path. -/
inductive Place
  | path (authority : Option Authority) (segments : List String)
  | plain (text : String)
deriving DecidableEq, Repr

structure Url where
  scheme : String
  place : Place
  query : Option String
  fragment : Option String
deriving DecidableEq, Repr

namespace Url

def webSchemes : List (String × Option Nat) :=
  [("http", some 80), ("https", some 443), ("ws", some 80), ("wss", some 443), ("ftp", some 21),
    ("file", none)]

def isWebScheme (scheme : String) : Bool :=
  webSchemes.any (·.1 == scheme)

def usualPort? (scheme : String) : Option Nat :=
  (webSchemes.find? (·.1 == scheme)).bind (·.2)

/-! ## Writing -/

def authorityText (authority : Authority) : String :=
  "//" ++ authority.user ++ (authority.host.map Host.text).getD ""
    ++ (authority.port.map fun port => ":" ++ toString port).getD ""

def pathText (segments : List String) : String :=
  String.join (segments.map ("/" ++ ·))

/-- What follows the scheme. A path that would read as a host has a step in place in
front. -/
def placeText : Place → String
  | .path (some authority) segments => authorityText authority ++ pathText segments
  | .path none segments =>
      (if segments.head? == some "" && 1 < segments.length then "/." else "") ++ pathText segments
  | .plain text => text

def queryText (query : Option String) : String :=
  (query.map ("?" ++ ·)).getD ""

def text (url : Url) : String :=
  url.scheme ++ ":" ++ placeText url.place ++ queryText url.query
    ++ (url.fragment.map ("#" ++ ·)).getD ""

def target (url : Url) : String :=
  (match url.place with
    | .path _ segments => pathText segments
    | .plain text => text) ++ queryText url.query

/-! ## Reading a path -/

def isHere (segment : List Char) : Bool :=
  [".", "%2e", "%2E"].any (·.toList == segment)

def isUp (segment : List Char) : Bool :=
  ["..", ".%2e", ".%2E", "%2e.", "%2E.", "%2e%2e", "%2e%2E", "%2E%2e", "%2E%2E"].any
    (·.toList == segment)

def beginsWithDrive : List Char → Bool
  | letter :: mark :: rest =>
      letter.isAlpha && (mark == ':' || mark == '|') && (rest.isEmpty || rest.head? == some '\\')
  | _ => false

def isDrive (segment : List Char) : Bool :=
  segment.length == 2 && beginsWithDrive segment

/-- Go a step up. There is no step up from a drive. -/
def stepUp (segments : List String) : List String :=
  match segments.getLast? with
  | some last => if beginsWithDrive last.toList then segments else segments.dropLast
  | none => []

/-- Go along segments. A step at the end leaves an empty segment behind. -/
def walk (segments : List String) : List (List Char) → List String
  | [] => segments
  | segment :: rest =>
      if isUp segment then
        walk (if rest.isEmpty then stepUp segments ++ [""] else stepUp segments) rest
      else if isHere segment then walk (if rest.isEmpty then segments ++ [""] else segments) rest
      else walk (segments ++ [String.ofList (escape .path segment)]) rest

/-- Whether a character separates segments. On the web a backslash does, too. -/
def isSlash (web : Bool) (char : Char) : Bool :=
  char == '/' || (web && char == '\\')

def segmentsOf (web : Bool) (chars : List Char) : List String :=
  match chars with
  | [] => if web then [""] else []
  | char :: rest =>
      walk [] (Text.splitWhere (isSlash web) (if isSlash web char then rest else char :: rest))

/-! ## Reading an authority -/

def userText (chars : List Char) : String :=
  let name := chars.takeWhile (· != ':')
  let password := (chars.drop name.length).drop 1
  let written := escape .user name
    ++ if password.isEmpty then [] else ':' :: escape .user password
  if written.isEmpty then "" else String.ofList (written ++ ['@'])

/-- Cut a host from its port: at the first colon that is not in brackets. -/
def splitPort (inBrackets : Bool) : List Char → List Char × Option (List Char)
  | [] => ([], none)
  | char :: rest =>
      if char == ':' && !inBrackets then ([], some rest)
      else
        let (host, port) :=
          splitPort (if char == '[' then true else if char == ']' then false else inBrackets) rest
        (char :: host, port)

def portOf (scheme : String) (digits : Option (List Char)) : Except UrlError (Option Nat) :=
  match digits with
  | none | some [] => .ok none
  | some digits =>
      if digits.all Char.isDigit then
        match Host.valueIn? 10 digits with
        | some port =>
            if 65535 < port then .error .invalidPort
            else .ok (if usualPort? scheme == some port then none else some port)
        | none => .error .invalidPort
      else .error .invalidPort

/-- Cut the digits of a port from a path that begins with a backslash behind them. -/
def splitPortEnd (port : Option (List Char)) : Option (List Char) × List Char :=
  match port with
  | none => (none, [])
  | some port =>
      let digits := port.takeWhile (· != '\\')
      (some digits, port.drop digits.length)

/-- Read an authority, and say what of the path has been written with it. Only addresses of
other schemes can do without a host, and then they name no user and no port. -/
def authorityOf (scheme : String) (chars rest : List Char) :
    Except UrlError (Authority × List Char) := do
  let web := isWebScheme scheme
  let (user, place) := (Text.splitAtLast? '@' chars).getD ([], chars)
  let (name, port) := splitPort false place
  let (port, path) := splitPortEnd port
  let written := userText user
  let isBare := user.isEmpty && place.length < chars.length && !rest.isEmpty
  if name.isEmpty then
    if web || written != "" || isBare || port.isSome then throw .emptyHost
    return (⟨"", none, none⟩, path)
  let host ← Host.ofText web name
  let port ← portOf scheme port
  return (⟨written, some host, port⟩, path)

/-! ## Reading an address -/

/-- Whether a character is dropped at the ends of an address. -/
def isEdge (char : Char) : Bool :=
  char.toNat ≤ 0x20

/-- Whether a character is dropped everywhere in an address. -/
def isBreak (char : Char) : Bool :=
  char == '\t' || char == '\n' || char == '\r'

def schemeOf? (chars : List Char) : Option (String × List Char) :=
  let scheme := chars.takeWhile fun char =>
    char.isAlphanum || char == '+' || char == '-' || char == '.'
  match scheme, chars.drop scheme.length with
  | first :: _, ':' :: rest =>
      if first.isAlpha then some (String.ofList (scheme.map Char.toLower), rest) else none
  | _, _ => none

def endsPath (char : Char) : Bool :=
  char == '?' || char == '#'

def tailOf (web : Bool) (chars : List Char) : Option String × Option String :=
  let query := chars.takeWhile (· != '#')
  let fragment := (chars.drop query.length).drop 1
  (if query.isEmpty then none
    else some (String.ofList (escape (if web then .webQuery else .query) (query.drop 1))),
    if query.length < chars.length then some (String.ofList (escape .fragment fragment)) else none)

def withTail (scheme : String) (place : Place) (chars : List Char) : Url :=
  let (query, fragment) := tailOf (isWebScheme scheme) chars
  ⟨scheme, place, query, fragment⟩

def ofAuthority (scheme : String) (chars : List Char) : Except UrlError Url := do
  let web := isWebScheme scheme
  let written := chars.takeWhile fun char => !(isSlash web char || endsPath char)
  let rest := chars.drop written.length
  let (authority, front) ← authorityOf scheme written rest
  let path := rest.takeWhile fun char => !endsPath char
  return withTail scheme (.path (some authority) (segmentsOf web (front ++ path)))
    (rest.drop path.length)

/-! ### Files -/

def nowhere : Authority := ⟨"", none, none⟩

def fileSegments (path : List Char) : List String :=
  match (segmentsOf true path).dropWhile (· == "") with
  | [] => [""]
  | segments => segments

/-- The path of a file that follows a host or begins without a slash. A drive in front of it
is written with a colon, and is on no other machine. -/
def drivePlace (authority : Authority) (path : List Char) : Place :=
  match segmentsOf true path with
  | first :: rest =>
      match first.toList with
      | [letter, mark] =>
          if isDrive [letter, mark] then
            .path (some nowhere) (String.ofList [letter, ':'] :: rest)
          else .path (some authority) (fileSegments path)
      | _ => .path (some authority) (fileSegments path)
  | [] => .path (some authority) [""]

/-- The machine that a file is on; none, if it is this one. -/
def fileHost? (name : List Char) : Except UrlError (Option Host) := do
  if name.isEmpty then return none
  let host ← Host.ofText true name
  return if host == .domain "localhost" then none else some host

/-- Read the address of a file. Two slashes are in front of a host; where a drive stands in
its place, there is none. -/
def ofFile (chars : List Char) : Except UrlError Url := do
  let path := chars.takeWhile fun char => !endsPath char
  let rest := chars.drop path.length
  let place ← match path.takeWhile (isSlash true) with
    | [] => pure (drivePlace nowhere path)
    | [_] => pure (.path (some nowhere) (fileSegments path))
    | _ =>
        let name := (path.drop 2).takeWhile (!isSlash true ·)
        if isDrive name then pure (drivePlace nowhere (path.drop 2))
        else do
          let path := path.drop (name.length + 2)
          match ← fileHost? name with
          | none => pure (.path (some nowhere) (fileSegments path))
          | some host => pure (drivePlace ⟨"", some host, none⟩ path)
  return withTail "file" place rest

/-! ### All schemes -/

/-- Read what follows a scheme. On the web any number of slashes is in front of a host. -/
def ofScheme (scheme : String) (chars : List Char) : Except UrlError Url :=
  let path := chars.takeWhile fun char => !endsPath char
  let rest := chars.drop path.length
  if scheme == "file" then ofFile chars
  else if isWebScheme scheme then ofAuthority scheme (chars.dropWhile (isSlash true))
  else
    match chars with
    | '/' :: '/' :: rest => ofAuthority scheme rest
    | '/' :: _ => .ok (withTail scheme (.path none (segmentsOf false path)) rest)
    | _ => .ok (withTail scheme (.plain (String.ofList (escape .plain path))) rest)

def ofText (text : String) : Except UrlError Url :=
  let chars := (Text.dropEndWhile isEdge (text.toList.dropWhile isEdge)).filter (!isBreak ·)
  match schemeOf? chars with
  | some (scheme, rest) => ofScheme scheme rest
  | none => .error .missingScheme

/-! ## Relative addresses -/

/-- Go from an address along segments: they take the place of the last segment of its path,
and of its query and its fragment. -/
def follow (url : Url) (segments : List String) : Except UrlError Url :=
  match url.place with
  | .path authority path =>
      .ok { url with
        place := .path authority (path.dropLast ++ segments), query := none, fragment := none }
  | .plain _ => .error .notHierarchical

def withQuery (url : Url) (pairs : List (String × Nat)) : Url :=
  if pairs.isEmpty then url
  else
    { url with
      query :=
        some ("&".intercalate (pairs.map fun (name, value) => name ++ "=" ++ toString value)) }

def unaddressable : List Char := ['"', '\x60', '\x7b', '\x7d']

def isAddressable : Host → Bool
  | .domain name => !name.toList.any unaddressable.contains
  | _ => true

def isRequestable (url : Url) : Bool :=
  match url.place with
  | .path (some authority) _ =>
      (url.scheme == "http" || url.scheme == "https") && authority.host.any isAddressable
  | _ => false

example : (ofText "HTTP://Host:80/a/../b?c d").toOption.map text = some "http://host/b?c%20d" := by
  decide +kernel

example : (ofText "localhost").toOption = none := by decide +kernel

end Url
end GatewayConsole
