import FluentSql.Url.Host

/-! URLs. A URL names a scheme, and behind two slashes the user, a password, a host and a port; a
path follows, and a query and a fragment, which are not kept. In a path, segments of one and two
points are resolved, unless the path begins right behind the scheme without a slash. User, password
and path are given as written, percent-encoded or not. -/

namespace FluentSql

structure Url where
  scheme : String
  username : String := ""
  password : String := ""
  host : Option String := none
  port : Option Nat := none
  path : String := ""
  deriving DecidableEq, Repr

namespace Url

open Text

/-! ### Schemes -/

/-- How what follows a scheme is read. -/
inductive SchemeClass where
  | file
  /-- A scheme of the web, and its usual port. -/
  | web (port : Nat)
  | general
  deriving DecidableEq, Repr

def SchemeClass.of (scheme : String) : SchemeClass :=
  match scheme with
  | "file" => .file
  | "http" => .web 80
  | "ws" => .web 80
  | "https" => .web 443
  | "wss" => .web 443
  | "ftp" => .web 21
  | _ => .general

/-- Whether a backslash counts as a slash. -/
def SchemeClass.isSpecial : SchemeClass → Bool
  | .general => false
  | _ => true

def isSchemeChar (c : Char) : Bool :=
  c.isAlphanum || c == '+' || c == '-' || c == '.'

/-- The scheme in lower case, and what follows its colon. -/
def splitScheme? (s : List Char) : Option (String × List Char) :=
  let name := s.takeWhile isSchemeChar
  match name, s.drop name.length with
  | c :: _, ':' :: rest => if c.isAlpha then some (lower (String.ofList name), rest) else none
  | _, _ => none

/-! ### User, host and port -/

def isSlash (k : SchemeClass) (c : Char) : Bool :=
  c == '/' || (c == '\\' && k.isSpecial)

/-- A character behind the host and the port. -/
def endsAuthority (k : SchemeClass) (c : Char) : Bool :=
  isSlash k c || c == '?' || c == '#'

/-- What stands before the last `@` and behind it. -/
def splitUser? (s : List Char) : Option (List Char × List Char) :=
  let back := s.reverse.takeWhile (· != '@')
  if back.length = s.length then none
  else some (s.take (s.length - back.length - 1), back.reverse)

/-- User and password, the first colon between them. -/
def credentials (s : List Char) : String × String :=
  let user := s.takeWhile (· != ':')
  (String.ofList user, String.ofList (s.drop (user.length + 1)))

/-- The characters of the host at the front of a text; a colon inside brackets belongs to it. -/
def hostSpan (k : SchemeClass) (bracket : Bool) : List Char → List Char
  | [] => []
  | c :: cs =>
    if endsAuthority k c || (c == ':' && !bracket) then []
    else c :: hostSpan k (if c == '[' then true else if c == ']' then false else bracket) cs

/-- The number that digits continue, and what follows; only a slash, a backslash, a query or a
fragment may. -/
def portFrom (n : Nat) : List Char → Except UrlError (Nat × List Char)
  | [] => .ok (n, [])
  | c :: cs =>
    if isDigit c then
      let n := 10 * n + (c.toNat - 48)
      if n ≤ 65535 then portFrom n cs else .error .port
    else if c == '/' || c == '\\' || c == '?' || c == '#' then .ok (n, c :: cs)
    else .error .port

/-- The port behind a colon, none without a digit, and what follows. -/
def readPort (s : List Char) : Except UrlError (Option Nat × List Char) := do
  let (n, rest) ← portFrom 0 s
  return (if rest.length = s.length then none else some n, rest)

/-! ### The path -/

/-- A segment that stands for the place where it is. -/
def isHere (s : List Char) : Bool :=
  let s := s.map Char.toLower
  s == ['.'] || s == "%2e".toList

/-- A segment that stands for the place above. -/
def isUp (s : List Char) : Bool :=
  let s := s.map Char.toLower
  s == ['.', '.'] || s == ".%2e".toList || s == "%2e.".toList || s == "%2e%2e".toList

/-- A drive of a file system, such as `C:`. -/
def isDrive : List Char → Bool
  | [c, d] => c.isAlpha && (d == ':' || d == '|')
  | _ => false

/-- The place above segments that stand in reverse. Nothing is above a drive. -/
def above : List (List Char) → List (List Char)
  | [] => []
  | s :: done => if isDrive s then s :: done else done

/-- Resolves segments behind those already resolved, which stand in reverse. Where the last one only
moves, the path ends in a slash. -/
def resolve (done : List (List Char)) : List (List Char) → List (List Char)
  | [] => done.reverse
  | s :: rest =>
    if isHere s || isUp s then
      let done := if isUp s then above done else done
      resolve (if rest.isEmpty then [] :: done else done) rest
    else resolve (s :: done) rest

/-- The path of segments, a slash before each. -/
def pathOf (k : SchemeClass) (s : List Char) : String :=
  String.ofList ((resolve [] (pieces (isSlash k) s)).flatMap ('/' :: ·))

/-- The text before the query and the fragment. -/
def beforeQuery (s : List Char) : List Char :=
  s.takeWhile fun c => c != '?' && c != '#'

/-- The path behind a host; its first slash may be missing. -/
def pathBehind (k : SchemeClass) (s : List Char) : String :=
  match beforeQuery s with
  | [] => ""
  | c :: cs => pathOf k (if isSlash k c then cs else c :: cs)

/-! ### The whole -/

/-- Reads what follows the two slashes of a scheme. -/
def withAuthority (scheme : String) (k : SchemeClass) (s : List Char) : Except UrlError Url := do
  let authority := s.takeWhile (!endsAuthority k ·)
  let tail := s.drop authority.length
  let (user, rest) := (splitUser? authority).getD ([], authority)
  if user.isEmpty ∧ rest.isEmpty ∧ !authority.isEmpty ∧ !tail.isEmpty then throw .emptyHost
  let (username, password) := credentials user
  let name := hostSpan k false rest
  let rest := rest.drop name.length ++ tail
  if k.isSpecial ∧ name.isEmpty then throw .emptyHost
  let host ← if k.isSpecial then Host.ofDomain name else Host.ofText name
  let (port, rest) ← match rest with
    | ':' :: digits => if host.isEmpty then throw .emptyHost else readPort digits
    | _ => pure (none, rest)
  if host.isEmpty ∧ !(username.isEmpty ∧ password.isEmpty) then throw .emptyHost
  let port := if k = .web (port.getD 0) then none else port
  return { scheme, username, password, port
           host := if host.isEmpty then none else some host
           path := pathBehind k rest }

/-- Reads what follows the scheme of files: a host stands only behind two slashes and is no drive.
-/
def fileOf (scheme : String) (s : List Char) : Except UrlError Url :=
  match s with
  | c :: d :: rest =>
    if isSlash .file c && isSlash .file d then do
      let name := rest.takeWhile (!endsAuthority .file ·)
      if name.isEmpty || isDrive name then
        return { scheme, path := pathBehind .file rest }
      let host ← Host.ofDomain name
      return { scheme, host := if host = "localhost" then none else some host
               path := pathBehind .file (rest.drop name.length) }
    else .ok { scheme, path := pathBehind .file s }
  | _ => .ok { scheme, path := pathBehind .file s }

/-- A character that a URL has not at its ends. -/
def isMargin (c : Char) : Bool :=
  c.toNat ≤ 0x20

/-- The text of a URL without control characters and blanks at its ends, and without line breaks
and tabs anywhere. -/
def clean (s : List Char) : List Char :=
  (((s.dropWhile isMargin).reverse.dropWhile isMargin).reverse).filter fun c =>
    c != '\t' && c != '\n' && c != '\r'

def read (text : String) : Except UrlError Url :=
  match splitScheme? (clean text.toList) with
  | none => .error .noScheme
  | some (scheme, rest) =>
    match SchemeClass.of scheme with
    | .file => fileOf scheme rest
    | .web p => withAuthority scheme (.web p) (rest.dropWhile (isSlash (.web p)))
    | .general =>
      match rest with
      | '/' :: '/' :: rest => withAuthority scheme .general rest
      | '/' :: rest => .ok { scheme, path := pathOf .general (beforeQuery rest) }
      | rest => .ok { scheme, path := String.ofList (beforeQuery rest) }

end Url

end FluentSql
