import DeclaredSchema.Http.Host
import DeclaredSchema.Http.Path

/-!
# URLs

Absolute URLs as browsers read them: blanks at the ends and newlines anywhere do not count, the
scheme decides how a host is read, and what is written is the normal form.
-/

namespace DeclaredSchema

inductive UrlFault where
  | noScheme
  | badHost (fault : HostFault)
  | badNumber
  deriving DecidableEq, Repr

def UrlFault.message : UrlFault → String
  | noScheme => "relative URL without a base"
  | badHost .empty => "empty host"
  | badHost .badDomain => "invalid international domain name"
  | badHost .badIpv4 => "invalid IPv4 address"
  | badHost .badIpv6 => "invalid IPv6 address"
  | badHost .badChar => "invalid domain character"
  | badNumber => "invalid port number"

/-- A user's name and password, percent-encoded. No password is not written as an empty one. -/
structure UrlCredentials where
  user : String
  password : Option String
  deriving DecidableEq, Repr

/-- What names a server. -/
structure UrlAuthority where
  credentials : Option UrlCredentials
  /-- Of empty name, if there is no host. -/
  host : Host
  /-- The number behind a colon, unless it is the scheme's. -/
  number : Option Nat
  deriving DecidableEq, Repr

structure Url where
  scheme : String
  authority : Option UrlAuthority
  /-- With a slash in front, unless there is no authority. -/
  path : String
  query : Option String
  fragment : Option String
  deriving DecidableEq, Repr

/-- Schemes differ in how what stands behind them is read. -/
inductive UrlForm where
  /-- Servers with a domain. -/
  | server
  | file
  | other
  deriving DecidableEq, Repr

namespace Url

/-! ## Writing -/

def credentialsText : Option UrlCredentials → String
  | none => ""
  | some c => c.user ++ (c.password.elim "" (":" ++ ·)) ++ "@"

def authorityText (a : UrlAuthority) : String :=
  "//" ++ credentialsText a.credentials ++ a.host.text ++
    a.number.elim "" fun n => ":" ++ toString n

/-- Without an authority, a path cannot start like one. -/
def frontText (u : Url) : String :=
  match u.authority with
  | some a => authorityText a
  | none => if u.path.startsWith "//" then "/." else ""

def text (u : Url) : String :=
  u.scheme ++ ":" ++ u.frontText ++ u.path ++ u.query.elim "" ("?" ++ ·) ++
    u.fragment.elim "" ("#" ++ ·)

/-! ## Schemes -/

def isTrimmed (c : Char) : Bool := c.toNat ≤ 0x20

/-- The text without what does not count. -/
def cleaned (cs : List Char) : List Char :=
  (((cs.dropWhile isTrimmed).reverse.dropWhile isTrimmed).reverse).filter fun c =>
    c ≠ '\t' && c ≠ '\n' && c ≠ '\r'

def isSchemeChar (c : Char) : Bool :=
  Text.isAsciiLetter c || Text.isAsciiDigit c || c = '+' || c = '-' || c = '.'

/-- The scheme in lower case, and what stands behind its colon. -/
def splitScheme? (cs : List Char) : Option (String × List Char) :=
  let (scheme, rest) := cs.span isSchemeChar
  match scheme.head?, rest with
  | some c, ':' :: rest =>
    if Text.isAsciiLetter c then some (String.ofList (scheme.map Text.asciiLower), rest) else none
  | _, _ => none

/-- The number that need not be written. -/
def defaultNumber? : String → Option Nat
  | "http" => some 80
  | "https" => some 443
  | "ws" => some 80
  | "wss" => some 443
  | "ftp" => some 21
  | _ => none

def formOf (scheme : String) : UrlForm :=
  if scheme = "file" then .file else if (defaultNumber? scheme).isSome then .server else .other

/-! ## Authorities -/

def startsTail (c : Char) : Bool := c = '?' || c = '#'

/-- What stands before the last at sign, if there is one, and what stands behind. -/
def splitCredentials (cs : List Char) : Option (List Char) × List Char :=
  if cs.contains '@' then
    let (behind, before) := cs.reverse.span (· ≠ '@')
    (some before.tail.reverse, behind.reverse)
  else (none, cs)

def credentials? (cs : List Char) : Option UrlCredentials :=
  let (user, rest) := cs.span (· ≠ ':')
  let encode := fun cs => String.ofList (Percent.encode Percent.keptInCredentials cs)
  if user.isEmpty && rest.tail.isEmpty then none
  else some ⟨encode user, if rest.tail.isEmpty then none else some (encode rest.tail)⟩

/-- A host, and what stands behind it from its colon on. Colons in brackets belong to the host. -/
def splitHost (inBrackets : Bool) : List Char → List Char × List Char
  | [] => ([], [])
  | c :: rest =>
    if c = ':' && !inBrackets then ([], c :: rest)
    else
      let (host, more) := splitHost ((inBrackets || c = '[') && c ≠ ']') rest
      (c :: host, more)

/-- The number behind a colon. A backslash ends it. -/
def readNumber (cs : List Char) : Except UrlFault (Option Nat × List Char) :=
  let (digits, rest) := cs.tail.span Text.isAsciiDigit
  let n := Text.numberInBase 10 digits
  if (!rest.isEmpty && rest.head? ≠ some '\\') || 0xffff < n then .error .badNumber
  else .ok (if digits.isEmpty then none else some n, rest)

/-- An authority, and what stands behind it. Only a scheme without rules of its own does without a
host, and then nothing else may be there. -/
def readAuthority (scheme : String) (isSpecial : Bool) (cs : List Char) :
    Except UrlFault (UrlAuthority × List Char) := do
  let (authority, behind) := cs.span fun c => !(UrlPath.isSlash isSpecial c || startsTail c)
  let (before, rest) := splitCredentials authority
  let credentials := before.bind credentials?
  let (host, rest) := splitHost false rest
  let isAlone := !isSpecial && rest.isEmpty && credentials.isNone &&
    (before ≠ some [] || behind.isEmpty)
  if host.isEmpty && !isAlone then .error (.badHost .empty)
  else do
    let host ← (Host.ofText isSpecial host).mapError .badHost
    let (number, rest) ← readNumber rest
    let number := if number = defaultNumber? scheme then none else number
    .ok (⟨credentials, host, number⟩, rest ++ behind)

def localAuthority : UrlAuthority := ⟨none, .name "", none⟩

/-- The host of a file, and what stands behind it. A drive is no host, nor is there one beside a
drive. -/
def readFileAuthority (cs : List Char) : Except UrlFault (UrlAuthority × List Char) :=
  let isSlash := UrlPath.isSlash true
  if (cs.take 2).length = 2 && (cs.take 2).all isSlash then do
    let (host, behind) := (cs.drop 2).span fun c => !(isSlash c || startsTail c)
    if UrlPath.isDrive host then .ok (localAuthority, cs.drop 2)
    else if host.isEmpty then .ok (localAuthority, behind)
    else do
      let host ← (Host.ofText true host).mapError .badHost
      if host = .name "localhost" || UrlPath.hasDrive (behind.takeWhile (!startsTail ·)) then
        .ok (localAuthority, behind)
      else .ok (⟨none, host, none⟩, behind)
  else .ok (localAuthority, cs)

/-! ## Whole URLs -/

/-- A URL whose path, query and fragment are still to be read. -/
def complete (scheme : String) (authority : Option UrlAuthority) (pathOf : List Char → List Char)
    (cs : List Char) : Url :=
  let (path, tail) := cs.span (!startsTail ·)
  let (query, fragment) := tail.span (· ≠ '#')
  let keptInQuery := fun c => Percent.keptInQuery c && (c ≠ '\'' || formOf scheme = .other)
  { scheme
    authority
    path := String.ofList (pathOf path)
    query := if query.isEmpty then none
      else some (String.ofList (Percent.encode keptInQuery query.tail))
    fragment := if fragment.isEmpty then none
      else some (String.ofList (Percent.encode Percent.keptInFragment fragment.tail)) }

def ofText (text : String) : Except UrlFault Url :=
  match splitScheme? (cleaned text.toList) with
  | none => .error .noScheme
  | some (scheme, rest) =>
    match formOf scheme, rest with
    | .server, _ => do
      let (a, rest) ← readAuthority scheme true (rest.dropWhile (UrlPath.isSlash true))
      .ok (complete scheme (some a) (UrlPath.ofText true) rest)
    | .file, _ => do
      let (a, rest) ← readFileAuthority rest
      .ok (complete scheme (some a) UrlPath.ofFile rest)
    | .other, '/' :: '/' :: rest => do
      let (a, rest) ← readAuthority scheme false rest
      let pathOf := fun p => if p.isEmpty then [] else UrlPath.ofText false p
      .ok (complete scheme (some a) pathOf rest)
    | .other, '/' :: _ => .ok (complete scheme none (UrlPath.ofText false) rest)
    | .other, _ => .ok (complete scheme none (Percent.encode Percent.keptInOpaque) rest)

/-! ## Requests -/

def hasHost (u : Url) : Bool := u.authority.any (!·.host.isEmpty)

/-- Without credentials, which are sent apart. A name that is not UTF-8 cannot be, and stays. -/
def withoutCredentials (u : Url) : Url :=
  let isText := fun (s : String) => (Percent.decodedText? s.toList).isSome
  let isSent := fun (c : UrlCredentials) =>
    isText c.user && (c.user ≠ "" || c.password.any isText)
  { u with authority := u.authority.map fun a =>
      { a with credentials := a.credentials.filter (!isSent ·) } }

/-- With more names and values at the end of the query. -/
def addQuery (u : Url) (pairs : List (String × String)) : Url :=
  let more := Percent.formQuery pairs
  match pairs, u.query with
  | [], _ => u
  | _, none => { u with query := some more }
  | _, some q => { u with query := some (if q.isEmpty then more else q ++ "&" ++ more) }

/-- Whether a request can name the URL: it is not too long, and its host has no character that is
reserved for quotation. -/
def isSendable (u : Url) : Bool :=
  u.text.utf8ByteSize < 0xffff &&
    (u.authority.elim "" (·.host.text)).toList.all (· ∉ ['"', '\x60', '\x7b', '\x7d'])

end Url

end DeclaredSchema
