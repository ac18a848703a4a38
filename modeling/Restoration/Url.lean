/-
URLs of web servers. A text is read as a browser would read it: white
space around it and line breaks in it are dropped, a backslash is a slash,
`.` and `..` are resolved, characters that have no place where they stand
are escaped, and the host is put into its common form.

A query and a fragment are read past and not kept, since all that is asked
of a URL is a neighbour of its path.
-/
import Restoration.Url.Address
import Restoration.Url.Name
import Restoration.Url.Percent

namespace Restoration

-- ================================================================ types

namespace Url

/-- How a server is spoken to. -/
inductive Scheme
  | http
  | https
  deriving DecidableEq, Repr

/-- What a scheme is called. -/
def Scheme.name : Scheme → String
  | .http => "http"
  | .https => "https"

/-- The port that need not be written. -/
def Scheme.port : Scheme → Nat
  | .http => 80
  | .https => 443

/-- A host: a name, or a numeric address. -/
inductive Host
  | name (labels : String)
  | four (address : UInt32)
  | eight (groups : List Nat)
  deriving DecidableEq, Repr

/-- The text of a host. -/
def Host.write : Host → String
  | .name labels => labels
  | .four address => Address.writeFour address
  | .eight groups => "[" ++ Address.writeEight groups ++ "]"

end Url

/-- A URL. The path is a list of segments, the first one after the first
slash. -/
structure Url where
  scheme : Url.Scheme
  user : String
  password : String
  host : Url.Host
  port : Option Nat
  path : List String
  deriving DecidableEq, Repr

namespace Url

-- ================================================================ text

/-- Whether a character ends what stands before the path. -/
def endsAuthority (c : Char) : Bool := c = '/' || c = '\\' || c = '?' || c = '#'

/-- The text as it is read: without control characters and spaces at the
end, and without tabs and line breaks. -/
def cleaned (s : String) : List Char :=
  ((s.toList.reverse.dropWhile (·.toNat ≤ 0x20)).reverse).filter
    fun c => c ≠ '\t' && c ≠ '\n' && c ≠ '\r'

-- ================================================================ user

/-- Cuts characters at the last at sign. -/
def splitUser (cs : List Char) : Option (List Char × List Char) :=
  match cs.reverse.dropWhile (· ≠ '@') with
  | [] => none
  | _ :: user => some (user.reverse, (cs.reverse.takeWhile (· ≠ '@')).reverse)

/-- The name of a user and the password after the first colon, escaped. -/
def readUser (cs : List Char) : String × String :=
  let name := cs.takeWhile (· ≠ ':')
  let password := (cs.dropWhile (· ≠ ':')).drop 1
  let escaped :=
    fun (cs : List Char) => String.ofList (Percent.encode Percent.inUser cs)
  (escaped name, escaped password)

-- ================================================================ host

/-- The end of the host: the first colon that is not in square brackets. -/
def splitPort (inside : Bool) : List Char → List Char × Option (List Char)
  | [] => ([], none)
  | c :: rest =>
    if c = ':' ∧ ¬ inside then ([], some rest)
    else
      let inside := if c = '[' then true else if c = ']' then false else inside
      let (host, port) := splitPort inside rest
      (c :: host, port)

/-- The host that characters name. -/
def readHost (cs : List Char) : Except Fault Host :=
  match cs with
  | [] => .error .emptyHost
  | '[' :: rest =>
    if rest.getLast? = some ']' then
      match Address.readEight rest.dropLast with
      | some groups => .ok (.eight groups)
      | none => .error .invalidIPv6
    else .error .invalidIPv6
  | cs =>
    match Utf8.decode? (Percent.decode (Utf8.encode (String.ofList cs))) with
    | none => .error .invalidName
    | some text =>
      match Name.toAscii text.toList with
      | .error fault => .error fault
      | .ok [] => .error .emptyHost
      | .ok name =>
        if Address.looksNumeric name then
          match Address.readFour name with
          | some address => .ok (.four address)
          | none => .error .invalidIPv4
        else .ok (.name (String.ofList name))

/-- The value of digits that continue `n`, up to the greatest port. -/
def portFrom (n : Nat) : List Char → Option Nat
  | [] => some n
  | c :: rest =>
    if '0' ≤ c && c ≤ '9' then
      let n := n * 10 + (c.toNat - '0'.toNat)
      if n ≤ 65535 then portFrom n rest else none
    else none

/-- The port that characters name, unless it need not be written. -/
def readPort (scheme : Scheme) (cs : List Char) : Except Fault (Option Nat) :=
  match portFrom 0 cs with
  | none => .error .invalidPort
  | some n => .ok (if cs.isEmpty || n = scheme.port then none else some n)

-- ================================================================= path

/-- Whether a segment stands for the directory itself. -/
def isDot (segment : List Char) : Bool :=
  let s := segment.map Name.lowerAscii
  s = ['.'] || s = "%2e".toList

/-- Whether a segment stands for the directory above. -/
def isDots (segment : List Char) : Bool :=
  let s := segment.map Name.lowerAscii
  s = "..".toList || s = ".%2e".toList || s = "%2e.".toList ||
    s = "%2e%2e".toList

/-- Whether a segment is a letter and a colon or a bar. No `..` leads out
of such a segment. -/
def isDrive (segment : String) : Bool :=
  match segment.toList with
  | [c, d] => c.isAlpha && (d = ':' || d = '|')
  | _ => false

/-- The segments, last one first, without the last. -/
def above : List String → List String
  | [] => []
  | last :: rest => if isDrive last then last :: rest else rest

/-- Cuts characters at slashes, after `current`, the characters of the
segment that is being read, last one first. -/
def segmentsFrom (current : List Char) : List Char → List (List Char)
  | [] => [current.reverse]
  | c :: rest =>
    if c = '/' ∨ c = '\\' then current.reverse :: segmentsFrom [] rest
    else segmentsFrom (c :: current) rest

/-- Walks segments, after those that have been walked, last one first. The
last segment says what is named, so that it leaves an empty one if it
stands for a directory. -/
def resolve (walked : List String) : List (List Char) → List String
  | [] => walked.reverse
  | segment :: rest =>
    let segment := Percent.encode Percent.inPath segment
    let walked :=
      if isDots segment then
        (if rest.isEmpty then "" :: above walked else above walked)
      else if isDot segment then (if rest.isEmpty then "" :: walked else walked)
      else String.ofList segment :: walked
    resolve walked rest

/-- The path at the start of characters, which begin with a slash unless
there is no path. -/
def readPath (cs : List Char) : List String :=
  let path := cs.takeWhile fun c => c ≠ '?' ∧ c ≠ '#'
  resolve [] (segmentsFrom [] (path.drop 1))

-- =============================================================== reading

/-- Reads what follows the scheme and its colon. Any number of slashes may
stand before the host. -/
def parse (scheme : Scheme) (rest : String) : Except Fault Url := do
  let cs := (cleaned rest).dropWhile fun c => c = '/' ∨ c = '\\'
  let authority := cs.takeWhile fun c => !endsAuthority c
  let (userInfo, hostAndPort) :=
    match splitUser authority with
    | some (user, host) => (readUser user, host)
    | none => (("", ""), authority)
  let (host, port) := splitPort false hostAndPort
  let host ← readHost host
  let port ← readPort scheme (port.getD [])
  .ok ⟨scheme, userInfo.1, userInfo.2, host, port,
    readPath (cs.drop authority.length)⟩

-- =============================================================== writing

/-- The user and the password, if there are any. -/
def writeUser (u : Url) : String :=
  if u.user = "" ∧ u.password = "" then ""
  else if u.password = "" then u.user ++ "@"
  else u.user ++ ":" ++ u.password ++ "@"

/-- The port, if it has to be written. -/
def writePort (u : Url) : String :=
  match u.port with
  | some n => ":" ++ toString n
  | none => ""

/-- The path. -/
def writePath (u : Url) : String := "/" ++ String.intercalate "/" u.path

/-- The text of a URL. -/
def write (u : Url) : String :=
  u.scheme.name ++ "://" ++ u.writeUser ++ u.host.write ++
    u.writePort ++ u.writePath

/-- The URL with another last segment. -/
def sibling (u : Url) (segment : String) : Url :=
  { u with path := u.path.dropLast ++ [segment] }

/-- The URL without user and password. -/
def anonymous (u : Url) : Url := { u with user := "", password := "" }

-- ============================================================== sending

/-- The longest text of a URL in a request. -/
def longestSent : Nat := 65534

/-- Whether a URL can stand in a request, without user and password. A name
may hold characters that no request may. -/
def isSendable (u : Url) : Bool :=
  u.anonymous.write.utf8ByteSize ≤ longestSent &&
    !u.host.write.toList.any ("\"`\x7b\x7d".toList.contains ·)

end Url

end Restoration
