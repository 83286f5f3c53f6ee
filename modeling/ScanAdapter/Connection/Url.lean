import ScanAdapter.Number.Binary64
import ScanAdapter.Text.Case
import ScanAdapter.Text.Quoted
import ScanAdapter.Text.Utf8

/-!
# URLs

A URL is taken apart into scheme, authority, path and query, and its authority into user, password, host and the
number behind the host. The parts stay encoded.
-/
namespace ScanAdapter.Address

/-! ## Internet addresses

The forms of an address of version 4 (four decimal numbers) and of version 6 (eight groups of hexadecimal digits, one
run of zero groups left out at a double colon, the last two groups perhaps in the form of version 4). -/

/-- Up to three digits, no needless zero, at most 255. -/
def isOctet (cs : List Char) : Bool :=
  !cs.isEmpty && cs.all Char.isDigit && cs.length ≤ 3 && (cs.length == 1 || cs.head? != some '0') &&
    Text.valueOf cs ≤ 255

def isVersion4 (cs : List Char) : Bool :=
  let parts := Text.splitAt '.' cs
  parts.length == 4 && parts.all isOctet

/-- Up to four hexadecimal digits. -/
def isGroup (cs : List Char) : Bool :=
  !cs.isEmpty && cs.length ≤ 4 && cs.all fun c => (Text.hexValue? c).isSome

/-- The groups of an address, those in the form of version 4 counted as two. -/
def groups (cs : List Char) : Option (List (List Char)) :=
  let parts := Text.splitAt ':' cs
  match parts.getLast? with
  | some last =>
    if last.contains '.' then
      if parts.length < 3 ∨ !isVersion4 last then none else some (parts.dropLast ++ [['0'], ['0']])
    else if parts.length < 3 then none else some parts
  | none => none

/-- The inner places at which nothing stands between two colons. -/
def gaps (parts : List (List Char)) : List Nat :=
  (List.range parts.length).filter fun i => 0 < i && i + 1 < parts.length && parts[i]? == some []

/-- The groups before and after the one gap; at an end of the address the gap takes two colons. -/
def isGapped (parts : List (List Char)) (gap : Nat) : Bool :=
  let before := parts.take gap
  let after := parts.drop (gap + 1)
  let before' := if before.head? = some [] then before.tail else before
  let after' := if after.getLast? = some [] then after.dropLast else after
  (before'.length == before.length || before'.isEmpty) &&
    (after'.length == after.length || after'.isEmpty) &&
    before'.length + after'.length < 8 && before'.all isGroup && after'.all isGroup

/-- An address without its zone. -/
def isVersion6Plain (cs : List Char) : Bool :=
  match groups cs with
  | none => false
  | some parts =>
    match gaps parts with
    | [] => parts.length == 8 && parts.all isGroup
    | [gap] => parts.length ≤ 9 && isGapped parts gap
    | _ => false

/-- A zone may follow a percent sign. -/
def isVersion6 (cs : List Char) : Bool :=
  match Text.splitAt '%' cs with
  | [plain] => isVersion6Plain plain
  | [plain, zone] => !zone.isEmpty && isVersion6Plain plain
  | _ => false

end ScanAdapter.Address

namespace ScanAdapter

/-! ## Parts of a URL -/

/-- Why a URL has no such parts. -/
inductive UrlFault
  | badScheme
  | badBrackets
  | badFutureAddress
  | notAddress (host : String)
  | bracketedVersion4
  | disguisedDelimiter (authority : String)
  | portNotNumber (text : String)
  | portTooLong (digits : Nat)
  | portOutOfRange
  | badOption (name : String)
  | badPoolSize
  | takenName
  | noticesAsText
  | transportAsText
  deriving DecidableEq, Repr

/-- What sort of fault it is. Most are values that will not do. -/
def UrlFault.className : UrlFault → String
  | takenName => "TypeError"
  | noticesAsText | transportAsText => "AttributeError"
  | _ => "ValueError"

def UrlFault.message : UrlFault → String
  | badScheme => "Redis URL must specify one of the following schemes (redis://, rediss://, unix://)"
  | badBrackets => "Invalid IPv6 URL"
  | badFutureAddress => "IPvFuture address is invalid"
  | notAddress host => s!"{Text.quoted host} does not appear to be an IPv4 or IPv6 address"
  | bracketedVersion4 => "An IPv4 address cannot be in brackets"
  | disguisedDelimiter authority =>
    s!"netloc '{authority}' contains invalid characters under NFKC normalization"
  | portNotNumber text => s!"Port could not be cast to integer value as {Text.quoted text}"
  | portTooLong digits =>
    "Exceeds the limit (4300 digits) for integer string conversion: " ++
      s!"value has {String.ofList (Text.decimal digits)} digits; " ++
      "use sys.set_int_max_str_digits() to increase the limit"
  | portOutOfRange => "Port out of range 0-65535"
  | badOption name => s!"Invalid value for '{name}' in connection URL."
  | badPoolSize => "\"max_connections\" must be a positive integer"
  | takenName => "ConnectionPool.__init__() got multiple values for argument 'self'"
  | noticesAsText => "'str' object has no attribute 'enabled'"
  | transportAsText => "'str' object has no attribute '__name__'"

/-- The parts of a URL, still encoded. -/
structure Url where
  /-- In small letters. -/
  scheme : Option (List Char)
  authority : List Char
  path : List Char
  query : List Char
  deriving DecidableEq, Repr

namespace Url

/-- The characters that stand for one of the delimiters `/ ? # @ :` or for a text that holds one, when
compatible forms are brought together. -/
def disguises : List Nat :=
  [0x2047, 0x2048, 0x2049, 0x2100, 0x2101, 0x2105, 0x2106, 0x2A74, 0xFE13, 0xFE16, 0xFE55, 0xFE56, 0xFE5F,
  0xFE6B, 0xFF03, 0xFF0F, 0xFF1A, 0xFF1F, 0xFF20]

/-! ## Authority -/

/-- What stands before the last `@`: a user, and perhaps a password after a colon. -/
def user (u : Url) : Option (List Char × Option (List Char)) :=
  (Text.cutLast '@' u.authority).1.map fun info =>
    let (name, password) := Text.cut ':' info
    (name, if info.contains ':' then some password else none)

def hostInfo (u : Url) : List Char := (Text.cutLast '@' u.authority).2

/-- The host, and what stands behind it after a colon; a host in brackets may hold colons. -/
def endpoint (u : Url) : List Char × List Char :=
  let info := u.hostInfo
  if info.contains '[' then
    let (host, rest) := Text.cut ']' (Text.cut '[' info).2
    (host, (Text.cut ':' rest).2)
  else Text.cut ':' info

/-- The host in small letters, up to a zone after a percent sign. -/
def host (u : Url) : List Char :=
  let h := u.endpoint.1
  Text.lower (h.takeWhile (· != '%')) ++ h.dropWhile (· != '%')

/-- The number behind the host, if there is one. -/
def portNumber (u : Url) : Except UrlFault (Option Nat) :=
  let p := u.endpoint.2
  if p.isEmpty then .ok none
  else if !p.all Char.isDigit then .error (.portNotNumber (String.ofList p))
  else if Number.maxDigits < p.length then .error (.portTooLong p.length)
  else if 65535 < Text.valueOf p then .error .portOutOfRange
  else .ok (some (Text.valueOf p))

/-- What is wrong with a host in brackets. -/
def bracketFault? (authority : List Char) : Option UrlFault :=
  let info := (Text.cutLast '@' authority).2
  if info.contains '[' then
    let (before, bracketed) := Text.cut '[' info
    let (host, after) := Text.cut ']' bracketed
    if !before.isEmpty || (!after.isEmpty && after.head? != some ':') then some .badBrackets
    else hostFault? host
  else hostFault? (Text.cut ':' info).1
where
  hostFault? (host : List Char) : Option UrlFault :=
    match host with
    | 'v' :: rest =>
      let (release, text) := Text.cut '.' rest
      if release.isEmpty || !(release.all fun c => (Text.hexValue? c).isSome) || text.isEmpty then
        some .badFutureAddress
      else none
    | _ =>
      if Address.isVersion4 host then some .bracketedVersion4
      else if Address.isVersion6 host then none
      else some (.notAddress (String.ofList host))

def authorityFault? (authority : List Char) : Option UrlFault :=
  let opened := authority.contains '['
  let closed := authority.contains ']'
  let bracket := if opened != closed then some .badBrackets
    else if opened then bracketFault? authority else none
  bracket.or (if authority.any fun c => disguises.contains c.toNat then
    some (.disguisedDelimiter (String.ofList authority)) else none)

/-! ## Taking apart -/

/-- A letter, a digit, or one of the three signs that a scheme may have. All of them are ASCII. -/
def isSchemeChar (c : Char) : Bool := c.isAlphanum || c == '+' || c == '.' || c == '-'

/-- The scheme before the first colon, and the text after that; without a scheme the text stays as it is. A
scheme begins with a letter. -/
def splitScheme (cs : List Char) : Option (List Char) × List Char :=
  let (name, rest) := Text.cut ':' cs
  match name with
  | c :: _ =>
    if cs.contains ':' && c.isAlpha && name.all isSchemeChar then (some (name.map Char.toLower), rest)
    else (none, cs)
  | [] => (none, cs)

/-- The authority after two slashes, and the text after that. -/
def splitAuthority (cs : List Char) : List Char × List Char :=
  match cs with
  | '/' :: '/' :: rest => rest.span fun c => c != '/' && c != '?' && c != '#'
  | rest => ([], rest)

/-- Control characters and spaces before a URL do not count, nor do line ends and tabs inside it; and what
follows a `#` is no part of it. -/
def ofText (s : String) : Except UrlFault Url :=
  let cs := (s.toList.dropWhile fun c => c.toNat ≤ 0x20).filter fun c => c != '\n' && c != '\r' && c != '\t'
  let (scheme, rest) := splitScheme cs
  let (authority, rest) := splitAuthority rest
  match authorityFault? authority with
  | some fault => .error fault
  | none =>
    let (path, query) := Text.cut '?' (Text.cut '#' rest).1
    .ok ⟨scheme, authority, path, query⟩

/-- The parameters of the query that have a value, decoded, in their order. -/
def parameters (u : Url) : List (String × String) :=
  (Text.splitAt '&' u.query).filterMap fun piece =>
    let (name, value) := Text.cut '=' piece
    if value.isEmpty then none else some (decoded name, decoded value)
where
  decoded (cs : List Char) : String :=
    String.ofList (Text.percentDecode (cs.map fun c => if c = '+' then ' ' else c))

end Url

end ScanAdapter
