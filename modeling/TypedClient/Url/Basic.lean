import TypedClient.Url.Host.Ip
import TypedClient.Text.Percent
import TypedClient.Text.Utf8

/-!
# Addresses

`Url.scheme` says whether a text is an absolute address, by the rules that browsers follow, and what
its scheme is.  An address breaks one of these rules only in the part between the scheme and the
path: its host or its port.

The schemes `http`, `https`, `ws`, `wss` and `ftp` are special: slashes before the host may be
missing or too many, a backslash is a slash, and the host must not be empty.
-/

namespace TypedClient.Url

/-- Why a text is no absolute address. -/
inductive Flaw where
  | noScheme
  | emptyHost
  | port
  | version4
  | version6
  | domain
  | hostCharacter
deriving DecidableEq

/-- The sentence that reports a flaw. -/
def Flaw.message : Flaw → String
  | .noScheme => "relative URL without a base"
  | .emptyHost => "empty host"
  | .port => "invalid port number"
  | .version4 => "invalid IPv4 address"
  | .version6 => "invalid IPv6 address"
  | .domain => "invalid international domain name"
  | .hostCharacter => "invalid domain character"

/-- A text without the characters that do not count: control characters and spaces at both ends, and
tabs and line ends everywhere. -/
def clean (text : List Char) : List Char :=
  let outer := fun c : Char => decide (c.toNat ≤ 0x20)
  ((text.dropWhile outer).reverse.dropWhile outer).reverse.filter fun c =>
    !(c == '\t' || c == '\n' || c == '\r')

/-- Cuts a text behind its scheme, which is put into lower case. -/
def cutScheme? (text : List Char) : Option (String × List Char) :=
  let name := text.takeWhile fun c => c.isAlphanum || c == '+' || c == '-' || c == '.'
  match text.dropWhile fun c => c.isAlphanum || c == '+' || c == '-' || c == '.' with
  | ':' :: rest =>
    if name.head?.any Char.isAlpha then some (String.ofList (name.map Char.toLower), rest) else none
  | _ => none

/-- The special schemes. -/
def specialSchemes : List String := ["http", "https", "ws", "wss", "ftp"]

/-- Whether a character ends the part of an address that names its host. -/
def endsAuthority (special : Bool) (c : Char) : Bool :=
  c == '/' || c == '?' || c == '#' || (special && c == '\\')

/-- Cuts a text behind its last `@`. -/
def cutUser? : List Char → Option (List Char × List Char)
  | [] => none
  | c :: rest =>
    match cutUser? rest with
    | some (user, host) => some (c :: user, host)
    | none => if c = '@' then some ([], rest) else none

/-- Cuts a text where its host ends: at the end, or at a colon outside square brackets. -/
def cutHost : (inBrackets : Bool) → List Char → List Char × List Char
  | _, [] => ([], [])
  | inBrackets, c :: rest =>
    if c = ':' ∧ !inBrackets then ([], c :: rest)
    else
      let (host, rest) := cutHost (if c = '[' then true else if c = ']' then false else inBrackets) rest
      (c :: host, rest)

/-- Whether a text is an acceptable port: decimal digits that spell a number below 65536, or
nothing. -/
def isPort (text : List Char) : Bool := text.all Char.isDigit && Ip.valueOf 10 text < 65536

/-- Checks a host in square brackets. -/
def checkBrackets (host : List Char) : Except Flaw Unit :=
  if host.getLast? = some ']' ∧ Ip.isVersion6 ((host.drop 1).dropLast) then .ok ()
  else .error .version6

/-- Whether a character must not stand in the host of an address whose scheme is not special. -/
def isForbiddenInHost (c : Char) : Bool :=
  c.toNat == 0 || "\t\n\r #/:<>?@[\\]^|".toList.contains c

/-- Checks the host of an address whose scheme is not special. -/
def checkOpaqueHost (host : List Char) : Except Flaw Unit :=
  if host.head? = some '[' then checkBrackets host
  else if host.any isForbiddenInHost then .error .hostCharacter
  else .ok ()

end TypedClient.Url
