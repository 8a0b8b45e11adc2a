import TypedClient.Url.Basic
import TypedClient.Url.Domain

/-!
# Absolute addresses

`Url.scheme` puts the rules for the parts of an address together.
-/

namespace TypedClient.Url

/-- Checks a host, which is a name or a number, and may hold escapes. -/
def checkHost (host : List Char) : Except Flaw Unit :=
  if host.head? = some '[' then checkBrackets host
  else
    match Text.Utf8.decode (Text.Percent.decode (Text.Utf8.encode host)) with
    | .error _ => .error .domain
    | .ok name =>
      match Domain.normalize? name with
      | none => .error .domain
      | some [] => .error .emptyHost
      | some normal =>
        if Ip.endsInNumber normal && !Ip.isVersion4 normal then .error .version4 else .ok ()

/-- Checks what follows a host. -/
def checkPort (rest : List Char) : Except Flaw Unit :=
  match rest with
  | ':' :: rest =>
    if isPort (rest.takeWhile fun c => !endsAuthority true c) then .ok () else .error .port
  | _ => .ok ()

/-- Checks a host and a port.  With a special scheme the host must not be empty; otherwise it must
not be if a `user` or a port is given. -/
def checkHostAndPort (special user : Bool) (text : List Char) : Except Flaw Unit :=
  let authority := text.takeWhile fun c => !endsAuthority special c
  let (host, rest) := cutHost false authority
  if host.isEmpty && (special || !rest.isEmpty || user) then .error .emptyHost
  else do
    if special then checkHost host else checkOpaqueHost host
    checkPort rest

/-- Checks what follows the slashes of an address. -/
def checkAuthority (special : Bool) (text : List Char) : Except Flaw Unit :=
  match cutUser? (text.takeWhile fun c => !endsAuthority special c) with
  | none => checkHostAndPort special false text
  | some (user, _) =>
    let rest := text.drop (user.length + 1)
    if user.isEmpty && rest.head?.any (endsAuthority special) then .error .emptyHost
    else checkHostAndPort special (!user.isEmpty && user != [':']) rest

/-- Whether a text is the letter of a drive with a colon or a bar. -/
def isDrive : List Char → Bool
  | [letter, mark] => letter.isAlpha && (mark == ':' || mark == '|')
  | _ => false

/-- Checks the address of a file, whose host is optional. -/
def checkFile : List Char → Except Flaw Unit
  | a :: b :: rest =>
    let isSlash := fun c => c == '/' || c == '\\'
    let host := rest.takeWhile fun c => !endsAuthority true c
    if isSlash a && isSlash b && !host.isEmpty && !isDrive host then checkHost host else .ok ()
  | _ => .ok ()

/-- The scheme of an absolute address, in lower case. -/
def scheme (text : List Char) : Except Flaw String :=
  match cutScheme? (clean text) with
  | none => .error .noScheme
  | some (name, rest) =>
    let check :=
      if name = "file" then checkFile rest
      else if specialSchemes.contains name then
        checkAuthority true (rest.dropWhile fun c => c == '/' || c == '\\')
      else
        match rest with
        | '/' :: '/' :: rest => checkAuthority false rest
        | _ => .ok ()
    check.map fun _ => name

end TypedClient.Url
