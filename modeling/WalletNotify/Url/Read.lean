import WalletNotify.Url.Basic

/-!
# Reading URLs

Text is taken apart from the left: scheme, credentials, host, port, path, query and fragment.
-/

namespace WalletNotify.Url

/-- Whether a slash, or a backslash under the well-known schemes, is meant. -/
def isSlash (special : Bool) (c : Char) : Bool := c = '/' || (special && c = '\\')

/-- Whether a character ends what stands in front of the path. -/
def endsAuthority (special : Bool) (c : Char) : Bool := isSlash special c || c = '?' || c = '#'

/-- Blanks and controls, which are left out around a URL. -/
def isBlankOrControl (c : Char) : Bool := c.toNat ≤ 32

/-- Characters that are left out anywhere in a URL. -/
def isBreak (c : Char) : Bool := c = '\t' || c = '\n' || c = '\r'

/-- The characters of a text that count. -/
def clean (cs : List Char) : List Char :=
  (((cs.dropWhile isBlankOrControl).reverse.dropWhile isBlankOrControl).reverse).filter
    fun c => !isBreak c

/-- Characters of a scheme behind its first letter. -/
def isSchemeChar (c : Char) : Bool := c.isAlphanum || c = '+' || c = '-' || c = '.'

/-- The scheme in front of a text, in lower case, and what follows its colon. -/
def splitScheme? (cs : List Char) : Option (String × List Char) :=
  match cs.takeWhile isSchemeChar, cs.dropWhile isSchemeChar with
  | c :: name, ':' :: rest =>
    if c.isAlpha then some (String.ofList ((c :: name).map Char.toLower), rest) else none
  | _, _ => none

/-- What stands in front of the last sign `@`, if there is one, and what stands behind it. -/
def splitCredentials (cs : List Char) : Option (List Char) × List Char :=
  let host := (cs.reverse.takeWhile (· != '@')).reverse
  if host.length = cs.length then (none, cs)
  else (some (cs.take (cs.length - host.length - 1)), host)

/-- The end of a host that may hold colons in brackets. -/
def takeHost : Bool → List Char → List Char × List Char
  | _, [] => ([], [])
  | inBrackets, c :: rest =>
    if c = ':' ∧ !inBrackets then ([], c :: rest)
    else
      let (host, rest) := takeHost (if c = '[' then true else if c = ']' then false else inBrackets)
        rest
      (c :: host, rest)

/-- Reads the digits of a port. -/
def readPort (digits : List Char) : Except Fault (Option UInt16) :=
  if digits.all Char.isDigit then
    if digits.isEmpty then .ok none
    else
      match numberIn? 10 digits with
      | some n => if n < 65536 then .ok (some (UInt16.ofNat n)) else .error .badPort
      | none => .error .badPort
  else .error .badPort

/-- The query and the fragment behind a path. -/
def readTail (special : Bool) (cs : List Char) : Option String × Option String :=
  let notHash := (· != '#')
  let encode (s : CharSet) (cs : List Char) := String.ofList (percentEncode s cs)
  let fragment := match cs.dropWhile notHash with
    | _ :: rest => some (encode CharSet.fragment rest)
    | [] => none
  let query := match cs.takeWhile notHash with
    | _ :: rest => some (encode (if special then CharSet.specialQuery else CharSet.query) rest)
    | [] => none
  (query, fragment)

/-- Whether a character ends a path. -/
def endsPath (c : Char) : Bool := c = '?' || c = '#'

/-- The segments of a path in encoded form; one slash in front of them is left out. -/
def pathSegments (special : Bool) (cs : List Char) : List (List Char) :=
  let cs := match cs with
    | c :: rest => if isSlash special c then rest else c :: rest
    | [] => []
  (Path.splitSegments (isSlash special) cs).map (percentEncode CharSet.path)

/-- The URL behind an authority. -/
def finish (scheme user password : String) (host : Option Host) (port : Option UInt16)
    (path : Path) (special : Bool) (rest : List Char) : Url :=
  let (query, fragment) := readTail special rest
  ⟨scheme, user, password, host, port, path, query, fragment⟩

/-- Reads credentials in encoded form: the password stands behind the first colon. -/
def readCredentials (cs : List Char) : String × String :=
  let encode (cs : List Char) := String.ofList (percentEncode CharSet.userinfo cs)
  (encode (cs.takeWhile (· != ':')), encode ((cs.dropWhile (· != ':')).drop 1))

/-- Reads what follows two slashes. -/
def readAuthority (scheme : String) (special : Option Special) (cs : List Char) :
    Except Fault Url := do
  let isSpecial := special.isSome
  let front := cs.takeWhile fun c => !endsAuthority isSpecial c
  let rest := cs.dropWhile fun c => !endsAuthority isSpecial c
  let (credentials, hostPort) := splitCredentials front
  if credentials = some [] ∧ hostPort.isEmpty ∧ !rest.isEmpty then throw .noHost
  let (user, password) := readCredentials (credentials.getD [])
  let (hostText, portText) := takeHost false hostPort
  if hostText.isEmpty then
    if isSpecial ∨ !portText.isEmpty then throw .noHost
  let host ← if isSpecial then Host.read hostText else Host.readOther hostText
  -- A backslash ends a port under every scheme.
  let port ← readPort ((portText.drop 1).takeWhile (· != '\\'))
  let stray := (portText.drop 1).dropWhile (· != '\\')
  if host = .name "" ∧ !(user.isEmpty && password.isEmpty) then throw .noHost
  let rest := stray ++ rest
  let pathText := rest.takeWhile fun c => !endsPath c
  let path := if isSpecial || !pathText.isEmpty then
      Path.ofSegments (Path.resolve false [] (pathSegments isSpecial pathText))
    else .rooted []
  let meant := special.bind Special.defaultPort
  return finish scheme user password (some host) (if port = meant then none else port) path
    isSpecial (rest.dropWhile fun c => !endsPath c)

/-- Splits a drive from what follows it in the first segment. -/
def splitDrive : List (List Char) → List (List Char)
  | (a :: ':' :: c :: cs) :: rest =>
    if a.isAlpha then [a, ':'] :: (c :: cs) :: rest else (a :: ':' :: c :: cs) :: rest
  | segments => segments

/-- Leaves empty segments in front of others out. -/
def dropEmptySegments (segments : List (List Char)) : List (List Char) :=
  match segments.dropWhile List.isEmpty with
  | [] => [[]]
  | rest => rest

/-- Reads the path of a file. A drive in front of it replaces the host. -/
def readFilePath (host : Host) (cs : List Char) : Url :=
  let pathText := cs.takeWhile fun c => !endsPath c
  let segments := Path.resolve true [] (splitDrive (pathSegments true pathText))
  let host := if (segments.head?.map Path.isDrive).getD false then .name "" else host
  finish "file" "" "" (some host) none (Path.ofSegments (dropEmptySegments segments)) true
    (cs.dropWhile fun c => !endsPath c)

/-- Reads what follows the scheme of a file; the local host is not told. -/
def readFile (cs : List Char) : Except Fault Url :=
  match cs with
  | a :: b :: rest =>
    if isSlash true a && isSlash true b then
      let hostText := rest.takeWhile fun c => !endsAuthority true c
      let afterHost := rest.dropWhile fun c => !endsAuthority true c
      if hostText.isEmpty then .ok (readFilePath (.name "") afterHost)
      else if Path.isDrive hostText then .ok (readFilePath (.name "") rest)
      else do
        let host ← Host.read hostText
        return readFilePath (if host = .name "localhost" then .name "" else host) afterHost
    else .ok (readFilePath (.name "") cs)
  | _ => .ok (readFilePath (.name "") cs)

/-- Reads what follows any other scheme without two slashes. -/
def readHostless (scheme : String) (cs : List Char) : Url :=
  let pathText := cs.takeWhile fun c => !endsPath c
  let path := match pathText with
    | '/' :: _ => Path.ofSegments (Path.resolve false [] (pathSegments false pathText))
    | _ => .plain (String.ofList (percentEncode CharSet.controls pathText))
  finish scheme "" "" none none path false (cs.dropWhile fun c => !endsPath c)

/-- The URL that a text tells. -/
def read (s : String) : Except Fault Url :=
  match splitScheme? (clean s.toList) with
  | none => .error .notAbsolute
  | some (scheme, rest) =>
    match Special.ofName? scheme with
    | some .file => readFile rest
    | some special =>
      readAuthority scheme (some special) (rest.dropWhile (isSlash true))
    | none =>
      match rest with
      | '/' :: '/' :: rest => readAuthority scheme none rest
      | _ => .ok (readHostless scheme rest)

end WalletNotify.Url
