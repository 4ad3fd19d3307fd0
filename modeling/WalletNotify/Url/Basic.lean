import WalletNotify.Url.Host
import WalletNotify.Url.Path

/-!
# URLs

A URL in its parts, and its text. Under the well-known schemes a text is read leniently: slashes may
be missing or lean backwards, and hosts are domain names. Blanks and controls around the text are
left out, and so are tabs and line breaks anywhere in it.
-/

namespace WalletNotify

/-- A URL in its parts; without a host there are no double slashes. -/
structure Url where
  scheme : String
  user : String
  password : String
  host : Option Url.Host
  port : Option UInt16
  path : Url.Path
  query : Option String
  fragment : Option String
deriving DecidableEq, Repr

namespace Url

/-- The user name and the password in front of a host. -/
def credentials (u : Url) : String :=
  if u.user.isEmpty && u.password.isEmpty then ""
  else u.user ++ (if u.password.isEmpty then "" else ":" ++ u.password) ++ "@"

/-- The port behind a host. -/
def portText (u : Url) : String :=
  match u.port with
  | some p => ":" ++ toString p.toNat
  | none => ""

/-- What stands between the scheme and the path. A path that would look like a host is kept
apart. -/
def authority (u : Url) : String :=
  match u.host with
  | some h => "//" ++ u.credentials ++ h.text ++ u.portText
  | none =>
    match u.path with
    | .rooted ("" :: _ :: _) => "/."
    | _ => ""

/-- What follows the authority. -/
def tail (u : Url) : String :=
  u.path.text ++ (match u.query with
    | some q => "?" ++ q
    | none => "") ++ (match u.fragment with
    | some f => "#" ++ f
    | none => "")

/-- The text of a URL. -/
def text (u : Url) : String := u.scheme ++ ":" ++ u.authority ++ u.tail

/-- The well-known schemes. -/
inductive Special where
  | http
  | https
  | ws
  | wss
  | ftp
  | file
deriving DecidableEq, Repr

namespace Special

/-- The well-known scheme of a name. -/
def ofName? (s : String) : Option Special :=
  if s = "http" then some http
  else if s = "https" then some https
  else if s = "ws" then some ws
  else if s = "wss" then some wss
  else if s = "ftp" then some ftp
  else if s = "file" then some file
  else none

/-- The port that is meant where none is told. -/
def defaultPort : Special → Option UInt16
  | http | ws => some 80
  | https | wss => some 443
  | ftp => some 21
  | file => none

end Special

/-- The port of a URL, told or meant. -/
def portOrDefault (u : Url) : Option UInt16 :=
  match u.port with
  | some p => some p
  | none => (Special.ofName? u.scheme).bind Special.defaultPort

end Url

end WalletNotify
