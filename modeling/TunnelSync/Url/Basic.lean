import TunnelSync.Url.Percent
import TunnelSync.Url.Address

/-!
# URLs

A `Url` holds the parts of an absolute URL in the form in which they are written; `Url.toText`
writes them one behind the other.
-/

namespace TunnelSync

/-- Why a text is not an absolute URL. -/
inductive UrlError
  | emptyHost
  | invalidDomain
  | invalidPort
  | invalidIpv4
  | invalidIpv6
  | invalidHostCharacter
  | noScheme
  deriving DecidableEq, Repr

namespace UrlError

/-- The wording of the error. -/
def message : UrlError → Text
  | .emptyHost => "empty host"
  | .invalidDomain => "invalid international domain name"
  | .invalidPort => "invalid port number"
  | .invalidIpv4 => "invalid IPv4 address"
  | .invalidIpv6 => "invalid IPv6 address"
  | .invalidHostCharacter => "invalid domain character"
  | .noScheme => "relative URL without a base"

end UrlError

namespace Url

/-- Where a URL points to. -/
inductive Host
  /-- A name, as it is written. -/
  | name (t : Text)
  | ipv4 (address : Nat)
  | ipv6 (pieces : List Nat)
  deriving DecidableEq, Repr

/-- The written form of a host. -/
def Host.toText : Host → Text
  | .name t => t
  | .ipv4 address => Ipv4.toText address
  | .ipv6 pieces => '[' :: Ipv6.toText pieces ++ [']']

/-- What stands behind the two slashes. -/
structure Authority where
  username : Text
  /-- A password is never empty. -/
  password : Option Text
  host : Option Host
  port : Option Nat
  deriving DecidableEq, Repr

namespace Authority

/-- An authority of which nothing is said. -/
def empty : Authority := ⟨[], none, none, none⟩

/-- User name and password with the sign behind them; nothing where there is neither. -/
def userInfo (a : Authority) : Text :=
  match a.password with
  | some p => a.username ++ ':' :: p ++ ['@']
  | none => if a.username.isEmpty then [] else a.username ++ ['@']

/-- The port with its colon. -/
def portText (a : Authority) : Text :=
  match a.port with
  | some p => ':' :: Text.ofNat p
  | none => []

/-- The written form, without the slashes before it. -/
def toText (a : Authority) : Text :=
  a.userInfo ++ (a.host.map Host.toText).getD [] ++ a.portText

end Authority

/-- Where in its place a URL points to. -/
inductive Path
  /-- The segments, each behind a slash. -/
  | rooted (segments : List Text)
  /-- A path that is not made of segments. -/
  | plain (t : Text)
  deriving DecidableEq, Repr

/-- The written form of a path. -/
def Path.toText : Path → Text
  | .rooted segments => segments.flatMap ('/' :: ·)
  | .plain t => t

end Url

/-- An absolute URL. -/
structure Url where
  scheme : Text
  authority : Option Url.Authority
  path : Url.Path
  query : Option Text
  fragment : Option Text
  deriving DecidableEq, Repr

namespace Url

/-- What stands between the scheme and the path. A path with an empty first segment and no
authority before it is kept apart by `/.`, because two slashes would begin an authority. -/
def beforePath (u : Url) : Text :=
  match u.authority with
  | some a => '/' :: '/' :: a.toText
  | none => if (Text.startsWith "//" u.path.toText : Bool) then "/." else []

/-- An optional part with its mark. -/
def marked (mark : Char) : Option Text → Text
  | some t => mark :: t
  | none => []

/-- The written form of a URL. -/
def toText (u : Url) : Text :=
  u.scheme ++ ':' :: u.beforePath ++ u.path.toText ++ marked '?' u.query ++ marked '#' u.fragment

end Url

end TunnelSync
