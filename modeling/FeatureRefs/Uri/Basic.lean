import FeatureRefs.Files.Path
import FeatureRefs.Uri.Address

/-!
# URIs

A URI has a scheme, a path and, where two slashes stand behind the scheme, a host, which a user may come before
and the number of a service may follow. A URI is kept in its normal form: what is the same for every reader is
written in the same way, and characters that may not stand in a part are percent encoded there.
-/

namespace FeatureRefs

/-- Why a text is no URI. -/
inductive UriError where
  /-- There is no scheme. -/
  | noScheme
  | emptyHost
  /-- The host is no name that has an ASCII form. -/
  | hostName
  /-- The host has a character that must not stand there. -/
  | hostCharacter
  /-- The number of the service is none or too large. -/
  | service
  | addressV4
  | addressV6
deriving Repr, DecidableEq

/-- An error in words. -/
def UriError.message : UriError → String
  | noScheme => "relative URL without a base"
  | emptyHost => "empty host"
  | hostName => "invalid international domain name"
  | hostCharacter => "invalid domain character"
  | service => "invalid port number"
  | addressV4 => "invalid IPv4 address"
  | addressV6 => "invalid IPv6 address"

/-- A host. -/
inductive Host where
  | name (text : String)
  | addressV4 (address : AddressV4)
  | addressV6 (address : AddressV6)
deriving Repr, DecidableEq

/-- How a host is written. An address of the longer kind stands between brackets. -/
def Host.text : Host → String
  | name text => text
  | addressV4 address => address.text
  | addressV6 address => "[" ++ address.text ++ "]"

/-- What stands behind the two slashes. -/
structure Authority where
  user : String := ""
  password : String := ""
  /-- The host; nothing where it is empty. -/
  host : Option Host := none
  service : Option Nat := none
deriving Repr, DecidableEq

/-- A text behind a mark, or nothing. -/
def markedText (mark : String) : Option String → String
  | some text => mark ++ text
  | none => ""

/-- How an authority is written. -/
def Authority.text (a : Authority) : String :=
  let password := if a.password.isEmpty then "" else ":" ++ a.password
  let account := if a.user.isEmpty && a.password.isEmpty then "" else a.user ++ password ++ "@"
  account ++ (a.host.map Host.text).getD "" ++ markedText ":" (a.service.map toString)

/-- The path of a URI. -/
inductive UriPath where
  /-- A path that does not begin with a slash. -/
  | rootless (text : String)
  /-- What follows each slash. -/
  | rooted (segments : List String)
deriving Repr, DecidableEq

/-- How a path is written. -/
def UriPath.text : UriPath → String
  | rootless text => text
  | rooted segments => "".intercalate (segments.map ("/" ++ ·))

/-- A URI in its normal form. -/
structure Uri where
  scheme : String
  /-- What stands behind the two slashes, if they are there. -/
  authority : Option Authority := none
  path : UriPath
  query : Option String := none
  fragment : Option String := none
deriving Repr, DecidableEq

namespace Uri

/-- Two slashes at the beginning of a path would be taken for those before a host, so a dot comes before them
where there is no host. -/
def pathMark (u : Uri) : String :=
  match u.authority, u.path with
  | none, .rooted ("" :: _ :: _) => "/."
  | _, _ => ""

/-- The text of a URI. -/
def text (u : Uri) : String :=
  u.scheme ++ ":" ++ markedText "//" (u.authority.map Authority.text) ++ u.pathMark ++ u.path.text ++
    markedText "?" u.query ++ markedText "#" u.fragment

end Uri

end FeatureRefs
