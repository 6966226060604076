import FeatureRefs.Uri.Alphabet
import FeatureRefs.Uri.HostName
import FeatureRefs.Uri.Percent
import FeatureRefs.Uri.Scheme

/-!
# Reading a host and what stands around it

The user and the password end at the last at-sign. The host ends at a colon, unless that stands between
brackets, and the number of a service follows the colon. Behind a special scheme a host is a name that has an
ASCII form, or an address; elsewhere it is taken as it is.
-/

namespace FeatureRefs.Uri

/-! ## Hosts -/

/-- Reads an address between brackets. -/
def readBracketed (text : List Char) : Except UriError Host :=
  if text.getLast? == some ']' then
    match AddressV6.parse? (text.drop 1).dropLast with
    | some address => .ok (.addressV6 address)
    | none => .error .addressV6
  else
    .error .addressV6

/-- Reads a name that has its ASCII form, or an address that is written like one. -/
def readAsciiName (name : List Char) : Except UriError Host :=
  if name.isEmpty then .error .emptyHost
  else if AddressV4.isMeant name then
    match AddressV4.parse? name with
    | some address => .ok (.addressV4 address)
    | none => .error .addressV4
  else
    .ok (.name (String.ofList name))

/-- Reads the host behind a special scheme. -/
def readSpecialHost (text : List Char) : Except UriError Host :=
  if text.head? == some '[' then readBracketed text
  else
    match (Percent.decodeText? text).bind (HostName.toAscii? ·.toList) with
    | some name => readAsciiName name
    | none => .error .hostName

/-- Reads a host that is taken as it is, and may be empty. -/
def readPlainHost (text : List Char) : Except UriError (Option Host) :=
  if text.head? == some '[' then (readBracketed text).map some
  else if text.any isRefusedInHost then .error .hostCharacter
  else if text.isEmpty then .ok none
  else .ok (some (.name (String.ofList (Percent.encode isPlain text))))

/-- Reads the host behind a scheme other than that of files. -/
def readHost (scheme : String) (text : List Char) : Except UriError (Option Host) :=
  if !isWebScheme scheme then readPlainHost text
  else if text.isEmpty then .error .emptyHost
  else (readSpecialHost text).map some

/-! ## Services -/

/-- The largest number of a service. -/
def serviceLimit : Nat := 65535

/-- Reads the number of a service and gives what follows. A number that goes without saying behind its scheme
is left out. -/
def readService (scheme : String) (text : List Char) :
    Except UriError (Option Nat × List Char) :=
  let digits := text.takeWhile Char.isDigit
  let after := text.dropWhile Char.isDigit
  let number := digits.foldl (fun n c => 10 * n + (c.toNat - '0'.toNat)) 0
  if serviceLimit < number || !after.isEmpty && after.head? != some '\\' then .error .service
  else if digits.isEmpty || schemeService? scheme == some number then .ok (none, after)
  else .ok (some number, after)

/-! ## Authorities -/

/-- A text cut at its last at-sign. -/
def cutAtAccount (text : List Char) : Option (List Char) × List Char :=
  match text.reverse.dropWhile (· != '@') with
  | [] => (none, text)
  | _ :: account => (some account.reverse, (text.reverse.takeWhile (· != '@')).reverse)

/-- A text cut before the first colon that is not between brackets. -/
def cutAtService (inBrackets : Bool) : List Char → List Char × List Char
  | [] => ([], [])
  | c :: rest =>
      if c == ':' && !inBrackets then ([], c :: rest)
      else
        let (host, after) := cutAtService (c == '[' || inBrackets && c != ']') rest
        (c :: host, after)

/-- Reads an authority, and gives what follows the number of its service. `isLast` says that the URI ends with
it. An account needs a host. -/
def readAuthority (scheme : String) (text : List Char) (isLast : Bool) :
    Except UriError (Authority × List Char) := do
  let (account?, place) := cutAtAccount text
  if account? == some [] && place.isEmpty && !isLast then
    throw .emptyHost
  let (user, password?) := Text.cutAt ':' (account?.getD [])
  let encode (part : List Char) := String.ofList (Percent.encode isPlainInAccount part)
  let (hostText, after) := cutAtService false place
  let host ← readHost scheme hostText
  if host.isNone && !after.isEmpty then
    throw .emptyHost
  let (service, after) ← readService scheme (after.drop 1)
  let authority : Authority :=
    { user := encode user, password := encode (password?.getD []), host, service }
  if host.isNone && !(authority.user.isEmpty && authority.password.isEmpty) then
    throw .emptyHost
  return (authority, after)

end FeatureRefs.Uri
