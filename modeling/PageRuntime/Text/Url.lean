import PageRuntime.Text.HostName

/-! Whether a text is a URL, with its scheme and host. Everything but the host, the number after it
and the form of the path is taken as it is. -/
namespace PageRuntime.Text
open Unicode

structure Url where
  scheme : List Char
  host : List Char

namespace Url

def isSchemeChar (c : Char) : Bool :=
  isAsciiLetter c || isAsciiDigit c || c == '+' || c == '.' || c == '-'

/-- The scheme before a colon, which may be empty, and what follows; none if there is no colon. -/
def splitScheme (text : List Char) : Option (List Char) × List Char :=
  let scheme := if text.head?.any isAsciiLetter then text.takeWhile isSchemeChar else []
  match text.drop scheme.length with
  | ':' :: rest => (some scheme, rest)
  | _ => (none, text)

def isAuthorityEnd (c : Char) : Bool := c == '/' || c == '?' || c == '#'

/-- User, host and number of the service of an authority. The user ends at the last at sign. -/
def splitAuthority (text : List Char) : List Char × List Char × List Char :=
  let backwards := text.reverse
  let place := (backwards.takeWhile (· != '@')).reverse
  let user := if text.contains '@' then text.take (text.length - place.length - 1) else []
  let host :=
    if place.head? == some '[' && place.contains ']' then
      place.take (place.length - (place.reverse.takeWhile (· != ']')).length)
    else place.takeWhile (· != ':')
  let portNumber := match place.drop host.length with
    | ':' :: rest => rest
    | rest => rest
  (user, host, portNumber)

def maxLength : Nat := 65536

def read? (text : String) : Option Url :=
  let chars := text.toList
  if maxLength < chars.length || chars.any (fun c => c.toNat < 0x20 || c.toNat == 0x7F) then none
  else
    let (scheme, rest) := splitScheme chars
    let (authority, rest) := match rest with
      | '/' :: '/' :: rest =>
        (rest.takeWhile (!isAuthorityEnd ·), rest.dropWhile (!isAuthorityEnd ·))
      | rest => ([], rest)
    let path := rest.takeWhile fun c => c != '?' && c != '#'
    let (user, host, portNumber) := splitAuthority authority
    let scheme := scheme.getD []
    let placed := !user.isEmpty || !host.isEmpty || !portNumber.isEmpty
    let portFits := portNumber.isEmpty || (Number.readInt? (String.ofList portNumber)).isSome
    let pathFits := placed || !scheme.isEmpty ||
      !(path.take 2 == ['/', '/'] || path.head? == some ':')
    if HostName.isValid host && portFits && pathFits then
      some ⟨scheme.map Char.toLower, host⟩
    else none

/-- Whether the URL says by itself which server to ask over the web. -/
def isAbsoluteWeb (url : Url) : Bool :=
  (url.scheme == "http".toList || url.scheme == "https".toList) && !url.host.isEmpty

end Url

end PageRuntime.Text
