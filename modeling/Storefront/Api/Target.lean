import Storefront.Json.Reader
import Storefront.Text.Case
import Storefront.Text.Quoted
import Storefront.Text.Utf8

/-!
# Request targets

The target of a request names a path and perhaps a query. Percent signs with two hexadecimal digits
stand for bytes of the path. A scheme and an authority in front say which host is meant only where
both are given, and a fragment at the end says nothing.

* `Target.parse`: the decoded path and the query of a target.
* `Target.shownPath`: the path with escapes for all that has a meaning in addresses.
* `Target.location`: the address of another path with the same query.
-/

namespace Storefront.Api

/-- Where a service is reached. -/
structure Origin where
  scheme : Text
  host : Text

/-- The origin of a target, if it names one, the decoded path, and the query as it was sent; an empty
query is none. -/
structure Target where
  origin : Option Origin
  path : Text
  query : Text

namespace Target

/-! ## Escapes -/

/-- The bytes of a text, where percent signs with two hexadecimal digits stand for one byte. -/
def unescapeBytes : Text → List UInt8
  | [] => []
  | .char '%' :: .char a :: .char b :: rest =>
    match Json.hexValue? a, Json.hexValue? b with
    | some x, some y => UInt8.ofNat (x * 16 + y) :: unescapeBytes rest
    | _, _ => Text.pointBytes '%' ++ unescapeBytes (.char a :: .char b :: rest)
  | p :: rest => Text.pointBytes p ++ unescapeBytes rest
termination_by t => t.length

/-- The text whose bytes a text describes. -/
def unescape (t : Text) : Text := Text.decodeUtf8 (unescapeBytes t)

/-- A code point of an address, escaped unless it is a letter, a digit or one of the marks that stand
for themselves. -/
def escapePoint (plain : Text) (p : CodePoint) : Text :=
  if p.char?.any Char.isAlphanum || plain.contains p then [p]
  else Text.ofChars ((Text.pointBytes p).flatMap fun b =>
    '%' :: (Text.hex 2 b.toNat).map Char.toUpper)

/-- The marks that stand for themselves in a path. -/
def pathMarks : Text := "-._~/:@!$&'()*+,;="

/-- The marks that stand for themselves in an address; escapes stay what they are. -/
def addressMarks : Text := "-._~:/%#?=@[]!$&'()*+,;"

/-! ## Reading -/

/-- The characters of a scheme behind its first letter. -/
def isSchemePoint (p : CodePoint) : Bool :=
  p.char?.any fun c => c.isAlphanum || c == '+' || c == '.' || c == '-'

/-- A scheme in front of a colon, which may be empty, and the rest of a text. -/
def splitScheme (t : Text) : Text × Text :=
  let scheme := t.takeWhile isSchemePoint
  let isScheme := match scheme with
    | p :: _ => p.char?.any Char.isAlpha
    | [] => true
  match t.drop scheme.length with
  | .char ':' :: rest => if isScheme then (scheme, rest) else ([], t)
  | _ => ([], t)

/-- The authority that two slashes at the beginning of a text introduce, and the rest. -/
def splitAuthority (t : Text) : Text × Text :=
  match t with
  | .char '/' :: .char '/' :: rest =>
    let isInside (p : CodePoint) : Bool := p != .char '/' && p != .char '?'
    (rest.takeWhile isInside, rest.dropWhile isInside)
  | _ => ([], t)

/-- The host in an authority, in lower case, with its port unless that is the usual one. -/
def hostOf (scheme authority : Text) : Text :=
  let host := Text.lower (authority.reverse.takeWhile (· != .char '@')).reverse
  let usual : Text := if scheme = "https" then ":443" else ":80"
  if usual.isSuffixOf host then host.take (host.length - usual.length) else host

/-- Parts of a path without `.`, and without `..` and the part that it takes back; `kept` holds the
parts in front, nearest first. -/
def resolveDots (kept : List Text) : List Text → List Text
  | [] => kept.reverse
  | s :: rest =>
    if s = "." then resolveDots kept rest
    else if s = ".." then
      match kept with
      | [] => resolveDots [] rest
      | [[]] => resolveDots [[]] rest
      | _ :: kept' => resolveDots kept' rest
    else resolveDots (s :: kept) rest

/-- A path with one slash at its beginning and without dots as parts. -/
def normalize (t : Text) : Text :=
  let path : Text := .char '/' :: t.dropWhile (· == .char '/')
  let resolved := Text.join "/" (resolveDots [] (path.splitOn (.char '/')))
  if resolved.isEmpty then "/" else resolved

/-- Reads a target. Escapes of escapes are decoded as well. -/
def parse (t : Text) : Target :=
  let (scheme, behindScheme) := splitScheme (t.takeWhile (· != .char '#'))
  let (authority, rest) := splitAuthority behindScheme
  let path := rest.takeWhile (· != .char '?')
  { origin :=
      if scheme.isEmpty || authority.isEmpty then none
      else some ⟨scheme.lower, hostOf scheme.lower authority⟩
    path := unescape (unescape (normalize path))
    query := (rest.dropWhile (· != .char '?')).drop 1 }

/-- The path as it stands in an address. -/
def shownPath (t : Target) : Text := t.path.flatMap (escapePoint pathMarks)

/-- The path without the slashes at its end, or with one where there are none. -/
def otherSlash (t : Target) : Text :=
  if t.path.getLast? = some (.char '/') then
    (t.path.reverse.dropWhile (· == .char '/')).reverse
  else t.path ++ "/"

/-! ## Addresses -/

/-- Where the service is reached unless a request says otherwise. -/
def defaultOrigin : Origin := ⟨"http", "testserver"⟩

/-- The marks of a host's name, besides letters and digits. -/
def hostMarks : Text := "-._~%!$&'()*+,;="

/-- Whether a text is a port behind a colon, or nothing. -/
def isPort (t : Text) : Bool :=
  match t with
  | [] => true
  | .char ':' :: digits =>
    !digits.isEmpty && digits.all CodePoint.isDigit
      && digits.foldl (fun n d => n * 10 + (d.toNat - '0'.toNat)) 0 < 65536
  | _ => false

/-- Whether a text names a host, perhaps with a port: by a name, or by an address in brackets. -/
def isHost (t : Text) : Bool :=
  match t with
  | .char '[' :: rest =>
    let isInside (p : CodePoint) : Bool :=
      p.char?.any fun c => (Json.hexValue? c).isSome || c == ':' || c == '.'
    let address := rest.takeWhile isInside
    match rest.drop address.length with
    | .char ']' :: port => !address.isEmpty && isPort port
    | _ => false
  | _ =>
    let isInside (p : CodePoint) : Bool := p.char?.any Char.isAlphanum || hostMarks.contains p
    let name := t.takeWhile isInside
    !name.isEmpty && isPort (t.drop name.length)

/-- The origin that a request is addressed to: a header field that names a host counts before the
target. -/
def originOf (t : Target) (hostField : Option Text) : Origin :=
  let origin := t.origin.getD defaultOrigin
  match hostField with
  | some host => ⟨origin.scheme, if isHost host then host else defaultOrigin.host⟩
  | none => origin

/-- The address of a path at an origin, with the query of this target. -/
def location (t : Target) (origin : Origin) (path : Text) : Text :=
  let query : Text := if t.query.isEmpty then [] else .char '?' :: t.query
  origin.scheme ++ "://" ++ origin.host ++ (path ++ query).flatMap (escapePoint addressMarks)

end Target

end Storefront.Api
