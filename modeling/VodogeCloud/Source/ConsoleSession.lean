import VodogeCloud.Source.ClientAddress
import VodogeCloud.Source.NetUrl

/-!
# Signing in to the console

`isPublicPath`, `loginRedirect` and `safeNext` of apps/console/lib/session.ts:18-49, 112-139,
with `encodeURIComponent` and `decodeURIComponent` of ECMAScript, and what the URL standard
says of a reference against a page of an https site. A JavaScript string is its code points,
of which an unpaired surrogate is one.
-/

set_option autoImplicit false

namespace VodogeCloud.Source.ConsoleSession

open VodogeCloud.Lib.NetAddress (hexDigit)
open VodogeCloud.Source.Postgres
open VodogeCloud.Source.GoJson (scalarOf)
open VodogeCloud.Source.JsonText (utf8)
open VodogeCloud.Source.NetUrl (before after)
open VodogeCloud.Source.ProxyExport (upperHex)
open VodogeCloud.Source.ClientAddress (trimWith)

abbrev JsString := List JsonChar

def startsWith (text : JsString) (head : String) : Bool := (chars head).isPrefixOf text

/-! ## URI components -/

/-- The characters `encodeURIComponent` leaves alone. -/
def uriUnescaped (c : Char) : Bool :=
  ('a' ≤ c && c ≤ 'z') || ('A' ≤ c && c ≤ 'Z') || ('0' ≤ c && c ≤ '9') || "-_.!~*'()".toList.contains c

def escapeOctet (octet : UInt8) : List Char :=
  ['%', upperHex (octet.toNat / 16), upperHex (octet.toNat % 16)]

def encodeChar (c : Char) : List Char :=
  if uriUnescaped c then [c] else (utf8 [c]).flatMap escapeOctet

/-- Nothing where a surrogate has no other half: a `URIError` is thrown. -/
def encodeURIComponent : JsString → Option (List Char)
  | [] => some []
  | .scalar c :: rest => (encodeURIComponent rest).map (encodeChar c ++ ·)
  | .loneSurrogate _ :: _ => none

/-- The octets of a text whose escapes are read. -/
def octets : List Char → Option (List UInt8)
  | [] => some []
  | '%' :: high :: low :: rest =>
    match hexDigit high, hexDigit low with
    | some h, some l => (octets rest).map (UInt8.ofNat (16 * h.val + l.val) :: ·)
    | _, _ => none
  | c :: rest => if c = '%' then none else (octets rest).map (utf8 [c] ++ ·)

/-- Nothing where an escape is cut short or the octets are no UTF-8. -/
def decodeURIComponent (text : List Char) : Option JsString := do
  let bytes ← octets text
  let decoded ← bytes.toByteArray.utf8Decode?
  return decoded.toList.map .scalar

/-! ## The two destinations -/

def publicPaths : List String :=
  ["/login", "/api/auth/login", "/api/auth/logout", "/unknown-tenant", "/not-a-tenant"]

/-- Each entry has to be the whole segment. -/
def isPublicPath (pathname : JsString) : Bool :=
  publicPaths.any fun allowed => pathname = chars allowed || startsWith pathname (allowed ++ "/")

/-- `loginRedirect`; nothing where encoding the path throws. -/
def loginRedirect (pathname : JsString) : Option (List Char) :=
  let safe := if startsWith pathname "/" && !startsWith pathname "//" then pathname else chars "/"
  if safe = chars "/" || isPublicPath safe then some "/login".toList
  else (encodeURIComponent safe).map ("/login?next=".toList ++ ·)

/-- `safeNext`; a parameter that is not there and an empty one are alike. -/
def safeNext (next : Option JsString) : JsString :=
  match next with
  | none => chars "/"
  | some text =>
    if text = [] || !startsWith text "/" || startsWith text "//" then chars "/" else text

/-- The `next` parameter of a target, as it stands in the query. -/
def nextParameter (target : List Char) : Option (List Char) :=
  (((after '?' target).splitOn '&').find? fun field => before '=' field = "next".toList).map (after '=')

/-- Where the account lands that was sent to sign in from a path: the parameter of the
redirect, decoded, through `safeNext`. -/
def landing (pathname : JsString) : Option JsString := do
  let target ← loginRedirect pathname
  match nextParameter target with
  | none => return safeNext none
  | some encoded => return safeNext (some (← decodeURIComponent encoded))

/-! ## Resolving a reference -/

/-- The origin of an https page. -/
structure Origin where
  host : String
  port : Nat
  deriving DecidableEq, Repr

/-- The parts of the parser that a reference from one page of a site to another never
reaches: a host with its port, and a reference with a scheme of its own. -/
structure UrlParser where
  authority : List Char → Option Origin
  absolute : List Char → List Char → Origin → Option Origin

/-- In a special scheme a backslash is a slash. -/
def isSlash (c : Char) : Bool := c = '/' || c = '\\'

def isTabOrNewline (c : Char) : Bool := c = '\t' || c = '\n' || c = '\r'

def isControlOrSpace (c : Char) : Bool := c ≤ ' '

/-- The code points the parser reads: no control or space around the text, no tab or newline
in it, and U+FFFD for an unpaired surrogate. -/
def parserInput (text : JsString) : List Char :=
  (trimWith isControlOrSpace (text.map scalarOf)).filter fun c => !isTabOrNewline c

def isSchemeChar (c : Char) : Bool :=
  ('a' ≤ c && c ≤ 'z') || ('A' ≤ c && c ≤ 'Z') || ('0' ≤ c && c ≤ '9') || c = '+' || c = '-' || c = '.'

/-- The scheme a reference begins with, and what follows its colon. -/
def schemeOf (input : List Char) : Option (List Char × List Char) :=
  match input with
  | [] => none
  | first :: _ =>
    if ('a' ≤ first && first ≤ 'z') || ('A' ≤ first && first ≤ 'Z') then
      match input.dropWhile isSchemeChar with
      | ':' :: rest => some (input.takeWhile isSchemeChar, rest)
      | _ => none
    else none

/-- The states from "scheme start" to "authority" for a base of an https site: two slashes
begin a host, further slashes are ignored, and anything else keeps the host of the base. -/
def UrlParser.resolve (parser : UrlParser) (base : Origin) (text : JsString) : Option Origin :=
  let input := parserInput text
  match schemeOf input with
  | some (scheme, rest) => parser.absolute scheme rest base
  | none =>
    match input with
    | first :: second :: rest =>
      if isSlash first && isSlash second then
        parser.authority ((rest.dropWhile isSlash).takeWhile fun c =>
          !(isSlash c || c = '?' || c = '#'))
      else some base
    | _ => some base

end VodogeCloud.Source.ConsoleSession
