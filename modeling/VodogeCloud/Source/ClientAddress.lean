import VodogeCloud.Lib.NetAddress
import VodogeCloud.Source.ServeDevice

/-!
# The address a request is limited by

`stripPort`, `normaliseAddress` and `forwardedClientAddress` of the console
(apps/console/lib/host.ts:14-27, 192-213), and `ClientKey` and `ClientKeyBehind` of the
gateway (apps/gateway/internal/ratelimit/http.go:22-28, 110-154) with what they use of
net/netip. Texts are lists of characters.
-/

set_option autoImplicit false

namespace VodogeCloud.Source.ClientAddress

open VodogeCloud.Lib.NetAddress
open VodogeCloud.Source.ServeDevice (isSpace)

def trimWith (space : Char → Bool) (text : List Char) : List Char :=
  ((text.dropWhile space).reverse.dropWhile space).reverse

def lastIndexOf (c : Char) : List Char → Option Nat
  | [] => none
  | first :: rest =>
    match lastIndexOf c rest with
    | some index => some (index + 1)
    | none => if first = c then some 0 else none

def indexOf (c : Char) (text : List Char) : Option Nat := text.findIdx? (· = c)

/-! ## The console -/

/-- What `trim()` removes: white space and line terminators. -/
def isJsSpace (c : Char) : Bool :=
  [' ', '\t', '\n', '\x0b', '\x0c', '\r', '\u00a0', '\u1680', '\u2028', '\u2029', '\u202f', '\u205f', '\u3000',
    '\ufeff'].contains c || ('\u2000' ≤ c && c ≤ '\u200a')

def trim (text : List Char) : List Char := trimWith isJsSpace text

/-- `/^\d+$/`. -/
def isPort (text : List Char) : Bool := text ≠ [] && text.all Char.isDigit

/-- The text up to a last colon that is not the first character and has a port after it. -/
def cutPort (text : List Char) : List Char :=
  match lastIndexOf ':' text with
  | some colon => if 0 < colon && isPort (text.drop (colon + 1)) then text.take colon else text
  | none => text

def stripPort (host : List Char) : List Char :=
  let trimmed := trim host
  if trimmed.head? = some '[' then
    match indexOf ']' trimmed with
    | some end_ => (trimmed.take end_).drop 1
    | none => cutPort trimmed
  else cutPort trimmed

def normaliseAddress (value : Option (List Char)) : Option (List Char) :=
  let trimmed := trim (value.getD [])
  if trimmed = [] then none
  else if stripPort trimmed = [] then none
  else some (stripPort trimmed)

/-- The headers by name. -/
abbrev HeaderReader := String → Option (List Char)

def forwardedClientAddress (headers : HeaderReader) : Option (List Char) :=
  match normaliseAddress (headers "cf-connecting-ip") with
  | some direct => some direct
  | none =>
    match headers "x-forwarded-for" with
    | none => none
    | some chain => if chain = [] then none else normaliseAddress (chain.splitOn ',').getLast?

/-! ## The gateway -/

/-- `net.SplitHostPort`. -/
def splitHostPort (hostport : List Char) : Option (List Char × List Char) :=
  match lastIndexOf ':' hostport with
  | none => none
  | some colon =>
    if hostport.head? = some '[' then
      match indexOf ']' hostport with
      | none => none
      | some end_ =>
        if end_ + 1 = colon then
          if '[' ∈ hostport.drop 1 ∨ ']' ∈ hostport.drop (end_ + 1) then none
          else some ((hostport.take end_).drop 1, hostport.drop (colon + 1))
        else none
    else
      let host := hostport.take colon
      if ':' ∈ host ∨ '[' ∈ hostport ∨ ']' ∈ hostport then none else some (host, hostport.drop (colon + 1))

def splitHost (hostport : List Char) : Option (List Char) := (splitHostPort hostport).map Prod.fst

/-- The address of the peer, and the header the console sets. -/
structure Request where
  remoteAddr : List Char
  clientAddress : Option (List Char)

/-- `ClientKey`. -/
def clientKey (request : Request) : List Char := (splitHost request.remoteAddr).getD request.remoteAddr

/-- `netip.Prefix`: an address and the number of its leading bits that count. -/
structure Prefix where
  addr : Addr
  length : Nat
  valid : length ≤ (bits addr).2

def zoneOf : Addr → List Char
  | .v4 _ _ _ _ => []
  | .v6 _ _ zone => zone

/-- `Prefix.Contains`. -/
def Prefix.contains (network : Prefix) (addr : Addr) : Bool :=
  zoneOf addr = [] && (bits addr).2 = (bits network.addr).2 &&
    (bits addr).1 / 2 ^ ((bits addr).2 - network.length) = (bits network.addr).1 / 2 ^ ((bits addr).2 - network.length)

/-- `ClientKeyBehind`. -/
def clientKeyBehind (trusted : List Prefix) (request : Request) : List Char :=
  let peer := clientKey request
  if trusted = [] then peer
  else
    match parse peer with
    | none => peer
    | some addr =>
      if trusted.any fun network => network.contains (unmap addr) then
        match parse (trimWith isSpace (request.clientAddress.getD [])) with
        | none => "proxy:".toList ++ peer
        | some forwarded => text (unmap forwarded)
      else peer

end VodogeCloud.Source.ClientAddress
