import Mathlib.Data.List.TakeWhile
import VodogeCloud.Source.ProxyExport

/-!
# Parsing a URL

`url.Parse` of the toolchain, with `getScheme`, `parseAuthority`, `parseHost` and
`unescape` of `net/url`, and `checkHTTPURL`
(apps/gateway/internal/settings/settings.go:375-387). A text is its characters; what is
unescaped is bytes. Why a text is no URL is left out: `checkHTTPURL` drops it.
-/

set_option autoImplicit false

namespace VodogeCloud.Source.NetUrl

open VodogeCloud.Lib.NetAddress (hexDigit)
open VodogeCloud.Source.Postgres
open VodogeCloud.Source.JsonText (utf8)
open VodogeCloud.Source.ProxyExport (shouldEscape)

/-! ## Cutting -/

/-- `strings.Cut`, what comes before. -/
def before (separator : Char) (text : List Char) : List Char := text.takeWhile (· ≠ separator)

/-- `strings.Cut`, what comes after; nothing where there is no separator. -/
def after (separator : Char) (text : List Char) : List Char := (text.dropWhile (· ≠ separator)).drop 1

/-- Around the last separator. -/
def cutLast (separator : Char) (text : List Char) : Option (List Char × List Char) :=
  if separator ∈ text then
    some ((after separator text.reverse).reverse, (before separator text.reverse).reverse)
  else none

theorem before_append {separator : Char} {left : List Char} (free : separator ∉ left) (right : List Char) :
    before separator (left ++ separator :: right) = left := by
  unfold before
  rw [List.takeWhile_append_of_pos fun c member => by
    rw [decide_eq_true_eq]
    rintro rfl
    exact free member, List.takeWhile_cons_of_neg (by simp), List.append_nil]

theorem after_append {separator : Char} {left : List Char} (free : separator ∉ left) (right : List Char) :
    after separator (left ++ separator :: right) = right := by
  unfold after
  rw [List.dropWhile_append_of_pos fun c member => by
    rw [decide_eq_true_eq]
    rintro rfl
    exact free member, List.dropWhile_cons_of_neg (by simp)]
  rfl

theorem before_absent {separator : Char} {text : List Char} (free : separator ∉ text) :
    before separator text = text :=
  List.takeWhile_eq_self_iff.mpr fun c member => by
    rw [decide_eq_true_eq]
    rintro rfl
    exact free member

theorem after_absent {separator : Char} {text : List Char} (free : separator ∉ text) : after separator text = [] := by
  unfold after
  rw [List.dropWhile_eq_nil_iff.mpr fun c member => by
    rw [decide_eq_true_eq]
    rintro rfl
    exact free member]
  rfl

theorem cutLast_append {separator : Char} {right : List Char} (free : separator ∉ right) (left : List Char) :
    cutLast separator (left ++ separator :: right) = some (left, right) := by
  have freeReverse : separator ∉ right.reverse := fun member => free (List.mem_reverse.mp member)
  have reversed : (left ++ separator :: right).reverse = right.reverse ++ separator :: left.reverse := by simp
  unfold cutLast
  rw [if_pos (List.mem_append_right _ List.mem_cons_self), reversed, after_append freeReverse,
    before_append freeReverse, List.reverse_reverse, List.reverse_reverse]

theorem cutLast_absent {separator : Char} {text : List Char} (free : separator ∉ text) :
    cutLast separator text = none := if_neg free

/-- Up to the first `%25`, and from there on. -/
def cutZone : List Char → Option (List Char × List Char)
  | '%' :: '2' :: '5' :: rest => some ([], '%' :: '2' :: '5' :: rest)
  | c :: rest => (cutZone rest).map fun parts => (c :: parts.1, parts.2)
  | [] => none

/-! ## Escapes -/

inductive Mode where
  | userPassword | host | zone | path | fragment
  deriving DecidableEq, Repr

/-- Whether a mode lets an escaped byte stand for itself. -/
def allowsEscaped (mode : Mode) (byte : Nat) : Bool :=
  match mode with
  | .host => 128 ≤ byte || byte = 0x25
  | .zone => byte = 0x25 || byte = 0x20 || (byte < 128 && !shouldEscape .host (Char.ofNat byte))
  | _ => true

/-- Whether a mode lets a character stand bare. -/
def allowsBare (mode : Mode) (c : Char) : Bool :=
  match mode with
  | .host | .zone => 128 ≤ c.toNat || !shouldEscape .host c
  | _ => true

/-- `unescape`. -/
def unescape (mode : Mode) : List Char → Option (List UInt8)
  | [] => some []
  | '%' :: high :: low :: rest =>
    match hexDigit high, hexDigit low with
    | some h, some l =>
      if allowsEscaped mode (16 * h.val + l.val) then (unescape mode rest).map (UInt8.ofNat (16 * h.val + l.val) :: ·)
      else none
    | _, _ => none
  | c :: rest =>
    if c = '%' then none
    else if allowsBare mode c then (unescape mode rest).map (utf8 [c] ++ ·)
    else none

/-! ## The parts -/

def isLetter (c : Char) : Bool := ('a' ≤ c && c ≤ 'z') || ('A' ≤ c && c ≤ 'Z')

/-- What may follow the first letter of a scheme. -/
def isSchemeMark (c : Char) : Bool := c.isDigit || c = '+' || c = '-' || c = '.'

/-- `getScheme`: a text that starts with none is all path. -/
def getScheme (text : List Char) : Option (List Char × List Char) :=
  let scheme := text.takeWhile fun c => isLetter c || isSchemeMark c
  match text.dropWhile fun c => isLetter c || isSchemeMark c with
  | ':' :: rest =>
    match scheme with
    | [] => none
    | first :: _ => if isLetter first then some (scheme, rest) else some ([], text)
  | _ => some ([], text)

/-- `validOptionalPort`. -/
def validOptionalPort : List Char → Bool
  | [] => true
  | ':' :: digits => digits.all Char.isDigit
  | _ => false

/-- `validUserinfo`. -/
def validUserinfo (text : List Char) : Bool :=
  text.all fun c => isLetter c || c.isDigit || "-._:~!$&'()*+,;=%@".toList.contains c

/-- `parseHost`. -/
def parseHost (text : List Char) : Option (List UInt8) :=
  if text.head? = some '[' then
    match cutLast ']' text with
    | none => none
    | some (inner, colonPort) =>
      if validOptionalPort colonPort then
        match cutZone inner with
        | some (address, zone) => do
          let address ← unescape .host address
          let zone ← unescape .zone zone
          let rest ← unescape .host (']' :: colonPort)
          return address ++ zone ++ rest
        | none => unescape .host text
      else none
  else
    match cutLast ':' text with
    | some (_, port) => if port.all Char.isDigit then unescape .host text else none
    | none => unescape .host text

/-- A name, and a password where a colon announces one. -/
structure Userinfo where
  username : List UInt8
  password : Option (List UInt8)
  deriving DecidableEq, Repr

def parseUserinfo (text : List Char) : Option Userinfo :=
  if validUserinfo text then
    if ':' ∈ text then do
      let username ← unescape .userPassword (before ':' text)
      let password ← unescape .userPassword (after ':' text)
      return ⟨username, some password⟩
    else (unescape .userPassword text).map fun username => ⟨username, none⟩
  else none

/-- `parseAuthority`. -/
def parseAuthority (text : List Char) : Option (Option Userinfo × List UInt8) :=
  match cutLast '@' text with
  | none => (parseHost text).map fun host => (none, host)
  | some (userinfo, host) => do
    let host ← parseHost host
    let user ← parseUserinfo userinfo
    return (some user, host)

structure Url where
  scheme : List Char
  /-- What follows the scheme of a URL without a slash there. -/
  rootless : List Char
  user : Option Userinfo
  host : List UInt8
  path : List UInt8
  rawQuery : List Char
  fragment : List UInt8
  deriving DecidableEq, Repr

def isControl (c : Char) : Bool := c < ' ' || c = '\x7f'

/-- `parse`, of what stands before the fragment. -/
def parseBody (text : List Char) : Option Url :=
  if text.any isControl then none
  else if text = ['*'] then some ⟨[], [], none, [], utf8 text, [], []⟩
  else do
    let (scheme, rest) ← getScheme text
    let scheme := scheme.map Char.toLower
    let rawQuery := after '?' rest
    let rest := before '?' rest
    if rest.head? ≠ some '/' ∧ scheme ≠ [] then
      return ⟨scheme, rest, none, [], [], rawQuery, []⟩
    -- a colon in the first piece of a relative path would read as a scheme
    if rest.head? ≠ some '/' ∧ ':' ∈ before '/' rest then none
    if "//".toList.isPrefixOf rest ∧ (scheme ≠ [] ∨ ("///".toList.isPrefixOf rest) = false) then
      let (user, host) ← parseAuthority (before '/' (rest.drop 2))
      let path ← unescape .path ((rest.drop 2).dropWhile (· ≠ '/'))
      return ⟨scheme, [], user, host, path, rawQuery, []⟩
    let path ← unescape .path rest
    return ⟨scheme, [], none, [], path, rawQuery, []⟩

/-- `url.Parse`. -/
def parse (text : List Char) : Option Url := do
  let url ← parseBody (before '#' text)
  let fragment ← unescape .fragment (after '#' text)
  return { url with fragment := fragment }

/-- A byte string as one character a byte. -/
def latin (bytes : List UInt8) : List Char := bytes.map fun byte => Char.ofNat byte.toNat

/-- The host of a URL without its port, and the port. -/
def Url.hostPort (url : Url) : List Char × List Char :=
  match cutLast ':' (latin url.host) with
  | some (host, port) => if port.all Char.isDigit then (host, port) else (latin url.host, [])
  | none => (latin url.host, [])

/-- The text inside a pair of brackets. -/
def unbracket (host : List Char) : List Char :=
  if host.head? = some '[' ∧ host.getLast? = some ']' then (host.drop 1).dropLast else host

/-- `URL.Hostname`. -/
def Url.hostname (url : Url) : List Char := unbracket url.hostPort.1

/-- `URL.Port`. -/
def Url.port (url : Url) : List Char := url.hostPort.2

/-- `checkHTTPURL`; `quote` is the `%q` of the messages. -/
def checkHTTPURL (quote : String → String) (channel field raw : String) : Except String Unit :=
  match parse raw.toList with
  | none => .error (channel ++ " " ++ field ++ " " ++ quote raw ++ " must be http or https")
  | some parsed =>
    if parsed.scheme ≠ "http".toList ∧ parsed.scheme ≠ "https".toList then
      .error (channel ++ " " ++ field ++ " " ++ quote raw ++ " must be http or https")
    else if parsed.host = [] then .error (channel ++ " " ++ field ++ " " ++ quote raw ++ " has no host")
    else .ok ()

example : checkHTTPURL id "webhook" "url" "https://a.example/x?y#z" = .ok () := by decide

end VodogeCloud.Source.NetUrl
