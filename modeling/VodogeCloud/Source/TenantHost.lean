import VodogeCloud.Source.ClientAddress

/-!
# The tenant a host names

`SlugFromHost` of the gateway (apps/gateway/internal/directory/host.go:24-48) and
`slugFromHost` of the console (apps/console/lib/host.ts:29-32, 91-111). The tables of
Unicode that the two languages lower-case by are a parameter: Go maps the characters of a
text one by one, JavaScript the text as a whole.
-/

set_option autoImplicit false

namespace VodogeCloud.Source.TenantHost

open VodogeCloud.Source.ClientAddress
open VodogeCloud.Source.ServeDevice (isSpace)

/-- `unicode.ToLower` and `toLowerCase()`. Both lower-case ASCII alike, and a mark is the
lower case of itself alone. -/
structure Casing where
  toLower : Char → Char
  toLowerCase : List Char → List Char
  toLower_mark : ∀ mark ∈ [':', '[', ']'], ∀ c, toLower c = mark ↔ c = mark
  toLower_ascii : ∀ c : Char, c.toNat < 128 → toLower c = c.toLower
  toLowerCase_ascii : ∀ text : List Char, (∀ c ∈ text, c.toNat < 128) → toLowerCase text = text.map Char.toLower

def defaultBaseDomain : List Char := "vodoge.com".toList

/-- What both do with a host without its port. -/
def slugUnder (base host : List Char) : Option (List Char) :=
  if host = base ∨ host = "www.".toList ++ base then none
  else
    let suffix := '.' :: base
    if suffix.isSuffixOf host then
      let slug := host.take (host.length - suffix.length)
      if slug = [] ∨ '.' ∈ slug then none else some slug
    else none

/-! ## The gateway -/

/-- `strings.TrimSpace` of the host. -/
def trimSpace (text : List Char) : List Char := trimWith isSpace text

/-- `strings.ToLower`. -/
def Casing.lower (casing : Casing) (text : List Char) : List Char := text.map casing.toLower

/-- The base domain as the gateway compares with it. -/
def Casing.gatewayBase (casing : Casing) (baseDomain : List Char) : List Char :=
  let base := casing.lower (trimSpace baseDomain)
  if base = [] then defaultBaseDomain else base

/-- `SlugFromHost`. -/
def Casing.gatewaySlugFromHost (casing : Casing) (host baseDomain : List Char) : Option (List Char) :=
  let host := casing.lower (trimSpace host)
  if host = [] then none
  else slugUnder (casing.gatewayBase baseDomain) ((splitHost host).getD host)

/-! ## The console -/

/-- `normalizeBaseDomain`. -/
def Casing.normalizeBaseDomain (casing : Casing) (baseDomain : List Char) : List Char :=
  let base := casing.toLowerCase (trim baseDomain)
  if base = [] then defaultBaseDomain else base

/-- `slugFromHost`. -/
def Casing.consoleSlugFromHost (casing : Casing) (host baseDomain : List Char) : Option (List Char) :=
  let normalized := casing.toLowerCase (stripPort host)
  if normalized = [] then none
  else slugUnder (casing.normalizeBaseDomain baseDomain) normalized

end VodogeCloud.Source.TenantHost
