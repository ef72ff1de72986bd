import VodogeCloud.Source.JsonText
import VodogeCloud.Source.ProxyConfig

/-!
# Exporting proxies

`Export`, `connectionString`, `ValidateExportHost`, `RenderLines` and `InstanceSecrets`
(apps/gateway/internal/proxy/export.go:105-254, 283-340), with the userinfo and host
escaping of `net/url`. The same rows that `pushProxyConfig` sends to a device become
endpoints a client dials, with the password column read beside them.
-/

set_option autoImplicit false

namespace VodogeCloud.Source.ProxyExport

open VodogeCloud.Lib VodogeCloud.Source.Postgres VodogeCloud.Source.ProxyConfig
open VodogeCloud.Source.ServeDevice (trimSpace)
open VodogeCloud.Source.JsonText (utf8)

/-! ## net/url -/

/-- The two modes `URL.String` escapes in here. -/
inductive Encoding where
  | userPassword | host
  deriving DecidableEq, Repr

def unreserved (c : Char) : Bool :=
  ('a' ≤ c && c ≤ 'z') || ('A' ≤ c && c ≤ 'Z') || ('0' ≤ c && c ≤ '9') || "-_.~".toList.contains c

/-- `shouldEscape`, of a byte below 128. -/
def shouldEscape (mode : Encoding) (c : Char) : Bool :=
  if unreserved c then false
  else
    match mode with
    | .host => !"!$&'()*+,;=:[]<>\"".toList.contains c
    | .userPassword => !"$&+,;=".toList.contains c

def upperHex (digit : Nat) : Char := (("0123456789ABCDEF".toList)[digit]?).getD '0'

def escapeByte (mode : Encoding) (byte : UInt8) : List Char :=
  let c := Char.ofNat byte.toNat
  if 128 ≤ byte.toNat || shouldEscape mode c then
    ['%', upperHex (byte.toNat / 16), upperHex (byte.toNat % 16)]
  else [c]

/-- `escape`. -/
def escape (mode : Encoding) (text : String) : String :=
  String.ofList ((utf8 text.toList).flatMap (escapeByte mode))

/-- `net.JoinHostPort`. -/
def joinHostPort (host port : String) : String :=
  if host.toList.contains ':' then "[" ++ host ++ "]:" ++ port
  else host ++ ":" ++ port

/-! ## Endpoints -/

structure Endpoint where
  id : String
  name : String
  deviceId : String
  modemImei : String
  protocol : String
  host : String
  port : Int
  username : String
  password : String
  url : String
  enabled : Bool
  deriving DecidableEq, Repr

structure Unexportable where
  id : String
  name : String
  reason : String
  deriving DecidableEq, Repr

/-- The userinfo of a connection string. An empty password is not one. -/
def userinfo (username password : String) : String :=
  if username = "" then ""
  else if password = "" then escape .userPassword username ++ "@"
  else escape .userPassword username ++ ":" ++ escape .userPassword password ++ "@"

/-- `connectionString`. -/
def connectionString (endpoint : Endpoint) : String :=
  endpoint.protocol ++ "://" ++ userinfo endpoint.username endpoint.password ++
    escape .host (joinHostPort endpoint.host (toString endpoint.port))

def hostLetter (c : Char) : Bool :=
  ('a' ≤ c && c ≤ 'z') || ('A' ≤ c && c ≤ 'Z') || ('0' ≤ c && c ≤ '9') || c = '-' || c = '_'

/-- `strings.TrimSuffix(host, ".")`. -/
def trimDot (host : List Char) : List Char :=
  if host.getLast? = some '.' then host.dropLast else host

/-- `ValidateExportHost`. -/
def validateExportHost (host : String) : Except String Unit :=
  let letters := host.toList
  if host = "" then .error "host must not be empty"
  else if 253 < host.utf8ByteSize then .error "host is too long"
  else if letters.head? = some '[' then
    if letters.getLast? ≠ some ']' ∨ parseIP (String.ofList (letters.drop 1).dropLast) = false then
      .error "host looks like an IPv6 literal but does not parse"
    else .ok ()
  else if letters.any (fun c => " \t\r\n/@?#\\\"'%".toList.contains c) then
    .error "host must be a bare hostname or IP address, with no scheme, port, credentials or path"
  else if parseIP host then
    if letters.contains ':' then .error "an IPv6 host must be written in brackets, e.g. [2001:db8::1]"
    else .ok ()
  else if (splitOn '.' (trimDot letters)).all (fun label =>
      label ≠ [] && (String.ofList label).utf8ByteSize ≤ 63 && label.all hostLetter) then .ok ()
  else .error "host is not a valid hostname"

def wildcardHosts : List String := ["0.0.0.0", "::", "[::]"]

/-- The address to dial for a listener, or why there is none. -/
def dialFor (host : String) (row : InstanceRow) : Except String String :=
  if host ≠ "" then .ok host
  else
    let listen := trimSpace row.listenAddr
    if listen = "" ∨ wildcardHosts.contains listen then
      .error ("listens on every interface, so the configuration does not say " ++
        "which address to dial; repeat the request with ?host=<address>")
    else
      match validateExportHost listen with
      | .error reason => .error ("stored listen address is not usable in a URL: " ++ reason)
      | .ok () => .ok listen

/-- The passwords that are stored, by instance. -/
abbrev Secrets := List (String × String)

/-- A key that is not in the map reads as the empty text. -/
def Secrets.read (secrets : Secrets) (id : String) : String :=
  ((secrets.find? fun entry => entry.1 = id).map Prod.snd).getD ""

/-- One listener as an endpoint. -/
def endpointOf (secrets : Secrets) (dial : String) (row : InstanceRow) : Endpoint :=
  let bare : Endpoint := {
    id := uuidOut row.id
    name := row.name
    deviceId := uuidOut row.deviceId
    modemImei := row.modemImei
    protocol := defaultText row.protocol "socks5"
    host := dial
    port := row.listenPort
    username := if row.authEnabled then row.username.getD "" else ""
    password := if row.authEnabled then secrets.read (uuidOut row.id) else ""
    url := ""
    enabled := row.enabled }
  { bare with url := connectionString bare }

/-- `sort.SliceStable` by name. -/
def sortByName {α : Type} (name : α → String) (items : List α) : List α :=
  items.insertionSort fun a b => (name a).toList ≤ (name b).toList

/-- `Export`. -/
def exportInstances (instances : List InstanceRow) (secrets : Secrets) (host : String) :
    Except String (List Endpoint × List Unexportable) := do
  let host := trimSpace host
  if host ≠ "" then validateExportHost host
  let endpoints := instances.filterMap fun row =>
    match dialFor host row with
    | .ok dial => some (endpointOf secrets dial row)
    | .error _ => none
  let skipped := instances.filterMap fun row =>
    match dialFor host row with
    | .ok _ => none
    | .error reason => some ⟨uuidOut row.id, row.name, reason⟩
  return (sortByName Endpoint.name endpoints, sortByName Unexportable.name skipped)

/-- `oneLine`. -/
def oneLine (value : String) : String :=
  String.ofList (value.toList.map fun c => if c = '\r' ∨ c = '\n' then ' ' else c)

/-- The comment of an instance that could not be rendered. -/
def commentLine (item : Unexportable) : String := "# " ++ oneLine item.name ++ ": " ++ oneLine item.reason

/-- `RenderLines`. -/
def renderLines (endpoints : List Endpoint) (skipped : List Unexportable) : String :=
  String.ofList ((endpoints.flatMap fun endpoint => endpoint.url.toList ++ ['\n']) ++
    skipped.flatMap fun item => (commentLine item).toList ++ ['\n'])

/-- `InstanceSecrets`; the order of the rows does not show in a map. -/
def instanceSecrets {registered : Uuid → Uuid → Bool} (tenant : Uuid) (db : ProxyDb registered) : Secrets :=
  db.instances.rows.filterMap fun row =>
    if row.tenantId = tenant ∧ row.password.getD "" ≠ "" then some (uuidOut row.id, row.password.getD "") else none

/-- What `exportInstances` of proxy_routes.go hands out, for one device or for all. -/
def exportEndpoints {world : Server} (tenant : Uuid) (deviceId host : String) (proxies : ProxyDb world.registered) :
    Except String (List Endpoint × List Unexportable) :=
  match proxies.listInstances world.collate tenant deviceId with
  | .error _ => .error "proxy configuration unavailable"
  | .ok instances => exportInstances instances (instanceSecrets tenant proxies) host

end VodogeCloud.Source.ProxyExport
