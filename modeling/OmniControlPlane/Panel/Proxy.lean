import OmniControlPlane.Lib.Base64
import OmniControlPlane.Lib.Chunks
import OmniControlPlane.Panel.Columns
import OmniControlPlane.Panel.Destination

/-! # Upstream proxies

A proxy spec and the three handshakes of `upstream.js`. A handshake writes messages and reads the
answers from a socket whose bytes arrive in chunks; what was written stays written when it throws.
-/

namespace OmniControlPlane.Panel

open Lib

/-! ## Specs -/

inductive ProxyProto where
  | socks5
  | socks4
  | http
deriving DecidableEq, Repr

structure ProxySpec where
  proto : ProxyProto := .socks5
  user : Option String
  pass : String
  host : String
  port : ℕ
deriving DecidableEq, Repr

def proxySchemes : List (String × ProxyProto) :=
  [("socks5://", .socks5), ("socks4://", .socks4), ("http://", .http)]

/-- `(?:(?<proto>socks5|socks4|http):\/\/)?`, in any case. -/
def takeScheme (text : List Char) : Option ProxyProto × List Char :=
  match proxySchemes.find? fun scheme => (text.take scheme.1.length).map Char.toLower = scheme.1.toList with
  | some scheme => (some scheme.2, text.drop scheme.1.length)
  | none => (none, text)

/-- `(?:(?<user>[^:@/]+):(?<pass>[^@/]*)@)?` -/
def takeLogin (text : List Char) : Option (List Char × List Char) × List Char :=
  let user := text.takeWhile (· ∉ [':', '@', '/'])
  match text.drop user.length with
  | ':' :: rest =>
    let pass := rest.takeWhile (· ∉ ['@', '/'])
    match rest.drop pass.length with
    | '@' :: rest => if user = [] then (none, text) else (some (user, pass), rest)
    | _ => (none, text)
  | _ => (none, text)

/-- `(?::(?<port>\d+))?$` -/
def takePort (text : List Char) (defaultPort : ℕ) : Option ℕ :=
  match text with
  | [] => some defaultPort
  | ':' :: digits => if digits ≠ [] ∧ digits.all (·.isDigit) then some (Nat.ofDigitChars 10 digits 0) else none
  | _ => none

/-- `/^[a-z0-9.-]+$/i` -/
def isProxyHost (host : List Char) : Bool := !host.isEmpty && host.all fun char => char.isAlphanum || char ∈ ['.', '-']

def parseProxy (spec : String) (defaultPort : ℕ) : Option ProxySpec := do
  let (proto, rest) := takeScheme (trim spec)
  let (login, rest) := takeLogin rest
  let host := rest.takeWhile (· ∉ [':', '/'])
  let port ← takePort (rest.drop host.length) defaultPort
  if !isProxyHost host || 253 < host.length || port < 1 || 65535 < port then none
  else some {
    proto := proto.getD .socks5
    user := login.map fun login => String.ofList login.1
    pass := String.ofList ((login.map (·.2)).getD [])
    host := String.ofList host
    port := port }

/-- `p.user` as a condition -/
def ProxySpec.hasUser (p : ProxySpec) : Prop := p.user.getD "" ≠ ""

instance (p : ProxySpec) : Decidable p.hasUser := inferInstanceAs (Decidable (_ ≠ _))

/-! ## Sockets -/

/-- The socket to the proxy: what it will still deliver, and what was written to it. -/
structure Relay where
  readable : List (List UInt8)
  written : List (List UInt8) := []
deriving DecidableEq, Repr

abbrev Dialog := ExceptT Failure (StateM Relay)

def Dialog.write (bytes : List UInt8) : Dialog Unit := fun socket =>
  (.ok (), { socket with written := socket.written ++ [bytes] })

def ReadError.failure : ReadError → Failure
  | .early => .error "proxy closed handshake early"
  | .overrun => .error "proxy handshake frame overrun"

def Dialog.readExact (n : ℕ) : Dialog (List UInt8) := fun socket =>
  match Lib.readExact n socket.readable with
  | .ok (bytes, rest) => (.ok bytes, { socket with readable := rest })
  | .error reason => (.error (ReadError.failure reason), { socket with readable := [] })

/-! ## Handshakes -/

def portBytes (port : ℕ) : List UInt8 := [UInt8.ofNat (port / 256), UInt8.ofNat port]

/-- `host.split(".").map(Number)` in a byte array -/
def quadBytes (host : String) : List UInt8 :=
  (host.toList.splitOn '.').map fun part => UInt8.ofNat (Nat.ofDigitChars 10 part 0)

/-- The groups of a host with colons. The array has room for eight and grows for more. -/
def ipv6Bytes (host : String) : List UInt8 :=
  let groups := (host.toList.splitOn ':').map groupValue
  (groups ++ (List.replicate 8 0).drop groups.length).flatMap groupBytes

def encodeAddress (host : String) (port : ℕ) : List UInt8 :=
  if isIpv4 host then 0x01 :: (quadBytes host ++ portBytes port)
  else if ':' ∈ host.toList then 0x04 :: (ipv6Bytes host ++ portBytes port)
  else 0x03 :: UInt8.ofNat (utf8 host).length :: (utf8 host ++ portBytes port)

/-- The user and the password, each with its length in a byte. -/
def loginRequest (p : ProxySpec) : List UInt8 :=
  let u := utf8 (p.user.getD "")
  let pw := utf8 p.pass
  0x01 :: UInt8.ofNat u.length :: (u ++ UInt8.ofNat pw.length :: pw)

/-- What follows the choice of a method. -/
def authenticate (p : ProxySpec) (method : UInt8) : Dialog Unit :=
  if method = 0x02 ∧ p.hasUser then do
    Dialog.write (loginRequest p)
    let ok ← Dialog.readExact 2
    if ok.getD 1 0 ≠ 0x00 then throw (.error "socks5 auth rejected") else pure ()
  else if method = 0xff then throw (.error "socks5 no acceptable auth")
  else pure ()

/-- The length of the bound address, which a name brings in a byte of its own. -/
def boundLength (type : UInt8) : Dialog ℕ :=
  if type = 1 then pure 4
  else if type = 4 then pure 16
  else do
    let length ← Dialog.readExact 1
    pure (length.getD 0 0).toNat

def socks5 (p : ProxySpec) (destHost : String) (destPort : ℕ) : Dialog Unit := do
  let auth : List UInt8 := if p.hasUser then [0x00, 0x02] else [0x00]
  Dialog.write (0x05 :: UInt8.ofNat auth.length :: auth)
  let ver ← Dialog.readExact 2
  if ver.getD 0 0 ≠ 0x05 then throw (.error "not a socks5 proxy")
  else do
    authenticate p (ver.getD 1 0)
    Dialog.write (0x05 :: 0x01 :: 0x00 :: encodeAddress destHost destPort)
    let head ← Dialog.readExact 4
    if head.getD 1 0 ≠ 0x00 then throw (.error s!"socks5 reply code {(head.getD 1 0).toNat}")
    else do
      let skip ← boundLength (head.getD 3 0)
      let _ ← Dialog.readExact (skip + 2)
      pure ()

def socks4Request (p : ProxySpec) (destHost : String) (destPort : ℕ) : List UInt8 :=
  let ip := if isIpv4 destHost then quadBytes destHost else [0, 0, 0, 1]
  0x04 :: 0x01 :: (portBytes destPort ++ ip ++ utf8 (p.user.getD "") ++ [0x00])

def socks4 (p : ProxySpec) (destHost : String) (destPort : ℕ) : Dialog Unit := do
  Dialog.write (socks4Request p destHost destPort)
  let res ← Dialog.readExact 8
  if res.getD 1 0 ≠ 0x5a then throw (.error s!"socks4 reply {(res.getD 1 0).toNat}") else pure ()

/-- `btoa` of text: a character that is no byte is an error. -/
def btoaText (text : String) : Option String :=
  if text.toList.all (·.toNat < 256) then
    some (String.ofList (btoa (text.toList.map fun char => UInt8.ofNat char.toNat)))
  else none

def crlf : List Char := [Char.ofNat 13, Char.ofNat 10]

/-- The loop over whole chunks, until the decoded text has an empty line. -/
def readHead (buf : List UInt8) (chunks : List (List UInt8)) : Option (List UInt8 × List (List UInt8)) :=
  if crlf ++ crlf <:+: (decodeUtf8 buf).toList then some (buf, chunks)
  else match chunks with
    | [] => none
    | value :: rest => readHead (buf ++ value) rest

def Dialog.readHead : Dialog (List UInt8) := fun socket =>
  match Panel.readHead [] socket.readable with
  | some (buf, rest) => (.ok buf, { socket with readable := rest })
  | none => (.error (.error "http proxy closed"), { socket with readable := [] })

/-- `Number(text.split(" ")[1])` -/
def statusOf (text : String) : JavaScript.JsNumber :=
  match (text.toList.splitOn ' ')[1]? with
  | some part => JavaScript.numberOfString (String.ofList part)
  | none => .nan

def connectRequest (destHost : String) (destPort : ℕ) (auth : String) : String :=
  let line := String.ofList crlf
  s!"CONNECT {destHost}:{destPort} HTTP/1.1{line}Host: {destHost}:{destPort}{line}{auth}{line}"

/-- The header of a login; `btoa` throws before anything is written. -/
def proxyAuthorization (p : ProxySpec) : Dialog String :=
  if p.hasUser then
    match btoaText ((p.user.getD "") ++ ":" ++ p.pass) with
    | some login => pure ("Proxy-Authorization: Basic " ++ login ++ String.ofList crlf)
    | none => throw (.error "InvalidCharacterError")
  else pure ""

/-- A status in a message; a fraction is not spelled out. -/
def statusText : JavaScript.JsNumber → String
  | .nan => "NaN"
  | .infinity negative => if negative then "-Infinity" else "Infinity"
  | .finite value => if value.den = 1 then toString value.num else "fraction"

def httpConnect (p : ProxySpec) (destHost : String) (destPort : ℕ) : Dialog Unit := do
  let auth ← proxyAuthorization p
  Dialog.write (utf8 (connectRequest destHost destPort auth))
  let buf ← Dialog.readHead
  let status := statusOf (decodeUtf8 buf)
  if status ≠ .finite 200 then throw (.error ("http CONNECT failed: " ++ statusText status)) else pure ()

/-- `connectViaProxy`, on a spec that was read. -/
def connectViaProxy (p : ProxySpec) (destHost : String) (destPort : ℕ) : Dialog Unit :=
  match p.proto with
  | .http => httpConnect p destHost destPort
  | .socks4 => socks4 p destHost destPort
  | .socks5 => socks5 p destHost destPort

end OmniControlPlane.Panel
