import OmniControlPlane.Lib.Text
import OmniControlPlane.Panel.Users

/-! # The first bytes of a VLESS connection

The header, the path and the block list, as `vless.js` reads them. JavaScript reads `undefined` past
the end of a buffer, which counts as zero in a port; only a missing address type is an error.
-/

namespace OmniControlPlane.Panel

open Lib

/-- What the code of a tunnel throws. -/
inductive Failure where
  | error (message : String)
  | forbidden (message : String)
  | referenceError (message : String)
deriving DecidableEq, Repr

/-- `b.toString(16).padStart(2, "0")` -/
def hexByte (byte : UInt8) : List Char :=
  [Nat.digitChar (byte.toNat / 16), Nat.digitChar (byte.toNat % 16)]

def bytesToUuid (bytes : List UInt8) : String :=
  let h := bytes.flatMap hexByte
  String.ofList (h.take 8 ++ '-' :: (h.drop 8).take 4 ++ '-' :: (h.drop 12).take 4 ++
    '-' :: (h.drop 16).take 4 ++ '-' :: h.drop 20)

structure VlessHeader where
  version : ℕ
  uuid : String
  cmd : Option ℕ
  isUDP : Bool
  port : ℕ
  addressType : ℕ
  address : String
  payloadStart : ℕ
deriving DecidableEq, Repr

/-- `hex.replace(/(.{4})(?=.)/g, "$1:")` -/
def colonGroups : List Char → List Char
  | a :: b :: c :: d :: e :: rest => a :: b :: c :: d :: ':' :: colonGroups (e :: rest)
  | rest => rest

/-- The address of a type at an offset, and where the payload starts. Without its length byte a
domain has no end, and the payload is sliced from `NaN`, the beginning. -/
def parseAddress (buf : List UInt8) (atyp offset : ℕ) : Option (String × ℕ) :=
  match atyp with
  | 1 => some (".".intercalate (((buf.drop offset).take 4).map fun byte => toString byte.toNat), offset + 4)
  | 2 =>
    match buf[offset]? with
    | some len => some (decodeUtf8 ((buf.drop (offset + 1)).take len.toNat), offset + 1 + len.toNat)
    | none => some ("", 0)
  | 3 => some (String.ofList (colonGroups (((buf.drop offset).take 16).flatMap hexByte)), offset + 16)
  | _ => none

def parseVlessHeader (buf : List UInt8) : Except Failure VlessHeader :=
  let byteAt (index : ℕ) : Option ℕ := (buf[index]?).map (·.toNat)
  if buf.length < 18 then .error (.error "vless header too short")
  else
    let version := (byteAt 0).getD 0
    if version ≠ 0 then .error (.error s!"unsupported vless version {version}")
    else
      let offset := 18 + (byteAt 17).getD 0
      let cmd := byteAt offset
      let port := (byteAt (offset + 1)).getD 0 * 256 + (byteAt (offset + 2)).getD 0
      match byteAt (offset + 3) with
      | none => .error (.error "unknown address type undefined")
      | some atyp =>
        match parseAddress buf atyp (offset + 4) with
        | none => .error (.error s!"unknown address type {atyp}")
        | some (address, payloadStart) => .ok {
            version := version
            uuid := bytesToUuid ((buf.drop 1).take 16)
            cmd := cmd
            isUDP := cmd = some 2
            port := port
            addressType := atyp
            address := address
            payloadStart := payloadStart }

def isHexDigit (char : Char) : Bool :=
  char.isDigit || 'a' ≤ char ∧ char ≤ 'f' || 'A' ≤ char ∧ char ≤ 'F'

/-- Groups of 8, 4, 4, 4 and 12 hexadecimal digits. -/
def isDashedUuid (text : List Char) : Bool :=
  let groups := text.splitOn '-'
  groups.map (·.length) = [8, 4, 4, 4, 12] && groups.all (·.all isHexDigit)

def toLowerAscii (text : List Char) : String := String.ofList (text.map Char.toLower)

/-- The UUID in the path of a request, dashed or in base64. -/
def uuidFromRequest (pathname : String) : Option String :=
  let seg := (((pathname.toList.splitOn '/').filter (!·.isEmpty)).head?).getD []
  if isDashedUuid seg then some (toLowerAscii seg)
  else
    let replaced := seg.map fun char => if char = '-' then '+' else if char = '_' then '/' else char
    (atob replaced).bind fun bytes =>
      let dec := latin1 bytes
      if dec.length = 36 ∧ dec.all fun char => isHexDigit char || char = '-' then some (toLowerAscii dec)
      else none

def isIpv4 (text : String) : Bool :=
  let parts := text.toList.splitOn '.'
  parts.length = 4 && parts.all fun part => !part.isEmpty && part.length ≤ 3 && part.all (·.isDigit)

def isIpv6 (text : String) : Bool := ':' ∈ text.toList

/-- `toLowerCase` is the platform's. -/
def matchesBlock (toLowerCase : String → String) (address : String) (list : List String) : Bool :=
  let a := (toLowerCase address).toList
  list.any fun p =>
    let lower := (toLowerCase p).toList
    let d := if "*.".toList <+: lower then lower.drop 2 else lower
    a == d || ('.' :: d).isSuffixOf a

/-- Admission control, which throws where it does not accept. -/
def admitUser (user : Option User) (now : ℤ) : Except Failure User :=
  match user with
  | none => .error (.forbidden "uuid ناشناخته")
  | some user =>
    if !user.is_active then .error (.forbidden "کاربر غیرفعال است")
    else if user.expires_at.any fun expires => expires ≠ 0 ∧ expires < now then
      .error (.forbidden "اشتراک منقضی شده")
    else if user.quota_bytes ≤ user.used_bytes then .error (.forbidden "حجم تمام شده")
    else if user.request_limit ≠ 0 ∧ user.request_limit ≤ user.requests_used then
      .error (.forbidden "سقف درخواست پر شده")
    else .ok user

/-- The user is active, not expired, below the quota and below the request limit, if there is one. -/
def User.WithinLimits (user : User) (now : ℤ) : Prop :=
  user.is_active = true ∧ (∀ expires, user.expires_at = some expires → expires = 0 ∨ now ≤ expires) ∧
    user.used_bytes < user.quota_bytes ∧ (user.request_limit = 0 ∨ user.requests_used < user.request_limit)

theorem admitUser_accepts_iff (user : User) (now : ℤ) :
    admitUser (some user) now = .ok user ↔ user.WithinLimits now := by
  have expiry : (user.expires_at.any fun expires => decide (expires ≠ 0 ∧ expires < now)) = false ↔
      ∀ expires, user.expires_at = some expires → expires = 0 ∨ now ≤ expires := by
    cases user.expires_at with
    | none => simp
    | some expires =>
      simp only [Option.any_some, decide_eq_false_iff_not, Option.some.injEq, forall_eq']
      omega
  simp only [admitUser, User.WithinLimits]
  split
  · next inactive =>
    have off : user.is_active = false := by simpa using inactive
    simp [off]
  · next active =>
    have on : user.is_active = true := by simpa using active
    split
    · next expired =>
      have late : ¬ ∀ expires, user.expires_at = some expires → expires = 0 ∨ now ≤ expires := by
        intro timely
        have notExpired := expiry.mpr timely
        rw [notExpired] at expired
        contradiction
      constructor
      · intro accepted
        contradiction
      · intro accepts
        exact absurd accepts.2.1 late
    · next timely =>
      have inTime := expiry.mp (Bool.eq_false_iff.mpr timely)
      split
      · simp; omega
      · next below =>
        split
        · simp; omega
        · simp only [on, true_iff]
          exact ⟨trivial, inTime, by omega, by omega⟩

end OmniControlPlane.Panel
