import Mathlib.Data.List.DropRight
import OmniControlPlane.Lib.Text
import OmniControlPlane.Phantom.Pack
import OmniControlPlane.Portal.Http
import OmniControlPlane.Portal.Wizard

/-! # The script of the DNS tunnel

A link of the bot names a server and a domain, and the portal answers it with a script that is run as root. What is
checked is the domain in its normal form, and what is written into the script is the domain of the link.
-/

namespace OmniControlPlane.Portal.Dnstt

open Lib
open Phantom (lowerChar upTo)

/-- `toLowerCase`, of which only the ASCII letters matter below. -/
def LowersAscii (toLowerCase : List Char → List Char) : Prop :=
  ∀ text : List Char, (∀ char ∈ text, char.toNat < 128) → toLowerCase text = text.map Char.toLower

variable (toLowerCase : List Char → List Char)

/-! ## The checks -/

/-- `Number(octet)`, of digits. -/
def octetValue (octet : List Char) : ℕ := octet.foldl (fun value digit => 10 * value + (digit.toNat - 48)) 0

def isValidVpsIpv4 (value : String) : Bool :=
  let octets := value.toList.splitOn '.'
  octets.length = 4 && octets.all fun octet =>
    1 ≤ octet.length && octet.length ≤ 3 && octet.all (·.isDigit) && octetValue octet ≤ 255

def isHostChar (char : Char) : Bool := char.isLower || char.isDigit || char = '.' || char = '-'

/-- `/^[a-z0-9.-]+\.[a-z]{2,}$/`: the letters at the end are what is behind the last dot. -/
def isTunnelDomain (text : List Char) : Bool :=
  let front := text.rdropWhile (·.isLower)
  2 ≤ (text.rtakeWhile (·.isLower)).length && front.getLast? = some '.' && 2 ≤ front.length && front.all isHostChar

/-- `text.replace(/^https?:\/\//, "")` -/
def withoutScheme (text : List Char) : List Char :=
  if "https://".toList <+: text then text.drop 8
  else if "http://".toList <+: text then text.drop 7
  else text

def normalizeDnsttDomain (input : String) : Option String :=
  let cleaned := trim (String.ofList (upTo '/' (withoutScheme (toLowerCase (trim input)))))
  if !isTunnelDomain cleaned || 253 < cleaned.length then none else some (String.ofList cleaned)

/-! ## The script -/

/-- What follows the variables. -/
def installLines : List String := [
  "DNSTT_VER=\"20260501\"",
  "echo \"==> [1/7] deps...\"",
  "apt-get update -y",
  "DEBIAN_FRONTEND=noninteractive apt-get install -y golang-go git curl unzip iptables iproute2 dnsutils",
  "echo \"==> [2/7] dnstt source...\"",
  "cd /tmp && rm -rf dnstt-src && mkdir -p dnstt-src && cd dnstt-src",
  "(curl -sSL -o dnstt.zip \"https://www.bamsoftware.com/software/dnstt/dnstt-$\x7bDNSTT_VER\x7d.zip\" " ++
    "&& unzip -q -o dnstt.zip) || git clone https://www.bamsoftware.com/git/dnstt.git dnstt-git",
  "SRCDIR=$(find . -maxdepth 3 -type d -name dnstt-server | head -1)",
  "[ -z \"$SRCDIR\" ] && \x7b echo \"source not found\"; exit 1; \x7d",
  "echo \"==> [3/7] build...\"",
  "(cd \"$SRCDIR\" && go build -o /usr/local/bin/dnstt-server .)",
  "chmod +x /usr/local/bin/dnstt-server",
  "echo \"==> [4/7] keys...\"",
  "mkdir -p /etc/dnstt && cd /etc/dnstt",
  "/usr/local/bin/dnstt-server -gen-key -privkey-file server.key -pubkey-file server.pub",
  "chmod 600 server.key",
  "echo \"==> [5/7] systemd...\"",
  "cat > /etc/systemd/system/dnstt.service <<EOF",
  "[Unit]",
  "Description=dnstt DNS tunnel server",
  "After=network.target",
  "[Service]",
  "ExecStart=/usr/local/bin/dnstt-server -udp :5300 -privkey-file /etc/dnstt/server.key $\x7bTUN\x7d 127.0.0.1:22",
  "Restart=always",
  "User=root",
  "[Install]",
  "WantedBy=multi-user.target",
  "EOF",
  "systemctl daemon-reload && systemctl enable --now dnstt",
  "echo \"==> [6/7] firewall 53/udp -> 5300...\"",
  "if ss -lun | grep -qE \"[: ]53 \"; then echo \"!! udp/53 busy:\"; ss -lun | grep -E \"[: ]53 \" || true; fi",
  "iptables -I INPUT -p udp --dport 5300 -j ACCEPT || true",
  "iptables -t nat -I PREROUTING -p udp --dport 53 -j REDIRECT --to-ports 5300 || true",
  "mkdir -p /etc/iptables && iptables-save > /etc/iptables/rules.v4 || true",
  "(ufw allow 53/udp) >/dev/null 2>&1 || true",
  "sleep 2",
  "systemctl is-active --quiet dnstt && echo \"dnstt: ACTIVE\" || (echo \"dnstt FAILED:\"; journalctl" ++
    " -u dnstt --no-pager -n 20 || true)",
  "echo \"==> [7/7] DONE. server.pub (copy to clients):\"",
  "echo \"================ server.pub ================\"",
  "cat /etc/dnstt/server.pub",
  "echo \"============================================\"",
  "echo \"Client:\"",
  "echo \"./dnstt-client -udp $\x7bVPS_IP\x7d:53 -pubkey-file server.pub $\x7bTUN\x7d 127.0.0.1:8000\"",
  "echo \"Then: ssh -N -D 127.0.0.1:7000 -p 8000 user@127.0.0.1   (SOCKS5 on 127.0.0.1:7000)\""]

def variableLines (vps domain : String) : List String := [
  "#!/bin/bash",
  "# OMNI dnstt tunnel server auto-install (Ubuntu/Debian). Review before running as root!",
  "# Docs: https://www.bamsoftware.com/software/dnstt/",
  "# VPS: " ++ vps ++ " | Tunnel: " ++ domain,
  "set -e",
  "VPS_IP=\"" ++ vps ++ "\"",
  "TUN=\"" ++ domain ++ "\""]

/-- `lines.join("\n")` -/
def joined (lines : List String) : String := String.ofList (List.intercalate ['\n'] (lines.map String.toList))

def dnsttServerScript (vps domain : String) : String := joined (variableLines vps domain ++ installLines)

/-- `allowed` is what the rate limit of the address says; the answer has a status and a text. -/
def serveDnsttScript (allowed : Bool) (vps domain : Option String) : Except HttpError (ℕ × String) :=
  if !allowed then .error ⟨429, "rate_limited", "Too many requests"⟩
  else
    let vps := vps.getD ""
    let domain := String.ofList (toLowerCase (domain.getD "").toList)
    if !isValidVpsIpv4 vps || (normalizeDnsttDomain toLowerCase domain).isNone then .ok (400, "# bad vps/domain params")
    else .ok (200, dnsttServerScript vps domain)

/-- A text as the shell reads it, line by line. -/
def linesOf (text : String) : List (List Char) := text.toList.splitOn '\n'

/-! ## Lines -/

theorem splitOn_intercalate_flatMap {α : Type} [DecidableEq α] (separator : α) {parts : List (List α)}
    (given : parts ≠ []) :
    (List.intercalate [separator] parts).splitOn separator = parts.flatMap (·.splitOn separator) := by
  induction parts with
  | nil => contradiction
  | cons part rest ih =>
    cases rest with
    | nil => simp
    | cons next rest =>
      rw [List.intercalate_cons_cons, List.append_assoc, List.singleton_append, List.splitOn_append_cons_self,
        ih (List.cons_ne_nil _ _), ← List.flatMap_cons]

theorem linesOf_joined {lines : List String} (given : lines ≠ []) :
    linesOf (joined lines) = lines.flatMap (·.toList.splitOn '\n') := by
  rw [linesOf, joined, String.toList_ofList, splitOn_intercalate_flatMap _ (by simpa using given), List.flatMap_map]

theorem linesOf_script (vps domain : String) : linesOf (dnsttServerScript vps domain) =
    (variableLines vps domain).flatMap (·.toList.splitOn '\n') ++ linesOf (joined installLines) := by
  rw [dnsttServerScript, linesOf_joined (by simp [variableLines]), linesOf_joined (by simp [installLines]),
    List.flatMap_append]

theorem not_mem_of_mem_splitOn {α : Type} [DecidableEq α] {separator : α} {text part : List α}
    (listed : part ∈ text.splitOn separator) : separator ∉ part := by
  induction text generalizing part with
  | nil =>
    rw [List.splitOn_nil, List.mem_singleton] at listed
    simp [listed]
  | cons head text ih =>
    rw [List.splitOn_cons_eq_if_modifyHead] at listed
    split at listed
    · rcases List.mem_cons.mp listed with rfl | later
      · exact List.not_mem_nil
      · exact ih later
    next other =>
      obtain ⟨first, rest, shape⟩ := List.exists_cons_of_ne_nil (List.splitOn_ne_nil separator text)
      rw [shape, List.modifyHead_cons] at listed
      rw [shape] at ih
      rcases List.mem_cons.mp listed with rfl | later
      · simpa [Ne.symm (by simpa using other : head ≠ separator)] using ih (.head _)
      · exact ih (.tail _ later)

theorem flatMap_clear {α : Type} [DecidableEq α] {separator : α} {parts : List (List α)}
    (clear : ∀ part ∈ parts, separator ∉ part) : parts.flatMap (·.splitOn separator) = parts := by
  induction parts with
  | nil => rfl
  | cons part rest ih =>
    have here := List.splitOn_eq_singleton (clear part (.head _))
    rw [List.flatMap_cons, here, ih fun part listed => clear part (.tail _ listed), List.singleton_append]

theorem vps_clear {vps : String} (valid : isValidVpsIpv4 vps = true) : '\n' ∉ vps.toList := by
  intro member
  simp only [isValidVpsIpv4, Bool.and_eq_true, List.all_eq_true] at valid
  rcases Wizard.mem_splitOn '.' member with dot | ⟨octet, listed, inside⟩
  · contradiction
  · have digits := (valid.2 octet listed).1.2 _ inside
    contradiction

theorem variableLines_clear {vps domain : String} (vpsClear : '\n' ∉ vps.toList) (domainClear : '\n' ∉ domain.toList) :
    ∀ line ∈ variableLines vps domain, '\n' ∉ line.toList := by
  intro line listed
  simp only [variableLines, List.mem_cons, List.not_mem_nil, or_false] at listed
  rcases listed with rfl | rfl | rfl | rfl | rfl | rfl | rfl <;> simp [vpsClear, domainClear]

/-- The script has the lines that were meant exactly when the domain is on one line. -/
theorem linesOf_script_iff {vps : String} (valid : isValidVpsIpv4 vps = true) (domain : String) :
    linesOf (dnsttServerScript vps domain) =
        (variableLines vps domain).map String.toList ++ linesOf (joined installLines) ↔ '\n' ∉ domain.toList := by
  constructor
  · intro same member
    have tun : ("TUN=\"" ++ domain ++ "\"").toList ∈ linesOf (dnsttServerScript vps domain) := by
      rw [same]
      exact List.mem_append_left _ (List.mem_map_of_mem (by simp [variableLines]))
    exact not_mem_of_mem_splitOn tun (by simp [member])
  · intro clear
    rw [linesOf_script, ← List.flatMap_map, flatMap_clear]
    intro part listed
    obtain ⟨line, inScript, rfl⟩ := List.mem_map.mp listed
    exact variableLines_clear (vps_clear valid) clear line inScript

theorem isHostChar_of_domain {text : List Char} (domain : isTunnelDomain text = true) :
    ∀ char ∈ text, isHostChar char = true := by
  intro char member
  simp only [isTunnelDomain, Bool.and_eq_true, List.all_eq_true] at domain
  rw [← List.rdropWhile_append_rtakeWhile (p := (·.isLower)) (l := text), List.mem_append] at member
  rcases member with front | last
  · exact domain.2 char front
  · simp [isHostChar, List.mem_rtakeWhile_imp last]

variable {toLowerCase}

theorem hostChar_of_normal {domain : String} (normal : normalizeDnsttDomain toLowerCase domain = some domain) :
    ∀ char ∈ domain.toList, isHostChar char = true := by
  rw [normalizeDnsttDomain] at normal
  obtain ⟨valid, same⟩ := Option.ite_none_left_eq_some.mp normal
  have same := congrArg String.toList (Option.some.inj same)
  rw [String.toList_ofList] at same
  rw [← same]
  apply isHostChar_of_domain
  simp only [Bool.or_eq_true, Bool.not_eq_true', not_or, Bool.not_eq_false] at valid
  exact valid.1

/-! ## What is served -/

theorem served_iff {vps domain : Option String} {text : String} :
    serveDnsttScript toLowerCase true vps domain = .ok (200, text) ↔ isValidVpsIpv4 (vps.getD "") = true ∧
      (normalizeDnsttDomain toLowerCase (String.ofList (toLowerCase (domain.getD "").toList))).isSome = true ∧
      dnsttServerScript (vps.getD "") (String.ofList (toLowerCase (domain.getD "").toList)) = text := by
  rw [serveDnsttScript, if_neg (by simp)]
  dsimp only
  split
  next bad =>
    simp only [Bool.or_eq_true, Bool.not_eq_true', Option.isNone_iff_eq_none] at bad
    rcases bad with address | name
    · simp [address]
    · simp [name]
  next good =>
    simp only [Bool.or_eq_true, Bool.not_eq_true', not_or, Bool.not_eq_false, Option.isNone_iff_eq_none] at good
    simp [good.1, Option.isSome_iff_ne_none, good.2]

theorem trim_append (front text : List Char) {first last : Char} (start : isJsSpace first = false)
    (ends : isJsSpace last = false) :
    ∃ rest, rest <+: text ∧ trim (String.ofList (first :: front ++ last :: text)) = first :: front ++ last :: rest := by
  rw [trim, String.toList_ofList, List.cons_append, List.dropWhile_cons_of_neg (by simp [start])]
  induction text using List.reverseRecOn with
  | nil =>
    refine ⟨[], List.prefix_rfl, ?_⟩
    rw [← List.cons_append, List.rdropWhile_concat_neg _ _ _ (by simp [ends])]
  | append_singleton text char ih =>
    have shape : first :: (front ++ last :: (text ++ [char])) = first :: (front ++ last :: text) ++ [char] := by simp
    rw [shape, List.rdropWhile_concat]
    split
    · obtain ⟨rest, start, same⟩ := ih
      exact ⟨rest, start.trans (List.prefix_append _ _), same⟩
    · exact ⟨text ++ [char], List.prefix_rfl, by simp⟩

/-- What is behind the slash is not checked. -/
theorem normalize_crafted (lowers : LowersAscii toLowerCase) {text : List Char}
    (ascii : ∀ char ∈ text, char.toNat < 128) :
    (normalizeDnsttDomain toLowerCase (String.ofList ("a.co/".toList ++ text))).isSome = true := by
  have parts : "a.co/".toList ++ text = 'a' :: ".co".toList ++ '/' :: text := rfl
  obtain ⟨rest, front, trimmed⟩ :=
    trim_append ".co".toList text (by decide : isJsSpace 'a' = false) (by decide : isJsSpace '/' = false)
  have lowered : toLowerCase ('a' :: ".co".toList ++ '/' :: rest) =
      'a' :: '.' :: 'c' :: 'o' :: '/' :: rest.map Char.toLower := by
    rw [lowers]
    · rfl
    · intro char member
      rcases List.mem_append.mp member with start | behind
      · have plain : ('a' :: ".co".toList).all (·.toNat < 128) = true := by decide
        simpa using List.all_eq_true.mp plain char start
      · rcases List.mem_cons.mp behind with rfl | inside
        · decide
        · exact ascii char (front.subset inside)
  have cleaned : upTo '/' (withoutScheme (toLowerCase (trim (String.ofList ("a.co/".toList ++ text))))) =
      "a.co".toList := by
    rw [parts, trimmed, lowered, withoutScheme, if_neg (by simp), if_neg (by simp)]
    rfl
  rw [normalizeDnsttDomain, cleaned, if_neg (by decide)]
  rfl

/-- The comments that the script starts with, of a domain that ends in a slash. -/
def comments (vps : String) : List (List Char) :=
  ["#!/bin/bash", "# OMNI dnstt tunnel server auto-install (Ubuntu/Debian). Review before running as root!",
    "# Docs: https://www.bamsoftware.com/software/dnstt/", "# VPS: " ++ vps ++ " | Tunnel: a.co/"].map String.toList

theorem comments_comment (vps : String) : ∀ line ∈ comments vps, line.head? = some '#' := by
  intro line listed
  simp only [comments, List.map_cons, List.map_nil, List.mem_cons, List.not_mem_nil, or_false] at listed
  rcases listed with rfl | rfl | rfl | rfl <;> simp

/-- The comment that names the tunnel ends where the domain goes on after a line break. -/
theorem linesOf_crafted {vps : String} (valid : isValidVpsIpv4 vps = true) {commands : List (List Char)}
    (given : commands ≠ []) (clear : ∀ command ∈ commands, '\n' ∉ command) :
    comments vps ++ commands <+:
      linesOf (dnsttServerScript vps (String.ofList ("a.co/".toList ++ '\n' :: List.intercalate ['\n'] commands))) := by
  have named : ("# VPS: " ++ vps ++ " | Tunnel: " ++
      String.ofList ("a.co/".toList ++ '\n' :: List.intercalate ['\n'] commands)).toList =
      ("# VPS: " ++ vps ++ " | Tunnel: a.co/").toList ++ '\n' :: List.intercalate ['\n'] commands := by simp
  have comment : '\n' ∉ ("# VPS: " ++ vps ++ " | Tunnel: a.co/").toList := by simp [vps_clear valid]
  rw [linesOf_script, variableLines, List.flatMap_cons, List.flatMap_cons, List.flatMap_cons, List.flatMap_cons, named,
    List.splitOn_append_cons_self_of_not_mem comment, List.splitOn_intercalate _ clear given,
    List.splitOn_eq_singleton (by decide), List.splitOn_eq_singleton (by decide), List.splitOn_eq_singleton (by decide)]
  generalize List.flatMap _ _ = rest
  exact List.prefix_append_of_prefix ⟨rest, rfl⟩

/-- A script has the lines that were meant exactly when the domain of the link, in lower case, is on one line; a domain in
its normal form is, and has no character that means anything to a shell. But the slash hides the rest of the domain from the
check, and behind the comment that names the tunnel a link can put any lines of its own. -/
theorem served_script_lines (lowers : LowersAscii toLowerCase) :
    (∀ vps domain text, serveDnsttScript toLowerCase true vps domain = .ok (200, text) →
      let name := String.ofList (toLowerCase (domain.getD "").toList)
      (linesOf text = (variableLines (vps.getD "") name).map String.toList ++ linesOf (joined installLines) ↔
          '\n' ∉ name.toList) ∧
        (normalizeDnsttDomain toLowerCase name = some name → ∀ char ∈ name.toList, isHostChar char = true)) ∧
    ∀ vps, isValidVpsIpv4 vps = true → ∀ commands : List (List Char), commands ≠ [] →
      (∀ command ∈ commands, ∀ char ∈ command, char.toNat < 128 ∧ char.toLower = char ∧ char ≠ '\n') →
      ∃ domain text, serveDnsttScript toLowerCase true (some vps) (some domain) = .ok (200, text) ∧
        ∃ comments, (∀ line ∈ comments, line.head? = some '#') ∧ comments ++ commands <+: linesOf text := by
  refine ⟨fun vps domain text served => ?_, fun vps valid commands given plain => ?_⟩
  · obtain ⟨valid, -, rfl⟩ := served_iff.mp served
    exact ⟨linesOf_script_iff valid _, hostChar_of_normal⟩
  · let domain := "a.co/".toList ++ '\n' :: List.intercalate ['\n'] commands
    have ascii : ∀ char ∈ domain, char.toNat < 128 ∧ char.toLower = char := by
      intro char member
      rcases List.mem_append.mp member with start | behind
      · simp only [String.reduceToList, List.mem_cons, List.not_mem_nil, or_false] at start
        rcases start with rfl | rfl | rfl | rfl | rfl <;> decide
      · rcases List.mem_cons.mp behind with rfl | inside
        · decide
        · rcases Wizard.mem_intercalate inside with rfl | ⟨command, listed, within⟩
          · decide
          · obtain ⟨ascii, lower, -⟩ := plain command listed char within
            exact ⟨ascii, lower⟩
    have lowered : toLowerCase domain = domain := by
      rw [lowers domain fun char member => (ascii char member).1]
      exact (List.map_congr_left fun char member => (ascii char member).2).trans (List.map_id domain)
    have accepted : (normalizeDnsttDomain toLowerCase (String.ofList domain)).isSome = true :=
      normalize_crafted lowers fun char member => (ascii char (List.mem_append_right _ member)).1
    have servedAs : serveDnsttScript toLowerCase true (some vps) (some (String.ofList domain)) =
        .ok (200, dnsttServerScript vps (String.ofList domain)) := by
      rw [served_iff, Option.getD_some, Option.getD_some, String.toList_ofList, lowered]
      exact ⟨valid, accepted, rfl⟩
    refine ⟨String.ofList domain, dnsttServerScript vps (String.ofList domain), servedAs, comments vps,
      comments_comment vps, linesOf_crafted valid given ?_⟩
    exact fun command listed member => (plain command listed _ member).2.2 rfl

namespace Sample

theorem lowersAscii_map : LowersAscii (·.map lowerChar) := by
  intro text ascii
  refine List.map_congr_left fun char member => ?_
  have small := ascii char member
  rw [lowerChar, if_neg (by omega)]

/-- A link whose script restarts the server it is run on. -/
theorem reboot_served :
    ∃ domain text, serveDnsttScript (·.map lowerChar) true (some "203.0.113.7") (some domain) = .ok (200, text) ∧
      ∃ comments, (∀ line ∈ comments, line.head? = some '#') ∧ comments ++ ["reboot".toList] <+: linesOf text :=
  (served_script_lines lowersAscii_map).2 "203.0.113.7" (by decide +kernel) ["reboot".toList] (by decide)
    (by simp)

end Sample

end OmniControlPlane.Portal.Dnstt
