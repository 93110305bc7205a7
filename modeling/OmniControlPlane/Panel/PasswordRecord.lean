import OmniControlPlane.Lib.Base64
import OmniControlPlane.Panel.Columns

/-! # The records of passwords

What `hashPassword` writes and `verifyPassword` reads. The settings may hold anything in the place of a record;
a parameter of one is whatever `Number` takes for a number. WebCrypto is a parameter.
-/

namespace OmniControlPlane.Panel.PasswordRecord

open Lib JavaScript Columns

inductive Thrown where
  | typeError
  | invalidCharacter
  | error (message : String)
deriving DecidableEq, Repr

/-! ## Numbers -/

/-- `Number(text)` -/
def Number (text : List Char) : JsNumber := numberOfString (String.ofList text)

/-- `Number.isInteger(n) && n > 0` -/
def positive? : JsNumber → Option ℕ
  | .finite value => if value.den = 1 ∧ 0 < value then some value.num.toNat else none
  | _ => none

/-! ## Records -/

def PBKDF2_MAX_ITERATIONS : ℕ := 100000

def PBKDF2_ITERATIONS : ℕ := PBKDF2_MAX_ITERATIONS

def PBKDF2_ROUNDS : ℕ := 2

namespace b64u

def encode (bytes : List UInt8) : List Char := base64Url bytes

def decode (str : List Char) : Except Thrown (List UInt8) :=
  let length := (utf16 (String.ofList str)).length
  let pad := if length % 4 = 0 then [] else List.replicate (4 - length % 4) '='
  match atob (str.map plainLetter ++ pad) with
  | some bytes => .ok bytes
  | none => .error .invalidCharacter

end b64u

/-- A value in the place of a record: whether it is truthy, and its text, where `String` does not throw. -/
structure Stored where
  truthy : Bool
  string : Except Thrown (List Char)

section

variable (deriveBits : List UInt8 → List UInt8 → ℕ → List UInt8)

def pbkdf2 (input salt : List UInt8) (iterations : ℕ) : Except Thrown (List UInt8) :=
  if PBKDF2_MAX_ITERATIONS < iterations then
    .error (.error ("PBKDF2 iterations " ++ toString iterations ++ " exceed the workerd cap of " ++
      toString PBKDF2_MAX_ITERATIONS))
  else .ok (deriveBits input salt iterations)

/-- The rounds that are left, from the round `r` on. -/
def deriveFrom (salt : List UInt8) (iterations : ℕ) : ℕ → ℕ → List UInt8 → List UInt8 → Except Thrown (List UInt8)
  | 0, _, _, out => .ok out
  | rounds + 1, r, input, _ => do
    let out ← pbkdf2 deriveBits input (salt ++ [UInt8.ofNat (r &&& 0xff)]) iterations
    deriveFrom salt iterations rounds (r + 1) out out

def derive (password : String) (salt : List UInt8) (rounds iterations : ℕ) : Except Thrown (List UInt8) :=
  deriveFrom deriveBits salt iterations rounds 0 (utf8 password) (List.replicate 32 0)

def deriveLegacy (password : String) (salt : List UInt8) (iterations : ℕ) : Except Thrown (List UInt8) :=
  pbkdf2 deriveBits (utf8 password) salt iterations

def hashPassword (password : String) (salt : List UInt8) : Except Thrown (List Char) := do
  let bits ← derive deriveBits password salt PBKDF2_ROUNDS PBKDF2_ITERATIONS
  .ok ("pbkdf2".toList ++ '$' :: (toString PBKDF2_ROUNDS).toList ++ 'x' :: (toString PBKDF2_ITERATIONS).toList ++
    '$' :: b64u.encode salt ++ '$' :: b64u.encode bits)

/-- `[rounds, iters]` -/
def parameters (params : List Char) : JsNumber × JsNumber :=
  if 'x' ∈ params then
    match (params.splitOn 'x').map Number with
    | rounds :: iters :: _ => (rounds, iters)
    | _ => (.nan, .nan)
  else (.finite 1, Number params)

/-- The comparison goes through all bytes. -/
def equalBytes (a b : List UInt8) : Bool :=
  if a.length ≠ b.length then false
  else (a.zip b).foldl (fun diff pair => diff ||| (pair.1 ^^^ pair.2)) 0 = 0

/-- The scheme that the parameters are of -/
def deriveAs (password : String) (params : List Char) (salt : List UInt8) (rounds iters : ℕ) : Except Thrown (List UInt8) :=
  if 'x' ∈ params then derive deriveBits password salt rounds iters else deriveLegacy deriveBits password salt iters

/-- What is computed of a record with admissible parameters, and compared. -/
def compare (password : String) (params hashB64 : List Char) (salt : List UInt8) (rounds iters : ℕ) :
    Except Thrown Bool := do
  let a ← deriveAs deriveBits password params salt rounds iters
  let b ← b64u.decode hashB64
  .ok (equalBytes a b)

def verifyPassword (password : String) (stored : Stored) : Except Thrown Bool :=
  if stored.truthy = false then .ok false
  else do
    match (← stored.string).splitOn '$' with
    | [scheme, params, saltB64, hashB64] =>
      if scheme ≠ "pbkdf2".toList then .ok false
      else do
        let salt ← b64u.decode saltB64
        match positive? (parameters params).1, positive? (parameters params).2 with
        | some rounds, some iters =>
          if PBKDF2_MAX_ITERATIONS < iters ∨ 64 < rounds then .ok false
          else compare deriveBits password params hashB64 salt rounds iters
        | _, _ => .ok false
    | _ => .ok false

end

/-! ## What a record is -/

/-- What a record says of its derivation. -/
inductive Scheme where
  | legacy (iterations : ℕ)
  | chained (rounds iterations : ℕ)
deriving DecidableEq, Repr

/-- The number of rounds or iterations that a parameter asks for, within a limit. -/
def within (limit : ℕ) (param : List Char) : Option ℕ := (positive? (Number param)).filter (· ≤ limit)

def scheme? (params : List Char) : Option Scheme :=
  if 'x' ∈ params then
    match params.splitOn 'x' with
    | rounds :: iters :: _ => do some (.chained (← within 64 rounds) (← within PBKDF2_MAX_ITERATIONS iters))
    | _ => none
  else (within PBKDF2_MAX_ITERATIONS params).map .legacy

section

variable (deriveBits : List UInt8 → List UInt8 → ℕ → List UInt8)

/-- In a chain, what a round gives is the input of the next, with the round's number behind the salt. -/
def Scheme.derivation (password : String) (salt : List UInt8) : Scheme → List UInt8
  | legacy iterations => deriveBits (utf8 password) salt iterations
  | chained rounds iterations =>
    (List.range rounds).foldl (fun input r => deriveBits input (salt ++ [UInt8.ofNat r]) iterations) (utf8 password)

/-- A record of four parts, whose last one is the derivation of the password. -/
def Matches (password : String) (text : List Char) : Prop :=
  ∃ params saltB64 hashB64 scheme salt, text.splitOn '$' = ["pbkdf2".toList, params, saltB64, hashB64] ∧
    scheme? params = some scheme ∧ base64UrlBytes saltB64 = some salt ∧
    base64UrlBytes hashB64 = some (scheme.derivation deriveBits password salt)

/-- The answer is a boolean, and says whether there is a record that matches. -/
def Answers (password : String) (stored : Stored) : Prop :=
  ∃ answer, verifyPassword deriveBits password stored = .ok answer ∧
    (answer = true ↔ ∃ text, stored.truthy = true ∧ stored.string = .ok text ∧ Matches deriveBits password text)

end

/-- The value has a text; and if that is a record of four parts, its salt is base64, and so is its hash where the
parameters are admissible. -/
def Readable (stored : Stored) : Prop :=
  stored.truthy = true → ∃ text, stored.string = .ok text ∧
    ∀ params saltB64 hashB64, text.splitOn '$' = ["pbkdf2".toList, params, saltB64, hashB64] →
      base64UrlBytes saltB64 ≠ none ∧ (scheme? params ≠ none → base64UrlBytes hashB64 ≠ none)

/-! ## The parts of a record -/

theorem b64u.decode_eq (str : List Char) :
    b64u.decode str = (base64UrlBytes str).elim (.error .invalidCharacter) .ok := by
  have padding (length : ℕ) : (if length % 4 = 0 then [] else List.replicate (4 - length % 4) '=') =
      List.replicate ((4 - length % 4) % 4) '=' := by
    split
    · next whole => rw [whole]; rfl
    · congr 1
      omega
  unfold decode
  dsimp only
  rw [padding]
  have units := base64UrlBytes_units (String.ofList str)
  rw [String.toList_ofList] at units
  rw [units]
  cases base64UrlBytes str <;> rfl

section

variable {deriveBits : List UInt8 → List UInt8 → ℕ → List UInt8}

theorem pbkdf2_ok {iterations : ℕ} (admissible : iterations ≤ PBKDF2_MAX_ITERATIONS) (input salt : List UInt8) :
    pbkdf2 deriveBits input salt iterations = .ok (deriveBits input salt iterations) :=
  if_neg (Nat.not_lt.mpr admissible)

theorem deriveFrom_ok {iterations : ℕ} (admissible : iterations ≤ PBKDF2_MAX_ITERATIONS) (salt : List UInt8)
    (rounds r : ℕ) (input out : List UInt8) : deriveFrom deriveBits salt iterations rounds r input out =
      .ok (if rounds = 0 then out else
        (List.range' r rounds).foldl (fun input r => deriveBits input (salt ++ [UInt8.ofNat r]) iterations) input) := by
  have byte (r : ℕ) : UInt8.ofNat (r &&& 0xff) = UInt8.ofNat r := by
    rw [show 0xff = 2 ^ 8 - 1 from rfl, Nat.and_two_pow_sub_one_eq_mod, ← UInt8.toNat_inj, UInt8.toNat_ofNat',
      UInt8.toNat_ofNat', Nat.mod_mod]
  induction rounds generalizing r input out with
  | zero => rfl
  | succ rounds ih =>
    rw [deriveFrom, pbkdf2_ok admissible, byte]
    simp only [Bind.bind, Except.bind]
    rw [ih, if_neg (Nat.succ_ne_zero rounds), List.range'_succ, List.foldl_cons]
    cases rounds <;> rfl

theorem equalBytes_iff {a b : List UInt8} : equalBytes a b = true ↔ a = b := by
  unfold equalBytes
  split
  · next different =>
    exact iff_of_false Bool.false_ne_true fun same => different (congrArg List.length same)
  · next lengths =>
    rw [decide_eq_true_iff, foldl_mismatch_iff (not_not.mp lengths)]
    exact and_iff_right rfl

/-- What the parameters are checked for is what they say of the derivation. -/
theorem scheme?_eq (params : List Char) : scheme? params =
    match positive? (parameters params).1, positive? (parameters params).2 with
    | some rounds, some iters =>
      if PBKDF2_MAX_ITERATIONS < iters ∨ 64 < rounds then none
      else some (if 'x' ∈ params then .chained rounds iters else .legacy iters)
    | _, _ => none := by
  unfold scheme? parameters
  by_cases chained : 'x' ∈ params
  · simp only [if_pos chained]
    generalize params.splitOn 'x' = parts
    rcases parts with _ | ⟨rounds, _ | ⟨iters, rest⟩⟩
    · rfl
    · rfl
    · simp only [List.map_cons, within, Bind.bind]
      cases positive? (Number rounds) with
      | none => rfl
      | some rounds =>
        cases positive? (Number iters) with
        | none => cases (some rounds).filter (· ≤ 64) <;> rfl
        | some iters =>
          simp only [Option.filter_some, decide_eq_true_eq, ← not_lt]
          by_cases many : 64 < rounds <;> by_cases beyond : PBKDF2_MAX_ITERATIONS < iters <;> simp [many, beyond]
  · have one : positive? (.finite 1) = some 1 := by decide
    simp only [if_neg chained, one, within]
    cases positive? (Number params) with
    | none => rfl
    | some iters =>
      simp only [Option.filter_some, decide_eq_true_eq, ← not_lt]
      by_cases beyond : PBKDF2_MAX_ITERATIONS < iters <;> simp [beyond]

theorem derive_ok {params : List Char} {rounds iters : ℕ} (password : String) (salt : List UInt8)
    (positive : 0 < rounds) (admissible : iters ≤ PBKDF2_MAX_ITERATIONS) :
    deriveAs deriveBits password params salt rounds iters =
      .ok ((if 'x' ∈ params then Scheme.chained rounds iters else .legacy iters).derivation deriveBits password salt) := by
  unfold deriveAs
  split
  · rw [derive, deriveFrom_ok admissible, if_neg (Nat.ne_of_gt positive), Scheme.derivation, List.range_eq_range']
  · exact pbkdf2_ok admissible _ _

end

section

variable {deriveBits : List UInt8 → List UInt8 → ℕ → List UInt8} {password : String} {text : List Char}

theorem positive?_pos {number : JsNumber} {value : ℕ} (read : positive? number = some value) : 0 < value := by
  unfold positive? at read
  split at read
  · next exact =>
    split at read
    · next whole =>
      obtain rfl := Option.some.inj read
      have positive := Rat.num_pos.mpr whole.2
      omega
    · contradiction
  · contradiction

/-- The checks of a record of four parts, in their order. -/
theorem verify_parts {params saltB64 hashB64 : List Char} {stored : Stored} (truthy : stored.truthy = true)
    (given : stored.string = .ok text) (parts : text.splitOn '$' = ["pbkdf2".toList, params, saltB64, hashB64]) :
    verifyPassword deriveBits password stored =
      match base64UrlBytes saltB64 with
      | none => .error .invalidCharacter
      | some salt =>
        match scheme? params with
        | none => .ok false
        | some scheme =>
          match base64UrlBytes hashB64 with
          | none => .error .invalidCharacter
          | some bits => .ok (equalBytes (scheme.derivation deriveBits password salt) bits) := by
  unfold verifyPassword
  rw [if_neg (by rw [truthy]; decide), given]
  simp only [Bind.bind, Except.bind]
  rw [parts]
  dsimp only
  rw [if_neg (not_not.mpr rfl), b64u.decode_eq, scheme?_eq]
  cases base64UrlBytes saltB64 with
  | none => rfl
  | some salt =>
    dsimp only [Option.elim]
    cases asked : positive? (parameters params).1 with
    | none => rfl
    | some rounds =>
      cases positive? (parameters params).2 with
      | none => rfl
      | some iters =>
        dsimp only
        by_cases beyond : PBKDF2_MAX_ITERATIONS < iters ∨ 64 < rounds
        · rw [if_pos beyond, if_pos beyond]
        · rw [if_neg beyond, if_neg beyond, compare]
          simp only [Bind.bind, Except.bind]
          rw [derive_ok password salt (positive?_pos asked) (by omega), b64u.decode_eq]
          cases base64UrlBytes hashB64 <;> rfl

end

/-! ## A record that is written -/

/-- What `hashPassword` writes as parameters -/
def written : List Char := (toString PBKDF2_ROUNDS).toList ++ 'x' :: (toString PBKDF2_ITERATIONS).toList

theorem scheme?_written : scheme? written = some (.chained PBKDF2_ROUNDS PBKDF2_ITERATIONS) := by
  have rounds : positive? (Number "2".toList) = some 2 := by decide +kernel
  have iterations : positive? (Number "100000".toList) = some 100000 := by decide +kernel
  have parts : written.splitOn 'x' = ["2".toList, "100000".toList] := by decide +kernel
  have chained : 'x' ∈ written := by decide +kernel
  rw [scheme?, if_pos chained, parts]
  simp only [within, rounds, iterations]
  rfl

section

variable (deriveBits : List UInt8 → List UInt8 → ℕ → List UInt8)

theorem hashPassword_eq (password : String) (salt : List UInt8) : hashPassword deriveBits password salt =
    .ok (List.intercalate ['$'] ["pbkdf2".toList, written, base64Url salt,
      base64Url ((Scheme.chained PBKDF2_ROUNDS PBKDF2_ITERATIONS).derivation deriveBits password salt)]) := by
  have derived : derive deriveBits password salt PBKDF2_ROUNDS PBKDF2_ITERATIONS =
      .ok ((Scheme.chained PBKDF2_ROUNDS PBKDF2_ITERATIONS).derivation deriveBits password salt) := by
    rw [derive, deriveFrom_ok (show PBKDF2_ITERATIONS ≤ PBKDF2_MAX_ITERATIONS from le_rfl), if_neg (by decide), Scheme.derivation, List.range_eq_range']
  rw [hashPassword, derived]
  simp only [Bind.bind, Except.bind, b64u.encode, written, List.intercalate_cons_cons, List.intercalate_singleton,
    List.append_assoc, List.cons_append, List.nil_append]

/-- A password is verified against its own record. -/
theorem verify_hashPassword (password : String) (salt : List UInt8) :
    ∃ text, hashPassword deriveBits password salt = .ok text ∧
      verifyPassword deriveBits password ⟨true, .ok text⟩ = .ok true := by
  refine ⟨_, hashPassword_eq deriveBits password salt, ?_⟩
  have letter : ∀ value < 64, urlLetter (base64Letter value) ≠ '$' := by decide
  have noDollar (bytes : List UInt8) : '$' ∉ base64Url bytes := by
    rw [base64Url_eq]
    intro member
    obtain ⟨value, inside, same⟩ := List.mem_map.mp member
    exact letter value (sextets_lt bytes value inside) same
  have parts (bits : List UInt8) : (List.intercalate ['$'] ["pbkdf2".toList, written, base64Url salt, base64Url bits]).splitOn
      '$' = ["pbkdf2".toList, written, base64Url salt, base64Url bits] := by
    apply List.splitOn_intercalate
    · intro part member
      simp only [List.mem_cons, List.not_mem_nil, or_false] at member
      rcases member with rfl | rfl | rfl | rfl
      · decide +kernel
      · decide +kernel
      · exact noDollar _
      · exact noDollar _
    · simp
  rw [verify_parts rfl rfl (parts _), base64UrlBytes_base64Url, scheme?_written, base64UrlBytes_base64Url]
  exact congrArg Except.ok (equalBytes_iff.mpr rfl)

/-- What is no record of four parts is no match. -/
theorem verify_other {password : String} {stored : Stored} {text : List Char} (truthy : stored.truthy = true)
    (given : stored.string = .ok text)
    (other : ∀ params saltB64 hashB64, text.splitOn '$' ≠ ["pbkdf2".toList, params, saltB64, hashB64]) :
    verifyPassword deriveBits password stored = .ok false := by
  unfold verifyPassword
  rw [if_neg (by rw [truthy]; decide), given]
  simp only [Bind.bind, Except.bind]
  split
  · next scheme params saltB64 hashB64 parts =>
    split
    · rfl
    · next same =>
      obtain rfl := not_not.mp same
      exact absurd parts (other params saltB64 hashB64)
  · rfl

theorem answers_parts {password : String} {stored : Stored} {text params saltB64 hashB64 : List Char}
    (truthy : stored.truthy = true) (given : stored.string = .ok text)
    (parts : text.splitOn '$' = ["pbkdf2".toList, params, saltB64, hashB64]) :
    Answers deriveBits password stored ↔
      base64UrlBytes saltB64 ≠ none ∧ (scheme? params ≠ none → base64UrlBytes hashB64 ≠ none) := by
  have record : (∃ text, stored.truthy = true ∧ stored.string = .ok text ∧ Matches deriveBits password text) ↔
      ∃ scheme salt, scheme? params = some scheme ∧ base64UrlBytes saltB64 = some salt ∧
        base64UrlBytes hashB64 = some (scheme.derivation deriveBits password salt) := by
    constructor
    · rintro ⟨text', -, given', params', saltB64', hashB64', scheme, salt, parts', rest⟩
      obtain rfl := Except.ok.inj (given.symm.trans given')
      obtain ⟨rfl, rfl, rfl⟩ : params = params' ∧ saltB64 = saltB64' ∧ hashB64 = hashB64' := by
        simpa using parts.symm.trans parts'
      exact ⟨scheme, salt, rest⟩
    · rintro ⟨scheme, salt, rest⟩
      exact ⟨text, truthy, given, params, saltB64, hashB64, scheme, salt, parts, rest⟩
  unfold Answers
  rw [record, verify_parts truthy given parts]
  cases base64UrlBytes saltB64 with
  | none => simp
  | some salt =>
    cases scheme? params with
    | none => simp
    | some scheme =>
      cases base64UrlBytes hashB64 with
      | none => simp
      | some bits =>
        refine iff_of_true ⟨_, rfl, ?_⟩ (by simp)
        rw [equalBytes_iff]
        constructor
        · intro same
          exact ⟨scheme, salt, rfl, rfl, congrArg some same.symm⟩
        · rintro ⟨scheme', salt', same, same', bits'⟩
          obtain rfl := Option.some.inj same
          obtain rfl := Option.some.inj same'
          exact (Option.some.inj bits').symm

/-- A value is answered as its record says exactly when it is readable; and what `hashPassword` writes is verified. -/
theorem answers_iff_readable :
    (∀ password stored, Answers deriveBits password stored ↔ Readable stored) ∧
    ∀ password salt, ∃ text, hashPassword deriveBits password salt = .ok text ∧
      verifyPassword deriveBits password ⟨true, .ok text⟩ = .ok true := by
  refine ⟨fun password stored => ?_, verify_hashPassword deriveBits⟩
  by_cases truthy : stored.truthy = true
  swap
  · apply iff_of_true
    · refine ⟨false, if_pos (eq_false_of_ne_true truthy), iff_of_false Bool.false_ne_true ?_⟩
      rintro ⟨text, truthy', -⟩
      exact truthy truthy'
    · exact fun truthy' => absurd truthy' truthy
  cases given : stored.string with
  | error thrown =>
    apply iff_of_false
    · rintro ⟨answer, verified, -⟩
      rw [verifyPassword, if_neg (by rw [truthy]; decide), given] at verified
      contradiction
    · intro readable
      obtain ⟨text, given', -⟩ := readable truthy
      rw [given] at given'
      contradiction
  | ok text =>
    by_cases four : ∃ params saltB64 hashB64, text.splitOn '$' = ["pbkdf2".toList, params, saltB64, hashB64]
    · obtain ⟨params, saltB64, hashB64, parts⟩ := four
      rw [answers_parts deriveBits truthy given parts]
      constructor
      · intro decoded _
        refine ⟨text, given, fun params' saltB64' hashB64' parts' => ?_⟩
        obtain ⟨rfl, rfl, rfl⟩ : params = params' ∧ saltB64 = saltB64' ∧ hashB64 = hashB64' := by
          simpa using parts.symm.trans parts'
        exact decoded
      · intro readable
        obtain ⟨text', given', all⟩ := readable truthy
        obtain rfl := Except.ok.inj (given.symm.trans given')
        exact all params saltB64 hashB64 parts
    · push Not at four
      apply iff_of_true
      · refine ⟨false, verify_other deriveBits truthy given four, iff_of_false Bool.false_ne_true ?_⟩
        rintro ⟨text', -, given', params, saltB64, hashB64, scheme, salt, parts, -⟩
        obtain rfl := Except.ok.inj (given.symm.trans given')
        exact four params saltB64 hashB64 parts
      · intro _
        exact ⟨text, given, fun params saltB64 hashB64 parts => absurd parts (four params saltB64 hashB64)⟩

end

/-- Of a record whose salt is no base64, and of one whose hash is none, no boolean comes back. -/
theorem record_throws :
    ¬ Answers (fun _ _ _ => []) "password" ⟨true, .ok "pbkdf2$2x100000$!$AAAA".toList⟩ ∧
    ¬ Answers (fun _ _ _ => []) "password" ⟨true, .ok "pbkdf2$1$AAAA$!".toList⟩ := by
  have salt : verifyPassword (fun _ _ _ => []) "password" ⟨true, .ok "pbkdf2$2x100000$!$AAAA".toList⟩ =
      .error .invalidCharacter := by
    decide +kernel
  have hash : verifyPassword (fun _ _ _ => []) "password" ⟨true, .ok "pbkdf2$1$AAAA$!".toList⟩ =
      .error .invalidCharacter := by
    decide +kernel
  constructor
  · rintro ⟨answer, verified, -⟩
    exact nomatch salt.symm.trans verified
  · rintro ⟨answer, verified, -⟩
    exact nomatch hash.symm.trans verified

end OmniControlPlane.Panel.PasswordRecord
