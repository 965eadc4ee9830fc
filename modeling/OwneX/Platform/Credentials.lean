import OwneX.Library.Base64

set_option autoImplicit false

/-! # `lib/client-credentials.ts` and `lib/partner-credentials.ts`

The client id and secret of an application: how they are made, how the digest of a secret is stored
and compared, and how a partner presents them. `scrypt` and the decoding of UTF-8 are those of the
runtime. -/

namespace OwneX

open Js

/-- What `node:crypto` and `Buffer` compute. -/
structure CryptoRuntime where
  /-- `scryptSync(secret, salt, keylen, { N, r, p, maxmem })`, `none` where it throws. -/
  scrypt : Text → List UInt8 → Nat → Nat → Nat → Nat → Option (List UInt8)
  /-- `buffer.toString("utf8")` -/
  toUtf8 : List UInt8 → Text

/-! ## Client credentials -/

def CLIENT_ID_PREFIX : Text := "ownex_".toList

def CLIENT_SECRET_PREFIX : Text := "oxs_".toList

def SCRYPT_N : Nat := 16384

def SCRYPT_R : Nat := 8

def SCRYPT_P : Nat := 1

def SCRYPT_KEYLEN : Nat := 32

def HASH_SCHEME : Text := "scrypt".toList

/-- From 16 random bytes. -/
def generateClientId (bytes : List UInt8) : Text :=
  CLIENT_ID_PREFIX ++ hexOfBytes bytes

/-- From 32 random bytes. -/
def generateClientSecret (bytes : List UInt8) : Text :=
  CLIENT_SECRET_PREFIX ++ toBase64url bytes

section Crypto

variable (crypto : CryptoRuntime)

/-- `scrypt$N$r$p$salt$digest`, or `none` where it throws. -/
def hashClientSecret (secret : Text) (salt : List UInt8) : Option Text :=
  if utf16Length secret < 16 then none
  else
    (crypto.scrypt secret salt SCRYPT_KEYLEN SCRYPT_N SCRYPT_R SCRYPT_P).map fun digest =>
      ['$'].intercalate
        [HASH_SCHEME, Nat.toDigits 10 SCRYPT_N, Nat.toDigits 10 SCRYPT_R, Nat.toDigits 10 SCRYPT_P,
          toBase64url salt, toBase64url digest]

/-- False for every failure. -/
def verifyClientSecret (secret : Text) (stored : Option Text) : Bool :=
  if secret = [] then false
  else
    match (stored.getD []).splitOn '$' with
    | [scheme, n, r, p, salt, expected] =>
        if scheme ≠ HASH_SCHEME then false
        else
          match (number n).bind Literal.toNat?, (number r).bind Literal.toNat?,
              (number p).bind Literal.toNat? with
          | some n, some r, some p =>
              if n < 1024 ∨ r < 1 ∨ p < 1 then false
              else
                let salt := fromBase64 salt
                let expected := fromBase64 expected
                if salt = [] ∨ expected = [] then false
                else crypto.scrypt secret salt expected.length n r p == some expected
          | _, _, _ => false
    | _ => false

/-- The key that is derived has the length that was asked for. -/
def CryptoRuntime.DerivesLength : Prop :=
  ∀ secret salt keylen n r p digest, crypto.scrypt secret salt keylen n r p = some digest →
    digest.length = keylen

/-- The parts of a stored digest. -/
theorem splitOn_hash (salt digest : List UInt8) :
    (['$'].intercalate
      [HASH_SCHEME, Nat.toDigits 10 SCRYPT_N, Nat.toDigits 10 SCRYPT_R, Nat.toDigits 10 SCRYPT_P,
        toBase64url salt, toBase64url digest]).splitOn '$' =
      [HASH_SCHEME, Nat.toDigits 10 SCRYPT_N, Nat.toDigits 10 SCRYPT_R, Nat.toDigits 10 SCRYPT_P,
        toBase64url salt, toBase64url digest] := by
  have hdollar : base64Value '$' = none := by decide
  refine List.splitOn_intercalate '$' ?_ (List.cons_ne_nil _ _)
  simp only [List.forall_mem_cons, List.not_mem_nil, false_imp_iff, implies_true, and_true]
  exact ⟨by decide, by decide +kernel, by decide +kernel, by decide +kernel,
    notMem_toBase64url hdollar salt, notMem_toBase64url hdollar digest⟩

variable {crypto}

/-- A secret verifies against the digest that is made of it. -/
theorem verify_hashClientSecret (hlength : crypto.DerivesLength) {secret hash : Text}
    {salt : List UInt8} (hsalt : salt ≠ [])
    (h : hashClientSecret crypto secret salt = some hash) :
    verifyClientSecret crypto secret (some hash) = true := by
  unfold hashClientSecret at h
  split at h
  · cases h
  next hlong =>
  obtain ⟨digest, hdigest, rfl⟩ := Option.map_eq_some_iff.1 h
  have hsecret : secret ≠ [] := by
    rintro rfl
    exact hlong (by decide)
  have hkeylen : digest.length = SCRYPT_KEYLEN := hlength _ _ _ _ _ _ _ hdigest
  have hdigests : digest ≠ [] := by
    rintro rfl
    cases hkeylen
  have hn : (number (Nat.toDigits 10 SCRYPT_N)).bind Literal.toNat? = some SCRYPT_N := by
    decide +kernel
  have hr : (number (Nat.toDigits 10 SCRYPT_R)).bind Literal.toNat? = some SCRYPT_R := by
    decide +kernel
  have hp : (number (Nat.toDigits 10 SCRYPT_P)).bind Literal.toNat? = some SCRYPT_P := by
    decide +kernel
  have hcost : ¬ (SCRYPT_N < 1024 ∨ SCRYPT_R < 1 ∨ SCRYPT_P < 1) := by decide
  have hboth : ¬ (salt = [] ∨ digest = []) := not_or.2 ⟨hsalt, hdigests⟩
  unfold verifyClientSecret
  rw [if_neg hsecret, Option.getD_some, splitOn_hash]
  simp only [ne_eq, not_true_eq_false, if_false, hn, hr, hp, if_neg hcost,
    fromBase64_toBase64url, if_neg hboth, hkeylen, hdigest, beq_self_eq_true]

variable (crypto)

/-! ## Partner credentials -/

structure PartnerCredentials where
  clientId : Text
  clientSecret : Text
deriving DecidableEq

/-- The headers that are looked at. -/
structure PartnerHeaders where
  authorization : Option Text
  clientId : Option Text
  clientSecret : Option Text
deriving DecidableEq

def isBase64Char (c : Char) : Bool :=
  c.isAlphanum || c == '+' || c == '/' || c == '=' || c == '_' || c == '-'

/-- The group of `/^Basic\s+([A-Za-z0-9+/=_-]+)\s*$/i`. -/
def basicToken (header : Text) : Option Text :=
  let trimmed := trimText header
  let token := (trimmed.drop 5).dropWhile isWhitespace
  if lowerAscii (trimmed.take 5) = "basic".toList ∧ (trimmed.drop 5).head?.any isWhitespace ∧
      token ≠ [] ∧ token.all isBase64Char then some token
  else none

/-- The secret may itself contain a colon, so only the first one separates. -/
def parseBasicCredentials (header : Option Text) : Option PartnerCredentials :=
  match header.bind basicToken with
  | none => none
  | some token =>
      let decoded := crypto.toUtf8 (fromBase64 token)
      let clientId := decoded.takeWhile (· ≠ ':')
      let clientSecret := (decoded.dropWhile (· ≠ ':')).drop 1
      if clientId = [] ∨ clientSecret = [] then none else some { clientId, clientSecret }

/-- Basic auth first, then the explicit headers. -/
def readPartnerCredentials (headers : PartnerHeaders) : Option PartnerCredentials :=
  match parseBasicCredentials crypto headers.authorization with
  | some basic => some basic
  | none =>
      match headers.clientId, headers.clientSecret with
      | some clientId, some clientSecret =>
          if clientId = [] ∨ clientSecret = [] then none else some { clientId, clientSecret }
      | _, _ => none

end Crypto

end OwneX
