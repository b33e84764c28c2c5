/-
This file proves that a service accepts the tokens that it could have written itself, and no others.

A token is taken apart at its points, and none of its parts has a point of its own once they are
texts of octets: so a token has one reading. What a service writes is read back as the claims that
it wrote, whatever texts they hold, and only the expiry is left to decide. Conversely, the third
part of an accepted token is the one text of the one code that the service would have written, since
a text of octets determines the octets and they determine the text.
-/

import Mathlib.Data.List.Basic
import UserDashboard.Proofs.Credential.Verifier
import UserDashboard.Proofs.Crypto.Base64Url
import UserDashboard.Proofs.Json.Printer

namespace UserDashboard.Credential

open Crypto Number Time

variable {verifier : Verifier} {now : Moment} {claims : Claims} {token : String}

/-! ### Tokens taken apart -/

/-- A text is cut at a point exactly when there is none behind it. -/
theorem splitAtLastPoint?_eq_some_iff {text front tail : List Char} :
    splitAtLastPoint? text = some (front, tail) ↔ text = front ++ '.' :: tail ∧ '.' ∉ tail := by
  constructor
  · intro cut
    have whole := List.takeWhile_append_dropWhile (p := (· ≠ '.')) (l := text.reverse)
    have free : '.' ∉ text.reverse.takeWhile (· ≠ '.') := fun member =>
      absurd (List.all_eq_true.mp List.all_takeWhile _ member) (by decide)
    unfold splitAtLastPoint? at cut
    split at cut
    · cases cut
    · rename_i c before rest
      obtain ⟨rfl, rfl⟩ := Prod.mk.inj (Option.some.inj cut)
      have point : c = '.' := by
        have head := List.head?_dropWhile_not (· ≠ '.') text.reverse
        rw [rest] at head
        simpa using head
      refine ⟨?_, fun member => free (List.mem_reverse.mp member)⟩
      rw [rest, point] at whole
      have turned := congrArg List.reverse whole
      simpa using turned.symm
  · rintro ⟨rfl, free⟩
    have solid : ∀ c ∈ tail.reverse, decide (c ≠ '.') := fun c member =>
      decide_eq_true fun same => free (same ▸ List.mem_reverse.mp member)
    simp only [splitAtLastPoint?, List.reverse_append, List.reverse_cons, List.append_assoc,
      List.takeWhile_append_of_pos solid, List.dropWhile_append_of_pos solid,
      List.singleton_append]
    simp

theorem ofText?_eq_some_iff {parts : Parts} :
    Parts.ofText? token = some parts ↔
      token.toList = parts.signed ++ '.' :: parts.signature ∧
        '.' ∉ parts.payload ∧ '.' ∉ parts.signature := by
  unfold Parts.ofText?
  constructor
  · intro taken
    obtain ⟨⟨signed, signature⟩, outer, taken⟩ := Option.bind_eq_some_iff.mp taken
    obtain ⟨⟨header, payload⟩, inner, same⟩ := Option.bind_eq_some_iff.mp taken
    cases same
    obtain ⟨whole, signatureFree⟩ := splitAtLastPoint?_eq_some_iff.mp outer
    obtain ⟨rfl, payloadFree⟩ := splitAtLastPoint?_eq_some_iff.mp inner
    exact ⟨whole, payloadFree, signatureFree⟩
  · rintro ⟨whole, payloadFree, signatureFree⟩
    simp [splitAtLastPoint?_eq_some_iff.mpr ⟨whole, signatureFree⟩,
      splitAtLastPoint?_eq_some_iff.mpr ⟨rfl, payloadFree⟩, Parts.signed]

/-- Two texts with no point before their first one are the same before it and after it. -/
theorem eq_of_first_point {first second front back : List Char} (free : '.' ∉ first)
    (freeToo : '.' ∉ second) (same : first ++ '.' :: front = second ++ '.' :: back) :
    first = second ∧ front = back := by
  rcases List.append_eq_append_iff.mp same with ⟨between, rfl, rest⟩ | ⟨between, rfl, rest⟩
  · cases between with
    | nil => simpa using rest
    | cons c between =>
      obtain ⟨rfl, -⟩ := List.cons.inj rest
      exact absurd (List.mem_append_right _ List.mem_cons_self) freeToo
  · cases between with
    | nil => simpa [eq_comm] using rest
    | cons c between =>
      obtain ⟨rfl, -⟩ := List.cons.inj rest
      exact absurd (List.mem_append_right _ List.mem_cons_self) free

/-! ### What a service writes -/

theorem decodedJson_encodedJson {json : Json} (legible : json.Legible) :
    decodedJson (encodedJson json) = .ok json := by
  rw [decodedJson, encodedJson, Base64Url.decode?_encode]
  simp only [octetsOf, Json.parseOctets?_toUTF8, Json.parse?_print legible]

theorem Header.legible_toJson (algorithm : Algorithm) : (Header.toJson algorithm).Legible := by
  refine .object fun member isMember => ?_
  simp only [List.mem_cons, List.not_mem_nil, or_false] at isMember
  rcases isMember with rfl | rfl <;> exact .string _

theorem Header.ofJson?_toJson (algorithm : Algorithm) :
    Header.ofJson? (Header.toJson algorithm) = some (.own algorithm) := by
  cases algorithm <;> decide

theorem Claims.legible_toJson (claims : Claims) : claims.toJson.Legible := by
  refine .object ?_
  simp only [List.forall_mem_append, List.forall_mem_cons]
  exact ⟨⟨⟨.string _, nofun⟩, Json.legible_member? fun _ _ => Json.legible_int64 _⟩,
    .string _, Json.legible_int64 _, Json.legible_int64 _, nofun⟩

/-- Claims are read as they were written. -/
theorem Claims.ofJson?_toJson (claims : Claims) : Claims.ofJson? claims.toJson = some claims := by
  obtain ⟨email, account, displayName, issuedAt, expiresAt⟩ := claims
  -- The names of the members decide where each is found, and the integers are all there is to read.
  have read : Claims.ofJson? (Claims.toJson ⟨email, account, displayName, issuedAt, expiresAt⟩) =
      ((account.elim (some none) fun account =>
          (Json.readInt64? (.integer account.toInt)).map some).bind fun account =>
        (Json.readInt64? (.integer issuedAt.toInt)).bind fun issuedAt =>
        (Json.readInt64? (.integer expiresAt.toInt)).bind fun expiresAt =>
        some ⟨email, account.map Int64.ofInt, displayName, Int64.ofInt issuedAt,
          Int64.ofInt expiresAt⟩) := by
    cases account <;> rfl
  rw [read]
  cases account <;> simp [Json.readInt64?_toInt]

theorem Registered.ofJson?_toJson (claims : Claims) :
    Registered.ofJson? claims.toJson =
      some ⟨Json.readNat64? (.integer claims.expiresAt.toInt), false⟩ := by
  obtain ⟨email, account, displayName, issuedAt, expiresAt⟩ := claims
  cases account with
  | none => rfl
  | some account => rfl

/-- The parts of the token of claims. -/
def Verifier.partsOf (verifier : Verifier) (claims : Claims) : Parts :=
  let header := encodedJson (Header.toJson verifier.algorithm)
  let payload := encodedJson claims.toJson
  ⟨header, payload, Base64Url.encode (verifier.sign (header ++ '.' :: payload))⟩

theorem ofText?_encode (verifier : Verifier) (claims : Claims) :
    Parts.ofText? (verifier.encode claims) = some (verifier.partsOf claims) := by
  refine ofText?_eq_some_iff.mpr ⟨?_, ?_, ?_⟩
  · rw [Verifier.encode, String.toList_ofList]
    rfl
  · exact Base64Url.point_notMem_encode _
  · exact Base64Url.point_notMem_encode _

theorem checkSignature_eq_ok_iff {parts : Parts} :
    verifier.checkSignature parts = .ok () ↔
      parts.signature = Base64Url.encode (verifier.sign parts.signed) := by
  rw [← Base64Url.decode?_eq_some_iff, Verifier.checkSignature]
  cases Base64Url.decode? parts.signature with
  | none => simp
  | some signature =>
    by_cases same : signature = verifier.sign parts.signed <;> simp [same]

theorem checkHeader_partsOf (verifier other : Verifier) (claims : Claims) :
    verifier.checkHeader (other.partsOf claims) =
      if other.algorithm = verifier.algorithm then .ok () else .error (.decoding .algorithm) := by
  unfold Verifier.checkHeader Verifier.partsOf
  simp only [decodedJson_encodedJson (Header.legible_toJson _), Header.ofJson?_toJson, bind,
    Except.bind, NamedAlgorithm.own.injEq]

/-- The token of claims is decoded as these claims, if its expiry allows it. -/
theorem decode_encode_eq (verifier : Verifier) (now : Moment) (claims : Claims) :
    verifier.decode now (verifier.encode claims) =
      (Verifier.checkRegistered now
        ⟨Json.readNat64? (.integer claims.expiresAt.toInt), false⟩).map fun _ => claims := by
  have header := checkHeader_partsOf verifier verifier claims
  rw [if_pos rfl] at header
  have signature : verifier.checkSignature (verifier.partsOf claims) = .ok () :=
    checkSignature_eq_ok_iff.mpr rfl
  have payload : decodedJson (verifier.partsOf claims).payload = .ok claims.toJson :=
    decodedJson_encodedJson claims.legible_toJson
  simp only [Verifier.decode, ofText?_encode, header, signature, payload, bind, Except.bind,
    Claims.ofJson?_toJson, Registered.ofJson?_toJson]
  rfl

/-- A service decodes its own tokens as the claims they were made of, until the second of their
expiry is over. After that they have expired; but an expiry before 1970 is not seen as one. -/
theorem decode_encode (verifier : Verifier) (claims : Claims) {now : Moment} (since : 0 ≤ now) :
    verifier.decode now (verifier.encode claims) =
      if now / nanosPerSecond ≤ claims.expiresAt.toInt then .ok claims
      else if 0 ≤ claims.expiresAt.toInt then .error .expired
      else .error (.missingClaim "exp") := by
  rw [decode_encode_eq]
  have second : 0 ≤ now / nanosPerSecond := Int.ediv_nonneg since (by decide)
  have large := claims.expiresAt.toInt_lt
  by_cases usable : 0 ≤ claims.expiresAt.toInt
  · have expiry : Json.readNat64? (.integer claims.expiresAt.toInt) =
        some claims.expiresAt.toInt.toNat := by
      have fits : claims.expiresAt.toInt ≤ nat64Max := by
        simp only [nat64Max]
        omega
      rw [Json.readNat64?, Json.readInteger?, if_pos ⟨usable, fits⟩, Option.map_some]
    rw [expiry, if_pos usable, Verifier.checkRegistered]
    simp only [Int.toNat_of_nonneg usable]
    by_cases runs : now / nanosPerSecond ≤ claims.expiresAt.toInt
    · rw [if_pos runs, if_neg (Int.not_lt.mpr runs)]
      rfl
    · rw [if_neg runs, if_pos (Int.not_le.mp runs)]
      rfl
  · have expiry : Json.readNat64? (.integer claims.expiresAt.toInt) = none := by
      rw [Json.readNat64?, Json.readInteger?, if_neg fun bounds => usable bounds.1, Option.map_none]
    have passed : claims.expiresAt.toInt < now / nanosPerSecond :=
      Int.lt_of_lt_of_le (Int.not_le.mp usable) second
    rw [expiry, if_neg usable, if_neg (Int.not_le.mpr passed)]
    rfl

/-- A service that shares a secret of two octets. -/
def smallService : Verifier :=
  ⟨.hs512, [0, 255]⟩

/-- Claims for the first hour of 1970, with texts that have to be escaped. -/
def oddClaims : Claims :=
  ⟨"\"é\"@x.y", some (-7), "\\.\n", -1, 3600⟩

/-- A token is decoded in the second of its expiry and has expired in the next one. -/
theorem decode_encode_of_oddClaims :
    0 ≤ (3600999999999 : Moment) ∧
      smallService.decode 3600999999999 (smallService.encode oddClaims) = .ok oddClaims ∧
      smallService.decode 3601000000000 (smallService.encode oddClaims) = .error .expired := by
  refine ⟨by decide, ?_, ?_⟩
  · rw [decode_encode _ _ (by decide)]
    rfl
  · rw [decode_encode _ _ (by decide)]
    rfl

/-! ### What a service accepts -/

/-- What the tokens of a service are made of: the texts of a header that names its algorithm and of
the claims, and the text of the code that it writes for both. -/
structure Authentic (verifier : Verifier) (parts : Parts) (claims : Claims) : Prop where
  header : ∃ octets members, parts.header = Base64Url.encode octets ∧
    Json.parseOctets? octets = some (.object members) ∧
    (Json.valueIn? members "alg").bind Json.readChoice? = some verifier.algorithm.name
  payload : ∃ octets json, parts.payload = Base64Url.encode octets ∧
    Json.parseOctets? octets = some json ∧ Claims.ofJson? json = some claims
  signature : parts.signature = Base64Url.encode (verifier.sign parts.signed)

theorem decodedJson_eq_ok_iff {text : List Char} {json : Json} :
    decodedJson text = .ok json ↔
      ∃ octets, text = Base64Url.encode octets ∧ Json.parseOctets? octets = some json := by
  unfold decodedJson
  simp only [← Base64Url.decode?_eq_some_iff]
  cases Base64Url.decode? text with
  | none => simp
  | some octets => cases read : Json.parseOctets? octets <;> simp [read]

theorem Algorithm.name_of_ofName? {name : String} {algorithm : Algorithm}
    (found : Algorithm.ofName? name = some algorithm) : name = algorithm.name := by
  unfold Algorithm.ofName? at found
  split at found <;> cases found <;> rfl

/-- The algorithm of a header is that of its member of this name. -/
theorem algorithm_of_header {header : Json} {algorithm : Algorithm}
    (read : Header.ofJson? header = some (.own algorithm)) :
    ∃ members, header = .object members ∧
      (Json.valueIn? members "alg").bind Json.readChoice? = some algorithm.name := by
  cases header with
  | object members =>
    refine ⟨members, rfl, ?_⟩
    simp only [Header.ofJson?, bind, Option.bind_eq_some_iff] at read
    obtain ⟨record, known, named, told, -, -, -, -, -, -, -, -, same⟩ := read
    obtain rfl := Option.some.inj same
    have value := Json.value?_of_record? (by simp) "alg" (by simp [Header.parameters]) known
    rw [Json.Record.required, value] at told
    obtain ⟨json, found, named⟩ := Option.bind_eq_some_iff.mp told
    obtain ⟨name, choice, chosen⟩ := Option.bind_eq_some_iff.mp named
    rw [found, Option.bind_some, choice]
    split at chosen
    · rename_i own
      cases chosen
      rw [Algorithm.name_of_ofName? own]
    · split at chosen <;> cases chosen
  | _ => cases read

theorem header_of_checkHeader {parts : Parts} (checked : verifier.checkHeader parts = .ok ()) :
    ∃ octets members, parts.header = Base64Url.encode octets ∧
      Json.parseOctets? octets = some (.object members) ∧
      (Json.valueIn? members "alg").bind Json.readChoice? = some verifier.algorithm.name := by
  obtain ⟨header, decoded, checked⟩ := bind_eq_ok_iff.mp checked
  obtain ⟨octets, text, read⟩ := decodedJson_eq_ok_iff.mp decoded
  split at checked
  · cases checked
  · rename_i algorithm named
    split at checked
    · rename_i own
      rw [own] at named
      obtain ⟨members, rfl, told⟩ := algorithm_of_header named
      exact ⟨octets, members, text, read, told⟩
    · cases checked

theorem authentic_of_decode (decoded : verifier.decode now token = .ok claims) :
    ∃ parts, token.toList = parts.signed ++ '.' :: parts.signature ∧
      Authentic verifier parts claims := by
  obtain ⟨parts, payload, -, taken, header, signature, read, told, -⟩ :=
    decode_eq_ok_iff.mp decoded
  obtain ⟨whole, -, -⟩ := ofText?_eq_some_iff.mp taken
  obtain ⟨octets, text, parsed⟩ := decodedJson_eq_ok_iff.mp read
  exact ⟨parts, whole, header_of_checkHeader header, ⟨octets, payload, text, parsed, told⟩,
    checkSignature_eq_ok_iff.mp signature⟩

theorem Authentic.point_notMem {parts : Parts} (authentic : Authentic verifier parts claims) :
    '.' ∉ parts.header ∧ '.' ∉ parts.payload := by
  obtain ⟨headerOctets, -, header, -⟩ := authentic.header
  obtain ⟨payloadOctets, -, payload, -⟩ := authentic.payload
  rw [header, payload]
  exact ⟨Base64Url.point_notMem_encode _, Base64Url.point_notMem_encode _⟩

/-- Of all texts behind the same header and claims, one is the code that a service accepts. -/
theorem Authentic.signature_eq {parts : Parts} {others : Claims} {signature : List Char}
    (authentic : Authentic verifier parts claims)
    (decoded : verifier.decode now (String.ofList (parts.signed ++ '.' :: signature)) =
      .ok others) : signature = parts.signature := by
  obtain ⟨again, whole, authenticAgain⟩ := authentic_of_decode decoded
  rw [String.toList_ofList] at whole
  obtain ⟨headerFree, payloadFree⟩ := authentic.point_notMem
  obtain ⟨headerFreeAgain, payloadFreeAgain⟩ := authenticAgain.point_notMem
  simp only [Parts.signed, List.append_assoc, List.cons_append] at whole
  obtain ⟨sameHeader, rest⟩ := eq_of_first_point headerFree headerFreeAgain whole
  obtain ⟨samePayload, sameSignature⟩ := eq_of_first_point payloadFree payloadFreeAgain rest
  rw [sameSignature, authenticAgain.signature, authentic.signature, Parts.signed, Parts.signed,
    sameHeader, samePayload]

/-- The expiry of claims that were decoded does not lie before 1970. -/
theorem expiresAt_nonneg (decoded : verifier.decode now token = .ok claims) :
    0 ≤ claims.expiresAt.toInt := by
  obtain ⟨-, payload, registered, -, -, -, -, first, second, checked⟩ :=
    decode_eq_ok_iff.mp decoded
  obtain ⟨expiry, usable, -, -⟩ := checkRegistered_eq_ok_iff.mp checked
  rw [← expiry_eq_of_ofJson? first second usable]
  exact Int.natCast_nonneg expiry

/-- A token is accepted exactly when it is decoded, its claims name an account, and its expiry is a
date before the year 10000. -/
theorem verify_iff_decode {verified : Verified} :
    verifier.verify now token = .ok verified ↔
      ∃ claims account, verifier.decode now token = .ok claims ∧ claims.account = some account ∧
        claims.expiresAt.toInt ≤ lastSecond ∧
        verified = ⟨⟨⟨account⟩, claims.email, claims.displayName⟩,
          momentAt claims.expiresAt.toInt 0⟩ := by
  obtain ⟨identity, moment⟩ := verified
  rw [verify_eq_ok_iff]
  constructor
  · rintro ⟨claims, decoded, who, valid⟩
    simp only [Claims.identity] at who
    simp only [Claims.expiry] at valid
    split at who
    · rename_i account named
      split at valid
      · rename_i dated
        obtain rfl := Except.ok.inj who
        obtain rfl := Except.ok.inj valid
        exact ⟨claims, account, decoded, named, dated.2, rfl⟩
      · cases valid
    · cases who
  · rintro ⟨claims, account, decoded, named, dated, same⟩
    obtain ⟨rfl, rfl⟩ := Verified.mk.inj same
    have since : firstSecond ≤ claims.expiresAt.toInt :=
      Int.le_trans (by decide) (expiresAt_nonneg decoded)
    refine ⟨claims, decoded, ?_, ?_⟩
    · rw [Claims.identity, named]
    · rw [Claims.expiry, if_pos ⟨since, dated⟩]

theorem decode_encode_of_ne {other : Verifier} (foreign : other.algorithm ≠ verifier.algorithm)
    (now : Moment) (claims : Claims) :
    verifier.decode now (other.encode claims) = .error (.decoding .algorithm) := by
  have header := checkHeader_partsOf verifier other claims
  rw [if_neg foreign] at header
  simp only [Verifier.decode, ofText?_encode, header, bind, Except.bind]

/-- A token that is decoded was put together under the service's secret and for its algorithm, and
no other code is accepted for the same header and claims. It is accepted when its claims name an
account and a date, and then says what they say. The tokens of services with another algorithm are
refused for it. -/
theorem accepted_only_authentic (verifier : Verifier) (now : Moment) (token : String) :
    (∀ claims, verifier.decode now token = .ok claims →
      ∃ parts, token.toList = parts.signed ++ '.' :: parts.signature ∧
        Authentic verifier parts claims ∧
        ∀ signature later others,
          verifier.decode later (String.ofList (parts.signed ++ '.' :: signature)) = .ok others →
            signature = parts.signature) ∧
    (∀ verified, verifier.verify now token = .ok verified ↔
      ∃ claims account, verifier.decode now token = .ok claims ∧ claims.account = some account ∧
        claims.expiresAt.toInt ≤ lastSecond ∧
        verified = ⟨⟨⟨account⟩, claims.email, claims.displayName⟩,
          momentAt claims.expiresAt.toInt 0⟩) ∧
    ∀ (other : Verifier) (claims : Claims), other.algorithm ≠ verifier.algorithm →
      token = other.encode claims →
      verifier.decode now token = .error (.decoding .algorithm) ∧
        verifier.verify now token = .error (.decoding .algorithm) := by
  refine ⟨fun claims decoded => ?_, fun verified => verify_iff_decode,
    fun other claims foreign issued => ?_⟩
  · obtain ⟨parts, whole, authentic⟩ := authentic_of_decode decoded
    exact ⟨parts, whole, authentic, fun signature later others => authentic.signature_eq⟩
  · have refused := decode_encode_of_ne foreign now claims
    rw [issued]
    refine ⟨refused, ?_⟩
    rw [Verifier.verify, refused]
    rfl

/-- A token that is accepted and says what its claims say, and one of a service with another
algorithm and the same secret. -/
theorem accepted_only_authentic_of_oddClaims :
    (∃ parts, (smallService.encode oddClaims).toList = parts.signed ++ '.' :: parts.signature ∧
      Authentic smallService parts oddClaims) ∧
    smallService.verify 5 (smallService.encode oddClaims) =
      .ok ⟨⟨⟨-7⟩, "\"é\"@x.y", "\\.\n"⟩, 3600000000000⟩ ∧
    Verifier.verify ⟨.hs256, [0, 255]⟩ 5 (smallService.encode oddClaims) =
      .error (.decoding .algorithm) := by
  have decoded : smallService.decode 5 (smallService.encode oddClaims) = .ok oddClaims := by
    rw [decode_encode_eq]
    rfl
  obtain ⟨made, exactly, -⟩ :=
    accepted_only_authentic smallService 5 (smallService.encode oddClaims)
  obtain ⟨-, -, foreign⟩ :=
    accepted_only_authentic ⟨.hs256, [0, 255]⟩ 5 (smallService.encode oddClaims)
  refine ⟨?_, ?_, ?_⟩
  · obtain ⟨parts, whole, authentic, -⟩ := made oddClaims decoded
    exact ⟨parts, whole, authentic⟩
  · exact (exactly _).mpr ⟨oddClaims, -7, decoded, rfl, by decide, rfl⟩
  · exact (foreign smallService oddClaims (by decide) rfl).2

end UserDashboard.Credential
