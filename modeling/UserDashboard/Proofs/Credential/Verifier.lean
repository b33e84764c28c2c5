/-
This file proves that a token that was accepted stays accepted until the second of its expiry is
over.

Nothing but the expiry of a token is compared with the moment at which it is verified. The expiry is
read twice, once with the registered claims and once with all claims, and both readings come to the
same second: so before the moment at which an accepted token stops being valid it has not expired,
however the fractions of seconds lie. Only whole seconds are compared, and that moment begins one, so
the token has not expired in the rest of this second either.
-/

import UserDashboard.Credential.Verifier
import UserDashboard.Proofs.Json.Record

namespace UserDashboard.Credential

open Number Time

/-! ### The two readings of the expiry -/

/-- A number that can be read with a sign and without is read alike. -/
theorem readInt64?_eq_of_readNat64? {json : Json} {unsigned : Nat} {signed : Int}
    (first : json.readNat64? = some unsigned) (second : json.readInt64? = some signed) :
    signed = unsigned := by
  obtain ⟨value, read, rfl⟩ := Option.map_eq_some_iff.mp first
  cases json with
  | integer number =>
    simp only [Json.readInt64?, Json.readInteger?] at read second
    split at read
    · rename_i bounds
      split at second
      · rw [← Option.some.inj second, ← Option.some.inj read]
        exact (Int.toNat_of_nonneg bounds.1).symm
      · cases second
    · cases read
  | _ => cases read

theorem readInt64?_bounds {json : Json} {value : Int} (read : json.readInt64? = some value) :
    int64Min ≤ value ∧ value ≤ int64Max := by
  cases json with
  | integer number =>
    simp only [Json.readInt64?, Json.readInteger?] at read
    split at read
    · rename_i bounds
      rw [← Option.some.inj read]
      exact bounds
    · cases read
  | _ => cases read

theorem toInt_ofInt {value : Int} (bounds : int64Min ≤ value ∧ value ≤ int64Max) :
    (Int64.ofInt value).toInt = value := by
  simp only [int64Min, int64Max] at bounds
  exact Int64.toInt_ofInt_of_le (by omega) (by omega)

/-- The expiry among all claims of an object is that of the member of its name. -/
theorem expiresAt_of_ofJson? {members : List (String × Json)} {claims : Claims}
    (read : Claims.ofJson? (.object members) = some claims) :
    ((Json.valueIn? members "exp").bind Json.readInt64?) = some claims.expiresAt.toInt := by
  simp only [Claims.ofJson?, bind, Option.bind_eq_some_iff] at read
  obtain ⟨record, known, email, -, account, -, name, -, issuedAt, -, expiresAt, told, made⟩ := read
  have value := Json.value?_of_record? (by simp) "exp" (by simp) known
  rw [Json.Record.required, value] at told
  rw [← Option.some.inj made]
  show _ = some (Int64.ofInt expiresAt).toInt
  obtain ⟨json, found, number⟩ := Option.bind_eq_some_iff.mp told
  rw [toInt_ofInt (readInt64?_bounds number)]
  exact told

/-- The expiry among the registered claims of an object is that of the member of its name. -/
theorem expiry_of_ofJson? {members : List (String × Json)} {registered : Registered}
    (read : Registered.ofJson? (.object members) = some registered) :
    registered.expiry = (Json.valueIn? members "exp").bind Json.readNat64? := by
  simp only [Registered.ofJson?, bind, Option.bind_eq_some_iff] at read
  obtain ⟨record, known, issuer, -, audience, -, notBefore, -, made⟩ := read
  have value := Json.value?_of_record? (by simp) "exp" (by simp) known
  split at made
  · rw [← Option.some.inj made, ← value]
    rfl
  · cases made

/-! ### Tokens that are accepted -/

/-- The registered claims allow a token to be used exactly when there is an expiry, its second is
not over, and no audience is named. -/
theorem checkRegistered_eq_ok_iff {now : Moment} {registered : Registered} :
    Verifier.checkRegistered now registered = .ok () ↔
      ∃ expiry, registered.expiry = some expiry ∧ now / nanosPerSecond ≤ (expiry : Int) ∧
        registered.hasAudience = false := by
  unfold Verifier.checkRegistered
  cases registered.expiry with
  | none => simp
  | some expiry =>
    by_cases passed : (expiry : Int) < now / nanosPerSecond
    · simp [if_pos passed, Int.not_le.mpr passed]
    · cases registered.hasAudience <;> simp [if_neg passed, Int.not_lt.mp passed]

/-- A token whose registered claims were read has the expiry that its claims say. -/
theorem expiry_eq_of_ofJson? {payload : Json} {claims : Claims} {registered : Registered}
    {expiry : Nat} (first : Claims.ofJson? payload = some claims)
    (second : Registered.ofJson? payload = some registered)
    (usable : registered.expiry = some expiry) : (expiry : Int) = claims.expiresAt.toInt := by
  cases payload with
  | object members =>
    rw [expiry_of_ofJson? second] at usable
    have told := expiresAt_of_ofJson? first
    obtain ⟨json, found, unsigned⟩ := Option.bind_eq_some_iff.mp usable
    rw [found, Option.bind_some] at told
    exact (readInt64?_eq_of_readNat64? unsigned told).symm
  | _ =>
    obtain rfl := Option.some.inj second
    cases usable

theorem bind_eq_ok_iff {ε α β : Type} {first : Except ε α} {next : α → Except ε β} {value : β} :
    first >>= next = .ok value ↔
      ∃ between, first = .ok between ∧ next between = .ok value := by
  cases first <;> simp [bind, Except.bind]

/-- A token is decoded exactly when it is in order and its expiry is not over. -/
theorem decode_eq_ok_iff {verifier : Verifier} {now : Moment} {token : String} {claims : Claims} :
    verifier.decode now token = .ok claims ↔
      ∃ parts payload registered, Parts.ofText? token = some parts ∧
        verifier.checkHeader parts = .ok () ∧ verifier.checkSignature parts = .ok () ∧
        decodedJson parts.payload = .ok payload ∧ Claims.ofJson? payload = some claims ∧
        Registered.ofJson? payload = some registered ∧
        Verifier.checkRegistered now registered = .ok () := by
  unfold Verifier.decode
  cases taken : Parts.ofText? token with
  | none => simp
  | some parts =>
    simp only [bind_eq_ok_iff]
    constructor
    · rintro ⟨_, header, _, signature, payload, read, accepted⟩
      split at accepted
      · rename_i told registered first second
        obtain ⟨_, checked, same⟩ := bind_eq_ok_iff.mp accepted
        rw [Except.ok.inj same] at first
        exact ⟨parts, payload, registered, rfl, header, signature, read, first, second, checked⟩
      · cases accepted
    · rintro ⟨others, payload, registered, same, header, signature, read, first, second, checked⟩
      obtain rfl := Option.some.inj same
      refine ⟨(), header, (), signature, payload, read, ?_⟩
      rw [first, second]
      exact bind_eq_ok_iff.mpr ⟨(), checked, rfl⟩

/-- A token is accepted exactly when it is decoded and its claims say who bears it and until when it
is valid. -/
theorem verify_eq_ok_iff {verifier : Verifier} {now : Moment} {token : String}
    {verified : Verified} :
    verifier.verify now token = .ok verified ↔
      ∃ claims, verifier.decode now token = .ok claims ∧
        claims.identity = .ok verified.identity ∧ claims.expiry = .ok verified.expiresAt := by
  unfold Verifier.verify
  simp only [bind_eq_ok_iff]
  constructor
  · rintro ⟨claims, decoded, identity, who, moment, expiry, same⟩
    rw [← Except.ok.inj same]
    exact ⟨claims, decoded, who, expiry⟩
  · rintro ⟨claims, decoded, who, expiry⟩
    exact ⟨claims, decoded, _, who, _, expiry, rfl⟩

/-- A token stops being valid at the beginning of the second that its claims say. -/
theorem moment_of_expiry {claims : Claims} {moment : Moment} (told : claims.expiry = .ok moment) :
    moment = claims.expiresAt.toInt * nanosPerSecond := by
  simp only [Claims.expiry] at told
  split at told
  · rw [← Except.ok.inj told, momentAt, Int.add_zero]
  · cases told

/-- Whenever a token is accepted, it says the same. -/
theorem verified_eq_of_accepted {verifier : Verifier} {first second : Moment} {token : String}
    {verified other : Verified} (accepted : verifier.verify first token = .ok verified)
    (again : verifier.verify second token = .ok other) : other = verified := by
  obtain ⟨claims, decoded, who, valid⟩ := verify_eq_ok_iff.mp accepted
  obtain ⟨others, decodedAgain, whoAgain, validAgain⟩ := verify_eq_ok_iff.mp again
  obtain ⟨parts, payload, -, taken, -, -, read, told, -⟩ := decode_eq_ok_iff.mp decoded
  obtain ⟨partsAgain, payloadAgain, -, takenAgain, -, -, readAgain, toldAgain, -⟩ :=
    decode_eq_ok_iff.mp decodedAgain
  obtain rfl : partsAgain = parts := Option.some.inj (takenAgain.symm.trans taken)
  obtain rfl : payloadAgain = payload := Except.ok.inj (readAgain.symm.trans read)
  obtain rfl : others = claims := Option.some.inj (toldAgain.symm.trans told)
  obtain ⟨identity, expiresAt⟩ := other
  obtain rfl : identity = verified.identity := Except.ok.inj (whoAgain.symm.trans who)
  obtain rfl : expiresAt = verified.expiresAt := Except.ok.inj (validAgain.symm.trans valid)
  rfl

/-- Moments before the end of a second lie in it or in an earlier one. -/
theorem lt_next_second_iff (moment second : Int) :
    moment < second * nanosPerSecond + nanosPerSecond ↔ moment / nanosPerSecond ≤ second := by
  simp only [nanosPerSecond]
  omega

/-- A token that was accepted is accepted until the second is over in which it stops being valid,
and not after that. -/
theorem verify_iff_of_accepted {verifier : Verifier} {earlier later : Moment} {token : String}
    {verified : Verified} (accepted : verifier.verify earlier token = .ok verified) :
    verifier.verify later token = .ok verified ↔
      later < verified.expiresAt + nanosPerSecond := by
  obtain ⟨claims, decoded, who, valid⟩ := verify_eq_ok_iff.mp accepted
  obtain ⟨parts, payload, registered, taken, header, signature, read, first, second, checked⟩ :=
    decode_eq_ok_iff.mp decoded
  obtain ⟨expiry, usable, -, unaddressed⟩ := checkRegistered_eq_ok_iff.mp checked
  rw [moment_of_expiry valid, ← expiry_eq_of_ofJson? first second usable, lt_next_second_iff]
  constructor
  · intro again
    obtain ⟨_, decodedAgain, -⟩ := verify_eq_ok_iff.mp again
    obtain ⟨partsAgain, payloadAgain, registeredAgain, takenAgain, -, -, readAgain, -, secondAgain,
      checkedAgain⟩ := decode_eq_ok_iff.mp decodedAgain
    obtain rfl : partsAgain = parts := Option.some.inj (takenAgain.symm.trans taken)
    obtain rfl : payloadAgain = payload := Except.ok.inj (readAgain.symm.trans read)
    obtain rfl : registeredAgain = registered := Option.some.inj (secondAgain.symm.trans second)
    obtain ⟨expiryAgain, usableAgain, runs, -⟩ := checkRegistered_eq_ok_iff.mp checkedAgain
    obtain rfl : expiryAgain = expiry := Option.some.inj (usableAgain.symm.trans usable)
    exact runs
  · intro runs
    have again : verifier.decode later token = .ok claims :=
      decode_eq_ok_iff.mpr ⟨parts, payload, registered, taken, header, signature, read, first,
        second, checkRegistered_eq_ok_iff.mpr ⟨expiry, usable, runs, unaddressed⟩⟩
    exact verify_eq_ok_iff.mpr ⟨claims, again, who, valid⟩

/-- A token that was accepted is accepted at every moment before it stops being valid. -/
theorem verify_of_lt {verifier : Verifier} {earlier later : Moment} {token : String}
    {verified : Verified} (accepted : verifier.verify earlier token = .ok verified)
    (early : later < verified.expiresAt) : verifier.verify later token = .ok verified :=
  (verify_iff_of_accepted accepted).mpr (Int.lt_trans early (Int.lt_add_of_pos_right _ (by decide)))

end UserDashboard.Credential
