import Gatehouse.Credential.Password
import Gatehouse.Proofs.Encoding.Base64
import Gatehouse.Proofs.Text.Split

/-!
# Password records - Round trip

The record of a password is read as the salt, the cost and the result that it was written from, so
the password matches its own record.

Main results:

- Theorem `length_hash`: a hash has as many bytes as were asked for.
- Theorem `ofText?_hashedPassword`: what the record of a password is read as.
- Theorem `passwordMatches_hashedPassword`: a password matches its own record.
-/

namespace Gatehouse

/-! ## Sizes -/

namespace Blake2b

theorem length_numberBytes (k n : Nat) : (numberBytes k n).length = k := by
  induction k generalizing n with
  | zero => rfl
  | succ k ih => rw [numberBytes, List.length_cons, ih]

/-- The chain keeps its eight words. -/
theorem size_absorbAll {chain : Array UInt64} (h : chain.size = 8) (fuel count : Nat)
    (message : Bytes) : (absorbAll fuel chain count message).size = 8 := by
  induction fuel generalizing chain count message with
  | zero => exact h
  | succ fuel ih =>
      rw [absorbAll]
      split
      · simp [absorb]
      · exact ih (by simp [absorb]) _ _

/-- A hash has as many bytes as were asked for. -/
theorem length_hash {size : Nat} (h : size ≤ 64) (message : Bytes) :
    (hash size message).length = size := by
  have begun : (start.setIfInBounds 0
      (start.getD 0 0 ^^^ 0x01010000 ^^^ UInt64.ofNat size)).size = 8 := by
    rw [Array.size_setIfInBounds]
    rfl
  have ended := size_absorbAll begun (message.length + 1) 0 message
  unfold hash
  rw [List.length_take, List.length_flatMap]
  simp only [length_numberBytes, List.map_const', List.sum_replicate_nat, Array.length_toList, ended]
  exact Nat.min_eq_left h

/-- A short hash is not stretched. -/
theorem length_stretch {size : Nat} (h : size ≤ 64) (message : Bytes) :
    (stretch size message).length = size := by
  unfold stretch
  rw [if_pos h]
  exact length_hash h _

end Blake2b

namespace Base64

/-- How many letters there are for some bytes. -/
theorem length_encodeChars (a : Alphabet) (bs : Bytes) :
    (encodeChars a bs).length = (4 * bs.length + 2) / 3 := by
  induction bs using encodeChars.induct with
  | case1 => rfl
  | case2 x => simp [encodeChars]
  | case3 x y => simp [encodeChars]
  | case4 x y z rest ih =>
      simp only [encodeChars, List.length_cons, ih]
      omega

end Base64

/-! ## Records -/

namespace Credential

/-- Base64 writes no dollar signs. -/
theorem dollar_notMem_encode (bs : Bytes) :
    '$' ∉ (Base64.encode Base64.standard bs).toList := by
  have letters : ∀ n < 64, '$' ≠ Base64.standard.letter n := by decide
  intro h
  rw [Base64.encode, String.toList_ofList] at h
  obtain ⟨n, hn, heq⟩ := Base64.mem_encodeChars h
  exact letters n hn heq

/-- The salt of a record is read as the bytes that it was written from. -/
theorem salt?_encode {salt : Bytes} (low : 8 ≤ salt.length) (high : salt.length ≤ 48) :
    salt? (Base64.encode Base64.standard salt) = some salt := by
  have length : (Base64.encode Base64.standard salt).length = (4 * salt.length + 2) / 3 := by
    rw [Base64.encode, String.length_ofList, Base64.length_encodeChars]
  rw [salt?, Base64.decode?_encode Base64.faithful_standard, length]
  simp only [Option.bind_eq_bind, Option.bind_some]
  rw [if_pos ⟨by omega, by omega, low⟩]

/-- The result in a record is read as the bytes that it was written from. -/
theorem result?_encode {result : Bytes} (low : 10 ≤ result.length) (high : result.length ≤ 64) :
    result? (Base64.encode Base64.standard result) = some result := by
  rw [result?, Base64.decode?_encode Base64.faithful_standard]
  simp only [Option.bind_eq_bind, Option.bind_some]
  rw [if_pos ⟨low, high⟩]

/-- The hash in the record of a password. -/
def hashOf (salt : Bytes) (password : String) : Bytes :=
  Argon2.hash .hybrid .current usualCost 32 (utf8 password) salt []

theorem length_hashOf (salt : Bytes) (password : String) :
    (hashOf salt password).length = 32 := by
  unfold hashOf Argon2.hash
  exact Blake2b.length_stretch (by omega) _

/-- The fields of the record of a password. -/
theorem splitOn_hashedPassword (salt : Bytes) (password : String) :
    Text.splitOn '$' (hashedPassword salt password) =
      ["", "argon2id", "v=19", "m=19456,t=2,p=1", Base64.encode Base64.standard salt,
        Base64.encode Base64.standard (hashOf salt password)] := by
  have front : "$argon2id$v=19$m=" ++ Decimal.natText usualCost.memory ++ ",t=" ++
      Decimal.natText usualCost.passes ++ ",p=" ++ Decimal.natText usualCost.lanes =
      "" ++ String.singleton '$' ++ ("argon2id" ++ String.singleton '$' ++
        ("v=19" ++ String.singleton '$' ++ "m=19456,t=2,p=1")) := by decide +kernel
  have joined : hashedPassword salt password =
      "" ++ String.singleton '$' ++ ("argon2id" ++ String.singleton '$' ++
        ("v=19" ++ String.singleton '$' ++ ("m=19456,t=2,p=1" ++ String.singleton '$' ++
          (Base64.encode Base64.standard salt ++ String.singleton '$' ++
            Base64.encode Base64.standard (hashOf salt password))))) := by
    have dollar : "$" = String.singleton '$' := rfl
    unfold hashedPassword
    rw [front, dollar]
    simp only [String.append_assoc]
    rfl
  rw [joined, Text.splitOn_cons (by decide), Text.splitOn_cons (by decide),
    Text.splitOn_cons (by decide), Text.splitOn_cons (by decide),
    Text.splitOn_cons (dollar_notMem_encode salt), Text.splitOn_of_notMem (dollar_notMem_encode _)]

/-- What the record of a password is read as. -/
theorem ofText?_hashedPassword {salt : Bytes} (low : 8 ≤ salt.length) (high : salt.length ≤ 48)
    (password : String) :
    PasswordRecord.ofText? (hashedPassword salt password) =
      some ⟨.hybrid, .current, usualCost, [], salt, hashOf salt password⟩ := by
  have versioned : (Text.startsWith "v=" "v=19" && !"v=19".toList.contains ',') = true := by decide
  have version : version? (String.ofList ("v=19".toList.drop 2)) = some .current := rfl
  have given : "m=19456,t=2,p=1".toList.contains '=' = true := by decide
  have parameters : Parameters.ofText? "m=19456,t=2,p=1" = some ⟨19456, 2, 1, []⟩ := rfl
  have cost : Parameters.cost? ⟨19456, 2, 1, []⟩ = some usualCost := rfl
  have result : result? (Base64.encode Base64.standard (hashOf salt password)) =
      some (hashOf salt password) :=
    result?_encode (by rw [length_hashOf]; omega) (by rw [length_hashOf]; omega)
  rw [PasswordRecord.ofText?, splitOn_hashedPassword]
  simp only [variant?, versioned, version, PasswordRecord.parametersAndRest?, given, parameters,
    cost, salt?_encode low high, result, if_true, Option.bind_eq_bind, Option.bind_some,
    Option.map_some, Option.pure_def]

/-- A password matches its own record. -/
theorem passwordMatches_hashedPassword {salt : Bytes} (low : 8 ≤ salt.length)
    (high : salt.length ≤ 48) (password : String) :
    passwordMatches (hashedPassword salt password) password = true := by
  rw [passwordMatches, ofText?_hashedPassword low high]
  simp only [PasswordRecord.verifies, length_hashOf]
  exact beq_self_eq_true _

end Credential

end Gatehouse
