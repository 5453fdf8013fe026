import NetmonPlugins.Common.HttpApi.Impl
import NetmonPlugins.Rfc.Base64

/-!
This module relates the token of the authorization header to base64. The loop pads the last quantum
with zero bytes and never with the pad character, so what it writes is the encoding of the
credentials followed by as many NULs as the last quantum is short of.
-/

namespace NetmonPlugins
namespace httpGetAuth

theorem base64Char_eq_digit (value : UInt32) : base64Char value = Base64.digit value.toNat := rfl

theorem toNat_combined (a b c : UInt8)
    : (a.toUInt32 <<< 16 ||| b.toUInt32 <<< 8 ||| c.toUInt32).toNat = Base64.quantum a b c := by
  have ha := a.toNat_lt
  have hb := b.toNat_lt
  have hc := c.toNat_lt
  have hab : a.toNat <<< 16 ||| b.toNat <<< 8 = (a.toNat * 256 + b.toNat) <<< 8 := by
    rw [show a.toNat <<< 16 = (a.toNat <<< 8) <<< 8 from by rw [← Nat.shiftLeft_add]]
    rw [← Nat.shiftLeft_or_distrib]
    rw [← Nat.shiftLeft_add_eq_or_of_lt (by omega)]
    rw [Nat.shiftLeft_eq a.toNat]
  have habc : (a.toNat * 256 + b.toNat) <<< 8 ||| c.toNat = Base64.quantum a b c := by
    rw [← Nat.shiftLeft_add_eq_or_of_lt (by omega)]
    rw [Nat.shiftLeft_eq]
    unfold Base64.quantum
    omega
  rw [UInt32.toNat_or, UInt32.toNat_or, UInt32.toNat_shiftLeft, UInt32.toNat_shiftLeft]
  simp only [UInt8.toNat_toUInt32, UInt32.reduceToNat, Nat.reduceMod]
  rw [Nat.mod_eq_of_lt (by rw [Nat.shiftLeft_eq]; omega)]
  rw [Nat.mod_eq_of_lt (by rw [Nat.shiftLeft_eq]; omega)]
  rw [hab, habc]

theorem toNat_and_63 (q : UInt32) : (q &&& 63).toNat = q.toNat % 64 := by
  rw [UInt32.toNat_and]
  apply Nat.and_two_pow_sub_one_eq_mod q.toNat 6

theorem base64Char_combined (a b c : UInt8) (combined : UInt32)
    (h : combined = a.toUInt32 <<< 16 ||| b.toUInt32 <<< 8 ||| c.toUInt32)
    : base64Char (combined >>> 18 &&& 63) = Base64.digit (Base64.sextet (Base64.quantum a b c) 0)
        ∧
      base64Char (combined >>> 12 &&& 63) = Base64.digit (Base64.sextet (Base64.quantum a b c) 1)
        ∧
      base64Char (combined >>> 6 &&& 63) = Base64.digit (Base64.sextet (Base64.quantum a b c) 2)
        ∧
      base64Char (combined &&& 63) = Base64.digit (Base64.sextet (Base64.quantum a b c) 3) := by
  have hcombined := toNat_combined a b c
  rw [← h] at hcombined
  simp only [base64Char_eq_digit, toNat_and_63, UInt32.toNat_shiftRight, UInt32.reduceToNat,
    Nat.reduceMod, Nat.shiftRight_eq_div_pow, Nat.reducePow, hcombined, Base64.sextet, and_self]

theorem drop_eq_cons {auth : Bytes} {i : Nat} {b : UInt8} {rest : Bytes}
    (h : auth.drop i = b :: rest)
    : i < auth.length ∧ auth.getD i 0 = b ∧ auth.drop (i + 1) = rest := by
  have hlt : i < auth.length := by
    rw [← List.drop_eq_nil_iff.not.trans Nat.not_le]
    simp [h]
  rw [List.drop_eq_getElem_cons hlt] at h
  injection h with hb hrest
  refine ⟨hlt, ?_, hrest⟩
  rw [← hb]
  simp [hlt]

theorem nextByte_of_drop_eq_nil {auth : Bytes} {i : Nat} (h : auth.drop i = [])
    : nextByte auth i = (0, i) := by
  unfold nextByte
  rw [List.drop_eq_nil_iff] at h
  rw [if_neg (by omega)]

theorem nextByte_of_drop_eq_cons {auth : Bytes} {i : Nat} {b : UInt8} {rest : Bytes}
    (h : auth.drop i = b :: rest)
    : nextByte auth i = (b, i + 1) := by
  have ⟨hlt, hb, _⟩ := drop_eq_cons h
  unfold nextByte
  rw [if_pos hlt, hb]

theorem sizeSub_le {a b : Nat} (h : b ≤ a) : sizeSub a b ≤ a - b := by
  unfold sizeSub
  rw [Nat.add_comm, Nat.add_sub_assoc h, Nat.add_mod_left]
  apply Nat.mod_le

def missing (bytes : Bytes) : Bytes := List.replicate ((3 - bytes.length % 3) % 3) 0

theorem missing_cons (a b c : UInt8) (rest : Bytes)
    : missing (a :: b :: c :: rest) = missing rest := by
  simp [missing, Nat.add_assoc]

theorem missing_eq_nil_iff (bytes : Bytes) : missing bytes = [] ↔ bytes.length % 3 = 0 := by
  unfold missing
  rw [List.replicate_eq_nil_iff]
  omega

theorem encodeLoop_step {auth : Bytes} {i next : Nat} {b c : UInt8 × Nat} (encoded : Bytes)
    (hi : i < auth.length) (hb : nextByte auth (i + 1) = b) (hc : nextByte auth b.2 = c)
    (hnext : next = c.2) (hpos : 2 ≤ next) (hle : next ≤ auth.length)
    : encodeLoop auth i encoded
        =
      encodeLoop auth next (encoded ++ Base64.encode [auth.getD i 0, b.1, c.1]) := by
  have h2 : sizeSub next 2 < auth.length := by
    apply Nat.lt_of_le_of_lt (sizeSub_le hpos)
    omega
  have h1 : sizeSub next 1 < auth.length := by
    apply Nat.lt_of_le_of_lt (sizeSub_le (by omega))
    omega
  have ⟨hd0, hd1, hd2, hd3⟩ := base64Char_combined (auth.getD i 0) b.1 c.1 _ rfl
  rw [encodeLoop, if_pos hi]
  simp only [hb, hc, ← hnext, if_pos h1, if_pos h2, hd0, hd1, hd2, hd3]
  rfl

theorem encodeLoop_eq_encode (auth rest : Bytes) (i : Nat) (encoded : Bytes)
    (hrest : auth.drop i = rest) (hstart : i = 0 → rest.length ≠ 1)
    : encodeLoop auth i encoded = encoded ++ Base64.encode (rest ++ missing rest) := by
  induction rest using Base64.encode.induct generalizing i encoded with
  | case1 =>
    rw [encodeLoop]
    rw [List.drop_eq_nil_iff] at hrest
    rw [if_neg (by omega)]
    simp [missing, Base64.encode]
  | case2 a =>
    obtain ⟨hi, ha, hnil⟩ := drop_eq_cons hrest
    have hne : i ≠ 0 := by
      intro hzero
      simp [hzero] at hstart
    rw [encodeLoop_step encoded hi (nextByte_of_drop_eq_nil hnil) (nextByte_of_drop_eq_nil hnil)
      rfl (by omega) (by omega)]
    rw [encodeLoop]
    rw [List.drop_eq_nil_iff] at hnil
    rw [if_neg (by omega), ha]
    rfl
  | case3 a b =>
    obtain ⟨hi, ha, hb⟩ := drop_eq_cons hrest
    obtain ⟨hi', _, hnil⟩ := drop_eq_cons hb
    rw [encodeLoop_step encoded hi (nextByte_of_drop_eq_cons hb) (nextByte_of_drop_eq_nil hnil)
      rfl (by omega) (by omega)]
    rw [encodeLoop]
    rw [List.drop_eq_nil_iff] at hnil
    rw [if_neg (by omega), ha]
    rfl
  | case4 a b c rest ih =>
    obtain ⟨hi, ha, hb⟩ := drop_eq_cons hrest
    obtain ⟨_, _, hc⟩ := drop_eq_cons hb
    obtain ⟨hi', _, htail⟩ := drop_eq_cons hc
    rw [encodeLoop_step encoded hi (nextByte_of_drop_eq_cons hb) (nextByte_of_drop_eq_cons hc)
      rfl (by omega) (by omega)]
    rw [ih (i + 1 + 1 + 1) _ htail (by omega), ha]
    simp [Base64.encode, missing_cons]

theorem basicToken_eq_encode (username password : Bytes) (h : username ≠ [])
    : basicToken username password
        =
      Base64.encode
        (username ++ str ":" ++ password ++ missing (username ++ str ":" ++ password)) := by
  unfold basicToken
  rw [encodeLoop_eq_encode _ _ 0 [] rfl]
  . simp
  . intro _
    have := List.length_pos_of_ne_nil h
    simp [str]
    omega

theorem decode_basicToken (username password : Bytes) (h : username ≠ [])
    : Base64.decode (basicToken username password)
        =
      some (username ++ str ":" ++ password ++ missing (username ++ str ":" ++ password)) := by
  rw [basicToken_eq_encode _ _ h]
  apply Base64.decode_encode

theorem request_eq_append_basicToken (host : Bytes) (port : Int) (path username password : Bytes)
    (h : username ≠ [])
    : ∃ head, request host port path username password
        =
      head ++ str "Authorization: Basic " ++ basicToken username password ++ crlf ++ crlf := by
  unfold request
  rw [if_pos h]
  simp only [← List.append_assoc]
  exact ⟨_, rfl⟩

theorem basicToken_roundTrip_iff (host : Bytes) (port : Int) (path username password : Bytes)
    (h : username ≠ [])
    : (∃ head, request host port path username password
        =
      head ++ str "Authorization: Basic " ++ basicToken username password ++ crlf ++ crlf)
        ∧
      ((basicToken username password = Base64.encode (username ++ str ":" ++ password)
          ∧
        Base64.decode (basicToken username password) = some (username ++ str ":" ++ password))
          ↔
        (username.length + 1 + password.length) % 3 = 0) := by
  refine ⟨request_eq_append_basicToken host port path username password h, ?_⟩
  have hlen : (username ++ str ":" ++ password).length = username.length + 1 + password.length := by
    simp [str]
    omega
  rw [← hlen, ← missing_eq_nil_iff]
  constructor
  . intro ⟨_, hdecode⟩
    rw [decode_basicToken _ _ h] at hdecode
    simpa using hdecode
  . intro hmissing
    rw [decode_basicToken _ _ h, basicToken_eq_encode _ _ h, hmissing, List.append_nil]
    simp

theorem basicToken_guest_guest
    : ¬ (basicToken (str "guest") (str "guest") = Base64.encode (str "guest:guest")
          ∧
        Base64.decode (basicToken (str "guest") (str "guest")) = some (str "guest:guest"))
        ∧
      Base64.decode (basicToken (str "guest") (str "guest")) = some (str "guest:guest" ++ [0]) := by
  rw [decode_basicToken _ _ (by decide), basicToken_eq_encode _ _ (by decide)]
  decide

theorem basicToken_roundTrip_nagios_admin
    : basicToken (str "nagios") (str "admin") = Base64.encode (str "nagios:admin")
        ∧
      Base64.decode (basicToken (str "nagios") (str "admin")) = some (str "nagios:admin") := by
  have h := basicToken_roundTrip_iff (str "localhost") 15672 (str "/") (str "nagios") (str "admin")
    (by decide)
  apply h.2.mpr
  decide

end httpGetAuth
end NetmonPlugins
