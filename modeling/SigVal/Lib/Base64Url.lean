import SigVal.Lib.Java

/-!
# base64url

The encoding of bytes by letters, digits, `-` and `_`, six bits each, without
padding. Characters outside the alphabet are passed over in decoding.
-/

namespace SigVal.Java.Base64Url

/-- The character of a group of six bits. -/
def digit (n : Nat) : Char :=
  if n < 26 then Char.ofNat (65 + n)
  else if n < 52 then Char.ofNat (71 + n)
  else if n < 62 then Char.ofNat (n - 4)
  else if n = 62 then '-'
  else '_'

def value (c : Char) : Option Nat :=
  if 65 ≤ c.toNat ∧ c.toNat ≤ 90 then some (c.toNat - 65)
  else if 97 ≤ c.toNat ∧ c.toNat ≤ 122 then some (c.toNat - 71)
  else if 48 ≤ c.toNat ∧ c.toNat ≤ 57 then some (c.toNat + 4)
  else if c = '-' then some 62
  else if c = '_' then some 63
  else none

/-- Three bytes are four groups of six bits; the last one or two are filled up with
zeros. -/
def groups : Bytes → List Nat
  | [] => []
  | [a] => [a.toNat / 4, a.toNat % 4 * 16]
  | [a, b] => [a.toNat / 4, a.toNat % 4 * 16 + b.toNat / 16, b.toNat % 16 * 4]
  | a :: b :: c :: rest =>
      a.toNat / 4 :: (a.toNat % 4 * 16 + b.toNat / 16) :: (b.toNat % 16 * 4 + c.toNat / 64) ::
        c.toNat % 64 :: groups rest

def ungroup : List Nat → Bytes
  | p :: q :: r :: s :: rest =>
      UInt8.ofNat (p * 4 + q / 16) :: UInt8.ofNat (q % 16 * 16 + r / 4) ::
        UInt8.ofNat (r % 4 * 64 + s) :: ungroup rest
  | [p, q, r] => [UInt8.ofNat (p * 4 + q / 16), UInt8.ofNat (q % 16 * 16 + r / 4)]
  | [p, q] => [UInt8.ofNat (p * 4 + q / 16)]
  | _ => []

def encode (bytes : Bytes) : String := String.ofList ((groups bytes).map digit)

def decode (text : String) : Bytes := ungroup (text.toList.filterMap value)

theorem value_digit {n : Nat} (h : n < 64) : value (digit n) = some n := by
  have hall : ∀ i : Fin 64, value (digit i) = some i.val := by decide
  exact hall ⟨n, h⟩

theorem groups_lt (bytes : Bytes) : ∀ n ∈ groups bytes, n < 64 := by
  induction bytes using groups.induct with
  | case1 => simp [groups]
  | case2 a =>
      have := a.toNat_lt
      simp [groups]
      omega
  | case3 a b =>
      have := a.toNat_lt
      have := b.toNat_lt
      simp [groups]
      omega
  | case4 a b c rest ih =>
      have := a.toNat_lt
      have := b.toNat_lt
      have := c.toNat_lt
      simp only [groups, List.forall_mem_cons]
      refine ⟨by omega, by omega, by omega, by omega, ih⟩

theorem ofNat_eq {n : Nat} {a : UInt8} (h : n = a.toNat) : UInt8.ofNat n = a := by
  rw [h]
  exact UInt8.ofNat_toNat

theorem ungroup_groups (bytes : Bytes) : ungroup (groups bytes) = bytes := by
  induction bytes using groups.induct with
  | case1 => rfl
  | case2 a =>
      have ha := a.toNat_lt
      show [_] = [a]
      rw [ofNat_eq (a := a) (by omega)]
  | case3 a b =>
      have ha := a.toNat_lt
      have hb := b.toNat_lt
      show [_, _] = [a, b]
      rw [ofNat_eq (a := a) (by omega), ofNat_eq (a := b) (by omega)]
  | case4 a b c rest ih =>
      have ha := a.toNat_lt
      have hb := b.toNat_lt
      have hc := c.toNat_lt
      show _ :: _ :: _ :: ungroup (groups rest) = a :: b :: c :: rest
      rw [ofNat_eq (a := a) (by omega), ofNat_eq (a := b) (by omega), ofNat_eq (a := c) (by omega),
        ih]

theorem decode_encode (bytes : Bytes) : decode (encode bytes) = bytes := by
  have hvalues : ((groups bytes).map digit).filterMap value = groups bytes := by
    rw [List.filterMap_map]
    refine (List.filterMap_congr fun n hn => ?_).trans List.filterMap_some
    exact value_digit (groups_lt bytes n hn)
  unfold decode encode
  rw [String.toList_ofList, hvalues, ungroup_groups]

/-- Only characters of the alphabet are written. -/
theorem not_mem_encode {c : Char} (h : value c = none) (bytes : Bytes) :
    c ∉ (encode bytes).toList := by
  intro hmem
  unfold encode at hmem
  rw [String.toList_ofList, List.mem_map] at hmem
  obtain ⟨n, hn, rfl⟩ := hmem
  rw [value_digit (groups_lt bytes n hn)] at h
  cases h

end SigVal.Java.Base64Url
