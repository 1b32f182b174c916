import Mathlib

/-!
# Hexadecimal digits

Bytes as lower-case digits, and a reader of digits in either case. Reading what
was written gives the bytes back (`read_write`), and a byte takes two digits
(`length_write`).
-/

namespace Hex

def digit (n : Nat) : Char := if n < 10 then Char.ofNat (48 + n) else Char.ofNat (87 + n)

def value (c : Char) : Option Nat :=
  if '0' ≤ c ∧ c ≤ '9' then some (c.toNat - 48)
  else if 'a' ≤ c ∧ c ≤ 'f' then some (c.toNat - 87)
  else if 'A' ≤ c ∧ c ≤ 'F' then some (c.toNat - 55)
  else none

def write : List UInt8 → List Char
  | [] => []
  | b :: bs => digit (b.toNat / 16) :: digit (b.toNat % 16) :: write bs

def read : List Char → Option (List UInt8)
  | [] => some []
  | [_] => none
  | hi :: lo :: cs => do
    let x ← value hi
    let y ← value lo
    let bs ← read cs
    return UInt8.ofNat (16 * x + y) :: bs

theorem value_digit {n : Nat} (h : n < 16) : value (digit n) = some n := by
  revert n
  decide

theorem read_write (bs : List UInt8) : read (write bs) = some bs := by
  induction bs with
  | nil => rfl
  | cons b bs ih =>
    have hb := b.toNat_lt
    have hhi : b.toNat / 16 < 16 := by omega
    have hlo : b.toNat % 16 < 16 := Nat.mod_lt _ (by omega)
    have hbyte : 16 * (b.toNat / 16) + b.toNat % 16 = b.toNat := by omega
    simp only [write, read, value_digit hhi, value_digit hlo, ih, Option.bind_eq_bind,
      Option.bind_some, Option.pure_def, hbyte, UInt8.ofNat_toNat]

@[simp] theorem length_write (bs : List UInt8) : (write bs).length = 2 * bs.length := by
  induction bs with
  | nil => rfl
  | cons b bs ih =>
    simp only [write, List.length_cons, ih]
    omega

end Hex
