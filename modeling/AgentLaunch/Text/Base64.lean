/-!
# Base64

The standard alphabet of RFC 4648 with padding.  `encode` writes three bytes as four characters
and pads the last group; `decode?` is strict, so that a byte string has one written form: the
padding is required, nothing may stand between the characters, and the bits of the last character
that carry no data are zero.
-/

namespace AgentLaunch.Base64

/-! ## The alphabet -/

def digit (n : Nat) : Char :=
  if n < 26 then Char.ofNat (65 + n)
  else if n < 52 then Char.ofNat (97 + (n - 26))
  else if n < 62 then Char.ofNat (48 + (n - 52))
  else if n = 62 then '+'
  else '/'

def value? (c : Char) : Option Nat :=
  let n := c.toNat
  if 65 ≤ n ∧ n ≤ 90 then some (n - 65)
  else if 97 ≤ n ∧ n ≤ 122 then some (n - 97 + 26)
  else if 48 ≤ n ∧ n ≤ 57 then some (n - 48 + 52)
  else if c = '+' then some 62
  else if c = '/' then some 63
  else none

theorem value?_digit {n : Nat} (h : n < 64) : value? (digit n) = some n := by
  have : ∀ m : Fin 64, value? (digit m) = some m.val := by decide
  exact this ⟨n, h⟩

/-! ## Writing -/

/-- The four characters of three bytes. -/
def group (a b c : UInt8) : List Char :=
  let n := a.toNat * 65536 + b.toNat * 256 + c.toNat
  [digit (n / 262144), digit (n / 4096 % 64), digit (n / 64 % 64), digit (n % 64)]

def encode : List UInt8 → List Char
  | [] => []
  | [a] => [digit (a.toNat / 4), digit (a.toNat % 4 * 16), '=', '=']
  | [a, b] =>
    let n := a.toNat * 256 + b.toNat
    [digit (n / 1024), digit (n / 16 % 64), digit (n % 16 * 4), '=']
  | a :: b :: c :: rest => group a b c ++ encode rest

/-! ## Reading -/

/-- The byte string of a written form.  A last character with stray bits is refused: two written
forms would stand for one byte string otherwise. -/
def decode? : List Char → Option (List UInt8)
  | [] => some []
  | [w, x, '=', '='] => do
    let w ← value? w
    let x ← value? x
    if x % 16 = 0 then some [(w * 4 + x / 16).toUInt8] else none
  | [w, x, y, '='] => do
    let w ← value? w
    let x ← value? x
    let y ← value? y
    if y % 4 = 0 then
      let n := w * 1024 + x * 16 + y / 4
      some [(n / 256).toUInt8, (n % 256).toUInt8]
    else none
  | w :: x :: y :: z :: rest => do
    let w ← value? w
    let x ← value? x
    let y ← value? y
    let z ← value? z
    let n := w * 262144 + x * 4096 + y * 64 + z
    let more ← decode? rest
    some ((n / 65536).toUInt8 :: (n / 256 % 256).toUInt8 :: (n % 256).toUInt8 :: more)
  | _ => none

end AgentLaunch.Base64
