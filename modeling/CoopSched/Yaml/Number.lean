/-!
# Integers

Which plain scalars are integers: decimal digits without a leading zero, or digits after `0x`, `0o`
or `0b`, each with a sign in front.
-/

namespace CoopSched.Yaml

/-- The value of a digit in bases up to sixteen. -/
def digitValue? (c : Char) : Option Nat :=
  if c.isDigit then some (c.toNat - 48)
  else if 'a' ≤ c ∧ c ≤ 'f' then some (c.toNat - 87)
  else if 'A' ≤ c ∧ c ≤ 'F' then some (c.toNat - 55)
  else none

/-- The value of at least one digit in a base. -/
def digits? (base : Nat) (cs : List Char) : Option Nat :=
  if cs.isEmpty then none
  else cs.foldl (fun value c => do
    let n ← value
    let d ← digitValue? c
    if d < base then some (n * base + d) else none) (some 0)

/-- A zero followed by more decimal digits is a text and no number. -/
def isZeroPadded (cs : List Char) : Bool :=
  match cs with
  | '0' :: rest => !rest.isEmpty && rest.all Char.isDigit
  | _ => false

/-- A number without a sign: in the base its mark names, else decimal. -/
def magnitude? (cs : List Char) : Option Nat :=
  match cs with
  | '0' :: 'x' :: rest => digits? 16 rest
  | '0' :: 'o' :: rest => digits? 8 rest
  | '0' :: 'b' :: rest => digits? 2 rest
  | _ => if isZeroPadded cs then none else digits? 10 cs

/-- A natural number of 64 bits; a plus sign may come before it, a minus sign may not. -/
def unsigned? (text : String) : Option Nat :=
  let cs := match text.toList with
    | '+' :: rest => rest
    | cs => cs
  (magnitude? cs).filter (· < UInt64.size)

/-- An integer of 64 bits with an optional sign. -/
def signed? (text : String) : Option Int :=
  let value : Option Int := match text.toList with
    | '+' :: rest => (magnitude? rest).map Int.ofNat
    | '-' :: rest => (magnitude? rest).map fun n => -Int.ofNat n
    | cs => (magnitude? cs).map Int.ofNat
  value.filter fun n => Int64.minValue.toInt ≤ n && n ≤ Int64.maxValue.toInt

end CoopSched.Yaml
