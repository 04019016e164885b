import CoopSched.Error
import CoopSched.Text.Blank
/-!
# Sets of processors

A cpuset is written as numbers and ranges between commas, such as `0-3,8`. Reading one gives the
numbers in the order written, repetitions kept. `parse` gives them however many they are; whether a list can
hold as many is up to the machine (`size`).
-/

namespace CoopSched.Cpuset

/-- The largest processor number that can be written. -/
def maxNumber : Nat := UInt64.size - 1

/-- The value of a run of decimal digits, none if another character occurs. -/
def digitsValue (digits : List Char) : Option Nat :=
  digits.foldl (fun value c => do
    let n ← value
    if c.isDigit then some (n * 10 + (c.toNat - 48)) else none) (some 0)

/-- A number: at least one decimal digit, a plus sign allowed before them, at most `maxNumber`. -/
def number (cs : List Char) : Option Nat :=
  let digits := match cs with
    | '+' :: rest => rest
    | _ => cs
  if digits.isEmpty then none
  else (digitsValue digits).filter (· ≤ maxNumber)

/-- The parts before and after the first hyphen, none if there is no hyphen. -/
def splitHyphen (cs : List Char) : Option (List Char × List Char) :=
  match cs.dropWhile (· != '-') with
  | [] => none
  | _ :: after => some (cs.takeWhile (· != '-'), after)

/-- The first of the numbers that one piece between commas stands for, and how many they are. -/
def extent (cs : List Char) : Option (Nat × Nat) :=
  let part := Text.trim cs
  if part.isEmpty then some (0, 0)
  else match splitHyphen part with
    | none => (number part).map ((·, 1))
    | some (before, after) => do
      let first ← number (Text.trim before)
      let last ← number (Text.trim after)
      if first ≤ last then some (first, last + 1 - first) else none

/-- The numbers that one piece stands for. -/
def piece (cs : List Char) : Option (List Nat) :=
  (extent cs).map fun (first, count) => List.range' first count

/-- The pieces of a text between its commas; one more than there are commas. -/
def pieces : List Char → List (List Char)
  | [] => [[]]
  | ',' :: rest => [] :: pieces rest
  | c :: rest =>
    match pieces rest with
    | [] => [[c]]
    | first :: others => (c :: first) :: others

/-- The numbers of all the pieces in order, none if one of them cannot be read. -/
def numbers : List (List Char) → Option (List Nat)
  | [] => some []
  | cs :: rest => do
    let here ← piece cs
    let there ← numbers rest
    some (here ++ there)

/-- How many numbers the pieces come to, read in order. One that cannot be read keeps those behind it from
being read. -/
def amount : List (List Char) → Nat
  | [] => 0
  | cs :: rest =>
    match extent cs with
    | none => 0
    | some (_, count) => count + amount rest

/-- Read a cpuset. A fault in any piece refuses the whole text. -/
def parse (spec : String) : Except Error (List Nat) :=
  match numbers (pieces spec.toList) with
  | some cpus => .ok cpus
  | none => .error (.invalidCpuset spec)

/-- How many numbers a reading of a cpuset comes to, up to its end or to the first fault. -/
def size (spec : String) : Nat := amount (pieces spec.toList)

end CoopSched.Cpuset
