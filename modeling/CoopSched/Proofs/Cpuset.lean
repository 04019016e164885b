import CoopSched.Cpuset
import Mathlib.Data.List.TakeWhile
import Mathlib.Data.Nat.Digits.Defs
import Mathlib.Tactic.Ring
/-!
# The grammar of cpusets

    cpuset ::= piece | piece "," cpuset
    piece  ::= blanks | number | number "-" number
    number ::= digits | "+" digits

Blanks may stand around a piece, and around the numbers of a range. `Text.Trims`, `Cpuset.Numeral`,
`Cpuset.Piece` and `Cpuset.Reads` say which numbers a text stands for. Nothing in them says how it is read.

* `trim_eq_iff`, `number_eq_some_iff`, `splitHyphen_eq_some_iff` and `piece_eq_some_iff` are about one piece;
* `numbers_pieces_iff` is about all the pieces of a text;
* `follows_grammar` is about the reader. It accepts the texts of the grammar, with the numbers that they stand
  for, and it refuses any other text as a whole. A comma between two texts joins them;
* `size_of_parse` is about the room that the numbers need.
-/

namespace CoopSched

namespace Text

/-! ## 1. Blanks at the ends -/

/-- What is left of a text without the blanks at both ends. -/
structure Trims (cs core : List Char) : Prop where
  around : ∃ left right, cs = left ++ core ++ right ∧ (∀ c ∈ left, isBlank c = true) ∧
    ∀ c ∈ right, isBlank c = true
  first : ∀ c, core.head? = some c → isBlank c = false
  last : ∀ c, core.getLast? = some c → isBlank c = false

theorem isBlank_of_head?_dropWhile {cs : List Char} {c : Char}
    (first : (cs.dropWhile isBlank).head? = some c) : isBlank c = false := by
  have stops := List.head?_dropWhile_not isBlank cs
  rw [first] at stops
  exact stops

theorem trims_trim (cs : List Char) : Trims cs (trim cs) := by
  let front := cs.dropWhile isBlank
  let back := front.reverse.dropWhile isBlank
  have blank : ∀ {ds : List Char}, ∀ c ∈ ds.takeWhile isBlank, isBlank c = true :=
    List.all_eq_true.mp List.all_takeWhile
  have rest : back.reverse ++ (front.reverse.takeWhile isBlank).reverse = front := by
    rw [← List.reverse_append, List.takeWhile_append_dropWhile, List.reverse_reverse]
  refine ⟨⟨cs.takeWhile isBlank, (front.reverse.takeWhile isBlank).reverse, ?_, blank, ?_⟩, ?_, ?_⟩
  · calc cs = cs.takeWhile isBlank ++ front := List.takeWhile_append_dropWhile.symm
      _ = cs.takeWhile isBlank ++ (trim cs ++ (front.reverse.takeWhile isBlank).reverse) := by
        rw [show trim cs = back.reverse from rfl, rest]
      _ = _ := (List.append_assoc ..).symm
  · exact fun c mem => blank c (List.mem_reverse.mp mem)
  · intro c first
    have same : front.head? = some c := by
      rw [← rest, List.head?_append, show back.reverse.head? = some c from first]
      rfl
    exact isBlank_of_head?_dropWhile same
  · intro c last
    have first : back.head? = some c := by
      rw [← List.getLast?_reverse]
      exact last
    exact isBlank_of_head?_dropWhile first

theorem dropWhile_isBlank_append {left core : List Char} (blank : ∀ c ∈ left, isBlank c = true)
    (first : ∀ c, core.head? = some c → isBlank c = false) :
    (left ++ core).dropWhile isBlank = core := by
  rw [List.dropWhile_append_of_pos blank]
  cases core with
  | nil => rfl
  | cons c core => rw [List.dropWhile_cons_of_neg (by rw [first c rfl]; exact Bool.false_ne_true)]

theorem Trims.eq_trim {cs core : List Char} (h : Trims cs core) : trim cs = core := by
  obtain ⟨left, right, rfl, before, behind⟩ := h.around
  have reversed : ∀ c, core.reverse.head? = some c → isBlank c = false := fun c first =>
    h.last c (by rw [← List.head?_reverse]; exact first)
  have blanks : ∀ c ∈ right.reverse, isBlank c = true := fun c mem => behind c (List.mem_reverse.mp mem)
  cases core with
  | nil =>
    have all : ∀ c ∈ left ++ [] ++ right, isBlank c = true := by
      intro c mem
      rw [List.append_nil] at mem
      exact (List.mem_append.mp mem).elim (before c) (behind c)
    rw [trim, List.dropWhile_eq_nil_iff.mpr all]
    rfl
  | cons c core =>
    have front : ∀ d, (c :: core ++ right).head? = some d → isBlank d = false := h.first
    rw [trim, List.append_assoc, dropWhile_isBlank_append before front, List.reverse_append,
      dropWhile_isBlank_append blanks reversed, List.reverse_reverse]

theorem trim_eq_iff {cs core : List Char} : trim cs = core ↔ Trims cs core :=
  ⟨fun same => same ▸ trims_trim cs, Trims.eq_trim⟩

end Text

namespace Cpuset

open Text (Trims trim_eq_iff)

variable {cs : List Char} {n : Nat} {ns : List Nat}

/-! ## 2. Numbers -/

/-- The value of decimal digits: the last one counts once, the one before it ten times, and so on. -/
def decimal (digits : List Char) : Nat := Nat.ofDigits 10 (digits.reverse.map fun c => c.toNat - 48)

/-- At least one decimal digit, with a value below the limit, and perhaps a plus sign before the digits. -/
def Numeral (cs : List Char) (n : Nat) : Prop :=
  ∃ digits, (cs = digits ∨ cs = '+' :: digits) ∧ digits ≠ [] ∧ (∀ c ∈ digits, c.isDigit = true) ∧
    decimal digits = n ∧ n < UInt64.size

theorem decimal_cons (c : Char) (digits : List Char) :
    decimal (c :: digits) = (c.toNat - 48) * 10 ^ digits.length + decimal digits := by
  rw [decimal, List.reverse_cons, List.map_append, Nat.ofDigits_append, List.length_map,
    List.length_reverse, List.map_singleton, Nat.ofDigits_singleton, Nat.mul_comm, Nat.add_comm]
  rfl

/-- Reading on from what was read before. -/
def readDigit (value : Option Nat) (c : Char) : Option Nat := do
  let n ← value
  if c.isDigit then some (n * 10 + (c.toNat - 48)) else none

theorem foldl_readDigit_none (digits : List Char) : digits.foldl readDigit none = none := by
  induction digits with
  | nil => rfl
  | cons c digits ih => exact ih

theorem foldl_readDigit (digits : List Char) (value : Nat) :
    digits.foldl readDigit (some value) =
      if digits.all Char.isDigit then some (value * 10 ^ digits.length + decimal digits) else none := by
  induction digits generalizing value with
  | nil => simp [decimal]
  | cons c digits ih =>
    rw [List.foldl_cons]
    by_cases digit : c.isDigit = true
    · have next : readDigit (some value) c = some (value * 10 + (c.toNat - 48)) := if_pos digit
      rw [next, ih, decimal_cons, List.length_cons]
      simp only [List.all_cons, digit, Bool.true_and]
      congr 2
      ring
    · have next : readDigit (some value) c = none := if_neg digit
      rw [next, foldl_readDigit_none, List.all_cons, if_neg fun all => digit (Bool.and_eq_true_iff.mp all).1]

theorem digitsValue_eq_some_iff {digits : List Char} :
    digitsValue digits = some n ↔ (∀ c ∈ digits, c.isDigit = true) ∧ decimal digits = n := by
  have read : digitsValue digits = digits.foldl readDigit (some 0) := rfl
  rw [read, foldl_readDigit, Nat.zero_mul, Nat.zero_add, ← List.all_eq_true]
  split
  · next all => exact ⟨fun same => ⟨all, Option.some.inj same⟩, fun both => congrArg some both.2⟩
  · next odd => exact ⟨nofun, fun both => absurd both.1 odd⟩

/-- A text without a plus sign at its begin. -/
def unsigned : List Char → List Char
  | '+' :: digits => digits
  | cs => cs

theorem unsigned_cases (cs : List Char) : cs = unsigned cs ∨ cs = '+' :: unsigned cs := by
  unfold unsigned
  split
  · exact .inr rfl
  · exact .inl rfl

theorem unsigned_of_ne (plain : ∀ rest, cs = '+' :: rest → False) : unsigned cs = cs := by
  unfold unsigned
  split
  · next rest => exact (plain rest rfl).elim
  · rfl

theorem unsigned_of_digits {digits : List Char} (all : ∀ c ∈ digits, c.isDigit = true) :
    unsigned digits = digits := by
  refine unsigned_of_ne ?_
  rintro rest rfl
  exact absurd (all '+' List.mem_cons_self) (by decide)

theorem number_eq (cs : List Char) :
    number cs = if (unsigned cs).isEmpty then none
      else (digitsValue (unsigned cs)).filter (· ≤ maxNumber) := by
  unfold number
  split
  · rfl
  · next plain => rw [unsigned_of_ne plain]

theorem number_eq_some_iff : number cs = some n ↔ Numeral cs n := by
  have limit : n ≤ maxNumber ↔ n < UInt64.size := Nat.le_sub_one_iff_lt (by decide)
  have value : number cs = some n ↔ unsigned cs ≠ [] ∧ (∀ c ∈ unsigned cs, c.isDigit = true) ∧
      decimal (unsigned cs) = n ∧ n < UInt64.size := by
    rw [number_eq]
    split
    · next empty => exact ⟨nofun, fun h => absurd (List.isEmpty_iff.mp empty) h.1⟩
    · next filled =>
      rw [Option.filter_eq_some_iff, digitsValue_eq_some_iff, decide_eq_true_iff, limit, and_assoc]
      exact (and_iff_right fun empty => filled (List.isEmpty_iff.mpr empty)).symm
  rw [value]
  constructor
  · exact fun h => ⟨unsigned cs, unsigned_cases cs, h⟩
  · rintro ⟨digits, rfl | rfl, filled, all, h⟩
    · rw [unsigned_of_digits all]
      exact ⟨filled, all, h⟩
    · exact ⟨filled, all, h⟩

theorem Numeral.ne_nil (h : Numeral cs n) : cs ≠ [] := by
  obtain ⟨digits, rfl | rfl, filled, -⟩ := h
  · exact filled
  · exact List.cons_ne_nil _ _

theorem Numeral.no_hyphen (h : Numeral cs n) : '-' ∉ cs := by
  obtain ⟨digits, shape, -, all, -⟩ := h
  have digits_free : '-' ∉ digits := fun mem => absurd (all '-' mem) (by decide)
  rcases shape with rfl | rfl
  · exact digits_free
  · exact List.not_mem_cons_of_ne_of_not_mem (by decide) digits_free

/-! ## 3. Pieces -/

/-- The numbers that a piece stands for: none if it is blank, a single one, or all from the first to the last
one of a range. The hyphen of a range is the first one of the piece. -/
inductive Piece (cs : List Char) : List Nat → Prop
  | blank (trims : Trims cs []) : Piece cs []
  | single {part : List Char} {n : Nat} (trims : Trims cs part) (number : Numeral part n) : Piece cs [n]
  | range {before after left right : List Char} {first last : Nat}
      (trims : Trims cs (before ++ '-' :: after)) (hyphen : '-' ∉ before)
      (left_trims : Trims before left) (right_trims : Trims after right)
      (left_number : Numeral left first) (right_number : Numeral right last) (le : first ≤ last) :
      Piece cs ((List.range (last + 1 - first)).map (first + ·))

theorem splitHyphen_of_hyphen {before after : List Char} (hyphen : '-' ∉ before) :
    splitHyphen (before ++ '-' :: after) = some (before, after) := by
  have passes : ∀ c ∈ before, (c != '-') = true := fun c mem =>
    bne_iff_ne.mpr fun same => hyphen (same ▸ mem)
  have drops : (before ++ '-' :: after).dropWhile (· != '-') = '-' :: after := by
    rw [List.dropWhile_append_of_pos passes]
    rfl
  have takes : (before ++ '-' :: after).takeWhile (· != '-') = before := by
    rw [List.takeWhile_append_of_pos passes]
    simp
  rw [splitHyphen, drops, takes]

theorem splitHyphen_of_none (hyphen : '-' ∉ cs) : splitHyphen cs = none := by
  have drops : cs.dropWhile (· != '-') = [] :=
    List.dropWhile_eq_nil_iff.mpr fun c mem => bne_iff_ne.mpr fun same => hyphen (same ▸ mem)
  rw [splitHyphen, drops]

/-- How a piece with a hyphen is read. -/
theorem extent_of_hyphen {before after : List Char} (trims : Trims cs (before ++ '-' :: after))
    (hyphen : '-' ∉ before) :
    extent cs = (number (Text.trim before)).bind fun first =>
      (number (Text.trim after)).bind fun last =>
        if first ≤ last then some (first, last + 1 - first) else none := by
  have filled : (before ++ '-' :: after).isEmpty = false := by simp
  rw [extent, trims.eq_trim, splitHyphen_of_hyphen hyphen, filled]
  rfl

/-- How a piece without a hyphen is read, unless it is blank. -/
theorem extent_of_no_hyphen {part : List Char} (trims : Trims cs part) (filled : part ≠ [])
    (hyphen : '-' ∉ part) : extent cs = (number part).map ((·, 1)) := by
  rw [extent, trims.eq_trim, splitHyphen_of_none hyphen, List.isEmpty_eq_false_iff.mpr filled]
  rfl

theorem extent_of_blank (trims : Trims cs []) : extent cs = some (0, 0) := by
  rw [extent, trims.eq_trim]
  rfl

theorem piece_eq_some_iff : piece cs = some ns ↔ Piece cs ns := by
  constructor
  · intro read
    obtain ⟨⟨first, count⟩, extent, rfl⟩ := Option.map_eq_some_iff.mp read
    have trims := Text.trims_trim cs
    generalize Text.trim cs = part at trims
    by_cases hyphen : '-' ∈ part
    · obtain ⟨before, after, rfl, earliest⟩ := List.eq_append_cons_of_mem hyphen
      rw [extent_of_hyphen trims earliest] at extent
      obtain ⟨m, left, extent⟩ := Option.bind_eq_some_iff.mp extent
      obtain ⟨n, right, extent⟩ := Option.bind_eq_some_iff.mp extent
      split at extent
      · next le =>
        cases extent
        show Piece cs (List.range' first (n + 1 - first))
        rw [List.range'_eq_map_range]
        exact .range trims earliest (Text.trims_trim before) (Text.trims_trim after)
          (number_eq_some_iff.mp left) (number_eq_some_iff.mp right) le
      · cases extent
    · cases part with
      | nil =>
        rw [extent_of_blank trims] at extent
        cases extent
        exact .blank trims
      | cons c part =>
        rw [extent_of_no_hyphen trims (List.cons_ne_nil c part) hyphen] at extent
        obtain ⟨n, numeral, same⟩ := Option.map_eq_some_iff.mp extent
        cases same
        exact .single trims (number_eq_some_iff.mp numeral)
  · intro h
    cases h with
    | blank trims =>
      rw [piece, extent_of_blank trims]
      rfl
    | single trims numeral =>
      rw [piece, extent_of_no_hyphen trims numeral.ne_nil numeral.no_hyphen,
        number_eq_some_iff.mpr numeral]
      rfl
    | @range before after left right first last trims hyphen left_trims right_trims left_number right_number le =>
      have extent : extent cs = some (first, last + 1 - first) := by
        rw [extent_of_hyphen trims hyphen, left_trims.eq_trim, right_trims.eq_trim,
          number_eq_some_iff.mpr left_number, number_eq_some_iff.mpr right_number]
        exact if_pos le
      rw [piece, extent, ← List.range'_eq_map_range]
      rfl

/-! ## 4. Texts -/

/-- The numbers that a text stands for: those of its pieces, in order. -/
inductive Reads : List Char → List Nat → Prop
  | last {cs : List Char} {ns : List Nat} (comma : ',' ∉ cs) (piece : Piece cs ns) : Reads cs ns
  | cons {cs rest : List Char} {ns ms : List Nat} (comma : ',' ∉ cs) (piece : Piece cs ns)
      (reads : Reads rest ms) : Reads (cs ++ ',' :: rest) (ns ++ ms)

theorem pieces_ne_nil (cs : List Char) : pieces cs ≠ [] := by
  fun_cases pieces cs <;> simp_all

/-- A comma in a text parts its pieces. -/
theorem pieces_append (cs rest : List Char) : pieces (cs ++ ',' :: rest) = pieces cs ++ pieces rest := by
  induction cs with
  | nil => rfl
  | cons c cs ih =>
    by_cases comma : c = ','
    · subst comma
      exact congrArg ([] :: ·) ih
    · rw [List.cons_append, pieces.eq_3 c _ comma, pieces.eq_3 c _ comma, ih]
      cases first : pieces cs with
      | nil => exact absurd first (pieces_ne_nil cs)
      | cons p ps => rfl

theorem pieces_of_no_comma (comma : ',' ∉ cs) : pieces cs = [cs] := by
  induction cs with
  | nil => rfl
  | cons c cs ih =>
    have here : c ≠ ',' := fun same => comma (same ▸ List.mem_cons_self)
    rw [pieces.eq_3 c _ here, ih fun later => comma (List.mem_cons_of_mem c later)]

theorem numbers_append (ps qs : List (List Char)) :
    numbers (ps ++ qs) = (numbers ps).bind fun ns => (numbers qs).map (ns ++ ·) := by
  induction ps with
  | nil =>
    cases h : numbers qs <;> simp [numbers, h]
  | cons p ps ih =>
    cases here : piece p with
    | none => simp [numbers, here]
    | some ns =>
      cases there : numbers ps with
      | none => simp [numbers, here, there, ih]
      | some ms => cases last : numbers qs <;> simp [numbers, here, there, ih, last]

theorem numbers_singleton (p : List Char) : numbers [p] = piece p := by
  cases h : piece p <;> simp [numbers, h]

theorem numbers_pieces_append (cs rest : List Char) :
    numbers (pieces (cs ++ ',' :: rest)) = some ns ↔
      ∃ a b, numbers (pieces cs) = some a ∧ numbers (pieces rest) = some b ∧ ns = a ++ b := by
  rw [pieces_append, numbers_append]
  simp only [Option.bind_eq_some_iff, Option.map_eq_some_iff]
  constructor
  · rintro ⟨a, left, b, right, rfl⟩
    exact ⟨a, b, left, right, rfl⟩
  · rintro ⟨a, b, left, right, rfl⟩
    exact ⟨a, left, b, right, rfl⟩

theorem numbers_pieces_iff (cs : List Char) (ns : List Nat) :
    numbers (pieces cs) = some ns ↔ Reads cs ns := by
  constructor
  · induction h : cs.length using Nat.strong_induction_on generalizing cs ns with
    | h size ih =>
      intro read
      by_cases comma : ',' ∈ cs
      · obtain ⟨first, rest, rfl, free⟩ := List.eq_append_cons_of_mem comma
        obtain ⟨a, b, left, right, rfl⟩ := (numbers_pieces_append first rest).mp read
        rw [pieces_of_no_comma free, numbers_singleton] at left
        have shorter : rest.length < size := by
          rw [← h, List.length_append, List.length_cons]
          omega
        exact .cons free (piece_eq_some_iff.mp left) (ih _ shorter rest b rfl right)
      · rw [pieces_of_no_comma comma, numbers_singleton] at read
        exact .last comma (piece_eq_some_iff.mp read)
  · intro reads
    induction reads with
    | last comma piece =>
      rw [pieces_of_no_comma comma, numbers_singleton]
      exact piece_eq_some_iff.mpr piece
    | @cons cs rest ns ms comma piece _ ih =>
      refine (numbers_pieces_append cs rest).mpr ⟨ns, ms, ?_, ih, rfl⟩
      rw [pieces_of_no_comma comma, numbers_singleton]
      exact piece_eq_some_iff.mpr piece

/-! ## 5. The reader -/

theorem parse_eq_ok_iff {spec : String} :
    parse spec = .ok ns ↔ numbers (pieces spec.toList) = some ns := by
  unfold parse
  split
  · next cpus read =>
    rw [read]
    exact ⟨fun same => congrArg some (Except.ok.inj same), fun same => congrArg _ (Option.some.inj same)⟩
  · next failed =>
    rw [failed]
    exact ⟨nofun, nofun⟩

/-- What the reader does with a text. -/
structure FollowsGrammar (spec : String) : Prop where
  /-- It accepts what the grammar gives, and nothing else. -/
  accepts : ∀ ns, parse spec = .ok ns ↔ Reads spec.toList ns
  /-- It refuses what has no reading, and names the whole text. -/
  refuses : ∀ e, parse spec = .error e ↔ e = .invalidCpuset spec ∧ ¬∃ ns, Reads spec.toList ns
  /-- Two texts with a comma between them are read one after the other. -/
  joins : ∀ (other : String) ns, parse (spec ++ "," ++ other) = .ok ns ↔
    ∃ a b, parse spec = .ok a ∧ parse other = .ok b ∧ ns = a ++ b

theorem follows_grammar (spec : String) : FollowsGrammar spec where
  accepts ns := parse_eq_ok_iff.trans (numbers_pieces_iff spec.toList ns)
  refuses e := by
    have reads := numbers_pieces_iff spec.toList
    unfold parse
    split
    · next cpus read => exact ⟨nofun, fun h => absurd ⟨cpus, (reads cpus).mp read⟩ h.2⟩
    · next failed =>
      have none_reads : ¬∃ ns, Reads spec.toList ns := by
        rintro ⟨ns, read⟩
        exact nomatch failed.symm.trans ((reads ns).mpr read)
      exact ⟨fun same => ⟨(Except.error.inj same).symm, none_reads⟩, fun h => congrArg _ h.1.symm⟩
  joins other ns := by
    have text : (spec ++ "," ++ other).toList = spec.toList ++ ',' :: other.toList := by simp
    rw [parse_eq_ok_iff, text, numbers_pieces_append]
    simp only [parse_eq_ok_iff]

theorem amount_of_numbers {ps : List (List Char)} (read : numbers ps = some ns) : amount ps = ns.length := by
  induction ps generalizing ns with
  | nil =>
    cases read
    rfl
  | cons p ps ih =>
    obtain ⟨here, piece, read⟩ := Option.bind_eq_some_iff.mp read
    obtain ⟨there, rest, same⟩ := Option.bind_eq_some_iff.mp read
    obtain ⟨⟨first, count⟩, extent, rfl⟩ := Option.map_eq_some_iff.mp piece
    rw [amount, extent, ← Option.some.inj same, List.length_append, List.length_range', ih rest]

/-- A cpuset that is read needs room for all its numbers. -/
theorem size_of_parse {spec : String} (read : parse spec = .ok ns) : size spec = ns.length :=
  amount_of_numbers (parse_eq_ok_iff.mp read)

/-- Blanks, a plus sign, an empty piece, a range and a repetition. -/
example : parse " 0 - +2,, 1" = .ok [0, 1, 2, 1] := by cbv

end Cpuset

end CoopSched
