import CoopSched.Yaml.Cursor
import CoopSched.Yaml.Token
/-!
# Scalars

Reading one scalar in each of its five forms. A line break inside a scalar is folded: one break
counts as a space, and of several the first is dropped; literal blocks keep every break. What has
been read is held with its last character first, until the scalar is complete.
-/

namespace CoopSched.Yaml.Scalar

/-- Some line breaks between two words: a lone line feed becomes a space, further breaks stand for
themselves. -/
def foldBreaks (first further : List Char) : List Char :=
  if first.head? == some '\n' then
    if further.isEmpty then [' '] else further
  else further ++ first

/-- The white space between two words of a scalar. -/
structure Gap where
  /-- Spaces and tabs before the first line break. -/
  spaces : List Char := []
  /-- The first line break, if there is one. -/
  first : List Char := []
  /-- The line breaks after it. -/
  further : List Char := []
  /-- Does the next word begin on a line of its own? -/
  broken : Bool := false

/-- What stands between the two words in the value. -/
def Gap.text (g : Gap) : List Char :=
  if g.broken then foldBreaks g.first g.further else g.spaces

/-- Pass the white space at the place. `minColumn` is set in plain scalars: there a tab may not
stand before that column on a line of its own. -/
def readGap (minColumn : Option Int) : Nat → Gap → Cursor → Except Fault (Gap × Cursor)
  | 0, g, c => .ok (g, c)
  | fuel + 1, g, c =>
    match c.peek? with
    | none => .ok (g, c)
    | some ch =>
      if isSpace ch then
        if ch == '\t' && g.broken && minColumn.any (fun column => (c.column : Int) < column) then
          .error .tabInIndentation
        else
          let spaces := if g.broken then g.spaces else ch :: g.spaces
          readGap minColumn fuel { g with spaces } c.advance
      else if isBreak ch then
        let g := if g.broken then { g with further := c.breakText ++ g.further }
          else { g with first := c.breakText, broken := true }
        readGap minColumn fuel g c.nextLine
      else .ok (g, c)

/-- The value of some hexadecimal digits. -/
def hexValue (digits : List Char) : Option Nat :=
  digits.foldl (fun value c => do
    let n ← value
    if c.isDigit then some (n * 16 + (c.toNat - 48))
    else if 'a' ≤ c ∧ c ≤ 'f' then some (n * 16 + (c.toNat - 87))
    else if 'A' ≤ c ∧ c ≤ 'F' then some (n * 16 + (c.toNat - 55))
    else none) (some 0)

/-- The character of an escape that a single letter names. -/
def namedEscape : Char → Option Char
  | '0' => some '\x00'
  | 'a' => some '\x07'
  | 'b' => some '\x08'
  | 't' => some '\t'
  | '\t' => some '\t'
  | 'n' => some '\n'
  | 'v' => some '\x0b'
  | 'f' => some '\x0c'
  | 'r' => some '\r'
  | 'e' => some '\x1b'
  | ' ' => some ' '
  | '"' => some '"'
  | '/' => some '/'
  | '\\' => some '\\'
  | 'N' => some '\u0085'
  | '_' => some '\u00a0'
  | 'L' => some '\u2028'
  | 'P' => some '\u2029'
  | _ => none

/-- How many hexadecimal digits follow the letter of a numbered escape. -/
def escapeDigits : Char → Option Nat
  | 'x' => some 2
  | 'u' => some 4
  | 'U' => some 8
  | _ => none

/-- The escape whose backslash is at the place: its character and the place after it. -/
def readEscape (c : Cursor) : Except Fault (Char × Cursor) :=
  match c.peekAt? 1 with
  | none => .error .badEscape
  | some letter =>
    match namedEscape letter with
    | some ch => .ok (ch, c.advance 2)
    | none =>
      match escapeDigits letter with
      | none => .error .badEscape
      | some n =>
        let digits := (c.rest.drop 2).take n
        match hexValue digits with
        | none => .error .badEscape
        | some code =>
          if digits.length < n || (0xD800 ≤ code && code ≤ 0xDFFF) || code > 0x10FFFF then
            .error .badEscape
          else .ok (Char.ofNat code, c.advance (2 + n))

/-- A run of text inside quotes, after what was read before, up to white space, the closing quote or
an escaped line break; in the last case the break is passed and the next word counts as beginning a
line. -/
def readQuotedWord (single : Bool) : Nat → List Char → Cursor →
    Except Fault (List Char × Bool × Cursor)
  | 0, text, c => .ok (text, false, c)
  | fuel + 1, text, c =>
    match c.rest with
    | [] => .ok (text, false, c)
    | ch :: after =>
      if isSpace ch || isBreak ch then .ok (text, false, c)
      else if single then
        if ch == '\'' then
          if after.head? == some '\'' then readQuotedWord single fuel ('\'' :: text) (c.advance 2)
          else .ok (text, false, c)
        else readQuotedWord single fuel (ch :: text) c.advance
      else if ch == '"' then .ok (text, false, c)
      else if ch == '\\' then
        if after.head?.any isBreak then .ok (text, true, c.advance.nextLine)
        else do
          let (escaped, c) ← readEscape c
          readQuotedWord single fuel (escaped :: text) c
      else readQuotedWord single fuel (ch :: text) c.advance

/-- The words of a quoted scalar up to its closing quote. -/
def readQuotedWords (single : Bool) : Nat → List Char → Cursor → Except Fault (List Char × Cursor)
  | 0, _, _ => .error .tooLong
  | fuel + 1, text, c =>
    if c.atDocumentMark then .error .documentMarkInQuotes
    else if c.atEnd then .error .unclosedQuote
    else do
      let (text, broken, c) ← readQuotedWord single (c.left + 1) text c
      if c.peek? == some (if single then '\'' else '"') then
        .ok (text.reverse, c.advance)
      else
        let (gap, c) ← readGap none (c.left + 1) { broken } c
        readQuotedWords single fuel (gap.text ++ text) c

/-- A quoted scalar whose opening quote is at the place. -/
def readQuoted (single : Bool) (c : Cursor) : Except Fault (List Char × Cursor) :=
  readQuotedWords single (c.left + 1) [] c.advance

/-- The characters that end a plain scalar inside brackets. -/
def isFlowMark (c : Char) : Bool := c == ',' || c == '[' || c == ']' || c == '{' || c == '}'

/-- A run of plain text up to white space or a character that ends the scalar. -/
def readPlainWord (inFlow : Bool) : Nat → List Char → Cursor → Except Fault (List Char × Cursor)
  | 0, word, c => .ok (word, c)
  | fuel + 1, word, c =>
    match c.rest with
    | [] => .ok (word, c)
    | ch :: after =>
      if isSpace ch || isBreak ch then .ok (word, c)
      else if inFlow && ch == ':' && after.head?.any (fun n => isFlowMark n || n == '?') then
        .error .colonInFlowScalar
      else if ch == ':' && c.endsWordAt 1 then .ok (word, c)
      else if inFlow && isFlowMark ch then .ok (word, c)
      else readPlainWord inFlow fuel (ch :: word) c.advance

/-- The words of a plain scalar. A word is joined to the ones before it only if it is not empty, so
the white space at the end is left out. The truth value tells whether the text ended at the
beginning of a line. -/
def readPlainWords (inFlow : Bool) (minColumn : Int) : Nat → List Char → Gap → Cursor →
    Except Fault (List Char × Bool × Cursor)
  | 0, _, _, _ => .error .tooLong
  | fuel + 1, text, gap, c =>
    if c.atDocumentMark || c.peek? == some '#' then .ok (text.reverse, gap.broken, c)
    else do
      let (word, c) ← readPlainWord inFlow (c.left + 1) [] c
      let (text, gap) := if word.isEmpty then (text, gap) else (word ++ gap.text ++ text, {})
      if !(c.at? isSpace || c.at? isBreak) then .ok (text.reverse, gap.broken, c)
      else
        let (gap, c) ← readGap (some minColumn) (c.left + 1) gap c
        if !inFlow && (c.column : Int) < minColumn then .ok (text.reverse, gap.broken, c)
        else readPlainWords inFlow minColumn fuel text gap c

/-- A plain scalar at the place, inside a collection of the given indentation. -/
def readPlain (inFlow : Bool) (indent : Int) (c : Cursor) :
    Except Fault (List Char × Bool × Cursor) :=
  readPlainWords inFlow (indent + 1) (c.left + 1) [] {} c

/-- What becomes of the line breaks at the end of a block scalar. -/
inductive Chomping where
  | strip
  | clip
  | keep
  deriving DecidableEq, Repr

/-- The mark of a chomping rule. -/
def chomping? : Char → Option Chomping
  | '+' => some .keep
  | '-' => some .strip
  | _ => none

/-- An indentation digit of a block header. Zero is refused. -/
def indentDigit? (c : Cursor) : Except Fault (Option Nat) :=
  match c.peek? with
  | some ch =>
    if ch == '0' then .error .badBlockHeader
    else if ch.isDigit then .ok (some (ch.toNat - 48))
    else .ok none
  | none => .ok none

/-- The header of a block scalar: chomping and indentation in either order, then a comment, then
the end of the line. -/
def readBlockHeader (c : Cursor) : Except Fault (Chomping × Option Nat × Cursor) := do
  let (rule, digit, c) ←
    match c.peek?.bind chomping? with
    | some rule => do
      let c := c.advance
      let digit ← indentDigit? c
      pure (rule, digit, if digit.isSome then c.advance else c)
    | none => do
      let digit ← indentDigit? c
      if digit.isSome then
        let c := c.advance
        match c.peek?.bind chomping? with
        | some rule => pure (rule, digit, c.advance)
        | none => pure (Chomping.clip, digit, c)
      else pure (Chomping.clip, none, c)
  let c := c.skip isSpace
  let c := if c.peek? == some '#' then c.skip (!isBreak ·) else c
  if !c.atLineEnd then .error .badBlockHeader
  else .ok (rule, digit, if c.atEnd then c else c.nextLine)

/-- Pass empty lines and indentation. `indent` is the wanted column, none while it is still open;
the third result is the deepest column seen. -/
def readBlockBreaks (indent : Option Nat) : Nat → List Char → Nat → Cursor →
    Except Fault (List Char × Nat × Cursor)
  | 0, _, _, _ => .error .tooLong
  | fuel + 1, breaks, deepest, c =>
    let spaces := (c.rest.takeWhile (· == ' ')).length
    let c := match indent with
      | none => c.advance spaces
      | some column => c.advance (min spaces (column - c.column))
    let deepest := max deepest c.column
    if indent.all (c.column < ·) && c.peek? == some '\t' then .error .tabInIndentation
    else if c.at? isBreak then
      readBlockBreaks indent fuel (c.breakText ++ breaks) deepest c.nextLine
    else .ok (breaks, deepest, c)

/-- The lines of a block scalar at the given column: the text so far, the break after it, and the
breaks after that. -/
def readBlockLines (literal : Bool) (indent : Nat) : Nat → List Char → List Char → List Char →
    Bool → Cursor → Except Fault (List Char × List Char × List Char × Cursor)
  | 0, _, _, _, _, _ => .error .tooLong
  | fuel + 1, text, lastBreak, breaks, indentedBefore, c =>
    if c.column != indent || c.atEnd then .ok (text, lastBreak, breaks, c)
    else do
      let indented := c.at? isSpace
      let joint :=
        if !literal && lastBreak.head? == some '\n' && !indentedBefore && !indented then
          if breaks.isEmpty then [' '] else breaks
        else breaks ++ lastBreak
      let (line, c) := c.span (!isBreak ·)
      let lastBreak := c.breakText
      let (breaks, _, c) ← readBlockBreaks (some indent) (c.left + 1) [] 0 c.nextLine
      readBlockLines literal indent fuel (line.reverse ++ joint ++ text) lastBreak breaks indented c

/-- A block scalar whose mark is at the place, inside a collection of the given indentation. -/
def readBlock (literal : Bool) (indent : Int) (c : Cursor) :
    Except Fault (List Char × Cursor) := do
  let (rule, digit, c) ← readBlockHeader c.advance
  let outer := indent.toNat
  let wanted := digit.map (outer + ·)
  let (breaks, deepest, c) ← readBlockBreaks wanted (c.left + 1) [] 0 c
  let column := wanted.getD (max (max deepest (indent + 1).toNat) 1)
  let (text, lastBreak, breaks, c) ←
    readBlockLines literal column (c.left + 1) [] [] breaks false c
  match rule with
  | .strip => .ok (text.reverse, c)
  | .clip => .ok ((lastBreak ++ text).reverse, c)
  | .keep => .ok ((breaks ++ lastBreak ++ text).reverse, c)

end CoopSched.Yaml.Scalar
