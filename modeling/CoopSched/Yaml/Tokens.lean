import CoopSched.Yaml.Scalar
/-!
# From text to tokens

Indentation opens and closes block collections, and a colon makes a key of the scalar or collection
before it. Such a candidate key remembers the place in the token list where its tokens go; it has to
stand on one line and within 1024 bytes of its colon.
-/

namespace CoopSched.Yaml

/-- A place that a later colon may turn into a key. -/
structure Candidate where
  /-- Without a colon the document is faulty: the place stands where a key of a block mapping does. -/
  required : Bool
  /-- Where in the token list the key goes. -/
  position : Nat
  index : Nat
  line : Nat
  column : Nat
  deriving Repr

/-- The state of the division into tokens. -/
structure Lexer where
  cursor : Cursor
  tokens : Array Token := #[]
  /-- The column of the innermost open block collection, and those around it. -/
  indent : Int := -1
  outer : List Int := []
  /-- The candidate of the innermost level of brackets, and those of the levels around it. -/
  candidate : Option Candidate := none
  levels : List (Option Candidate) := []
  /-- May a key begin here? -/
  keyAllowed : Bool := true
  deriving Repr

namespace Lexer

/-- Is the place inside brackets? -/
def inFlow (l : Lexer) : Bool := !l.levels.isEmpty

/-- Append a token. -/
def emit (l : Lexer) (t : Token) : Lexer := { l with tokens := l.tokens.push t }

/-- Put a token into the list. -/
def insertAt (l : Lexer) (position : Nat) (t : Token) : Lexer :=
  { l with tokens := l.tokens.insertIdxIfInBounds position t }

/-- Move on by some characters. -/
def advance (l : Lexer) (n : Nat := 1) : Lexer := { l with cursor := l.cursor.advance n }

/-- Close the block collections that are indented deeper than the column. -/
def closeTo (l : Lexer) (column : Int) : Lexer :=
  if l.inFlow then l
  else
    let deeper := (l.indent :: l.outer).takeWhile (column < ·)
    match (l.indent :: l.outer).drop deeper.length with
    | [] => l
    | indent :: outer =>
      { l with
        tokens := l.tokens ++ Array.replicate deeper.length Token.blockEnd
        indent
        outer }

/-- Open a block collection at a column deeper than the innermost one. -/
def openAt (l : Lexer) (column : Nat) (position : Option Nat) (t : Token) : Lexer :=
  if l.inFlow || (column : Int) ≤ l.indent then l
  else
    let l := { l with indent := column, outer := l.indent :: l.outer }
    match position with
    | none => l.emit t
    | some p => l.insertAt p t

/-- Give up the candidate. A required one may not be given up. -/
def dropCandidate (l : Lexer) : Except Fault Lexer :=
  if l.candidate.any (·.required) then .error .missingColon
  else .ok { l with candidate := none }

/-- Make the place a candidate, if a key may begin here. -/
def markCandidate (l : Lexer) : Except Fault Lexer :=
  if l.keyAllowed then do
    let l ← l.dropCandidate
    let candidate : Candidate :=
      { required := !l.inFlow && l.indent == (l.cursor.column : Int)
        position := l.tokens.size
        index := l.cursor.index
        line := l.cursor.line
        column := l.cursor.column }
    .ok { l with candidate := some candidate }
  else .ok l

/-- The candidate, if the colon at the place is near enough. -/
def validCandidate (l : Lexer) : Except Fault (Option Candidate) :=
  match l.candidate with
  | none => .ok none
  | some k =>
    if k.line < l.cursor.line || k.index + 1024 < l.cursor.index then
      if k.required then .error .missingColon else .ok none
    else .ok (some k)

/-- Pass white space, comments and line breaks up to the next token. A byte order mark at the
beginning of a line is passed as well and takes up a column. After a line break outside brackets a
key may begin again. -/
def toNextToken (l : Lexer) : Nat → Lexer
  | 0 => l
  | fuel + 1 =>
    let c := l.cursor
    let c := if c.column == 0 && c.peek? == some byteOrderMark then c.advance else c
    let c := c.skip fun ch => ch == ' ' || (ch == '\t' && (l.inFlow || !l.keyAllowed))
    let c := if c.peek? == some '#' then c.skip (!isBreak ·) else c
    if c.at? isBreak then
      { l with cursor := c.nextLine, keyAllowed := l.keyAllowed || !l.inFlow }.toNextToken fuel
    else { l with cursor := c }

/-- A version number between one and nine digits. -/
def versionNumber (c : Cursor) : Except Fault (Nat × Cursor) :=
  let (digits, c) := c.span Char.isDigit
  if digits.isEmpty || digits.length > 9 then .error .badDirective
  else .ok (digits.foldl (fun n d => n * 10 + (d.toNat - 48)) 0, c)

/-- The handle of a tag: an exclamation mark, a name and perhaps a second mark. Only a directive
insists on the second. -/
def readHandle (inDirective : Bool) (c : Cursor) : Except Fault (List Char × Cursor) :=
  if c.peek? != some '!' then .error .badTag
  else
    let (name, c) := c.advance.span isNameChar
    if c.peek? == some '!' then .ok ('!' :: name ++ ['!'], c.advance)
    else if inDirective && !name.isEmpty then .error .badTag
    else .ok ('!' :: name, c)

/-- The characters of an address, apart from names and numbered bytes. -/
def isAddressMark (brackets : Bool) (c : Char) : Bool :=
  c == ';' || c == '/' || c == '?' || c == ':' || c == '@' || c == '&' || c == '=' || c == '+' ||
    c == '$' || c == '.' || c == '!' || c == '~' || c == '*' || c == '\'' || c == '(' || c == ')' ||
    (brackets && (c == ',' || c == '[' || c == ']'))

/-- The byte of a percent sign and two hexadecimal digits at the place. -/
def numberedByte (c : Cursor) : Except Fault UInt8 :=
  match c.rest with
  | '%' :: a :: b :: _ =>
    match Scalar.hexValue [a, b] with
    | some n => .ok n.toUInt8
    | none => .error .badTag
  | _ => .error .badTag

/-- How many bytes a character takes whose first byte is given. -/
def byteCount (first : UInt8) : Option Nat :=
  if first &&& 0x80 == 0 then some 1
  else if first &&& 0xE0 == 0xC0 then some 2
  else if first &&& 0xF0 == 0xE0 then some 3
  else if first &&& 0xF8 == 0xF0 then some 4
  else none

/-- Further bytes of a character, each of them numbered, before the ones read already. -/
def followingBytes : Nat → List UInt8 → Cursor → Except Fault (List UInt8 × Cursor)
  | 0, bytes, c => .ok (bytes, c)
  | n + 1, bytes, c => do
    let byte ← numberedByte c
    if byte &&& 0xC0 == 0x80 then followingBytes n (byte :: bytes) (c.advance 3)
    else .error .badTag

/-- The bytes of one character written as numbers, the last byte first. -/
def numberedChar (c : Cursor) : Except Fault (List UInt8 × Cursor) := do
  let first ← numberedByte c
  match byteCount first with
  | none => .error .badTag
  | some n => followingBytes (n - 1) [first] (c.advance 3)

/-- The address part of a tag, as bytes, the last byte first. -/
def readAddress (brackets : Bool) : Nat → List UInt8 → Cursor →
    Except Fault (List UInt8 × Cursor)
  | 0, bytes, c => .ok (bytes, c)
  | fuel + 1, bytes, c =>
    match c.peek? with
    | none => .ok (bytes, c)
    | some ch =>
      if ch == '%' then do
        let (more, c) ← numberedChar c
        readAddress brackets fuel (more ++ bytes) c
      else if isNameChar ch || isAddressMark brackets ch then
        readAddress brackets fuel (ch.toNat.toUInt8 :: bytes) c.advance
      else .ok (bytes, c)

/-- The text of some bytes up to the first null byte. Bytes that are no text become a character that
no known address has. -/
def addressText (bytes : List UInt8) : String :=
  (String.fromUTF8? ⟨(bytes.takeWhile (· != 0)).toArray⟩).getD "\uFFFD"

/-- An address of at least one character, of which a numbered null byte and what follows it do not
count in the end. What `head` holds counts as read before; its exclamation mark is not part of the
address. -/
def address (brackets : Bool) (head : List Char) (c : Cursor) :
    Except Fault (String × Cursor) := do
  let start := (head.drop 1).map fun ch => ch.toNat.toUInt8
  let (bytes, c) ← readAddress brackets (c.left + 1) start.reverse c
  if head.isEmpty && bytes.isEmpty then .error .badTag
  else .ok (addressText bytes.reverse, c)

/-- A directive whose percent sign is at the place. -/
def readDirective (c : Cursor) : Except Fault (Token × Cursor) := do
  let (name, c) := c.advance.span isNameChar
  if name.isEmpty || !c.endsWordAt 0 then .error .badDirective
  else
    let (token, c) ←
      if name == "YAML".toList then do
        let (major, c) ← versionNumber (c.skip isSpace)
        if c.peek? != some '.' then .error .badDirective
        else
          let (minor, c) ← versionNumber c.advance
          pure (Token.version major minor, c)
      else if name == "TAG".toList then do
        let (handle, c) ← readHandle true (c.skip isSpace)
        if !c.at? isSpace then .error .badDirective
        else
          let (leading, c) ← address true [] (c.skip isSpace)
          if !c.endsWordAt 0 then .error .badDirective
          else pure (Token.tagHandle (String.ofList handle) leading, c)
      else .error .badDirective
    let c := c.skip isSpace
    let c := if c.peek? == some '#' then c.skip (!isBreak ·) else c
    if !c.atLineEnd then .error .badDirective
    else pure (token, if c.atEnd then c else c.nextLine)

/-- The name of an anchor or alias whose mark is at the place. -/
def readAnchor (c : Cursor) : Except Fault (String × Cursor) :=
  let (name, c) := c.advance.span isNameChar
  let ends := c.endsWordAt 0 || c.at? fun ch =>
    ch == '?' || ch == ':' || ch == ',' || ch == ']' || ch == '}' || ch == '%' || ch == '@' ||
      ch == '`'
  if name.isEmpty || !ends then .error .badAnchor
  else .ok (String.ofList name, c)

/-- A tag whose exclamation mark is at the place: an address between angle brackets, or a handle
and an address. -/
def readTag (inFlow : Bool) (c : Cursor) : Except Fault (Token × Cursor) := do
  let (token, c) ←
    if c.peekAt? 1 == some '<' then do
      let (suffix, c) ← address true [] (c.advance 2)
      if c.peek? != some '>' then .error .badTag
      else pure (Token.tag "" suffix, c.advance)
    else do
      let (handle, c) ← readHandle false c
      if handle.length > 1 && handle.getLast? == some '!' then
        let (suffix, c) ← address false [] c
        pure (Token.tag (String.ofList handle) suffix, c)
      else
        let (suffix, c) ← address false handle c
        pure (if suffix.isEmpty then Token.tag "" "!" else Token.tag "!" suffix, c)
  if c.endsWordAt 0 || (inFlow && c.peek? == some ',') then pure (token, c)
  else .error .badTag

/-- The end of a block: everything is closed and the candidate is given up. -/
def closeAll (l : Lexer) : Except Fault Lexer := do
  let l ← (l.closeTo (-1)).dropCandidate
  .ok { l with keyAllowed := false }

/-- Take one of the marks that stand for themselves. -/
def openFlow (l : Lexer) (t : Token) : Except Fault Lexer := do
  let l ← l.markCandidate
  .ok { (l.emit t).advance with
    candidate := none, levels := l.candidate :: l.levels, keyAllowed := true }

/-- Take a closing bracket. -/
def closeFlow (l : Lexer) (t : Token) : Except Fault Lexer := do
  let l ← l.dropCandidate
  let l := (l.emit t).advance
  match l.levels with
  | [] => .ok { l with keyAllowed := false }
  | candidate :: levels => .ok { l with candidate, levels, keyAllowed := false }

/-- Take a comma. -/
def takeComma (l : Lexer) : Except Fault Lexer := do
  let l ← l.dropCandidate
  .ok { (l.emit .flowEntry).advance with keyAllowed := true }

/-- Take the hyphen of a sequence entry. -/
def takeEntry (l : Lexer) : Except Fault Lexer := do
  if !l.inFlow && !l.keyAllowed then .error .entryNotAllowed
  else
    let l ← (l.openAt l.cursor.column none .blockSequenceStart).dropCandidate
    .ok { (l.emit .blockEntry).advance with keyAllowed := true }

/-- Take the question mark of a key. -/
def takeKey (l : Lexer) : Except Fault Lexer := do
  if !l.inFlow && !l.keyAllowed then .error .keyNotAllowed
  else
    let l ← (l.openAt l.cursor.column none .blockMappingStart).dropCandidate
    .ok { (l.emit .key).advance with keyAllowed := !l.inFlow }

/-- Take the colon of a value. A candidate becomes the key before it. -/
def takeValue (l : Lexer) : Except Fault Lexer := do
  match ← l.validCandidate with
  | some k =>
    let l := (l.insertAt k.position .key).openAt k.column (some k.position) .blockMappingStart
    .ok { (l.emit .value).advance with candidate := none, keyAllowed := false }
  | none =>
    if !l.inFlow && !l.keyAllowed then .error .valueNotAllowed
    else
      let l := l.openAt l.cursor.column none .blockMappingStart
      .ok { (l.emit .value).advance with candidate := none, keyAllowed := !l.inFlow }

/-- Take an anchor, an alias or a tag, each of which may belong to a key. -/
def takeProperty (l : Lexer) (read : Cursor → Except Fault (Token × Cursor)) :
    Except Fault Lexer := do
  let l ← l.markCandidate
  let (t, cursor) ← read l.cursor
  .ok { l.emit t with cursor, keyAllowed := false }

/-- Take a block scalar. -/
def takeBlockScalar (l : Lexer) (literal : Bool) : Except Fault Lexer := do
  let l ← l.dropCandidate
  let (text, cursor) ← Scalar.readBlock literal l.indent l.cursor
  let t := Token.scalar (String.ofList text) (if literal then .literal else .folded)
  .ok { l.emit t with cursor, keyAllowed := true }

/-- Take a plain scalar. If it ended on a later line, a key may begin there. -/
def takePlain (l : Lexer) : Except Fault Lexer := do
  let l ← l.markCandidate
  let (text, broken, cursor) ← Scalar.readPlain l.inFlow l.indent l.cursor
  .ok { l.emit (.scalar (String.ofList text) .plain) with cursor, keyAllowed := broken }

/-- Can a plain scalar begin with the character at the place? -/
def startsPlain (l : Lexer) (ch : Char) : Bool :=
  let marked := ch == '-' || ch == '?' || ch == ':' || ch == ',' || ch == '[' || ch == ']' ||
    ch == '{' || ch == '}' || ch == '#' || ch == '&' || ch == '*' || ch == '!' || ch == '|' ||
    ch == '>' || ch == '\'' || ch == '"' || ch == '%' || ch == '@' || ch == '`'
  let spaceAfter := (l.cursor.peekAt? 1).any isSpace
  (!isSpace ch && !isBreak ch && !marked) || (ch == '-' && !spaceAfter) ||
    (!l.inFlow && (ch == '?' || ch == ':') && !l.cursor.endsWordAt 1)

/-- Take the token at the place, which is not at the end of the text. -/
def take (l : Lexer) (ch : Char) : Except Fault Lexer :=
  let c := l.cursor
  if c.column == 0 && ch == '%' then do
    let l ← l.closeAll
    let (t, cursor) ← readDirective l.cursor
    .ok { l.emit t with cursor }
  else if c.atDocumentMark then do
    let l ← l.closeAll
    .ok ((l.emit (if ch == '-' then .documentStart else .documentEnd)).advance 3)
  else match ch with
    | '[' => l.openFlow .flowSequenceStart
    | '{' => l.openFlow .flowMappingStart
    | ']' => l.closeFlow .flowSequenceEnd
    | '}' => l.closeFlow .flowMappingEnd
    | ',' => l.takeComma
    | _ =>
      if ch == '-' && c.endsWordAt 1 then l.takeEntry
      else if ch == '?' && (l.inFlow || c.endsWordAt 1) then l.takeKey
      else if ch == ':' && (l.inFlow || c.endsWordAt 1) then l.takeValue
      else if ch == '*' then l.takeProperty fun c => do
        let (name, c) ← readAnchor c
        .ok (.alias name, c)
      else if ch == '&' then l.takeProperty fun c => do
        let (name, c) ← readAnchor c
        .ok (.anchor name, c)
      else if ch == '!' then l.takeProperty (readTag l.inFlow)
      else if ch == '|' && !l.inFlow then l.takeBlockScalar true
      else if ch == '>' && !l.inFlow then l.takeBlockScalar false
      else if ch == '\'' then l.takeProperty fun c => do
        let (text, c) ← Scalar.readQuoted true c
        .ok (.scalar (String.ofList text) .singleQuoted, c)
      else if ch == '"' then l.takeProperty fun c => do
        let (text, c) ← Scalar.readQuoted false c
        .ok (.scalar (String.ofList text) .doubleQuoted, c)
      else if l.startsPlain ch then l.takePlain
      else .error .noTokenHere

/-- Take tokens up to the end of the text, and close what is open there. -/
def run (l : Lexer) : Nat → Except Fault (Array Token)
  | 0 => .error .tooLong
  | fuel + 1 => do
    let l := l.toNextToken (l.cursor.left + 1)
    let l := l.closeTo l.cursor.column
    match l.cursor.peek? with
    | none => do
      let l ← l.closeAll
      .ok l.tokens
    | some ch => do
      let l ← l.take ch
      l.run fuel

end Lexer

/-- The tokens of a text. Every token takes at least one character, so the length of the text bounds
their number. -/
def tokens (text : String) : Except Fault (List Token) := do
  if text.toList.any (!isAllowed ·) then .error .forbiddenCharacter
  else
    let found ← Lexer.run { cursor := Cursor.ofText text } (text.length + 2)
    .ok found.toList

end CoopSched.Yaml
