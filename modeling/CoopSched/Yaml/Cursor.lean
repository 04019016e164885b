/-!
# Reading position

A place in a text, with the line and column that indentation is measured by, and the character
classes that the syntax is told apart by.
-/

namespace CoopSched.Yaml

/-- A space or a tab. -/
def isSpace (c : Char) : Bool := c == ' ' || c == '\t'

/-- A character that ends a line. -/
def isBreak (c : Char) : Bool :=
  c == '\n' || c == '\r' || c.toNat == 0x85 || c.toNat == 0x2028 || c.toNat == 0x2029

/-- A letter, digit, underscore or hyphen: the characters of names. -/
def isNameChar (c : Char) : Bool := c.isAlphanum || c == '_' || c == '-'

/-- May the character stand in a document at all? -/
def isAllowed (c : Char) : Bool :=
  let n := c.toNat
  n == 0x09 || n == 0x0A || n == 0x0D || (0x20 ≤ n && n ≤ 0x7E) || n == 0x85 ||
    (0xA0 ≤ n && n ≤ 0xD7FF) || (0xE000 ≤ n && n ≤ 0xFFFD) || 0x10000 ≤ n

/-- The mark that some writers put before a text, and that joined texts have before a line. -/
def byteOrderMark : Char := '\uFEFF'

/-- A place in a text: what follows it, and where it is. -/
structure Cursor where
  rest : List Char
  /-- How many bytes of UTF-8 the whole text takes. -/
  size : Nat
  /-- How many of them come before the place. -/
  index : Nat := 0
  line : Nat := 0
  column : Nat := 0
  deriving Repr

/-- How many bytes a run of characters takes in UTF-8. -/
def byteLength (run : List Char) : Nat := run.foldl (fun n c => n + c.utf8Size) 0

namespace Cursor

/-- The place before the first character. -/
def ofText (text : String) : Cursor := { rest := text.toList, size := text.utf8ByteSize }

/-- How many bytes follow the place, and so at least how many characters. -/
def left (c : Cursor) : Nat := c.size - c.index

/-- The character at the place. -/
def peek? (c : Cursor) : Option Char := c.rest.head?

/-- The character a few places on. -/
def peekAt? (c : Cursor) (n : Nat) : Option Char := c.rest[n]?

/-- Does the character at the place belong to a class? -/
def at? (c : Cursor) (p : Char → Bool) : Bool := c.rest.head?.any p

/-- Is the place at the end of the text? -/
def atEnd (c : Cursor) : Bool := c.rest.isEmpty

/-- Is there a space, a line break or the end of the text a few places on? -/
def endsWordAt (c : Cursor) (n : Nat) : Bool :=
  match c.peekAt? n with
  | none => true
  | some ch => isSpace ch || isBreak ch

/-- Is there a line break or the end of the text at the place? -/
def atLineEnd (c : Cursor) : Bool := c.atEnd || c.at? isBreak

/-- The place a few characters on in the same line. -/
def advance (c : Cursor) (n : Nat := 1) : Cursor :=
  let passed := c.rest.take n
  { c with
    rest := c.rest.drop n
    index := c.index + byteLength passed
    column := c.column + passed.length }

/-- The place after a line break; a carriage return takes a following line feed with it. -/
def nextLine (c : Cursor) : Cursor :=
  match c.rest with
  | [] => c
  | '\r' :: '\n' :: rest =>
    { c with rest, index := c.index + 2, line := c.line + 1, column := 0 }
  | ch :: rest =>
    { c with rest, index := c.index + ch.utf8Size, line := c.line + 1, column := 0 }

/-- What the line break at the place counts as in a scalar: a line feed, or one of the two
separators that keep their own form. -/
def breakText (c : Cursor) : List Char :=
  match c.rest with
  | [] => []
  | ch :: _ => if ch.toNat == 0x2028 || ch.toNat == 0x2029 then [ch] else ['\n']

/-- The longest run of characters of a class that holds no line break, and the place after it. -/
def span (c : Cursor) (p : Char → Bool) : List Char × Cursor :=
  let run := c.rest.takeWhile p
  (run, c.advance run.length)

/-- The place after such a run. -/
def skip (c : Cursor) (p : Char → Bool) : Cursor := (c.span p).2

/-- Does a line of three equal characters that separates documents begin here? -/
def atDocumentMark (c : Cursor) : Bool :=
  c.column == 0 && (c.rest.take 3 == ['-', '-', '-'] || c.rest.take 3 == ['.', '.', '.']) &&
    c.endsWordAt 3

end Cursor

end CoopSched.Yaml
