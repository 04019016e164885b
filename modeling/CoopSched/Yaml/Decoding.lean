import CoopSched.Yaml.Node
import CoopSched.Yaml.Number
/-!
# Values from nodes

Reading texts, numbers, lists and records out of a document. Aliases are followed, a hundred times at
most for each unit of the document. An empty plain scalar is an empty list and an empty record.
-/

namespace CoopSched.Yaml

/-- Reading values from a document, counting the aliases that may still be followed. -/
abbrev Decoding := StateT Nat (Except Fault)

namespace Decoding

/-- Refuse the document. -/
def refuse {α : Type} (f : Fault) : Decoding α := fun _ => .error f

/-- The node itself, or the one an alias stands for. -/
def follow (d : Document) (n : Node) : Decoding Node := do
  match n with
  | .alias target =>
    match ← get with
    | 0 => refuse .tooManyAliases
    | left + 1 =>
      set left
      match d.target? target with
      | some found => pure found
      | none => refuse .unknownAnchor
  | n => pure n

/-- A text: any scalar. -/
def text (d : Document) (n : Node) : Decoding String := do
  match ← follow d n with
  | .scalar text .. => pure text
  | _ => refuse .wrongKind

/-- The text of a scalar that may be a number: a plain one, or a literal block marked as one. -/
def numberText (d : Document) (n : Node) : Decoding String := do
  match ← follow d n with
  | .scalar text .plain _ => pure text
  | .scalar text .literal (some "tag:yaml.org,2002:int") => pure text
  | _ => refuse .wrongKind

/-- A natural number of 32 bits. -/
def natural (d : Document) (n : Node) : Decoding Nat := do
  match unsigned? (← numberText d n) with
  | some value => if value < UInt32.size then pure value else refuse .badNumber
  | none => refuse .wrongKind

/-- An integer of 32 bits. -/
def integer (d : Document) (n : Node) : Decoding Int := do
  match signed? (← numberText d n) with
  | some value =>
    if Int32.minValue.toInt ≤ value ∧ value ≤ Int32.maxValue.toInt then pure value
    else refuse .badNumber
  | none => refuse .wrongKind

/-- A list of values. -/
def list {α : Type} (item : Document → Node → Decoding α) (d : Document) (n : Node) :
    Decoding (List α) := do
  match ← follow d n with
  | .sequence items => items.mapM (item d)
  | .scalar "" .plain _ => pure []
  | _ => refuse .wrongKind

/-- The fields of a record by name, in the order written. -/
def fields (d : Document) (n : Node) : Decoding (List (String × Node)) := do
  match ← follow d n with
  | .mapping pairs => pairs.mapM fun (key, value) => return (← text d key, value)
  | .scalar "" .plain _ => pure []
  | _ => refuse .wrongKind

/-- The value of a field, the default if it is missing. A field may not be given twice. -/
def field {α : Type} (value : Document → Node → Decoding α) (default : α) (d : Document)
    (fs : List (String × Node)) (name : String) : Decoding α :=
  match fs.filter (·.1 == name) with
  | [] => pure default
  | [(_, n)] => value d n
  | _ => refuse (.repeatedField name)

end Decoding

end CoopSched.Yaml
