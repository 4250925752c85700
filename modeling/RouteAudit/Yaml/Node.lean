/-
  Yaml/Node.lean --- YAML as it is written.

  WHAT THIS FILE IS FOR.  In a node a scalar is still the text that was written, with or
  without quotes.  A configuration can be decoded from a node as well as from a value: a
  text is then taken as it was written, so that `1` is a text where a text is wanted.
-/
import RouteAudit.Decode.Format
import RouteAudit.Word
import RouteAudit.Yaml.Scalar

set_option autoImplicit false

namespace RouteAudit.Yaml

open RouteAudit.Decode

/-- A written value. -/
inductive Node where
  | scalar (text : String) (isQuoted : Bool)
  | list (items : List Node)
  | map (entries : List (Node × Node))
  deriving Repr, Inhabited

namespace Node

/-- Nothing where a value could be. -/
def empty : Node := .scalar "" false

/-! ## Values -/

/-- Whether two keys of a mapping are the same. -/
def isSameKey (a b : Yaml) : Bool :=
  match a, b with
  | .float x, .float y => x == y || x.isNaN && y.isNaN
  | _, _ => a == b

mutual

/-- The value of a node; a mapping must not have a key twice. -/
def value : Node → Except Problem Yaml
  | .scalar text true => .ok (.string text)
  | .scalar text false => ofWord text
  | .list items => return .list (← values items)
  | .map entries => return .map (← valuesOfEntries [] entries)

/-- The values of the items of a list. -/
def values : List Node → Except Problem (List Yaml)
  | [] => .ok []
  | item :: rest => return (← item.value) :: (← values rest)

/-- The values of the entries of a mapping behind entries with other keys. -/
def valuesOfEntries (keys : List Yaml) : List (Node × Node) → Except Problem (List (Yaml × Yaml))
  | [] => .ok []
  | (key, value) :: rest => do
    let key ← key.value
    if keys.any (isSameKey key) then throw (.format "duplicate entry in a mapping")
    return (key, ← value.value) :: (← valuesOfEntries (key :: keys) rest)

end

/-! ## Decoding -/

/-- A node as a problem names it. -/
def described : Node → String
  | .scalar text _ => "string " ++ Text.showQuoted text
  | .list _ => "sequence"
  | .map _ => "map"

/-- A node of another kind than the wanted one. -/
def unlike {α : Type} (n : Node) (wanted : String) : Except Problem α :=
  .error (.type n.described wanted)

/-- Whether nothing is written. -/
def isEmpty : Node → Bool
  | .scalar text isQuoted => text.isEmpty && !isQuoted
  | _ => false

/-- What a word without quotes stands for. -/
def wordOf {α : Type} (n : Node) (read : String → Option α) (wanted : String) : Except Problem α :=
  match n with
  | .scalar text false => (read text).elim (n.unlike wanted) .ok
  | _ => n.unlike wanted

/-- How data are read from nodes. -/
def format : Format Node where
  isNull
    | .scalar text false => isNullWord text
    | _ => false
  bool n := n.wordOf boolWord? "a boolean"
  int n := n.wordOf (fun word => (wholeWord? word).filter Word.fits) "i64"
  float n := n.wordOf floatWord? "f64"
  text wanted
    | .scalar text _ => .ok text
    | n => n.unlike wanted
  items
    | .list items => .ok items
    | n => if n.isEmpty then .ok [] else n.unlike "a sequence"
  contents wanted
    | .map entries =>
      .ok (.named (entries.map fun (key, value) =>
        (match key with
          | .scalar text _ => .ok text
          | n => n.unlike "field identifier", value)))
    | n => if n.isEmpty then .ok (.named []) else n.unlike wanted

end Node

end RouteAudit.Yaml
