/-
  Decode/Format.lean --- decoding records from values of a data format.

  WHAT THIS FILE IS FOR.  A format says how the basic kinds of data are read from its
  values.  On top of it records are decoded field by field: the fields that are there
  are checked in their order and the first bad one decides; only then is the record
  built, and a field that is missing is noticed.
-/
import RouteAudit.Decode.Problem

set_option autoImplicit false

namespace RouteAudit.Decode

/-! ## Formats -/

/-- The contents of a record: fields by name, or values in the order of the fields. -/
inductive Contents (V : Type) where
  | named (members : List (Except Problem String × V))
  | listed (items : List V)

/-- How data are read from the values of a format; the texts say what was wanted. -/
structure Format (V : Type) where
  isNull : V → Bool
  bool : V → Except Problem Bool
  /-- a whole number of 64 bits with sign -/
  int : V → Except Problem Int
  float : V → Except Problem Float
  text : String → V → Except Problem String
  items : V → Except Problem (List V)
  contents : String → V → Except Problem (Contents V)

namespace Format

variable {V : Type}

/-- A text of any content. -/
def string (f : Format V) : V → Except Problem String := f.text "a string"

/-- A value, or nothing for null. -/
def option {α : Type} (f : Format V) (decode : V → Except Problem α) (v : V) :
    Except Problem (Option α) :=
  if f.isNull v then .ok none else (decode v).map some

/-- A list of values. -/
def list {α : Type} (f : Format V) (decode : V → Except Problem α) (v : V) :
    Except Problem (List α) := do
  (← f.items v).mapM decode

end Format

/-! ## Records -/

/-- The fields of a record and how it is built from them.  While values come in, the
slots hold what was decoded so far. -/
structure Record (V α : Type) where
  /-- the fields in order, each with other names for it -/
  fields : List (String × List String)
  Slots : Type
  empty : Slots
  isFilled : String → Slots → Bool
  fill : String → V → Slots → Except Problem Slots
  build : Slots → Except Problem α

namespace Record

variable {V α β : Type}

/-- The field that a name stands for. -/
def field? (r : Record V α) (name : String) : Option String :=
  (r.fields.find? fun field => field.1 == name || field.2.contains name).map (·.1)

/-- The record of no fields. -/
def pure (a : α) : Record V α where
  fields := []
  Slots := Unit
  empty := ()
  isFilled _ _ := false
  fill _ _ slots := .ok slots
  build _ := .ok a

/-- Give a function that is built its argument from further fields. -/
def apply (r : Record V (α → β)) (s : Record V α) : Record V β where
  fields := r.fields ++ s.fields
  Slots := r.Slots × s.Slots
  empty := (r.empty, s.empty)
  isFilled name slots := r.isFilled name slots.1 || s.isFilled name slots.2
  fill name v slots := do
    if r.fields.any (·.1 == name) then return (← r.fill name v slots.1, slots.2)
    else return (slots.1, ← s.fill name v slots.2)
  build slots := do
    let f ← r.build slots.1
    f <$> s.build slots.2

/-- A single field; `absent` is what it counts as where it is not there. -/
def field (name : String) (others : List String) (decode : V → Except Problem α)
    (absent : Except Problem α) : Record V α where
  fields := [(name, others)]
  Slots := Option α
  empty := none
  isFilled asked slot := asked == name && slot.isSome
  fill _ v _ := (decode v).map some
  build
    | some a => .ok a
    | none => absent

/-- A field that must be there. -/
def required (name : String) (decode : V → Except Problem α) : Record V α :=
  field name [] decode (.error (.missingField name))

/-- A field with a value of its own where it is not there. -/
def optional (name : String) (absent : α) (decode : V → Except Problem α)
    (others : List String := []) : Record V α :=
  field name others decode (.ok absent)

/-- Records are put together as `Name.mk <$> field <*> field`. -/
instance : Applicative (Record V) where
  pure := pure
  seq r s := r.apply (s ())

/-- What to do with a field that the record does not have. -/
inductive Strangers where
  | ignored
  | refused
  deriving DecidableEq, Repr

/-- Take in named values in their order. -/
def takeNamed (r : Record V α) (strangers : Strangers) :
    r.Slots → List (Except Problem String × V) → Except Problem r.Slots
  | slots, [] => .ok slots
  | slots, (key, v) :: rest => do
    let key ← key
    match r.field? key with
    | some name =>
      if r.isFilled name slots then throw (.duplicateField name)
      takeNamed r strangers (← r.fill name v slots) rest
    | none =>
      if strangers = .refused then throw (.unknownField key (r.fields.map (·.1)))
      takeNamed r strangers slots rest

/-- How many values a record of so many fields wants. -/
def arity (type : String) (count : Nat) : String :=
  type ++ " with " ++ toString count ++ (if count = 1 then " element" else " elements")

/-- Take in values in the order of the fields; `all` is how many there are. -/
def takeListed (r : Record V α) (type : String) (all : Nat) :
    r.Slots → List (String × List String) → List V → Except Problem r.Slots
  | slots, [], [] => .ok slots
  | _, [], _ :: _ => .error (.length all "fewer elements in array")
  | _, _ :: _, [] => .error (.length all (arity type r.fields.length))
  | slots, (name, _) :: more, v :: rest => do
    takeListed r type all (← r.fill name v slots) more rest

/-- Decode a record; `type` is what it is called in problems. -/
def decode (r : Record V α) (f : Format V) (type : String) (v : V)
    (strangers : Strangers := .ignored) : Except Problem α := do
  match ← f.contents type v with
  | .named members => r.build (← takeNamed r strangers r.empty members)
  | .listed items => r.build (← takeListed r type items.length r.empty r.fields items)

end Record

end RouteAudit.Decode
