/-
  Syntax/Name.lean --- namespaced names.

  WHAT THIS FILE IS FOR.  A class may be named by its last segment, relative to
  its namespace, through an import, or absolutely.  `qualify` turns each of these
  spellings into the full name; `shortName` takes the last segment.
-/
import RouteAudit.Text.Split

set_option autoImplicit false

namespace RouteAudit.Syntax

/-! ## Segments -/

/-- The backslash that separates the segments of a name. -/
def separator : Char := '\\'

/-- The characters after the last separator; all of them if there is none. -/
def lastSegment (name : List Char) : List Char :=
  (name.reverse.takeWhile (· ≠ separator)).reverse

/-- The last segment of a possibly namespaced name. -/
def shortName (name : String) : String :=
  String.ofList (lastSegment name.toList)

/-- The name without the separators it starts with. -/
def trimLeading (name : String) : String :=
  String.ofList (name.toList.dropWhile (· = separator))

/-- Nothing but separators is dropped, and what is left starts with none. -/
theorem trimLeading_eq_iff {name trimmed : String} :
    trimLeading name = trimmed ↔
      (∃ k, name.toList = List.replicate k separator ++ trimmed.toList) ∧
        trimmed.toList.head? ≠ some separator := by
  constructor
  · rintro rfl
    rw [trimLeading, String.toList_ofList]
    refine ⟨⟨(name.toList.takeWhile (· = separator)).length, ?_⟩, fun hhead => ?_⟩
    · have hdropped : ∀ c ∈ name.toList.takeWhile (· = separator), c = separator :=
        fun c hc => of_decide_eq_true (List.all_eq_true.mp List.all_takeWhile c hc)
      rw [← List.eq_replicate_of_mem hdropped, List.takeWhile_append_dropWhile]
    · have hkept := List.head?_dropWhile_not (· = separator) name.toList
      rw [hhead] at hkept
      exact absurd hkept (by decide)
  · rintro ⟨⟨k, hname⟩, hhead⟩
    rw [trimLeading, hname, List.dropWhile_append_of_pos (by simp)]
    cases hrest : trimmed.toList with
    | nil => rw [List.dropWhile_nil, ← hrest, String.ofList_toList]
    | cons c rest =>
      rw [hrest, List.head?_cons, ne_eq, Option.some.injEq] at hhead
      rw [List.dropWhile_cons_of_neg (by simpa using hhead), ← hrest, String.ofList_toList]

/-- Whether the name holds a separator. -/
def isNamespaced (name : String) : Bool :=
  name.toList.contains separator

/-! ## Case -/

/-- A text with its ASCII capitals lowered. -/
def foldCase (s : String) : String :=
  String.ofList (s.toList.map Char.toLower)

/-- Equality up to ASCII case, which is how PHP compares class names. -/
def sameName (a b : String) : Bool :=
  foldCase a == foldCase b

theorem sameName_refl (a : String) : sameName a a = true := by
  simp [sameName]

theorem sameName_comm (a b : String) : sameName a b = sameName b a := by
  simp only [sameName, Bool.beq_comm]

/-! ## Imports -/

/-- One imported class: the name it is known by and its full name. -/
structure Alias where
  name : String
  target : String
  deriving DecidableEq, Repr, Inhabited

/-- The full name of `name` as written in `namespace` under the given imports.  A
leading separator marks a name that is full already; otherwise the first import whose
name is the head of `name` decides, and without one the namespace is put in front. -/
def qualify (name : String) (space : String) (imports : List Alias) : String :=
  match name.toList with
  | '\\' :: absolute => String.ofList absolute
  | chars =>
    let (head, rest) := Text.splitOnce separator chars
    match imports.find? (fun a => sameName a.name (String.ofList head)), rest with
    | some found, some rest => found.target ++ "\\" ++ String.ofList rest
    | some found, none => found.target
    | none, _ => if space.isEmpty then name else space ++ "\\" ++ name

end RouteAudit.Syntax
