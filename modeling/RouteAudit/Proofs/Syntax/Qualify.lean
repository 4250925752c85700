/-
  Proofs/Syntax/Qualify.lean --- the spellings of a full name.

  WHAT THIS FILE IS FOR.  One class may be written in many ways: in full behind a leading
  backslash, by the alias of an import of it or of a namespace above it, or relative to the
  namespace of the file.  `Spells` lists these ways from the side of the full name, without
  saying how a written name is taken apart, and `qualify` leads from each of them back to it.

  Main statement: `Spells.qualify_eq`.
-/
import RouteAudit.Proofs.Syntax.Name
import RouteAudit.Proofs.Text.Split

set_option autoImplicit false

namespace RouteAudit.Syntax

/-! ## Full names -/

/-- A full name has no empty segments, so it neither starts nor ends with a separator. -/
def IsFullName (name : String) : Prop :=
  ∀ segment ∈ Text.splitAll separator name.toList, segment ≠ []

instance (name : String) : Decidable (IsFullName name) :=
  inferInstanceAs (Decidable (∀ segment ∈ Text.splitAll separator name.toList, _))

/-- A name with what follows it behind a separator, if anything does. -/
def joined (name : String) : Option String → String
  | none => name
  | some rest => name ++ "\\" ++ rest

section FullName

variable {name rest : String}

theorem toList_joined_some : (joined name (some rest)).toList =
    name.toList ++ separator :: rest.toList := by
  rw [joined, String.toList_append, String.toList_append, List.append_assoc]
  rfl

theorem IsFullName.of_joined (h : IsFullName (joined name (some rest))) : IsFullName rest := by
  intro segment hsegment
  refine h segment ?_
  rw [toList_joined_some, Text.splitAll_append]
  exact List.mem_append_right _ hsegment

/-- A name that starts with an alias does not start with a separator. -/
theorem joined_not_absolute (hne : name ≠ "") (hname : isNamespaced name = false)
    (rest : Option String) (absolute : List Char) :
    (joined name rest).toList ≠ separator :: absolute := by
  obtain ⟨c, cs, hchars⟩ : ∃ c cs, name.toList = c :: cs :=
    List.exists_cons_of_ne_nil (by simpa using hne)
  have hc : c ≠ separator := by
    rintro rfl
    simp [isNamespaced, hchars] at hname
  intro heq
  cases rest with
  | none =>
    rw [joined, hchars] at heq
    exact hc (List.cons.inj heq).1
  | some rest =>
    rw [toList_joined_some, hchars] at heq
    exact hc (List.cons.inj heq).1

theorem IsFullName.not_absolute (h : IsFullName name) (absolute : List Char) :
    name.toList ≠ separator :: absolute := by
  intro heq
  refine h [] ?_ rfl
  rw [heq, Text.splitAll, if_pos rfl]
  exact List.mem_cons_self

end FullName

/-! ## Spellings -/

/-- The first import that is known by a name, up to case. -/
def importOf? (imports : List Alias) (name : String) : Option Alias :=
  imports.find? fun a => sameName a.name name

/-- What is written in a namespace under some imports for a full name. -/
inductive Spells (space : String) (imports : List Alias) : String → String → Prop where
  /-- the full name behind a backslash -/
  | absolute (full : String) : Spells space imports ("\\" ++ full) full
  /-- an alias in the place of what it stands for -/
  | imported (shown : String) (a : Alias) (rest : Option String) :
      shown ≠ "" → isNamespaced shown = false → importOf? imports shown = some a →
      Spells space imports (joined shown rest) (joined a.target rest)
  /-- what follows the namespace, unless its head is imported -/
  | relative (head : String) (rest : Option String) :
      isNamespaced head = false → importOf? imports head = none → space ≠ "" →
      Spells space imports (joined head rest) (joined space (some (joined head rest)))
  /-- the full name outside of all namespaces, unless its head is imported -/
  | unspaced (head : String) (rest : Option String) :
      isNamespaced head = false → importOf? imports head = none → space = "" →
      Spells space imports (joined head rest) (joined head rest)

section Qualify

variable {head space : String} {imports : List Alias}

theorem splitOnce_joined (h : isNamespaced head = false) (rest : Option String) :
    Text.splitOnce separator (joined head rest).toList = (head.toList, rest.map (·.toList)) := by
  have hnot : separator ∉ head.toList := by simpa [isNamespaced] using h
  cases rest with
  | none => exact Text.splitOnce_of_not_mem hnot
  | some rest =>
    rw [toList_joined_some, Text.splitOnce_append hnot]
    rfl

theorem qualify_absolute (full : String) : qualify ("\\" ++ full) space imports = full := by
  have hchars : ("\\" ++ full).toList = '\\' :: full.toList := by
    rw [String.toList_append]
    rfl
  simp [qualify, hchars]

/-- What is not written in full is decided by the import of its head. -/
theorem qualify_joined {rest : Option String} (hhead : isNamespaced head = false)
    (hwritten : ∀ absolute, (joined head rest).toList ≠ separator :: absolute) :
    qualify (joined head rest) space imports =
      match importOf? imports head with
      | some a => joined a.target rest
      | none => if space.isEmpty then joined head rest
          else joined space (some (joined head rest)) := by
  unfold qualify
  split
  · rename_i absolute heq
    exact absurd heq (hwritten absolute)
  · simp only [splitOnce_joined hhead, String.ofList_toList, importOf?]
    cases imports.find? fun a => sameName a.name head with
    | none => rfl
    | some a =>
      cases rest with
      | none => rfl
      | some rest => simp [joined]

/-- Whatever a full name is spelled like, it is the one that is meant. -/
theorem Spells.qualify_eq {written full : String} (h : Spells space imports written full)
    (hfull : IsFullName full) : qualify written space imports = full := by
  cases h with
  | absolute => exact qualify_absolute full
  | imported shown a rest hne hshown hfound =>
    rw [qualify_joined hshown (joined_not_absolute hne hshown rest), hfound]
  | relative head rest hhead hnone hspace =>
    rw [qualify_joined hhead hfull.of_joined.not_absolute, hnone]
    simp [hspace]
  | unspaced head rest hhead hnone hspace =>
    rw [qualify_joined hhead hfull.not_absolute, hnone]
    simp [hspace]

end Qualify

end RouteAudit.Syntax
