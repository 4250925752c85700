/-
  Proofs/Json/Storage.lean --- JSON values that were stored.

  WHAT THIS FILE IS FOR.  Whoever stores JSON values may give the members of an object
  another order, and a number that is not finite has no JSON form at all.  All else stays.
  What was encoded is decoded from the stored value as from the written one, if the records
  are those of `Proofs/Decode/Record.lean` and each object has a key only once.

  Main statements: `faithful_sorted`, `Faithful.decode_object`.
-/
import Mathlib.Data.List.Nodup
import RouteAudit.Json.Decode
import RouteAudit.Proofs.Decode.Record

set_option autoImplicit false

namespace RouteAudit.Json

open RouteAudit.Decode

/-! ## Storing -/

/-- Storing leaves a value as it is, apart from numbers that are not finite, numbers beyond a
word, and the order of the members of an object with distinct keys. -/
structure Faithful (store : Json → Json) : Prop where
  null : store .null = .null
  bool (b : Bool) : store (.bool b) = .bool b
  int {n : Int} : Word.fits n = true → store (.int n) = .int n
  float {x : Float} : x.isFinite = true → store (.float x) = .float x
  string (s : String) : store (.string s) = .string s
  array (items : List Json) : store (.array items) = .array (items.map store)
  object {members : List (String × Json)} : (members.map Prod.fst).Nodup →
    ∃ stored, store (.object members) = .object stored ∧
      stored.Perm (members.map fun m => (m.1, store m.2))

theorem faithful_id : Faithful id where
  null := rfl
  bool _ := rfl
  int _ := rfl
  float _ := rfl
  string _ := rfl
  array items := by rw [List.map_id]; rfl
  object {members} _ := ⟨members, rfl, by simp⟩

/-- What was stored may be stored again elsewhere. -/
theorem Faithful.comp {store again : Json → Json} (ha : Faithful again) (hs : Faithful store) :
    Faithful (again ∘ store) where
  null := by rw [Function.comp_apply, hs.null, ha.null]
  bool b := by rw [Function.comp_apply, hs.bool, ha.bool]
  int h := by rw [Function.comp_apply, hs.int h, ha.int h]
  float h := by rw [Function.comp_apply, hs.float h, ha.float h]
  string s := by rw [Function.comp_apply, hs.string, ha.string]
  array items := by rw [Function.comp_apply, hs.array, ha.array, List.map_map]
  object {members} h := by
    obtain ⟨stored, hstored, hperm⟩ := hs.object h
    have hkeys : (stored.map Prod.fst).Nodup := by
      refine (hperm.map Prod.fst).symm.nodup ?_
      simpa [Function.comp_def] using h
    obtain ⟨last, hlast, hagain⟩ := ha.object hkeys
    refine ⟨last, by rw [Function.comp_apply, hstored, hlast], hagain.trans ?_⟩
    simpa [Function.comp_def] using hperm.map fun m => (m.1, again m.2)

/-! ## Members in key order -/

theorem insertMember_perm {α : Type} {key : String} {value : α} {members : List (String × α)}
    (h : key ∉ members.map Prod.fst) :
    (insertMember key value members).Perm ((key, value) :: members) := by
  induction members with
  | nil => exact .refl _
  | cons m members ih =>
    obtain ⟨hne, hrest⟩ := not_or.mp (mt List.mem_cons.mpr h)
    rw [insertMember, if_neg hne]
    split
    · exact .refl _
    · exact ((ih hrest).cons m).trans (.swap ..)

theorem sortMembers_perm {α : Type} {members : List (String × α)}
    (h : (members.map Prod.fst).Nodup) : (sortMembers members).Perm members := by
  -- the members so far stand in front, in whatever order
  suffices hfold : ∀ done : List (String × α), ((done ++ members).map Prod.fst).Nodup →
      (members.foldl (fun sorted m => insertMember m.1 m.2 sorted) done).Perm
        (done ++ members) from hfold [] h
  clear h
  induction members with
  | nil =>
    intro done _
    rw [List.append_nil, List.foldl_nil]
  | cons m members ih =>
    intro done hdone
    have hmove : (done ++ m :: members).Perm (m :: done ++ members) := List.perm_middle
    have hnodup := (hmove.map Prod.fst).nodup hdone
    have hinsert : (insertMember m.1 m.2 done).Perm (m :: done) := by
      refine insertMember_perm fun hmem => ?_
      rw [List.cons_append, List.map_cons, List.nodup_cons, List.map_append] at hnodup
      exact hnodup.1 (List.mem_append_left _ hmem)
    have happend := hinsert.append_right members
    exact ((ih _ ((happend.map Prod.fst).symm.nodup hnodup)).trans happend).trans hmove.symm

theorem sortedItems_eq_map (items : List Json) : sortedItems items = items.map sorted := by
  induction items with
  | nil => rfl
  | cons item items ih => rw [sortedItems, ih, List.map_cons]

theorem sortedMembers_eq_map (members : List (String × Json)) :
    sortedMembers members = members.map fun m => (m.1, m.2.sorted) := by
  induction members with
  | nil => rfl
  | cons m members ih => rw [sortedMembers, ih, List.map_cons]

theorem faithful_sorted : Faithful sorted where
  null := by rw [sorted]
  bool _ := by rw [sorted]
  int _ := by rw [sorted]
  float _ := by rw [sorted]
  string _ := by rw [sorted]
  array items := by rw [sorted, sortedItems_eq_map]
  object {members} h := by
    refine ⟨_, by rw [sorted], ?_⟩
    rw [sortedMembers_eq_map]
    exact sortMembers_perm (by simpa [Function.comp_def] using h)

/-! ## Depth -/

theorem depth_lt_of_mem_items {item : Json} {items : List Json} (h : item ∈ items) :
    item.depth < (Json.array items).depth := by
  rw [depth, Nat.lt_succ_iff]
  induction items with
  | nil => cases h
  | cons first items ih =>
    rw [depthOfItems]
    obtain rfl | h := List.mem_cons.mp h
    · exact Nat.le_max_left ..
    · exact Nat.le_trans (ih h) (Nat.le_max_right ..)

theorem depth_lt_of_mem_members {m : String × Json} {members : List (String × Json)}
    (h : m ∈ members) : m.2.depth < (Json.object members).depth := by
  rw [depth, Nat.lt_succ_iff]
  induction members with
  | nil => cases h
  | cons first members ih =>
    rw [depthOfMembers]
    obtain rfl | h := List.mem_cons.mp h
    · exact Nat.le_max_left ..
    · exact Nat.le_trans (ih h) (Nat.le_max_right ..)

/-! ## Decoding stored values -/

theorem mapM_eq_ok {ε α β : Type} {decode : Json → Except ε β} {value : α → Json}
    {result : α → β} {xs : List α} (h : ∀ x ∈ xs, decode (value x) = .ok (result x)) :
    (xs.map value).mapM decode = .ok (xs.map result) := by
  induction xs with
  | nil => rfl
  | cons x xs ih =>
    obtain ⟨hx, hxs⟩ := List.forall_mem_cons.mp h
    rw [List.map_cons, List.mapM_cons, hx, ih hxs]
    rfl

namespace Faithful

variable {store : Json → Json} (hs : Faithful store) {α β : Type}

include hs

theorem format_string (s : String) : format.string (store (.string s)) = .ok s := by
  rw [hs.string]
  rfl

theorem format_bool (b : Bool) : format.bool (store (.bool b)) = .ok b := by
  rw [hs.bool]
  rfl

theorem format_int {n : Int} (h : Word.fits n = true) : format.int (store (.int n)) = .ok n := by
  rw [hs.int h]
  exact if_pos h

theorem format_float {x : Float} (h : x.isFinite = true) :
    format.float (store (.float x)) = .ok x := by
  rw [hs.float h]
  rfl

theorem format_option {encode : α → Json} {decode : Json → Except Problem α} {o : Option α}
    (h : ∀ a ∈ o, format.isNull (store (encode a)) = false ∧ decode (store (encode a)) = .ok a) :
    format.option decode (store (.ofOption encode o)) = .ok o := by
  cases o with
  | none =>
    rw [ofOption, hs.null]
    rfl
  | some a =>
    obtain ⟨hnull, hdecode⟩ := h a rfl
    simp [ofOption, Format.option, hnull, hdecode, Except.map]

theorem format_option_int {o : Option Int} (h : ∀ n ∈ o, Word.fits n = true) :
    format.option format.int (store (.ofOption .int o)) = .ok o := by
  refine hs.format_option fun n hn => ⟨?_, hs.format_int (h n hn)⟩
  rw [hs.int (h n hn)]
  rfl

theorem format_option_string (o : Option String) :
    format.option format.string (store (.ofOption .string o)) = .ok o := by
  refine hs.format_option fun s _ => ⟨?_, hs.format_string s⟩
  rw [hs.string]
  rfl

theorem format_option_bool (o : Option Bool) :
    format.option format.bool (store (.ofOption .bool o)) = .ok o := by
  refine hs.format_option fun b _ => ⟨?_, hs.format_bool b⟩
  rw [hs.bool]
  rfl

theorem format_list {encode : α → Json} {decode : Json → Except Problem β} {result : α → β}
    {xs : List α} (h : ∀ x ∈ xs, decode (store (encode x)) = .ok (result x)) :
    format.list decode (store (.ofList encode xs)) = .ok (xs.map result) := by
  rw [ofList, hs.array, List.map_map]
  exact mapM_eq_ok h

theorem format_list_same {encode : α → Json} {decode : Json → Except Problem α} {xs : List α}
    (h : ∀ x ∈ xs, decode (store (encode x)) = .ok x) :
    format.list decode (store (.ofList encode xs)) = .ok xs := by
  have hread : format.list decode (store (.ofList encode xs)) = .ok (xs.map id) :=
    hs.format_list h
  rwa [List.map_id] at hread

theorem exists_object {members : List (String × Json)} (hkeys : (members.map Prod.fst).Nodup) :
    ∃ stored, store (.object members) = .object stored := by
  obtain ⟨stored, hstored, -⟩ := hs.object hkeys
  exact ⟨stored, hstored⟩

theorem depth_lt_of_mem_items {item : Json} {items : List Json} (h : item ∈ items) :
    (store item).depth < (store (.array items)).depth := by
  rw [hs.array]
  exact Json.depth_lt_of_mem_items (List.mem_map_of_mem h)

theorem depth_lt_of_mem_members {m : String × Json} {members : List (String × Json)}
    (hkeys : (members.map Prod.fst).Nodup) (h : m ∈ members) :
    (store m.2).depth < (store (.object members)).depth := by
  obtain ⟨stored, hstored, hperm⟩ := hs.object hkeys
  rw [hstored]
  exact Json.depth_lt_of_mem_members (hperm.mem_iff.mpr (List.mem_map_of_mem h))

/-- A stored object is decoded as what a record is built as from its members, each stored. -/
theorem decode_object {r : Record Json α} {type : String} {members : List (String × Json)} {a : α}
    (hkeys : (members.map Prod.fst).Nodup)
    (hbuilds : r.Builds (members.map fun m => (m.1, store m.2)) a) :
    r.decode format type (store (.object members)) = .ok a := by
  obtain ⟨stored, hstored, hperm⟩ := hs.object hkeys
  exact hbuilds.decode_eq hperm (by rw [hstored]; rfl)

end Faithful

end RouteAudit.Json
