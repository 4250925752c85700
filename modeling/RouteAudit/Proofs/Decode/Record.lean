/-
  Proofs/Decode/Record.lean --- records and the members of objects.

  WHAT THIS FILE IS FOR.  A record takes in the members of an object one after another, and
  each of its fields looks for its own.  The order of the members therefore does not matter,
  nor do members that belong to other fields, and a record that is put together of two is
  built of what the two of them are built as.

  HOW IT GOES.  While members come in, the slots of a record of two parts are the slots of
  both parts, each of which skips what belongs to the other (`takeNamed_apply`).  So what a
  record is built as follows the way in which it is put together: there is one law for each
  of `pure`, `<$>`, `<*>` and a single field.

  Main statements: `Builds.seq`, `Builds.field`, `Builds.decode_eq`; for an object of one
  member, which may be a bad one, `BuildsSingle.decode_eq`.
-/
import RouteAudit.Decode.Format

set_option autoImplicit false

namespace RouteAudit.Decode.Record

variable {V α β : Type}

/-! ## The names of fields -/

/-- The names that a record knows: each field's own and the others for it. -/
def names (r : Record V α) : List String := r.fields.flatMap fun field => field.1 :: field.2

@[simp] theorem names_pure (a : α) : (Record.pure a : Record V α).names = [] := rfl

@[simp] theorem names_apply (r : Record V (α → β)) (s : Record V α) :
    (r.apply s).names = r.names ++ s.names := List.flatMap_append

@[simp] theorem names_seq (r : Record V (α → β)) (s : Record V α) :
    (r <*> s).names = r.names ++ s.names := names_apply r s

@[simp] theorem names_map (f : α → β) (r : Record V α) : (f <$> r).names = r.names :=
  names_apply (.pure f) r

@[simp] theorem names_field (name : String) (others : List String)
    (decode : V → Except Problem α) (absent : Except Problem α) :
    (field name others decode absent).names = name :: others := List.append_nil _

@[simp] theorem names_required (name : String) (decode : V → Except Problem α) :
    (required name decode).names = [name] := names_field ..

@[simp] theorem names_optional (name : String) (absent : α) (decode : V → Except Problem α)
    (others : List String) : (optional name absent decode others).names = name :: others :=
  names_field ..

theorem field?_eq_none_iff {r : Record V α} {key : String} :
    r.field? key = none ↔ key ∉ r.names := by
  simp only [field?, Option.map_eq_none_iff, List.find?_eq_none, names, List.mem_flatMap,
    List.mem_cons, not_exists, not_and]
  refine forall_congr' fun field => imp_congr_right fun _ => ?_
  rw [Bool.or_eq_true, beq_iff_eq, List.contains_iff_mem, eq_comm]

theorem mem_names_of_field? {r : Record V α} {key name : String} (h : r.field? key = some name) :
    name ∈ r.fields.map (·.1) ∧ key ∈ r.names ∧ name ∈ r.names := by
  obtain ⟨field, hfind, rfl⟩ := Option.map_eq_some_iff.mp h
  have hmem := List.mem_of_find?_eq_some hfind
  refine ⟨List.mem_map_of_mem hmem, Decidable.of_not_not fun hkey => ?_,
    List.mem_flatMap.mpr ⟨field, hmem, by simp⟩⟩
  rw [field?_eq_none_iff.mpr hkey] at h
  cases h

theorem field?_apply (r : Record V (α → β)) (s : Record V α) (key : String) :
    (r.apply s).field? key = (r.field? key).or (s.field? key) := by
  simp only [field?, apply, List.find?_append, Option.map_or]

/-! ## Taking in members -/

/-- Slots of a record are filled only under names that it knows. -/
def KnowsFilled (r : Record V α) : Prop :=
  ∀ name slots, r.isFilled name slots = true → name ∈ r.names

section Steps

variable {r : Record V α} {slots slots' : r.Slots} {key name : String} {v : V}
  {members : List (Except Problem String × V)}

theorem takeNamed_cons_none (h : r.field? key = none) :
    r.takeNamed .ignored slots ((.ok key, v) :: members) =
      r.takeNamed .ignored slots members := by
  rw [takeNamed]
  simp [h, bind, Except.bind]

/-- A member for a field is taken in if the field is free and the value decodes. -/
theorem takeNamed_cons_some (h : r.field? key = some name) :
    r.takeNamed .ignored slots ((.ok key, v) :: members) = .ok slots' ↔
      r.isFilled name slots = false ∧
        ∃ next, r.fill name v slots = .ok next ∧
          r.takeNamed .ignored next members = .ok slots' := by
  rw [takeNamed]
  cases hfilled : r.isFilled name slots <;> cases hfill : r.fill name v slots <;>
    simp [h, hfilled, hfill, bind, Except.bind]

end Steps

/-- Two parts of a record take in members as each of them does alone. -/
theorem takeNamed_apply {r : Record V (α → β)} {s : Record V α} (hr : r.KnowsFilled)
    (hs : s.KnowsFilled) (hapart : ∀ name ∈ s.names, name ∉ r.names)
    {members : List (Except Problem String × V)} {x x' : r.Slots} {y y' : s.Slots}
    (hx : r.takeNamed .ignored x members = .ok x')
    (hy : s.takeNamed .ignored y members = .ok y') :
    (r.apply s).takeNamed .ignored (x, y) members = .ok (x', y') := by
  induction members generalizing x y with
  | nil =>
    cases hx
    cases hy
    rfl
  | cons member members ih =>
    obtain ⟨key | key, v⟩ := member
    · cases hx
    have hfield := field?_apply r s key
    cases hrkey : r.field? key with
    | some name =>
      -- the member belongs to the first part, the second one skips it
      obtain ⟨hname, hkey, hknown⟩ := mem_names_of_field? hrkey
      have hskey : s.field? key = none := field?_eq_none_iff.mpr fun h => hapart key h hkey
      obtain ⟨hfree, next, hfill, hrest⟩ := (takeNamed_cons_some hrkey).mp hx
      rw [takeNamed_cons_none hskey] at hy
      have hother : s.isFilled name y = false :=
        Bool.eq_false_iff.mpr fun h => hapart name (hs name y h) hknown
      have hany : r.fields.any (·.1 == name) = true := by
        simpa using hname
      rw [hrkey, Option.some_or] at hfield
      refine (takeNamed_cons_some hfield).mpr ⟨?_, (next, y), ?_, ih hrest hy⟩
      · simp [apply, hfree, hother]
      · simp [apply, hany, hfill, bind, Except.bind, Pure.pure, Except.pure]
    | none =>
      rw [takeNamed_cons_none hrkey] at hx
      rw [hrkey, Option.none_or] at hfield
      cases hskey : s.field? key with
      | none =>
        rw [takeNamed_cons_none hskey] at hy
        exact (takeNamed_cons_none (hfield.trans hskey)).trans (ih hx hy)
      | some name =>
        -- the member belongs to the second part, the first one skips it
        obtain ⟨-, -, hknown⟩ := mem_names_of_field? hskey
        obtain ⟨hfree, next, hfill, hrest⟩ := (takeNamed_cons_some hskey).mp hy
        have hnot : name ∉ r.names := hapart name hknown
        have hother : r.isFilled name x = false :=
          Bool.eq_false_iff.mpr fun h => hnot (hr name x h)
        have hany : r.fields.any (·.1 == name) = false := by
          refine Bool.eq_false_iff.mpr fun h => hnot ?_
          obtain ⟨field, hmem, hname⟩ := List.any_eq_true.mp h
          exact List.mem_flatMap.mpr ⟨field, hmem, by simp [← eq_of_beq hname]⟩
        refine (takeNamed_cons_some (hfield.trans hskey)).mpr ⟨?_, (x, next), ?_, ih hx hrest⟩
        · simp [apply, hfree, hother]
        · simp [apply, hany, hfill, bind, Except.bind, Pure.pure, Except.pure]

section Field

variable {name : String} {others : List String} {decode : V → Except Problem α}
  {absent : Except Problem α} {ms : List (String × V)}

theorem field?_field {key : String} (h : key ∈ name :: others) :
    (field name others decode absent).field? key = some name := by
  obtain rfl | h := List.mem_cons.mp h <;> simp_all [field?, field]

/-- A field skips the members that are for others. -/
theorem takeNamed_field_of_filter_eq_nil
    (h : ms.filter (fun m => m.1 ∈ name :: others) = []) (slot : Option α) :
    (field name others decode absent).takeNamed .ignored slot
      (ms.map fun m => (.ok m.1, m.2)) = .ok slot := by
  induction ms with
  | nil => rfl
  | cons m ms ih =>
    obtain ⟨hm, hms⟩ := List.forall_mem_cons.mp (List.filter_eq_nil_iff.mp h)
    have hskip : (field name others decode absent).field? m.1 = none := by
      rw [field?_eq_none_iff, names_field]
      simpa using hm
    exact (takeNamed_cons_none hskip).trans (ih (List.filter_eq_nil_iff.mpr hms))

theorem takeNamed_field {key : String} {v : V} {a : α}
    (h : ms.filter (fun m => m.1 ∈ name :: others) = [(key, v)]) (hdecode : decode v = .ok a) :
    (field name others decode absent).takeNamed .ignored none
      (ms.map fun m => (.ok m.1, m.2)) = .ok (some a) := by
  induction ms with
  | nil => cases h
  | cons m ms ih =>
    by_cases hm : m.1 ∈ name :: others
    · rw [List.filter_cons_of_pos (by simpa using hm)] at h
      obtain ⟨rfl, hrest⟩ := List.cons.inj h
      refine (takeNamed_cons_some (field?_field hm)).mpr ⟨?_, some a, ?_, ?_⟩
      · simp [field]
      · simp [field, hdecode, Except.map]
      · exact takeNamed_field_of_filter_eq_nil hrest _
    · rw [List.filter_cons_of_neg (by simpa using hm)] at h
      have hskip : (field name others decode absent).field? m.1 = none := by
        rwa [field?_eq_none_iff, names_field]
      exact (takeNamed_cons_none hskip).trans (ih h)

end Field

/-! ## What a record is built as -/

/-- From some members, in whatever order, a record is built as a value. -/
structure Builds (r : Record V α) (members : List (String × V)) (a : α) : Prop where
  knowsFilled : r.KnowsFilled
  takes : ∀ ms : List (String × V), ms.Perm members → ∃ slots,
    r.takeNamed .ignored r.empty (ms.map fun m => (.ok m.1, m.2)) = .ok slots ∧
      r.build slots = .ok a

namespace Builds

variable {members : List (String × V)}

theorem pure (a : α) : (Record.pure a).Builds members a where
  knowsFilled _ _ h := by cases h
  takes ms hms := by
    refine ⟨(), ?_, rfl⟩
    clear hms
    induction ms with
    | nil => rfl
    | cons m ms ih => rwa [List.map_cons, takeNamed_cons_none rfl]

theorem seq {r : Record V (α → β)} {s : Record V α} {f : α → β} {a : α}
    (hr : r.Builds members f) (hs : s.Builds members a)
    (hapart : ∀ name ∈ s.names, name ∉ r.names) : (r <*> s).Builds members (f a) where
  knowsFilled name slots h := by
    rw [names_seq, List.mem_append]
    obtain h | h := (Bool.or_eq_true _ _).mp h
    · exact .inl (hr.knowsFilled name slots.1 h)
    · exact .inr (hs.knowsFilled name slots.2 h)
  takes ms hms := by
    obtain ⟨x, hx, hf⟩ := hr.takes ms hms
    obtain ⟨y, hy, ha⟩ := hs.takes ms hms
    refine ⟨(x, y), takeNamed_apply hr.knowsFilled hs.knowsFilled hapart hx hy, ?_⟩
    simp [Seq.seq, apply, hf, ha, bind, Except.bind, Functor.map, Except.map]

theorem map {s : Record V α} {a : α} (f : α → β) (hs : s.Builds members a) :
    (f <$> s).Builds members (f a) :=
  seq (pure f) hs (by simp)

/-- A field that one member alone is for is built of its value. -/
theorem field {name key : String} {others : List String} {decode : V → Except Problem α}
    {absent : Except Problem α} {v : V} {a : α}
    (hmember : members.filter (fun m => m.1 ∈ name :: others) = [(key, v)])
    (hdecode : decode v = .ok a) : (Record.field name others decode absent).Builds members a where
  knowsFilled asked slot h := by
    rw [names_field, eq_of_beq (Bool.and_eq_true_iff.mp h).1]
    exact List.mem_cons_self
  takes ms hms := by
    have hsingle : ms.filter (fun m => m.1 ∈ name :: others) = [(key, v)] :=
      List.perm_singleton.mp (hmember ▸ hms.filter _)
    exact ⟨some a, takeNamed_field hsingle hdecode, rfl⟩

theorem required {name : String} {decode : V → Except Problem α} {v : V} {a : α}
    (hmember : members.filter (fun m => m.1 ∈ [name]) = [(name, v)])
    (hdecode : decode v = .ok a) : (Record.required name decode).Builds members a :=
  field hmember hdecode

theorem optional {name : String} {absent : α} {decode : V → Except Problem α}
    {others : List String} {v : V} {a : α}
    (hmember : members.filter (fun m => m.1 ∈ name :: others) = [(name, v)])
    (hdecode : decode v = .ok a) :
    (Record.optional name absent decode others).Builds members a :=
  field hmember hdecode

/-- An object of the members, in whatever order, is decoded as what is built from them. -/
theorem decode_eq {r : Record V α} {a : α} (h : r.Builds members a) {f : Format V}
    {type : String} {v : V} {ms : List (String × V)} (hms : ms.Perm members)
    (hcontents : f.contents type v = .ok (.named (ms.map fun m => (.ok m.1, m.2)))) :
    r.decode f type v = .ok a := by
  obtain ⟨slots, htaken, hbuild⟩ := h.takes ms hms
  simp [decode, hcontents, htaken, hbuild, bind, Except.bind]

end Builds

/-! ## A single member -/

/-- From one member for a field, with all other fields absent, a record is built, or the
problem arises, that is given. -/
def BuildsSingle (r : Record V α) (name : String) (v : V) (result : Except Problem α) : Prop :=
  r.fill name v r.empty >>= r.build = result

namespace BuildsSingle

variable {r : Record V (α → β)} {s : Record V α} {name : String} {v : V}

theorem field (name : String) (others : List String) (decode : V → Except Problem α)
    (absent : Except Problem α) :
    (Record.field name others decode absent).BuildsSingle name v (decode v) := by
  show ((decode v).map some >>= (Record.field name others decode absent).build) = decode v
  cases decode v <;> rfl

/-- The member is for the first of two parts. -/
theorem seq_left {result : Except Problem (α → β)} {a : α} (h : r.BuildsSingle name v result)
    (hname : r.fields.any (·.1 == name) = true) (habsent : s.build s.empty = .ok a) :
    (r <*> s).BuildsSingle name v (result.map (· a)) := by
  subst h
  unfold BuildsSingle
  simp only [Seq.seq, apply, hname, if_true]
  cases r.fill name v r.empty with
  | error e => rfl
  | ok slots =>
    show (r.build slots >>= fun f => f <$> s.build s.empty) = (r.build slots).map (· a)
    rw [habsent]
    cases r.build slots <;> rfl

/-- The member is for the second of two parts. -/
theorem seq_right {result : Except Problem α} {f : α → β} (h : s.BuildsSingle name v result)
    (hname : r.fields.any (·.1 == name) = false) (habsent : r.build r.empty = .ok f) :
    (r <*> s).BuildsSingle name v (result.map f) := by
  subst h
  unfold BuildsSingle
  simp only [Seq.seq, apply, hname]
  cases s.fill name v s.empty with
  | error e => rfl
  | ok slots =>
    show (r.build r.empty >>= fun f => f <$> s.build slots) = (s.build slots).map f
    rw [habsent]
    rfl

/-- An object with that one member is decoded as what is built from it. -/
theorem decode_eq {result : Except Problem α} (h : s.BuildsSingle name v result) {key : String}
    (hfield : s.field? key = some name) (hfree : s.isFilled name s.empty = false)
    {f : Format V} {type : String} {whole : V} {strangers : Strangers}
    (hcontents : f.contents type whole = .ok (.named [(.ok key, v)])) :
    s.decode f type whole strangers = result := by
  subst h
  simp only [decode, hcontents, takeNamed, hfield, hfree, bind, Except.bind]
  cases s.fill name v s.empty <;> rfl

end BuildsSingle

end RouteAudit.Decode.Record
