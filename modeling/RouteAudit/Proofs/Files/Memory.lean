/-
  Proofs/Files/Memory.lean --- what is written to a memory is read back.

  WHAT THIS FILE IS FOR.  A path is followed segment by segment and may go up and down again
  on its way.  After a text is written under a path, following that path leads to the text.

  HOW IT GOES.  A file is only put where there is no directory.  So all places that were
  directories before are directories after, and a path that passes through directories goes
  the same way (`KeepsDirectories.foldlM_step`).  Only its end is new.

  Main statements: `read_write` and `read_of_run_write`.
-/
import RouteAudit.Files.Memory

set_option autoImplicit false

namespace RouteAudit.Files

/-! ## Entries -/

namespace Entry

variable {entries : List (String × Entry)} {name other : String}

theorem lookup_put_self (entries : List (String × Entry)) (name : String) (e : Entry) :
    (put entries name e).lookup name = some e := by
  have hnone : (entries.filter (·.1 ≠ name)).lookup name = none := by
    rw [List.lookup_eq_none_iff]
    intro entry hentry
    exact bne_iff_ne.2 (Ne.symm (of_decide_eq_true (List.mem_filter.1 hentry).2))
  rw [put, List.lookup_append, hnone, Option.none_or, List.lookup_cons_self]

theorem lookup_put_of_ne (h : other ≠ name) (e : Entry) :
    (put entries name e).lookup other = entries.lookup other := by
  have hlast : [(name, e)].lookup other = none := by simpa using h
  rw [put, List.lookup_append, hlast, Option.or_none]
  induction entries with
  | nil => rfl
  | cons entry rest ih =>
    obtain ⟨key, old⟩ := entry
    by_cases hkey : key = name
    · have hother : (other == key) = false := beq_false_of_ne (hkey ▸ h)
      rw [List.filter_cons_of_neg (by simpa using hkey), ih, List.lookup_cons, hother]
    · rw [List.filter_cons_of_pos (by simpa using hkey), List.lookup_cons, List.lookup_cons, ih]

theorem follow?_append (names more : List String) (e : Entry) :
    follow? (names ++ more) e = (follow? names e).bind (follow? more) := by
  induction names generalizing e with
  | nil => rfl
  | cons name names ih =>
    cases e with
    | file text => rfl
    | directory entries =>
      rw [List.cons_append, follow?, follow?, Option.bind_assoc]
      exact Option.bind_congr fun inner _ => ih inner

/-- Only a directory holds anything, so whatever holds a directory is one. -/
theorem exists_directory_of_follow? {names : List String} {e : Entry}
    {entries : List (String × Entry)} (h : follow? names e = some (.directory entries)) :
    ∃ entries, e = .directory entries := by
  cases e with
  | directory entries => exact ⟨entries, rfl⟩
  | file text =>
    cases names with
    | nil => cases h
    | cons name names => cases h

/-- The directory at the end of a chain of names is the one that changes. -/
theorem follow?_change {f : List (String × Entry) → List (String × Entry)} {place : List String}
    {e : Entry} {entries : List (String × Entry)}
    (h : follow? place e = some (.directory entries)) :
    follow? place (change f place e) = some (.directory (f entries)) := by
  induction place generalizing e with
  | nil =>
    cases h
    rfl
  | cons name place ih =>
    cases e with
    | file text => cases h
    | directory around =>
      obtain ⟨inner, hinner, hfollow⟩ := Option.bind_eq_some_iff.1 h
      rw [change, hinner]
      dsimp only
      rw [follow?, lookup_put_self, Option.bind_some, ih hfollow]

/-- What is a directory stays one if something else is put in the place of an entry that is
none. -/
theorem exists_follow?_change {name : String} {new : Entry} {place names : List String}
    {e : Entry} {found : List (String × Entry)}
    (hplace : ∀ around inside, follow? place e = some (.directory around) →
      around.lookup name ≠ some (.directory inside))
    (h : follow? names e = some (.directory found)) :
    ∃ found', follow? names (change (put · name new) place e) = some (.directory found') := by
  induction place generalizing e names with
  | nil =>
    obtain ⟨entries, rfl⟩ := exists_directory_of_follow? h
    cases names with
    | nil => exact ⟨put entries name new, rfl⟩
    | cons first names =>
      obtain ⟨inner, hinner, hfollow⟩ := Option.bind_eq_some_iff.1 h
      obtain ⟨inside, rfl⟩ := exists_directory_of_follow? hfollow
      have hne : first ≠ name := by
        rintro rfl
        exact hplace entries inside rfl hinner
      refine ⟨found, ?_⟩
      rw [change, follow?, lookup_put_of_ne hne, hinner, Option.bind_some, hfollow]
  | cons step place ih =>
    obtain ⟨entries, rfl⟩ := exists_directory_of_follow? h
    rw [change]
    cases hstep : entries.lookup step with
    | none => exact ⟨found, h⟩
    | some below =>
      cases names with
      | nil => exact ⟨_, rfl⟩
      | cons first names =>
        obtain ⟨inner, hinner, hfollow⟩ := Option.bind_eq_some_iff.1 h
        dsimp only
        rw [follow?]
        by_cases hfirst : first = step
        · subst hfirst
          obtain rfl : below = inner := Option.some.inj (hstep.symm.trans hinner)
          rw [lookup_put_self, Option.bind_some]
          refine ih (fun around inside haround => hplace around inside ?_) hfollow
          rw [follow?, hstep, Option.bind_some, haround]
        · rw [lookup_put_of_ne hfirst, hinner, Option.bind_some]
          exact ⟨found, hfollow⟩

end Entry

/-! ## Sequences -/

/-- A sequence succeeds if its first part does, and then its second part. -/
theorem bind_eq_ok_iff {α β : Type} {x : Except Fault α} {f : α → Except Fault β} {b : β} :
    (x >>= f) = .ok b ↔ ∃ a, x = .ok a ∧ f a = .ok b := by
  cases x with
  | error fault => exact iff_of_false (fun h => by cases h) fun ⟨_, h, _⟩ => by cases h
  | ok a => exact ⟨fun h => ⟨a, rfl, h⟩, fun ⟨_, ha, h⟩ => by cases ha; exact h⟩

theorem exists_of_run_bind {σ α β : Type} {x : StateM σ α} {f : α → StateM σ β} {s s' : σ} {b : β}
    (h : (x >>= f).run s = (b, s')) : ∃ a s₁, x.run s = (a, s₁) ∧ (f a).run s₁ = (b, s') :=
  ⟨(x.run s).1, (x.run s).2, rfl, h⟩

/-! ## Places -/

namespace Memory

variable {memory after : Memory} {place next last : Place}

/-- There is a directory at a place. -/
def IsDirectory (memory : Memory) (place : Place) : Prop :=
  ∃ entries, memory.entryAt place = .ok (.directory entries)

/-- What is a directory in one memory is one in another. -/
def KeepsDirectories (memory after : Memory) : Prop :=
  ∀ place, memory.IsDirectory place → after.IsDirectory place

theorem entryAt_eq_ok_iff {e : Entry} :
    memory.entryAt place = .ok e ↔ memory.top.follow? place.reverse = some e := by
  unfold entryAt
  split
  · rename_i found hfound
    rw [hfound, Except.ok.injEq, Option.some.injEq]
  · rename_i hnone
    rw [hnone]
    exact iff_of_false (fun h => by cases h) (fun h => by cases h)

theorem isDirectory_of_step {segment : String} (h : memory.step place segment = .ok next) :
    memory.IsDirectory place := by
  unfold step at h
  obtain ⟨e, he, h⟩ := bind_eq_ok_iff.1 h
  cases e with
  | file text => cases h
  | directory entries => exact ⟨entries, he⟩

/-- A step stays in a directory, leaves it or goes into one of its entries. -/
theorem step_eq_ok_iff {entries : List (String × Entry)} {segment : String}
    (h : memory.entryAt place = .ok (.directory entries)) :
    memory.step place segment = .ok next ↔
      if segment = "" || segment = "." then next = place
      else if segment = ".." then ∃ name, place = name :: next
      else (entries.lookup segment).isSome = true ∧ next = segment :: place := by
  unfold step
  simp only [h, bind, Except.bind]
  split
  · rw [Except.ok.injEq, eq_comm]
  split
  · cases place <;> simp
  split
  · rename_i hthere
    rw [Except.ok.injEq, eq_comm, and_iff_right hthere]
  · rename_i hnone
    exact iff_of_false (fun h => by cases h) fun h => hnone h.1

theorem isDirectory_of_foldlM {segments : List String}
    (h : segments.foldlM memory.step place = .ok last) (hlast : memory.IsDirectory last) :
    memory.IsDirectory place := by
  cases segments with
  | nil =>
    cases h
    exact hlast
  | cons segment segments =>
    rw [List.foldlM_cons, bind_eq_ok_iff] at h
    obtain ⟨next, hstep, -⟩ := h
    exact isDirectory_of_step hstep

/-- The way to a directory stays open while directories stay. -/
theorem KeepsDirectories.step {segment : String} (h : memory.KeepsDirectories after)
    (hstep : memory.step place segment = .ok next) (hnext : memory.IsDirectory next) :
    after.step place segment = .ok next := by
  obtain ⟨entries, hentries⟩ := isDirectory_of_step hstep
  obtain ⟨entries', hentries'⟩ := h place ⟨entries, hentries⟩
  rw [step_eq_ok_iff hentries] at hstep
  rw [step_eq_ok_iff hentries']
  by_cases hstay : (segment = "" || segment = ".") = true
  · rw [if_pos hstay] at hstep ⊢
    exact hstep
  rw [if_neg hstay] at hstep ⊢
  by_cases hup : segment = ".."
  · rw [if_pos hup] at hstep ⊢
    exact hstep
  rw [if_neg hup] at hstep ⊢
  obtain ⟨-, rfl⟩ := hstep
  -- The name that is followed leads to a directory, which is still there.
  obtain ⟨inside, hinside⟩ := h _ hnext
  rw [entryAt_eq_ok_iff] at hinside hentries'
  rw [List.reverse_cons, Entry.follow?_append, hentries', Option.bind_some] at hinside
  obtain ⟨found, hfound, -⟩ := Option.bind_eq_some_iff.1 hinside
  exact ⟨Option.isSome_of_eq_some hfound, rfl⟩

theorem KeepsDirectories.foldlM_step {segments : List String} (h : memory.KeepsDirectories after)
    (hfold : segments.foldlM memory.step place = .ok last) (hlast : memory.IsDirectory last) :
    segments.foldlM after.step place = .ok last := by
  induction segments generalizing place with
  | nil => exact hfold
  | cons segment segments ih =>
    rw [List.foldlM_cons, bind_eq_ok_iff] at hfold ⊢
    obtain ⟨next, hstep, hrest⟩ := hfold
    exact ⟨next, h.step hstep (isDirectory_of_foldlM hrest hlast), ih hrest⟩

/-! ## Writing -/

variable {entries : List (String × Entry)} {name : String} {path : Path}

theorem entryAt_put_directory (h : memory.entryAt place = .ok (.directory entries))
    (name : String) (e : Entry) :
    (memory.put place name e).entryAt place = .ok (.directory (Entry.put entries name e)) := by
  rw [entryAt_eq_ok_iff] at h ⊢
  exact Entry.follow?_change h

theorem entryAt_put (h : memory.entryAt place = .ok (.directory entries)) (name : String)
    (e : Entry) : (memory.put place name e).entryAt (name :: place) = .ok e := by
  have hplace := entryAt_put_directory h name e
  rw [entryAt_eq_ok_iff] at hplace ⊢
  rw [List.reverse_cons, Entry.follow?_append, hplace, Option.bind_some, Entry.follow?,
    Entry.lookup_put_self, Option.bind_some, Entry.follow?]

theorem keepsDirectories_put (h : memory.entryAt place = .ok (.directory entries))
    (hname : ∀ inside, entries.lookup name ≠ some (.directory inside)) (e : Entry) :
    memory.KeepsDirectories (memory.put place name e) := by
  rintro other ⟨found, hfound⟩
  rw [entryAt_eq_ok_iff] at h hfound
  have hplace : ∀ around inside, memory.top.follow? place.reverse = some (.directory around) →
      around.lookup name ≠ some (.directory inside) := by
    intro around inside haround
    rw [h] at haround
    cases haround
    exact hname inside
  obtain ⟨found', hfound'⟩ := Entry.exists_follow?_change hplace hfound
  exact ⟨found', entryAt_eq_ok_iff.2 hfound'⟩

/-- A text is put into a directory, under a name that is no directory. -/
theorem exists_of_write {text : Option String} (h : memory.write path text = .ok after) :
    ∃ above name place entries, memory.segments path = .ok (above ++ [name]) ∧
      above.foldlM memory.step [] = .ok place ∧
      memory.entryAt place = .ok (.directory entries) ∧
      (name = "" || name = "." || name = "..") = false ∧
      (∀ inside, entries.lookup name ≠ some (.directory inside)) ∧
      after = memory.put place name (.file text) := by
  unfold write at h
  obtain ⟨segments, hsegments, h⟩ := bind_eq_ok_iff.1 h
  obtain ⟨place, hplace, h⟩ := bind_eq_ok_iff.1 h
  obtain ⟨e, he, h⟩ := bind_eq_ok_iff.1 h
  cases e with
  | file text => cases h
  | directory entries =>
    dsimp only at h
    split at h
    · cases h
    rename_i hname
    rw [Bool.not_eq_true] at hname
    have hsplit : segments = segments.dropLast ++ [segments.getLast?.getD ""] := by
      cases hlast : segments.getLast? with
      | none =>
        rw [hlast] at hname
        cases hname
      | some last =>
        obtain ⟨above, rfl⟩ := List.getLast?_eq_some_iff.1 hlast
        rw [List.dropLast_concat, Option.getD_some]
    refine ⟨_, _, place, entries, hsplit ▸ hsegments, hplace, he, hname, ?_, ?_⟩
    · intro inside hinside
      rw [hinside] at h
      cases h
    · split at h
      · cases h
      · exact (Except.ok.inj h).symm

/-- The name of an entry leads from its directory to it. -/
theorem step_of_isSome_lookup (h : memory.entryAt place = .ok (.directory entries))
    (hname : (name = "" || name = "." || name = "..") = false)
    (hthere : (entries.lookup name).isSome = true) :
    memory.step place name = .ok (name :: place) := by
  rw [Bool.or_eq_false_iff] at hname
  rw [step_eq_ok_iff h, if_neg (Bool.not_eq_true _ ▸ hname.1), if_neg (of_decide_eq_false hname.2)]
  exact ⟨hthere, rfl⟩

/-- What is written under a path is read there. -/
theorem read_write {text : String} (h : memory.write path (some text) = .ok after) :
    after.read path = .ok text := by
  obtain ⟨above, name, place, entries, hsegments, hplace, hentries, hname, hnone, hafter⟩ :=
    exists_of_write h
  have hdirectory : after.entryAt place =
      .ok (.directory (Entry.put entries name (.file (some text)))) :=
    hafter ▸ entryAt_put_directory hentries name _
  have hkeeps : memory.KeepsDirectories after := hafter ▸ keepsDirectories_put hentries hnone _
  have hway : above.foldlM after.step [] = .ok place :=
    hkeeps.foldlM_step hplace ⟨entries, hentries⟩
  have hlast : after.step place name = .ok (name :: place) := by
    refine step_of_isSome_lookup hdirectory hname ?_
    rw [Entry.lookup_put_self, Option.isSome_some]
  have hfile : after.entryAt (name :: place) = .ok (.file (some text)) :=
    hafter ▸ entryAt_put hentries name _
  have hfind : after.find path = .ok (.file (some text)) := by
    have hsame : after.segments path = .ok (above ++ [name]) := hafter ▸ hsegments
    unfold find
    refine bind_eq_ok_iff.2 ⟨_, hsame, bind_eq_ok_iff.2 ⟨name :: place, ?_, hfile⟩⟩
    rw [List.foldlM_append, bind_eq_ok_iff]
    refine ⟨place, hway, ?_⟩
    rw [List.foldlM_cons, hlast]
    rfl
  rw [read, hfind]
  rfl

/-! ## Requests -/

/-- A request that is granted leaves what the change leads to. -/
theorem eq_ok_of_run_keep {f : Memory → Except Fault Memory} {granted : Unit}
    (h : (keep f).run memory = (.ok granted, after)) : f memory = .ok after := by
  unfold keep at h
  obtain ⟨_, _, hget, h⟩ := exists_of_run_bind h
  cases hget
  cases hf : f memory with
  | ok changed =>
    rw [hf] at h
    cases h
    rfl
  | error fault =>
    rw [hf] at h
    cases h

/-- Where a text is written by a request, it is read afterwards. -/
theorem read_of_run_write {text : String} {granted : Unit}
    (h : (disk.write path text).run memory = (.ok granted, after)) : after.read path = .ok text :=
  read_write (eq_ok_of_run_keep h)

end Memory

end RouteAudit.Files
