/-
  Proofs/Audit/Spelling.lean --- one auditor in several spellings.

  WHAT THIS FILE IS FOR.  A configuration may write an auditor as a kind with a weight, a
  weight with a kind, a kind with settings or a kind alone, and the kind in more than one
  way.  Each form is checked on a path of its own.  All of them come to the same: the same
  auditor, or errors of one cause.  Likewise entries may stand in a mapping or one by one in
  a list.

  HOW IT GOES.  A kind matters through its normal form alone, but for the text of the error
  that it is unknown (`rule_cases`).  The forms differ in how the settings are reached, which
  ends in the same settings or in a misfit (`AuditorEntry.ofYaml_weight`).  A build in a list
  of builds has the result that it has alone (`Build.yields_mapM`).

  Main statement: `spellings_agree`.
-/
import Mathlib.Data.List.Forall2
import RouteAudit.Proofs.Audit.Shared
import RouteAudit.Proofs.Decode.Record
import RouteAudit.Proofs.Text.Blank

set_option autoImplicit false

namespace RouteAudit

open RouteAudit.Decode RouteAudit.Discovery

/-! ## Kinds -/

/-- The character that a character of a kind is compared as. -/
def plainChar (c : Char) : Char := if c = '-' then '_' else c.toLower

theorem normalKind_eq (kind : String) :
    normalKind kind = String.ofList ((Text.trimChars kind.toList).map plainChar) := rfl

theorem plainChar_plainChar (c : Char) : plainChar (plainChar c) = plainChar c := by
  by_cases hhyphen : c = '-'
  · subst hhyphen
    decide
  · have hlowered : c.toLower ≠ '-' := by
      rcases Text.toLower_cases c with ⟨hlow, -, hnext⟩ | ⟨-, hsame⟩
      · intro heq
        rw [heq] at hnext
        have hcode : ('-' : Char).toNat = 45 := rfl
        omega
      · rwa [hsame]
    rw [plainChar, plainChar, if_neg hhyphen, if_neg hlowered, Text.toLower_toLower]

theorem isBlank_plainChar (c : Char) : Text.isBlank (plainChar c) = Text.isBlank c := by
  by_cases hhyphen : c = '-'
  · subst hhyphen
    decide
  · rw [plainChar, if_neg hhyphen, Text.isBlank_toLower]

/-- The normal form of a kind is its own normal form. -/
theorem normalKind_normalKind (kind : String) :
    normalKind (normalKind kind) = normalKind kind := by
  have htwice : plainChar ∘ plainChar = plainChar := funext plainChar_plainChar
  rw [normalKind_eq, normalKind_eq, String.toList_ofList, Text.trimChars_map isBlank_plainChar,
    Text.trimChars_trimChars, List.map_map, htwice]

/-! ## Settings -/

/-- Whether a value is a number, whole or not. -/
def Yaml.isNumber : Yaml → Bool
  | .int _ | .float _ => true
  | _ => false

namespace AuditorEntry

/-- Settings of a weight are the preset ones but for it, if it is a weight. -/
theorem ofYaml_weight (n : Yaml) :
    ofYaml (.map [(.string "weight", n)]) =
      (Yaml.format.int n).map fun weight => { weight } := by
  have hweight : (AuditorEntry.mk <$> Record.optional "weight" 1 Yaml.format.int).BuildsSingle
      "weight" n ((Yaml.format.int n).map AuditorEntry.mk) :=
    .seq_right (.field "weight" [] Yaml.format.int (.ok 1)) rfl rfl
  -- The other five fields are absent, one layer of the record for each.
  have hrecord : record.BuildsSingle "weight" n _ :=
    .seq_left (.seq_left (.seq_left (.seq_left (.seq_left hweight
      rfl rfl) rfl rfl) rfl rfl) rfl rfl) rfl rfl
  rw [ofYaml, hrecord.decode_eq rfl rfl rfl]
  cases Yaml.format.int n <;> rfl

end AuditorEntry

/-! ## Results -/

namespace Build

variable {α : Type}

/-- Results taken together: all values in their order, or the first error. -/
inductive Together {ε : Type} : List (Except ε α) → Except ε (List α) → Prop where
  | all (as : List α) : Together (as.map .ok) (.ok as)
  | first (as : List α) (e : ε) (rest : List (Except ε α)) :
      Together (as.map .ok ++ .error e :: rest) (.error e)

theorem Together.cons_ok {ε : Type} {a : α} {results : List (Except ε α)}
    {together : Except ε (List α)} (h : Together results together) :
    Together (.ok a :: results) (together.map (a :: ·)) := by
  cases h with
  | all as => exact .all (a :: as)
  | first as e rest => exact .first (a :: as) e rest

/-- Builds one after the other have their results taken together. -/
theorem yields_mapM {inv : State → Prop} {bs : List (Build α)}
    {results : List (Except AuditError α)} (h : List.Forall₂ (Yields inv) bs results) :
    ∃ together, Together results together ∧ Yields inv (bs.mapM id) together := by
  induction h with
  | nil => exact ⟨.ok [], .all [], yields_pure []⟩
  | @cons b result bs results hb _ ih =>
    obtain ⟨together, htogether, hrest⟩ := ih
    rw [List.mapM_cons]
    cases result with
    | error e => exact ⟨.error e, .first [] e results, Yields.bind_error hb _⟩
    | ok a =>
      refine ⟨together.map (a :: ·), htogether.cons_ok, Yields.bind_ok hb ?_⟩
      cases together with
      | error e => exact hrest.bind_error _
      | ok as => exact hrest.bind_ok (yields_pure (a :: as))

/-- All builds have the same value, or they all fail with errors of one cause. -/
def Alike (inv : State → Prop) (bs : List (Build α)) : Prop :=
  (∃ a, ∀ b ∈ bs, Yields inv b (.ok a)) ∨
    ∃ cause, ∀ b ∈ bs, ∃ e : AuditError, e.ctorIdx = cause ∧ Yields inv b (.error e)

/-- Builds of entries that describe no auditor are alike. -/
theorem alike_of_invalid {inv : State → Prop} {bs : List (Build α)}
    (h : ∀ b ∈ bs, ∃ key value, b = throw (.invalidAuditor key value)) : Alike inv bs := by
  refine .inr ⟨(AuditError.invalidAuditor "" "").ctorIdx, fun b hb => ?_⟩
  obtain ⟨key, value, rfl⟩ := h b hb
  exact ⟨.invalidAuditor key value, rfl, yields_throw _⟩

end Build

/-! ## Entries -/

namespace Workshop

open Build

/-- Kinds of one normal form have one rule, or each of them is unknown. -/
theorem rule_cases {m : Type → Type} [Monad m] (w : Workshop m) (kind : String)
    (arguments : List Yaml) :
    (∀ kind', normalKind kind' = normalKind kind →
      w.rule kind' arguments = w.rule kind arguments) ∨
    (∀ kind', normalKind kind' = normalKind kind →
      w.rule kind' arguments = throw (.unknownAuditor kind')) := by
  unfold rule
  split
  case h_7 =>
    refine .inr fun kind' hkind => ?_
    rw [hkind]
    simp
  all_goals
    rename_i hnormal
    refine .inl fun kind' hkind => ?_
    rw [hkind, hnormal]
    rfl

section Settings

variable {m : Type → Type} [Monad m] {w : Workshop m} {kind : String} {members : List (Yaml × Yaml)}

theorem ofPair_of_settings {entry : AuditorEntry}
    (h : AuditorEntry.ofYaml (.map members) = .ok entry) :
    w.ofPair (.string kind) (.map members) = w.ofEntry kind entry := by
  simp only [ofPair, h]

theorem ofPair_of_problem {problem : Problem}
    (h : AuditorEntry.ofYaml (.map members) = .error problem) :
    w.ofPair (.string kind) (.map members) = throw (.invalidAuditor kind problem.message) := by
  simp only [ofPair, h]

end Settings

section Entries

variable {w : Workshop (StateM (List Request))} {inv : State → Prop}
  (h : Settled inv (discover w.tests w.source))
include h

/-- Kinds of one normal form with the same settings are alike. -/
theorem alike_ofEntry (kind : String) (entry : AuditorEntry) {bs : List (Build Auditor)}
    (hbs : ∀ b ∈ bs, ∃ kind', normalKind kind' = normalKind kind ∧ b = w.ofEntry kind' entry) :
    Alike inv bs := by
  rcases w.rule_cases kind entry.arguments with hrule | hunknown
  · obtain ⟨result, hresult, -⟩ := settled_ofEntry h kind entry
    have hall : ∀ b ∈ bs, Yields inv b result := by
      intro b hb
      obtain ⟨kind', hkind, rfl⟩ := hbs b hb
      rw [ofEntry, hrule kind' hkind]
      exact hresult
    cases result with
    | ok a => exact .inl ⟨a, hall⟩
    | error e => exact .inr ⟨e.ctorIdx, fun b hb => ⟨e, rfl, hall b hb⟩⟩
  · refine .inr ⟨(AuditError.unknownAuditor kind).ctorIdx, fun b hb => ?_⟩
    obtain ⟨kind', hkind, rfl⟩ := hbs b hb
    refine ⟨.unknownAuditor kind', rfl, ?_⟩
    rw [ofEntry, hunknown kind' hkind]
    exact Yields.bind_error (yields_throw _) _

section Kinds

variable {kind kind' : String} (hkind : normalKind kind' = normalKind kind)
include hkind

/-- A weight that fits is a setting in every form, and any other number is none in any. -/
theorem alike_weighted {n : Yaml} (hn : n.isNumber = true) :
    Alike inv [w.ofPair (.string kind) n, w.ofPair n (.string kind'),
      w.ofPair (.string kind') (.map [(.string "weight", n)])] := by
  cases n with
  | float x =>
    have hsettings : AuditorEntry.ofYaml (.map [(.string "weight", .float x)]) =
        .error (.type (Yaml.float x).described "i64") := by
      rw [AuditorEntry.ofYaml_weight]
      rfl
    refine alike_of_invalid fun b hb => ?_
    simp only [List.mem_cons, List.not_mem_nil, or_false] at hb
    rcases hb with rfl | rfl | rfl
    · exact ⟨_, _, rfl⟩
    · exact ⟨_, _, rfl⟩
    · exact ⟨_, _, ofPair_of_problem hsettings⟩
  | int weight =>
    by_cases hfits : Word.fits weight = true
    · have hint : Yaml.format.int (.int weight) = .ok weight := if_pos hfits
      have hsettings : AuditorEntry.ofYaml (.map [(.string "weight", .int weight)]) =
          .ok { weight } := by
        rw [AuditorEntry.ofYaml_weight, hint]
        rfl
      refine alike_ofEntry h kind { weight } fun b hb => ?_
      simp only [List.mem_cons, List.not_mem_nil, or_false] at hb
      rcases hb with rfl | rfl | rfl
      · exact ⟨kind, rfl, if_pos hfits⟩
      · exact ⟨kind', hkind, if_pos hfits⟩
      · exact ⟨kind', hkind, ofPair_of_settings hsettings⟩
    · have hint : Yaml.format.int (.int weight) =
          .error (.value (Yaml.int weight).described "i64") := if_neg hfits
      have hsettings : AuditorEntry.ofYaml (.map [(.string "weight", .int weight)]) =
          .error (.value (Yaml.int weight).described "i64") := by
        rw [AuditorEntry.ofYaml_weight, hint]
        rfl
      refine alike_of_invalid fun b hb => ?_
      simp only [List.mem_cons, List.not_mem_nil, or_false] at hb
      rcases hb with rfl | rfl | rfl
      · exact ⟨_, _, if_neg hfits⟩
      · exact ⟨_, _, if_neg hfits⟩
      · exact ⟨_, _, ofPair_of_problem hsettings⟩
  | _ => cases hn

/-- A kind without a weight is one of weight one. -/
theorem alike_unweighted :
    Alike inv [w.ofPair (.string kind) (.int 1), w.ofPair (.string kind) .null,
      w.ofPair (.string kind') (.map []), w.ofItem (.string kind')] := by
  refine alike_ofEntry h kind {} fun b hb => ?_
  simp only [List.mem_cons, List.not_mem_nil, or_false] at hb
  rcases hb with rfl | rfl | rfl | rfl
  · exact ⟨kind, rfl, rfl⟩
  · exact ⟨kind, rfl, rfl⟩
  · exact ⟨kind', hkind, rfl⟩
  · exact ⟨kind', hkind, rfl⟩

end Kinds

/-- Entries of a mapping and of a list have their results taken together. -/
theorem yields_auditors (entries : List (Yaml × Yaml)) : ∃ results together,
    List.Forall₂ (fun entry result => Yields inv (w.ofPair entry.1 entry.2) result)
      entries results ∧
    Together results together ∧
    Yields inv (w.auditors (.map entries)) together ∧
    Yields inv (w.auditors (.list (entries.map fun entry => .map [entry]))) together := by
  obtain ⟨results, hresults⟩ : ∃ results, List.Forall₂
      (fun entry result => Yields inv (w.ofPair entry.1 entry.2) result) entries results := by
    induction entries with
    | nil => exact ⟨[], .nil⟩
    | cons entry entries ih =>
      obtain ⟨results, hrest⟩ := ih
      obtain ⟨result, hentry, -⟩ := settled_ofPair h entry.1 entry.2
      exact ⟨result :: results, .cons hentry hrest⟩
  have hbuilds : List.Forall₂ (Yields inv)
      (entries.map fun entry => w.ofPair entry.1 entry.2) results :=
    List.forall₂_map_left_iff.2 hresults
  obtain ⟨together, htogether, hall⟩ := yields_mapM hbuilds
  refine ⟨results, together, hresults, htogether, ?_, ?_⟩
  · rw [auditors_eq_builders]
    exact hall
  · have hitems : (entries.map fun entry => Yaml.map [entry]).map w.ofItem =
        entries.map fun entry => w.ofPair entry.1 entry.2 := List.map_map
    rw [auditors_eq_builders]
    show Yields inv (List.mapM id ((entries.map fun entry => Yaml.map [entry]).map w.ofItem)) _
    rw [hitems]
    exact hall

end Entries

/-- All spellings of an auditor come to the same.  Of a kind and a number, of a number and
another spelling of the kind, and of settings with the number as their weight either all are
built, as the same auditor, or all fail with errors of one cause; likewise a kind with weight
one, with nothing, with no settings and alone.  The normal form of a kind is one of its
spellings.  Entries in a mapping, and one by one in a list, are built as the auditors of all
entries in their order, or fail with the error of the first entry that has one.

Each of these builds has one result for all states in which the cache holds what a search
would find, as it does whatever was built before. -/
theorem spellings_agree (tests : TestSettings) (answers : Source Id) :
    let w := recorded tests answers
    let sound := IsSound tests answers
    (∀ earlier, sound (w.after earlier)) ∧
    (∀ kind, normalKind (normalKind kind) = normalKind kind) ∧
    (∀ kind kind', normalKind kind' = normalKind kind →
      (∀ n : Yaml, n.isNumber = true →
        Alike sound [w.ofPair (.string kind) n, w.ofPair n (.string kind'),
          w.ofPair (.string kind') (.map [(.string "weight", n)])]) ∧
      Alike sound [w.ofPair (.string kind) (.int 1), w.ofPair (.string kind) .null,
        w.ofPair (.string kind') (.map []), w.ofItem (.string kind')]) ∧
    ∀ entries : List (Yaml × Yaml), ∃ results together,
      List.Forall₂ (fun entry result => Yields sound (w.ofPair entry.1 entry.2) result)
        entries results ∧
      Together results together ∧
      Yields sound (w.auditors (.map entries)) together ∧
      Yields sound (w.auditors (.list (entries.map fun entry => .map [entry]))) together := by
  intro w sound
  have hdiscover : Settled sound (discover w.tests w.source) :=
    settled_discover_sound tests answers
  have hempty : sound {} := by
    intro directory methods _ hmethods
    cases hmethods
  refine ⟨after_keeps hdiscover hempty, normalKind_normalKind, fun kind kind' hkind => ⟨?_, ?_⟩,
    yields_auditors hdiscover⟩
  · intro n hn
    exact alike_weighted hdiscover hkind hn
  · exact alike_unweighted hdiscover hkind

/-- A hyphen, capitals and a blank make no difference: all three forms are built. -/
theorem spellings_agree_sample :
    let w := recorded {} (.ofList [])
    let spellings := [w.ofPair (.string "scoped_binding") (.int 3),
      w.ofPair (.int 3) (.string " Scoped-Binding"),
      w.ofPair (.string " Scoped-Binding") (.map [(.string "weight", .int 3)])]
    normalKind " Scoped-Binding" = normalKind "scoped_binding" ∧
      (Yaml.int 3).isNumber = true ∧
      ∃ a : Auditor, a.summary = ⟨"scoped_binding", 3, 0, none⟩ ∧
        ∀ b ∈ spellings, Yields (IsSound {} (.ofList [])) b (.ok a) := by
  intro w spellings
  have hkind : normalKind " Scoped-Binding" = normalKind "scoped_binding" := by decide
  obtain ⟨hsound, -, hkinds, -⟩ := spellings_agree {} (.ofList [])
  have halike := (hkinds "scoped_binding" " Scoped-Binding" hkind).1 (.int 3) rfl
  have hbuilt : (runFrom (w.ofPair (.string "scoped_binding") (.int 3)) {}).1.toOption.map
      Auditor.summary = some ⟨"scoped_binding", 3, 0, none⟩ := by decide
  refine ⟨hkind, rfl, ?_⟩
  rcases halike with ⟨a, hall⟩ | ⟨cause, hfail⟩
  · rw [(hall _ List.mem_cons_self {} (hsound [])).1] at hbuilt
    exact ⟨a, Option.some.inj hbuilt, hall⟩
  · obtain ⟨e, -, herror⟩ := hfail _ List.mem_cons_self
    rw [(herror {} (hsound [])).1] at hbuilt
    cases hbuilt

end Workshop

end RouteAudit
