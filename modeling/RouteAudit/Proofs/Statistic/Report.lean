/-
  Proofs/Statistic/Report.lean --- reports of statistics read back.

  WHAT THIS FILE IS FOR.  The result of a report is a number or a list of reports, and which
  of the two it is shows only in the value itself.  A tree of reports is nevertheless read
  back as it was written, down to any depth: a list is no number, and a value is as deep as
  the tree that it was written from, so that reading does not stop too early.

  Main statement: `ofJson_toJson`.
-/
import RouteAudit.Proofs.Json.Storage
import RouteAudit.Statistic.Report

set_option autoImplicit false

namespace RouteAudit.Report

open RouteAudit.Decode

/-- A tree of reports in which all figures are finite. -/
inductive IsFinite : Report Float → Prop where
  | figure {kind name : String} {x : Float} : x.isFinite = true → IsFinite (.figure kind name x)
  | group {kind name : String} {reports : List (Report Float)} :
    (∀ r ∈ reports, IsFinite r) → IsFinite (.group kind name reports)

theorem toJsonItems_eq_map (reports : List (Report Float)) :
    toJsonItems reports = reports.map toJson := by
  induction reports with
  | nil => rfl
  | cons r reports ih => rw [toJsonItems, ih, List.map_cons]

/-- The members of the object for a report. -/
def members (kind name : String) (result : Json) : List (String × Json) :=
  [("kind", .string kind), ("name", .string name), ("result", result)]

theorem toJson_figure (kind name : String) (x : Float) :
    (figure kind name x).toJson = .object (members kind name (.float x)) := by
  rw [toJson, members]

theorem toJson_group (kind name : String) (reports : List (Report Float)) :
    (group kind name reports).toJson =
      .object (members kind name (.array (toJsonItems reports))) := by
  rw [toJson, members]

theorem nodup_members (kind name : String) (result : Json) :
    ((members kind name result).map Prod.fst).Nodup := by
  simp [members]

section Stored

variable {store : Json → Json} (hs : Json.Faithful store)

include hs

theorem decode_members {inner : Json → Except Problem (Report Float)} {result : Json}
    {rebuild : String → String → Report Float} (kind name type : String)
    (hresult : resultOfJson inner (store result) = .ok rebuild) :
    (record inner).decode Json.format type (store (.object (members kind name result))) =
      .ok (rebuild kind name) := by
  refine hs.decode_object (nodup_members kind name result) ?_
  unfold record members
  exact (((Record.Builds.required (by simp) (hs.format_string kind)).map _).seq
    (.required (by simp) (hs.format_string name)) (by simp)).seq
    (.required (by simp) hresult) (by simp)

theorem resultOfJson_float (inner : Json → Except Problem (Report Float)) {x : Float}
    (h : x.isFinite = true) :
    resultOfJson inner (store (.float x)) = .ok fun kind name => .figure kind name x := by
  rw [resultOfJson, hs.format_float h]

theorem resultOfJson_array {inner : Json → Except Problem (Report Float)}
    {reports : List (Report Float)} (h : ∀ r ∈ reports, inner (store r.toJson) = .ok r) :
    resultOfJson inner (store (.array (toJsonItems reports))) =
      .ok fun kind name => .group kind name reports := by
  have hnumber : ∃ problem,
      Json.format.float (store (.array (toJsonItems reports))) = .error problem := by
    rw [hs.array]
    exact ⟨_, rfl⟩
  obtain ⟨problem, hproblem⟩ := hnumber
  have hlist : Json.format.list inner (store (.array (toJsonItems reports))) = .ok reports := by
    rw [toJsonItems_eq_map]
    exact hs.format_list_same h
  rw [resultOfJson, hproblem, hlist]

theorem depth_result_lt (kind name : String) (result : Json) :
    (store result).depth < (store (.object (members kind name result))).depth := by
  have hmem : ("result", result) ∈ members kind name result := by simp [members]
  exact hs.depth_lt_of_mem_members (nodup_members kind name result) hmem

/-- Any depth that is not less than that of the stored value is enough to read it. -/
theorem ofJsonAt_toJson {r : Report Float} (h : r.IsFinite) {depth : Nat}
    (hdepth : (store r.toJson).depth ≤ depth) : ofJsonAt depth (store r.toJson) = .ok r := by
  induction h generalizing depth with
  | @figure kind name x hx =>
    rw [toJson_figure] at hdepth ⊢
    have hresult := depth_result_lt hs kind name (.float x)
    obtain ⟨depth, rfl⟩ := Nat.exists_eq_succ_of_ne_zero (by omega : depth ≠ 0)
    exact decode_members hs kind name _ (resultOfJson_float hs _ hx)
  | @group kind name reports _ ih =>
    rw [toJson_group] at hdepth ⊢
    have hresult := depth_result_lt hs kind name (.array (toJsonItems reports))
    obtain ⟨depth, rfl⟩ := Nat.exists_eq_succ_of_ne_zero (by omega : depth ≠ 0)
    refine decode_members hs kind name _ (resultOfJson_array hs fun r hr => ih r hr ?_)
    -- a report of the group lies two steps below the object
    have hitem : (store r.toJson).depth < (store (.array (toJsonItems reports))).depth :=
      hs.depth_lt_of_mem_items (by rw [toJsonItems_eq_map]; exact List.mem_map_of_mem hr)
    omega

/-- A tree of reports is read back from the stored value as it was. -/
theorem ofJson_toJson {r : Report Float} (h : r.IsFinite) : ofJson (store r.toJson) = .ok r :=
  ofJsonAt_toJson hs h (Nat.le_refl _)

end Stored

end RouteAudit.Report
