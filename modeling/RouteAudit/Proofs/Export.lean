/-
  Proofs/Export.lean --- reports read back.

  WHAT THIS FILE IS FOR.  A report is written and read again later, perhaps from where its
  objects were brought into another order.  The statistics come back as they were.  A route
  comes back as one of which only the name is known; its name, score, benchmark, status and
  results are nevertheless the same, and so is what is written of it again.

  HOW IT GOES.  Each kind of record is read back on its own, from the inside out: the
  description of an auditor, its result, an audited route, the whole report.  All of them
  follow their records by the laws of `Proofs/Decode/Record.lean`.

  Main statement: `Export.ofJson_store_toJson`.
-/
import RouteAudit.Export
import RouteAudit.Proofs.Statistic.Report

set_option autoImplicit false

namespace RouteAudit

open RouteAudit.Decode

variable {store : Json → Json}

/-! ## Auditors and their results -/

namespace AuditorSummary

/-- The numbers of a summary are words. -/
structure Fits (s : AuditorSummary) : Prop where
  weight : Word.fits s.weight = true
  penalty : Word.fits s.penalty = true
  limit : ∀ n ∈ s.limit, Word.fits n = true

theorem ofJson_toJson (hs : Json.Faithful store) {s : AuditorSummary} (h : s.Fits) :
    ofJson (store s.toJson) = .ok s := by
  refine hs.decode_object (by simp) ?_
  unfold record
  exact ((((Record.Builds.required (by simp) (hs.format_string s.name)).map _).seq
    (.required (by simp) (hs.format_int h.weight)) (by simp)).seq
    (.required (by simp) (hs.format_int h.penalty)) (by simp)).seq
    (.optional (by simp) (hs.format_option_int h.limit)) (by simp)

end AuditorSummary

namespace AuditorResult

/-- The numbers of a result are words. -/
structure Fits (r : AuditorResult) : Prop where
  auditor : r.auditor.Fits
  result : ∀ n ∈ r.result, Word.fits n = true

theorem ofJson_toJson (hs : Json.Faithful store) {r : AuditorResult} (h : r.Fits) :
    ofJson (store r.toJson) = .ok r := by
  refine hs.decode_object (by simp) ?_
  unfold record
  exact ((Record.Builds.required (by simp) (AuditorSummary.ofJson_toJson hs h.auditor)).map _).seq
    (.optional (by simp) (hs.format_option_int h.result)) (by simp)

end AuditorResult

/-! ## Routes -/

theorem Status.ofJson_text (hs : Json.Faithful store) (s : Status) :
    Status.ofJson (store (.string s.text)) = .ok s := by
  rw [hs.string]
  cases s <;> rfl

namespace AuditedRoute

/-- The numbers of an audited route are words. -/
structure Fits (a : AuditedRoute) : Prop where
  score : Word.fits a.score = true
  benchmark : Word.fits a.benchmark = true
  results : ∀ r ∈ a.results, r.Fits

/-- A route as a report tells of it: only its name is known. -/
def reported (a : AuditedRoute) : AuditedRoute := { a with route := .stringable a.displayName }

@[simp] theorem displayName_reported (a : AuditedRoute) : a.reported.displayName = a.displayName :=
  Route.identifier_stringable a.displayName

/-- What is written of a route is all that a report tells of it. -/
theorem toJson_reported (a : AuditedRoute) : a.reported.toJson = a.toJson := by
  rw [toJson, displayName_reported]
  rfl

theorem ofJson_toJson (hs : Json.Faithful store) {a : AuditedRoute} (h : a.Fits) :
    ofJson (store a.toJson) = .ok a.reported := by
  have hresults := hs.format_list_same fun r hr => AuditorResult.ofJson_toJson hs (h.results r hr)
  refine hs.decode_object (by simp) ?_
  unfold record
  exact ((((((Record.Builds.required (by simp) (hs.format_string a.displayName)).map _).seq
    (.required (by simp) (hs.format_int h.score)) (by simp)).seq
    (.required (by simp) (Status.ofJson_text hs a.status)) (by simp)).seq
    (.required (by simp) (hs.format_bool a.hasFailed)) (by simp)).seq
    (.required (by simp) (hs.format_int h.benchmark)) (by simp)).seq
    (.required (by simp) hresults) (by simp)

/-- A route that tells the same as another one. -/
structure TellsSame (a b : AuditedRoute) : Prop where
  displayName : b.displayName = a.displayName
  score : b.score = a.score
  benchmark : b.benchmark = a.benchmark
  status : b.status = a.status
  hasFailed : b.hasFailed = a.hasFailed
  results : b.results = a.results

theorem tellsSame_reported (a : AuditedRoute) : a.TellsSame a.reported :=
  ⟨displayName_reported a, rfl, rfl, rfl, rfl, rfl⟩

end AuditedRoute

/-! ## Whole reports -/

namespace Export

/-- The figures of a report are finite and its whole numbers are words. -/
structure Fits (e : Export) : Prop where
  statistics : ∀ r ∈ e.statistics, r.IsFinite
  routes : ∀ a ∈ e.routes, a.Fits

theorem ofJson_toJson (hs : Json.Faithful store) {e : Export} (h : e.Fits) :
    ofJson (store e.toJson) =
      .ok { statistics := e.statistics, routes := e.routes.map AuditedRoute.reported } := by
  have hstatistics := hs.format_list_same fun r hr => Report.ofJson_toJson hs (h.statistics r hr)
  have hroutes := hs.format_list fun a ha => AuditedRoute.ofJson_toJson hs (h.routes a ha)
  refine hs.decode_object (by simp) ?_
  unfold record
  exact ((Record.Builds.required (by simp) hstatistics).map _).seq
    (.required (by simp) hroutes) (by simp)

/-- A report is read back from its stored value with the same statistics and, in the same
order, routes that tell the same; written again it is the same value. -/
theorem ofJson_store_toJson (store : Json → Json) (hs : Json.Faithful store) (e : Export)
    (h : e.Fits) :
    ∃ e', ofJson (store e.toJson) = .ok e' ∧ e'.statistics = e.statistics ∧
      List.Forall₂ AuditedRoute.TellsSame e.routes e'.routes ∧ e'.toJson = e.toJson := by
  refine ⟨_, ofJson_toJson hs h, rfl, ?_, ?_⟩
  · exact List.forall₂_map_right_iff.mpr
      (List.forall₂_same.mpr fun a _ => AuditedRoute.tellsSame_reported a)
  · simp only [toJson, Json.ofList, List.map_map, Function.comp_def,
      AuditedRoute.toJson_reported]

/-- A report with groups in a group, one of them empty, and a route whose name is empty. -/
def sample : Export where
  statistics :=
    [.group "spread" "Größe" [.group "none" "" [], .figure "average_score" "Average" 2.5]]
  routes :=
    [{ route := { name := some "", uri := "/λ" }, benchmark := 1, score := Word.least
       results := [⟨⟨"", 1, 0, none⟩, none⟩, ⟨⟨"policy", -2, 3, some 4⟩, some (-7)⟩] }]

theorem sample_fits : sample.Fits where
  statistics := by
    refine List.forall_mem_singleton.mpr (.group fun r hr => ?_)
    obtain rfl | hr := List.mem_cons.mp hr
    · exact .group (by simp)
    · rw [List.mem_singleton.mp hr]
      exact .figure (by decide)
  routes := by
    refine List.forall_mem_singleton.mpr ⟨by decide, by decide, fun r hr => ?_⟩
    simp only [List.mem_cons, List.not_mem_nil, or_false] at hr
    obtain rfl | rfl := hr
    · exact ⟨⟨by decide, by decide, by decide⟩, by decide⟩
    · exact ⟨⟨by decide, by decide, by decide⟩, by decide⟩

/-- The sample comes back both from the value as it is written and from one in key order. -/
theorem ofJson_store_sample :
    sample.Fits ∧
      (Json.Faithful id ∧ ∃ e', ofJson sample.toJson = .ok e' ∧
        e'.statistics = sample.statistics ∧
        List.Forall₂ AuditedRoute.TellsSame sample.routes e'.routes ∧
        e'.toJson = sample.toJson) ∧
      Json.Faithful Json.sorted ∧ ∃ e', ofJson sample.toJson.sorted = .ok e' ∧
        e'.statistics = sample.statistics ∧
        List.Forall₂ AuditedRoute.TellsSame sample.routes e'.routes ∧
        e'.toJson = sample.toJson :=
  ⟨sample_fits,
    ⟨Json.faithful_id, ofJson_store_toJson id Json.faithful_id sample sample_fits⟩,
    Json.faithful_sorted,
    ofJson_store_toJson Json.sorted Json.faithful_sorted sample sample_fits⟩

end Export

end RouteAudit
