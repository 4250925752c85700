/-
  Proofs/Route/Storage.lean --- routes read back from JSON.

  WHAT THIS FILE IS FOR.  Routes are exported as a JSON list and read again later, perhaps from
  where the members of their objects were brought into another order.  A middleware is always
  written as an object, never as a text, so it comes back with its own resolver and with
  attributes that no text could say; a name that is missing and an unknown state of the scoped
  bindings are written as null and come back as such.

  HOW IT GOES.  Middleware and routes follow their records by the laws of
  `Proofs/Decode/Record.lean`.  The list is read from its text by `Proofs/Json/Reading.lean`, and
  bringing its objects into key order stores them once more.

  Main statement: `Route.ofJson_stored`.
-/
import RouteAudit.Proofs.Json.Reading
import RouteAudit.Proofs.Route.Table

set_option autoImplicit false

namespace RouteAudit

open RouteAudit.Decode

variable {store : Json → Json}

/-! ## Middleware -/

namespace Middleware

theorem ofJson_toJson (hs : Json.Faithful store) (m : Middleware) :
    ofJson (store m.toJson) = .ok m := by
  have hattributes := hs.format_list_same fun a (_ : a ∈ m.attributes) => hs.format_string a
  have hnickname : Json.format.option Json.format.string (store (.string m.nickname)) =
      .ok (some m.nickname) := hs.format_option_string (some m.nickname)
  have hrecord : record.decode Json.format "struct variant" (store m.toJson) = .ok m := by
    refine hs.decode_object (by simp) ?_
    unfold record
    exact (((Record.Builds.required (by simp) (hs.format_string m.resolver)).map _).seq
      (.optional (by simp) hnickname) (by simp)).seq
      (.optional (by simp) hattributes) (by simp)
  have hobject : ∃ stored, store m.toJson = .object stored := hs.exists_object (by simp)
  obtain ⟨stored, hstored⟩ := hobject
  rw [hstored] at hrecord ⊢
  rw [ofJson, hrecord]

theorem isTextual_toJson (hs : Json.Faithful store) (n : Nat) (m : Middleware) :
    Json.IsTextual (n + 3) (store m.toJson) := by
  refine hs.isTextual_object (by simp) ?_
  simp only [List.forall_mem_cons]
  refine ⟨hs.isTextual_string _, hs.isTextual_string _, ?_, by simp⟩
  exact hs.isTextual_ofList fun a _ => hs.isTextual_string a

end Middleware

/-! ## Routes -/

namespace Route

theorem ofJson_toJson (hs : Json.Faithful store) (r : Route) : ofJson (store r.toJson) = .ok r := by
  have hmiddleware :=
    hs.format_list_same fun m (_ : m ∈ r.middleware) => Middleware.ofJson_toJson hs m
  have hroute :
      (⟨r.name, r.uri, r.middleware, .ofOption r.scopedBindings.toOption⟩ : Route) = r := by
    rw [ScopedBindings.ofOption_toOption]
  rw [← hroute]
  refine hs.decode_object (by simp) ?_
  unfold record
  exact ((((Record.Builds.optional (by simp) (hs.format_option_string r.name)).map _).seq
    (.required (by simp) (hs.format_string r.uri)) (by simp)).seq
    (.optional (by simp) hmiddleware) (by simp)).seq
    (.optional (by simp) (hs.format_option_bool r.scopedBindings.toOption)) (by simp)

theorem isTextual_toJson (hs : Json.Faithful store) (n : Nat) (r : Route) :
    Json.IsTextual (n + 5) (store r.toJson) := by
  refine hs.isTextual_object (by simp) ?_
  simp only [List.forall_mem_cons]
  refine ⟨?_, hs.isTextual_string _, ?_, ?_, by simp⟩
  · exact hs.isTextual_ofOption fun name _ => hs.isTextual_string name
  · exact hs.isTextual_ofList fun m _ => Middleware.isTextual_toJson hs n m
  · exact hs.isTextual_ofOption fun b _ => hs.isTextual_bool b

end Route

theorem RouteInput.ofJson_toJson (hs : Json.Faithful store) (r : Route) :
    ofJson (store r.toJson) = .ok (.route r) := by
  have hroute := Route.ofJson_toJson hs r
  have hobject : ∃ stored, store r.toJson = .object stored := hs.exists_object (by simp)
  obtain ⟨stored, hstored⟩ := hobject
  rw [hstored] at hroute ⊢
  rw [ofJson, hroute]

/-! ## Lists of routes -/

namespace RouteTable

theorem routeOfJson_toJson (hs : Json.Faithful store) (r : Route) :
    routeOfJson (store r.toJson) = .ok r := by
  rw [routeOfJson, RouteInput.ofJson_toJson hs]
  rfl

theorem ofItems_toJson (hs : Json.Faithful store) (routes : List Route) :
    ofItems (routes.map fun r => store r.toJson) = .ok (ofList routes) := by
  have hroutes : (routes.map fun r => store r.toJson).mapM routeOfJson = .ok (routes.map id) :=
    Json.mapM_eq_ok fun r _ => routeOfJson_toJson hs r
  rw [ofItems, hroutes, List.map_id]
  rfl

/-- The table of a stored list of routes, from its text. -/
theorem parse_compact (hs : Json.Faithful store) (routes : List Route) :
    parse (store (.ofList Route.toJson routes)).compact = .ok (ofList routes) := by
  have htextual : Json.IsTextual Json.maxDepth (store (.ofList Route.toJson routes)) :=
    hs.isTextual_ofList (n := 126) fun r _ => Route.isTextual_toJson hs 122 r
  rw [Json.ofList, hs.array, List.map_map] at htextual ⊢
  rw [parse, Json.parseList_compact htextual]
  simp only [List.map_map]
  exact ofItems_toJson (Json.faithful_sorted.comp hs) routes

end RouteTable

/-- A route is read back from its stored value as the same route, and a table from the text of
a stored list has exactly the routes of the list in their order. -/
theorem Route.ofJson_stored (store : Json → Json) (hs : Json.Faithful store) :
    (∀ r : Route, RouteInput.ofJson (store r.toJson) = .ok (.route r)) ∧
      ∀ routes : List Route, ∃ table,
        RouteTable.parse (store (.ofList Route.toJson routes)).compact = .ok table ∧
          table = RouteTable.ofList routes ∧ table.routes.toList = routes :=
  ⟨RouteInput.ofJson_toJson hs, fun routes =>
    ⟨_, RouteTable.parse_compact hs routes, rfl, RouteTable.toList_routes_ofList routes⟩⟩

/-- Routes without a name and with an empty one, and middleware that no text stands for. -/
theorem Route.ofJson_stored_sample :
    let bare : Route := { uri := "up" }
    let guarded : Route :=
      { name := some "", uri := "\x7b\x7d\n", scopedBindings := .notEnforced
        middleware := [⟨"App\\Guard", "can:", ["", "a,b"]⟩] }
    (Json.Faithful id ∧ RouteInput.ofJson guarded.toJson = .ok (.route guarded)) ∧
      Json.Faithful Json.sorted ∧ ∃ table,
        RouteTable.parse (Json.ofList Route.toJson [guarded, bare, guarded]).sorted.compact =
          .ok table ∧ table.routes.toList = [guarded, bare, guarded] := by
  intro bare guarded
  obtain ⟨table, hparse, -, hroutes⟩ :=
    (Route.ofJson_stored Json.sorted Json.faithful_sorted).2 [guarded, bare, guarded]
  exact ⟨⟨Json.faithful_id, (Route.ofJson_stored id Json.faithful_id).1 guarded⟩,
    Json.faithful_sorted, table, hparse, hroutes⟩

end RouteAudit
