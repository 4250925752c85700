/-
  Proofs/Route/Table.lean --- looking up routes by name.

  WHAT THIS FILE IS FOR.  A table of routes finds a route through an index of names and
  places, which is built along with the routes.  Looking up a name gives the same as going
  through the routes from the front: the first route of that name.  The empty name is no
  route's.

  HOW IT GOES.  A new route enters its place for its name if no route before it did
  (`getElem?_places_push`).  So the index knows the first place of every name at any time
  (`Indexed.push`, `indexed_ofList`).  All that is said about tables follows from this.

  Main statement: `ofList_answers`.
-/
import RouteAudit.Route.Table

set_option autoImplicit false

namespace RouteAudit

theorem Route.identifier_eq_of_name {r : Route} {name : String} (h : r.name = some name)
    (hname : name ≠ "") : r.identifier = name := by
  simp [identifier, h, hname]

namespace RouteTable

/-! ## The routes -/

theorem toList_routes_foldl_push (t : RouteTable) (routes : List Route) :
    (routes.foldl push t).routes.toList = t.routes.toList ++ routes := by
  induction routes generalizing t with
  | nil => rw [List.foldl_nil, List.append_nil]
  | cons r routes ih =>
    have hpush : (t.push r).routes.toList = t.routes.toList ++ [r] := Array.toList_push
    rw [List.foldl_cons, ih, hpush, List.append_assoc, List.singleton_append]

theorem toList_routes_ofList (routes : List Route) : (ofList routes).routes.toList = routes :=
  toList_routes_foldl_push empty routes

/-! ## The index -/

/-- The index knows the first place of every name that is not empty, and nothing else. -/
def Indexed (t : RouteTable) : Prop :=
  ∀ name, t.places[name]? =
    if name = "" then none else t.routes.findIdx? fun r => r.name = some name

theorem getElem?_insertIfNew_eq_or (places : Std.HashMap String Nat) (own : String)
    (place : Nat) (name : String) :
    (places.insertIfNew own place)[name]? =
      places[name]?.or (if own = name then some place else none) := by
  rw [Std.HashMap.getElem?_insertIfNew]
  by_cases hown : own = name
  · subst hown
    by_cases hmem : own ∈ places <;> simp [hmem]
  · simp [hown]

/-- A new route is entered for its name, unless the name is empty or has a place already. -/
theorem getElem?_places_push (t : RouteTable) (r : Route) (name : String) :
    (t.push r).places[name]? = t.places[name]?.or
      (if name ≠ "" ∧ r.name = some name then some t.routes.size else none) := by
  cases hname : r.name with
  | none => simp [push, hname]
  | some own =>
    by_cases hempty : own = ""
    · subst hempty
      have hnot : ¬ (name ≠ "" ∧ some "" = some name) := fun h => h.1 (Option.some.inj h.2).symm
      rw [if_neg hnot]
      simp [push, hname]
    · have hplaces : (t.push r).places = t.places.insertIfNew own t.routes.size := by
        simp [push, hname, hempty]
      rw [hplaces, getElem?_insertIfNew_eq_or]
      by_cases hown : own = name
      · subst hown
        simp [hempty]
      · simp [hown]

theorem indexed_empty : empty.Indexed := by
  intro name
  simp [empty]

theorem Indexed.push {t : RouteTable} (h : t.Indexed) (r : Route) : (t.push r).Indexed := by
  intro name
  have hroutes : (t.push r).routes = t.routes.push r := rfl
  rw [getElem?_places_push, h name, hroutes, Array.findIdx?_push]
  by_cases hname : name = "" <;> simp [hname]

theorem indexed_foldl_push {t : RouteTable} (h : t.Indexed) (routes : List Route) :
    (routes.foldl RouteTable.push t).Indexed := by
  induction routes generalizing t with
  | nil => exact h
  | cons r routes ih => exact ih (h.push r)

theorem indexed_ofList (routes : List Route) : (ofList routes).Indexed :=
  indexed_foldl_push indexed_empty routes

/-- The index of a list of routes, without the table: the first place of every name. -/
theorem getElem?_places_ofList (routes : List Route) (name : String) :
    (ofList routes).places[name]? =
      if name = "" then none else routes.findIdx? fun r => r.name = some name := by
  have hroutes : (ofList routes).routes = routes.toArray :=
    Array.toList_inj.1 (toList_routes_ofList routes)
  rw [indexed_ofList routes name, hroutes, List.findIdx?_toArray]

/-! ## Looking up a name -/

/-- What is stored for a name is the place of a route of that name. -/
theorem Indexed.exists_route {t : RouteTable} (h : t.Indexed) {name : String} {place : Nat}
    (hplace : t.places[name]? = some place) :
    name ≠ "" ∧ ∃ route, t.routes[place]? = some route ∧ route.name = some name := by
  rw [h name] at hplace
  by_cases hname : name = ""
  · simp [hname] at hplace
  · rw [if_neg hname] at hplace
    obtain ⟨hlt, hown, -⟩ := Array.findIdx?_eq_some_iff_getElem.1 hplace
    exact ⟨hname, _, Array.getElem?_eq_getElem hlt, of_decide_eq_true hown⟩

/-- The index finds the route that a search from the front finds. -/
theorem Indexed.get?_eq {t : RouteTable} (h : t.Indexed) (name : String) :
    t.get? name = if name = "" then none else t.routes.find? fun r => r.name = some name := by
  rw [get?, h name]
  by_cases hname : name = ""
  · rw [if_pos hname, if_pos hname, Option.bind_none]
  · rw [if_neg hname, if_neg hname, Array.find?_eq_bind_findIdx?_getElem?]

theorem get?_ofList (routes : List Route) (name : String) :
    (ofList routes).get? name =
      if name = "" then none else routes.find? fun r => r.name = some name := by
  rw [(indexed_ofList routes).get?_eq, ← Array.find?_toList, toList_routes_ofList]

theorem Indexed.name_eq_of_get? {t : RouteTable} (h : t.Indexed) {name : String} {route : Route}
    (hget : t.get? name = some route) : name ≠ "" ∧ route.name = some name := by
  obtain ⟨place, hplace, hroute⟩ := Option.bind_eq_some_iff.1 hget
  obtain ⟨hname, other, hother, hown⟩ := h.exists_route hplace
  obtain rfl : other = route := Option.some.inj (hother.symm.trans hroute)
  exact ⟨hname, hown⟩

/-! ## Resolving inputs -/

theorem resolveAll_singleton (t : RouteTable) (input : RouteInput) :
    t.resolveAll [input] = t.resolve input := List.flatMap_singleton ..

theorem resolveAll_eq_flatten (t : RouteTable) (inputs : List RouteInput) :
    t.resolveAll inputs = (inputs.map fun input => t.resolveAll [input]).flatten := by
  simp only [resolveAll_singleton]
  rfl

/-- Another name than the star stands for one route, which is identified by it. -/
theorem Indexed.exists_resolve_name {t : RouteTable} (h : t.Indexed) {name : String}
    (hstar : name ≠ "*") :
    ∃ route, t.resolve (.name name) = [route] ∧ route.identifier = name ∧
      (∀ known, t.get? name = some known → route = known) ∧
      (t.get? name = none → route.uri = name) := by
  refine ⟨_, if_neg hstar, ?_⟩
  cases hget : t.get? name with
  | none => exact ⟨Route.identifier_stringable name, nofun, fun _ => rfl⟩
  | some known =>
    obtain ⟨hname, hown⟩ := h.name_eq_of_get? hget
    exact ⟨Route.identifier_eq_of_name hown hname, fun _ heq => Option.some.inj heq, nofun⟩

/-- A table keeps its routes in order, finds the first route of every name, and resolves
inputs one by one. -/
theorem ofList_answers (routes : List Route) :
    (ofList routes).routes.toList = routes ∧
      (∀ name, (ofList routes).get? name =
        if name = "" then none else routes.find? fun r => r.name = some name) ∧
      (∀ name place, (ofList routes).places[name]? = some place →
        name ≠ "" ∧ ∃ route, routes[place]? = some route ∧ route.name = some name) ∧
      (∀ inputs, (ofList routes).resolveAll inputs =
        (inputs.map fun input => (ofList routes).resolveAll [input]).flatten) ∧
      (ofList routes).resolveAll [.name "*"] = routes ∧
      (∀ name, name ≠ "*" → ∃ route, (ofList routes).resolveAll [.name name] = [route] ∧
        route.identifier = name ∧
        (∀ known, (ofList routes).get? name = some known → route = known) ∧
        ((ofList routes).get? name = none → route.uri = name)) ∧
      ∀ route, (ofList routes).resolveAll [.route route] = [route] := by
  have hindexed := indexed_ofList routes
  refine ⟨toList_routes_ofList routes, get?_ofList routes, ?_, resolveAll_eq_flatten _, ?_, ?_, ?_⟩
  · intro name place hplace
    obtain ⟨hname, route, hroute, hown⟩ := hindexed.exists_route hplace
    refine ⟨hname, route, ?_, hown⟩
    rw [← hroute, ← Array.getElem?_toList, toList_routes_ofList]
  · rw [resolveAll_singleton, resolve, if_pos rfl, toList_routes_ofList]
  · intro name hstar
    rw [resolveAll_singleton]
    exact hindexed.exists_resolve_name hstar
  · intro route
    exact resolveAll_singleton _ _

/-- Routes without a name, with an empty one, and twice with the same one. -/
theorem ofList_answers_sample :
    let first : Route := { name := some "user.show", uri := "users/1" }
    let routes : List Route :=
      [{ uri := "up" }, { name := some "", uri := "down" }, first,
        { name := some "user.show", uri := "users/2" }]
    ((ofList routes).places["user.show"]? = some 2 ∧
        ∃ route, routes[2]? = some route ∧ route.name = some "user.show") ∧
      ("user.show" ≠ "*" ∧ (ofList routes).resolveAll [.name "user.show"] = [first]) ∧
      "" ≠ "*" ∧ (ofList routes).get? "" = none ∧
      ∃ route, (ofList routes).resolveAll [.name ""] = [route] ∧ route.uri = "" := by
  intro first routes
  obtain ⟨-, hget, hplaces, -, -, hname, -⟩ := ofList_answers routes
  have hplace : (ofList routes).places["user.show"]? = some 2 := by
    rw [getElem?_places_ofList]
    rfl
  have hfirst : (ofList routes).get? "user.show" = some first := by
    rw [hget]
    rfl
  have hnone : (ofList routes).get? "" = none := by
    rw [hget]
    rfl
  have hshow : "user.show" ≠ "*" := by decide
  have hempty : "" ≠ "*" := by decide
  obtain ⟨shown, hshown, -, hknown, -⟩ := hname "user.show" hshow
  obtain ⟨other, hother, -, -, huri⟩ := hname "" hempty
  refine ⟨⟨hplace, (hplaces _ _ hplace).2⟩, ⟨hshow, ?_⟩, hempty, hnone, other, hother, huri hnone⟩
  rw [hshown, hknown first hfirst]

end RouteTable

end RouteAudit
