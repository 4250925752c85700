/-
  Proofs/Route/Middleware.lean --- the texts of middleware.

  WHAT THIS FILE IS FOR.  Every text stands for a middleware, and every middleware has a text,
  but there are more of both than go together: a text may hold blanks and empty attributes,
  and a middleware may have a resolver of its own or separators inside its words.  A canonical
  middleware is one without any of that.  These are the ones that texts stand for, and the
  ones that are found again from their text.

  Main statement: `parse_text_canonical`.
-/
import RouteAudit.Proofs.Text.Blank
import RouteAudit.Proofs.Text.Split
import RouteAudit.Route.Middleware

set_option autoImplicit false

namespace RouteAudit.Middleware

/-! ## Attributes -/

/-- An attribute as it can stand between commas. -/
structure IsAttribute (a : String) : Prop where
  ne_empty : a ≠ ""
  trimmed : Text.trim a = a
  undivided : ',' ∉ a.toList

instance (a : String) : Decidable (IsAttribute a) :=
  decidable_of_iff (a ≠ "" ∧ Text.trim a = a ∧ ',' ∉ a.toList)
    ⟨fun ⟨hne, htrim, hcomma⟩ => ⟨hne, htrim, hcomma⟩,
      fun h => ⟨h.ne_empty, h.trimmed, h.undivided⟩⟩

theorem isAttribute_of_mem_parseAttributes {cs : List Char} {a : String}
    (h : a ∈ parseAttributes cs) : IsAttribute a := by
  obtain ⟨piece, hpiece, rfl⟩ := List.mem_map.mp h
  obtain ⟨hmem, hne⟩ := List.mem_filter.mp hpiece
  obtain ⟨raw, hraw, rfl⟩ := List.mem_map.mp hmem
  refine ⟨?_, ?_, ?_⟩
  · intro hempty
    have hnil : Text.trimChars raw = [] := String.ofList_eq_empty_iff.mp hempty
    simp [hnil] at hne
  · rw [Text.trim_ofList, Text.trimChars_trimChars]
  · rw [String.toList_ofList]
    exact fun hcomma =>
      Text.not_mem_of_mem_splitAll hraw ((Text.trimChars_sublist raw).subset hcomma)

/-- Attributes joined by commas are found again, if there are any. -/
theorem parseAttributes_intercalate {attributes : List String}
    (h : ∀ a ∈ attributes, IsAttribute a) (hne : attributes ≠ []) :
    parseAttributes ([','].intercalate (attributes.map String.toList)) = attributes := by
  have hsplit : Text.splitAll ',' ([','].intercalate (attributes.map String.toList)) =
      attributes.map String.toList := by
    refine Text.splitAll_intercalate (List.forall_mem_map.mpr fun a ha => (h a ha).undivided) ?_
    exact mt List.map_eq_nil_iff.mp hne
  have htrim : (attributes.map String.toList).map Text.trimChars =
      attributes.map String.toList := by
    rw [List.map_map]
    exact List.map_congr_left fun a ha => Text.trim_eq_self_iff.mp (h a ha).trimmed
  have hkeep : (attributes.map String.toList).filter (!·.isEmpty) =
      attributes.map String.toList := by
    refine List.filter_eq_self.mpr (List.forall_mem_map.mpr fun a ha => ?_)
    simpa using (h a ha).ne_empty
  rw [parseAttributes, hsplit, htrim, hkeep, List.map_map]
  exact (List.map_congr_left fun a _ => String.ofList_toList).trans (List.map_id attributes)

/-! ## Canonical middleware -/

/-- A middleware as a text can say it. -/
structure IsCanonical (m : Middleware) : Prop where
  resolver_eq : m.resolver = m.nickname
  trimmed : Text.trim m.nickname = m.nickname
  undivided : ':' ∉ m.nickname.toList
  attributes : ∀ a ∈ m.attributes, IsAttribute a

instance (m : Middleware) : Decidable m.IsCanonical :=
  decidable_of_iff
    (m.resolver = m.nickname ∧ Text.trim m.nickname = m.nickname ∧ ':' ∉ m.nickname.toList ∧
      ∀ a ∈ m.attributes, IsAttribute a)
    ⟨fun ⟨hresolver, htrim, hcolon, hattributes⟩ => ⟨hresolver, htrim, hcolon, hattributes⟩,
      fun h => ⟨h.resolver_eq, h.trimmed, h.undivided, h.attributes⟩⟩

theorem isCanonical_parse (text : String) : (parse text).IsCanonical where
  resolver_eq := rfl
  trimmed := by
    show Text.trim (String.ofList (Text.trimChars _)) = String.ofList (Text.trimChars _)
    rw [Text.trim_ofList, Text.trimChars_trimChars]
  undivided := by
    show ':' ∉ (String.ofList (Text.trimChars (Text.splitOnce ':' text.toList).1)).toList
    rw [String.toList_ofList]
    exact fun hcolon =>
      Text.not_mem_fst_splitOnce ':' text.toList ((Text.trimChars_sublist _).subset hcolon)
  attributes a ha := by
    have hmem : a ∈ ((Text.splitOnce ':' text.toList).2.map parseAttributes).getD [] := ha
    cases hrest : (Text.splitOnce ':' text.toList).2 with
    | none => simp [hrest] at hmem
    | some rest =>
      rw [hrest] at hmem
      exact isAttribute_of_mem_parseAttributes hmem

theorem toList_text {m : Middleware} (h : m.attributes ≠ []) :
    m.text.toList =
      m.nickname.toList ++ ':' :: [','].intercalate (m.attributes.map String.toList) := by
  rw [text, if_neg (mt List.isEmpty_iff.mp h), String.toList_append, String.toList_append,
    String.toList_intercalate, List.append_assoc]
  rfl

theorem IsCanonical.parse_text {m : Middleware} (h : m.IsCanonical) : parse m.text = m := by
  have hname : String.ofList (Text.trimChars m.nickname.toList) = m.nickname := h.trimmed
  by_cases hnone : m.attributes = []
  · have htext : m.text = m.nickname := if_pos (List.isEmpty_iff.mpr hnone)
    rw [parse, htext, Text.splitOnce_of_not_mem h.undivided]
    simp only [hname, Option.map_none, Option.getD_none]
    rw [← hnone]
    exact congrArg (Middleware.mk · m.nickname m.attributes) h.resolver_eq.symm
  · rw [parse, toList_text hnone, Text.splitOnce_append h.undivided]
    simp only [hname, Option.map_some, Option.getD_some]
    rw [parseAttributes_intercalate h.attributes hnone]
    exact congrArg (Middleware.mk · m.nickname m.attributes) h.resolver_eq.symm

/-- Going through the text once changes nothing afterwards.  A middleware is found again from
its text exactly if it is canonical, and these are the middleware that texts stand for. -/
theorem parse_text_canonical :
    (∀ text : String, parse (parse text).text = parse text) ∧
      ∀ m : Middleware, (parse m.text = m ↔ m.IsCanonical) ∧
        (m.IsCanonical ↔ ∃ text, parse text = m) := by
  refine ⟨fun text => (isCanonical_parse text).parse_text, fun m => ⟨⟨?_, ?_⟩, ?_, ?_⟩⟩
  · intro hback
    rw [← hback]
    exact isCanonical_parse m.text
  · exact IsCanonical.parse_text
  · exact fun h => ⟨m.text, h.parse_text⟩
  · rintro ⟨text, rfl⟩
    exact isCanonical_parse text

/-- Blanks and empty attributes are gone after one round, and only the first colon divides. -/
example :
    (parse " can : update ,, a:b ,").text = "can:update,a:b" ∧
      ¬ (⟨"Guard", "guard", []⟩ : Middleware).IsCanonical ∧
      ¬ (⟨"can", "can", ["a,b"]⟩ : Middleware).IsCanonical := by
  decide

end RouteAudit.Middleware
