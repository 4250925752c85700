/-
  Proofs/Syntax/Literal.lean --- string literals and the values they are written for.

  WHAT THIS FILE IS FOR.  A value can be written between quotes in several ways: in double
  quotes a newline and a tab may be escaped or not, in single quotes a backslash may stay as it
  is where it cannot be taken for an escape.  `Quote.Writes` lists these ways from the side of
  the value, and `decode` leads from each of them back to it.  Writing every special character
  with a backslash is always one of them.

  Main statement: `value?_of_writes`.
-/
import RouteAudit.Syntax.Literal

set_option autoImplicit false

namespace RouteAudit.Syntax.Quote

variable {q : Quote} {c : Char} {value body : List Char}

/-! ## Reading one character -/

theorem isSpecial_eq_false_iff :
    q.isSpecial c = false ↔ c ≠ '\\' ∧ c ≠ q.mark ∧ (q = .double → c ≠ '$') := by
  cases q <;> simp [isSpecial, and_assoc]

theorem decode_cons (h : c ≠ '\\') (body : List Char) :
    q.decode (c :: body) = c :: q.decode body := by
  rw [decode]
  intro _ _ hslash _
  exact h hslash

theorem decode_escape {d : Char} (h : q.escaped? c = some d) (body : List Char) :
    q.decode ('\\' :: c :: body) = d :: q.decode body := by
  rw [decode, h]

theorem decode_backslash (h : q.escaped? c = none) (body : List Char) :
    q.decode ('\\' :: c :: body) = '\\' :: c :: q.decode body := by
  rw [decode, h]

/-- A special character may be escaped. -/
theorem escaped?_of_isSpecial (h : q.isSpecial c = true) : q.escaped? c = some c := by
  cases q with
  | single =>
    have hspecial : c = '\\' ∨ c = '\'' := by simpa [isSpecial, mark] using h
    exact if_pos hspecial
  | double =>
    have hspecial : c = '\\' ∨ c = '"' ∨ c = '$' := by
      simpa [isSpecial, mark, or_assoc] using h
    exact if_pos hspecial

/-! ## Writing values -/

/-- The ways to write a value between quotes. -/
inductive Writes : Quote → List Char → List Char → Prop where
  | nil (q : Quote) : Writes q [] []
  | plain {q : Quote} {c : Char} {value body : List Char} (hplain : q.isSpecial c = false)
      (hrest : Writes q value body) : Writes q (c :: value) (c :: body)
  | escaped {q : Quote} {c : Char} {value body : List Char} (hspecial : q.isSpecial c = true)
      (hrest : Writes q value body) : Writes q (c :: value) ('\\' :: c :: body)
  | newline {value body : List Char} (hrest : Writes .double value body) :
      Writes .double ('\n' :: value) ('\\' :: 'n' :: body)
  | tab {value body : List Char} (hrest : Writes .double value body) :
      Writes .double ('\t' :: value) ('\\' :: 't' :: body)
  /-- In single quotes a backslash may stay as it is before any character of the value but a
  backslash or a quote. -/
  | bare {c : Char} {value body : List Char} (hslash : c ≠ '\\') (hquote : c ≠ '\'')
      (hrest : Writes .single (c :: value) body) :
      Writes .single ('\\' :: c :: value) ('\\' :: body)

/-- To escape every special character is a way to write any value. -/
theorem writes_encode (q : Quote) (value : List Char) : q.Writes value (q.encode value) := by
  induction value with
  | nil => exact .nil q
  | cons c value ih =>
    rw [encode]
    split
    · rename_i hspecial
      exact .escaped hspecial ih
    · rename_i hplain
      exact .plain (Bool.eq_false_iff.mpr hplain) ih

/-- What starts with an ordinary character is written with that character in front. -/
theorem Writes.exists_body (h : Writes .single (c :: value) body) (hslash : c ≠ '\\')
    (hquote : c ≠ '\'') : ∃ rest, body = c :: rest := by
  cases h with
  | plain hplain hrest => exact ⟨_, rfl⟩
  | escaped hspecial hrest => simp [isSpecial, mark, hslash, hquote] at hspecial
  | bare => exact absurd rfl hslash

theorem Writes.decode_eq (h : q.Writes value body) : q.decode body = value := by
  induction h with
  | nil q => rfl
  | plain hplain hrest ih => rw [decode_cons (isSpecial_eq_false_iff.mp hplain).1, ih]
  | escaped hspecial hrest ih => rw [decode_escape (escaped?_of_isSpecial hspecial), ih]
  | newline hrest ih => rw [decode_escape rfl, ih]
  | tab hrest ih => rw [decode_escape rfl, ih]
  | bare hslash hquote hrest ih =>
    -- the backslash and the character behind it are taken in together
    obtain ⟨rest, rfl⟩ := hrest.exists_body hslash hquote
    rw [decode_cons hslash] at ih
    rw [decode_backslash (by simp [escaped?, hslash, hquote]), ih]

/-! ## Quotes at both ends -/

/-- What stands between quotes, with the quotes. -/
def enclose (q : Quote) (body : List Char) : List Char := q.mark :: (body ++ [q.mark])

theorem inner?_enclose (q : Quote) (body : List Char) : q.inner? (q.enclose body) = some body := by
  rw [enclose, inner?, if_pos ⟨rfl, List.getLast?_concat⟩, List.dropLast_concat]

/-- A literal in which every special character is escaped has the value that it was written
for, and so has one that is written in any other of the ways. -/
theorem value?_of_writes :
    (∀ (q : Quote) (s : String), q.value? (q.enclose (q.encode s.toList)) = some s) ∧
      ∀ (q : Quote) (s : String) (body : List Char), q.Writes s.toList body →
        q.value? (q.enclose body) = some s := by
  have hwritten : ∀ (q : Quote) (s : String) (body : List Char), q.Writes s.toList body →
      q.value? (q.enclose body) = some s := by
    intro q s body h
    rw [value?, inner?_enclose, Option.map_some, h.decode_eq, String.ofList_toList]
  exact ⟨fun q s => hwritten q s _ (writes_encode q s.toList), hwritten⟩

/-- A backslash that is left before a letter and escaped before the closing quote, and of two
newlines one that is escaped. -/
theorem value?_of_writes_sample :
    (Writes .single "\\A'\\".toList ['\\', 'A', '\\', '\'', '\\', '\\'] ∧
        value? .single ['\'', '\\', 'A', '\\', '\'', '\\', '\\', '\''] = some "\\A'\\") ∧
      Writes .double "\n$\n".toList ['\\', 'n', '\\', '$', '\n'] ∧
        value? .double ['"', '\\', 'n', '\\', '$', '\n', '"'] = some "\n$\n" := by
  have hsingle : Writes .single "\\A'\\".toList ['\\', 'A', '\\', '\'', '\\', '\\'] :=
    .bare (by decide) (by decide) (.plain (by decide) (.escaped (by decide)
      (.escaped (by decide) (.nil _))))
  have hdouble : Writes .double "\n$\n".toList ['\\', 'n', '\\', '$', '\n'] :=
    .newline (.escaped (by decide) (.plain (by decide) (.nil _)))
  exact ⟨⟨hsingle, value?_of_writes.2 _ _ _ hsingle⟩, hdouble, value?_of_writes.2 _ _ _ hdouble⟩

end RouteAudit.Syntax.Quote
