/-
  Proofs/Text/Casing.lean --- snake case undoes camel case.

  WHAT THIS FILE IS FOR.  The kind of a statistic is the name of its type in snake case.  A
  name that puts words together, each with a capital at its start, falls into these words
  again: they come in lower case and with a bar between two of them.

  HOW IT GOES.  The case tables are asked once, about the letters and their capitals.  Within
  a word nothing changes, and a capital behind a letter starts the next one.

  Main statement: `snakeCase_camelCase`.
-/
import RouteAudit.Proofs.Text.Split
import RouteAudit.Text.Casing

set_option autoImplicit false

namespace RouteAudit.Text

/-! ## Letters -/

/-- The letters that words are made of. -/
def letters : List Char := "abcdefghijklmnopqrstuvwxyz".toList

/-- Whether the case tables know a letter and its capital. -/
def isCased (c : Char) : Bool :=
  !isUpper c && isLower c && toLower c == [c] && isUpper c.toUpper && toLower c.toUpper == [c]

theorem all_isCased : letters.all isCased = true := by decide +kernel

/-- What the case tables say of a letter and of its capital. -/
structure Cased (c : Char) : Prop where
  not_upper : isUpper c = false
  lower : isLower c = true
  toLower_eq : toLower c = [c]
  upper : isUpper c.toUpper = true
  toLower_upper : toLower c.toUpper = [c]

theorem cased_of_mem {c : Char} (h : c ∈ letters) : Cased c := by
  have hc := List.all_eq_true.1 all_isCased c h
  simp only [isCased, Bool.and_eq_true, Bool.not_eq_true', beq_iff_eq] at hc
  obtain ⟨⟨⟨⟨hnot, hlower⟩, hself⟩, hupper⟩, hback⟩ := hc
  exact ⟨hnot, hlower, hself, hupper, hback⟩

/-! ## Words -/

/-- Whether characters make a word.  It has two letters at least, since a capital behind a
capital starts no word by itself. -/
def isWord (word : List Char) : Bool := 2 ≤ word.length && word.all (letters.contains ·)

/-- A word with a capital at its start. -/
def capitalise : List Char → List Char
  | [] => []
  | c :: rest => c.toUpper :: rest

/-- The words between the bars of a name, put together with capitals. -/
def camelCase (snake : String) : String :=
  String.ofList ((splitAll '_' snake.toList).flatMap capitalise)

theorem isWord_iff {word : List Char} :
    isWord word = true ↔ 2 ≤ word.length ∧ ∀ c ∈ word, c ∈ letters := by
  simp only [isWord, Bool.and_eq_true, decide_eq_true_eq, List.all_eq_true, List.contains_iff_mem]

/-- Letters stay as they are, and the last of them stands before what follows. -/
theorem exists_snakeChars_append {word : List Char} (hne : word ≠ [])
    (h : ∀ c ∈ word, c ∈ letters) (before : Option Char) (rest : List Char) :
    ∃ last ∈ letters, snakeChars before (word ++ rest) = word ++ snakeChars (some last) rest := by
  induction word generalizing before with
  | nil => exact absurd rfl hne
  | cons c word ih =>
    have hc : c ∈ letters := h c List.mem_cons_self
    have hstep : ∀ more, snakeChars before (c :: more) = c :: snakeChars (some c) more :=
      fun more => by simp [snakeChars, (cased_of_mem hc).not_upper, (cased_of_mem hc).toLower_eq]
    cases word with
    | nil => exact ⟨c, hc, hstep rest⟩
    | cons d word =>
      obtain ⟨last, hlast, hword⟩ := ih (List.cons_ne_nil d word)
        (fun e he => h e (List.mem_cons_of_mem c he)) (some c)
      refine ⟨last, hlast, ?_⟩
      rw [List.cons_append, hstep, hword]
      rfl

/-- A word with a capital comes in lower case, with a bar before it if a letter stands there. -/
theorem exists_snakeChars_capitalise {word : List Char} (h : isWord word = true)
    (rest : List Char) :
    ∃ last ∈ letters,
      snakeChars none (capitalise word ++ rest) = word ++ snakeChars (some last) rest ∧
        ∀ before ∈ letters, snakeChars (some before) (capitalise word ++ rest) =
          '_' :: word ++ snakeChars (some last) rest := by
  obtain ⟨hlength, hletters⟩ := isWord_iff.1 h
  obtain ⟨c, word, rfl⟩ :=
    List.exists_cons_of_ne_nil (List.ne_nil_of_length_pos (Nat.lt_of_lt_of_le Nat.two_pos hlength))
  have hne : word ≠ [] := by
    rintro rfl
    exact Nat.not_succ_le_self 1 hlength
  have hc := cased_of_mem (hletters c List.mem_cons_self)
  obtain ⟨last, hlast, hword⟩ := exists_snakeChars_append hne
    (fun d hd => hletters d (List.mem_cons_of_mem c hd)) (some c.toUpper) rest
  refine ⟨last, hlast, ?_, fun before hbefore => ?_⟩
  · simp [capitalise, snakeChars, hc.toLower_upper, hword]
  · simp [capitalise, snakeChars, startsWord, hc.upper, hc.toLower_upper,
      (cased_of_mem hbefore).lower, hword]

theorem snakeChars_behind {words : List (List Char)} (h : ∀ word ∈ words, isWord word = true)
    {before : Char} (hbefore : before ∈ letters) :
    snakeChars (some before) (words.flatMap capitalise) = words.flatMap ('_' :: ·) := by
  induction words generalizing before with
  | nil => rfl
  | cons word words ih =>
    obtain ⟨last, hlast, -, hword⟩ :=
      exists_snakeChars_capitalise (h word List.mem_cons_self) (words.flatMap capitalise)
    rw [List.flatMap_cons, hword before hbefore,
      ih (fun other hother => h other (List.mem_cons_of_mem word hother)) hlast, List.flatMap_cons]

/-! ## Names -/

/-- Snake case gives back a name of words from its camel case. -/
theorem snakeCase_camelCase (snake : String)
    (h : (splitAll '_' snake.toList).all isWord = true) :
    snakeCase (camelCase snake) = snake := by
  rw [List.all_eq_true] at h
  obtain ⟨first, words, hwords⟩ := exists_splitAll_eq_cons '_' snake.toList
  rw [hwords] at h
  obtain ⟨last, hlast, hfirst, -⟩ :=
    exists_snakeChars_capitalise (h first List.mem_cons_self) (words.flatMap capitalise)
  have hbehind := snakeChars_behind
    (fun word hword => h word (List.mem_cons_of_mem first hword)) hlast
  rw [snakeCase, camelCase, hwords, String.toList_ofList, List.flatMap_cons, hfirst, hbehind,
    ← eq_append_of_splitAll hwords, String.ofList_toList]

/-- A name and its snake case, where the words can be read off. -/
theorem snakeCase_eq (name snake : String)
    (h : ((splitAll '_' snake.toList).all isWord && name == camelCase snake) = true) :
    snakeCase name = snake := by
  rw [Bool.and_eq_true, beq_iff_eq] at h
  rw [h.2, snakeCase_camelCase snake h.1]

end RouteAudit.Text
