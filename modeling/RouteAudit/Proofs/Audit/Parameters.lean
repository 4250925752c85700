/-
  Proofs/Audit/Parameters.lean --- the parameters in an address.

  WHAT THIS FILE IS FOR.  Parameters are counted from left to right: the first open brace that
  is closed on its line takes everything up to the first closing one, and the count goes on
  behind it.  Braces may be nested, unbalanced or broken by the end of a line, so it is not
  plain that no other choice of stretches in braces gives more of them.  It does not: the count
  is the greatest number of such stretches that do not overlap.

  HOW IT GOES.  Every stretch in braces ends at or behind the end of the one that is taken
  first, so of those that start before this end at most one can be in a choice
  (`Choice.length_le_one`).  The others lie in the rest of the text.

  Main statement: `parameters_isGreatest`.
-/
import Mathlib.Order.Bounds.Defs
import RouteAudit.Audit.Rule

set_option autoImplicit false

namespace RouteAudit.Rule

/-! ## The first closing brace -/

section AfterBrace

variable {cs inner more : List Char}

theorem afterBrace?_append (hbrace : '}' ∉ inner) (hline : '\n' ∉ inner) :
    afterBrace? (inner ++ '}' :: more) = some more := by
  induction inner with
  | nil => exact if_pos rfl
  | cons c inner ih =>
    rw [List.mem_cons, not_or] at hbrace hline
    rw [List.cons_append, afterBrace?, if_neg (Ne.symm hbrace.1), if_neg (Ne.symm hline.1),
      ih hbrace.2 hline.2]

theorem eq_of_afterBrace? (h : afterBrace? cs = some more) :
    ∃ inner, cs = inner ++ '}' :: more ∧ '}' ∉ inner ∧ '\n' ∉ inner := by
  induction cs with
  | nil => cases h
  | cons c cs ih =>
    rw [afterBrace?] at h
    split at h
    · rename_i hc
      obtain rfl := Option.some.inj h
      exact ⟨[], by rw [hc, List.nil_append], List.not_mem_nil, List.not_mem_nil⟩
    · rename_i hc
      split at h
      · cases h
      · rename_i hline
        obtain ⟨inner, rfl, hinner, hbroken⟩ := ih h
        exact ⟨c :: inner, rfl, List.not_mem_cons_of_ne_of_not_mem (Ne.symm hc) hinner,
          List.not_mem_cons_of_ne_of_not_mem (Ne.symm hline) hbroken⟩

/-- A closing brace on the same line is not missed. -/
theorem afterBrace?_ne_none (hline : '\n' ∉ inner) :
    afterBrace? (inner ++ '}' :: more) ≠ none := by
  induction inner with
  | nil =>
    rw [List.nil_append, afterBrace?, if_pos rfl]
    exact Option.some_ne_none _
  | cons c inner ih =>
    rw [List.mem_cons, not_or] at hline
    rw [List.cons_append, afterBrace?]
    split
    · exact Option.some_ne_none _
    · rw [if_neg (Ne.symm hline.1)]
      exact ih hline.2

end AfterBrace

/-! ## Counting -/

section Count

variable {c : Char} {rest more : List Char}

theorem countParameters_cons_of_ne (h : c ≠ '{') :
    countParameters (c :: rest) = countParameters rest := by
  rw [countParameters, if_neg h]

theorem countParameters_of_closed (h : afterBrace? rest = some more) :
    countParameters ('{' :: rest) = 1 + countParameters more := by
  rw [countParameters, if_pos rfl]
  split <;> simp_all

theorem countParameters_of_unclosed (h : afterBrace? rest = none) :
    countParameters ('{' :: rest) = countParameters rest := by
  rw [countParameters, if_pos rfl]
  split <;> simp_all

theorem countParameters_append_of_not_mem {front : List Char} (h : '{' ∉ front) :
    countParameters (front ++ rest) = countParameters rest := by
  induction front with
  | nil => rfl
  | cons c front ih =>
    rw [List.mem_cons, not_or] at h
    rw [List.cons_append, countParameters_cons_of_ne (Ne.symm h.1), ih h.2]

end Count

/-! ## Stretches of a text -/

/-- A stretch of a text: the place where it starts and the one behind its end. -/
structure Span where
  start : Nat
  stop : Nat

namespace Span

/-- The characters of a stretch. -/
def chars (s : Span) (cs : List Char) : List Char := (cs.take s.stop).drop s.start

/-- A stretch that starts with an open brace, ends with a closing one and has no end of a
line in it. -/
structure IsParameter (s : Span) (cs : List Char) : Prop where
  inside : s.stop ≤ cs.length
  opens : (s.chars cs).head? = some '{'
  closes : (s.chars cs).getLast? = some '}'
  unbroken : '\n' ∉ s.chars cs

/-- Two stretches that have no place in common. -/
def Apart (s t : Span) : Prop := s.stop ≤ t.start ∨ t.stop ≤ s.start

/-- The stretch in a text that lacks so many characters at the front. -/
def back (k : Nat) (s : Span) : Span := ⟨s.start - k, s.stop - k⟩

/-- The stretch in a text that has so many more characters at the front. -/
def forth (k : Nat) (s : Span) : Span := ⟨k + s.start, k + s.stop⟩

section Shift

variable {s : Span} {front rest : List Char}

@[simp] theorem back_forth (k : Nat) (s : Span) : (s.forth k).back k = s := by
  simp [back, forth]

theorem chars_append (h : front.length ≤ s.start) :
    s.chars (front ++ rest) = (s.back front.length).chars rest := by
  have hfront : (front.take s.stop).drop s.start = [] :=
    List.drop_eq_nil_of_le (by rw [List.length_take]; omega)
  rw [chars, chars, back, List.take_append, List.drop_append, hfront, List.nil_append,
    List.length_take]
  by_cases hstop : front.length ≤ s.stop
  · rw [Nat.min_eq_right hstop]
  · rw [Nat.sub_eq_zero_of_le (Nat.le_of_not_le hstop), List.take_zero, List.drop_nil,
      List.drop_nil]

theorem isParameter_append_iff (h : front.length ≤ s.start) :
    s.IsParameter (front ++ rest) ↔ (s.back front.length).IsParameter rest := by
  have hinside : s.stop ≤ (front ++ rest).length ↔ s.stop - front.length ≤ rest.length := by
    rw [List.length_append]
    omega
  constructor
  · rintro ⟨hin, hopens, hcloses, hunbroken⟩
    rw [chars_append h] at hopens hcloses hunbroken
    exact ⟨hinside.mp hin, hopens, hcloses, hunbroken⟩
  · rintro ⟨hin, hopens, hcloses, hunbroken⟩
    rw [← chars_append h] at hopens hcloses hunbroken
    exact ⟨hinside.mpr hin, hopens, hcloses, hunbroken⟩

end Shift

namespace IsParameter

variable {s : Span} {c : Char} {cs rest : List Char}

theorem exists_inner (h : s.IsParameter cs) :
    ∃ inner, s.chars cs = '{' :: (inner ++ ['}']) ∧ '\n' ∉ inner := by
  obtain ⟨tail, htail⟩ := List.head?_eq_some_iff.mp h.opens
  obtain ⟨front, hfront⟩ := List.getLast?_eq_some_iff.mp h.closes
  cases front with
  | nil =>
    -- one character cannot be both braces
    rw [hfront] at htail
    cases htail
  | cons c inner =>
    obtain ⟨rfl, rfl⟩ := List.cons.inj (hfront.symm.trans htail)
    refine ⟨inner, htail, fun hline => h.unbroken ?_⟩
    rw [htail]
    exact List.mem_cons_of_mem _ (List.mem_append_left _ hline)

/-- At the front of a text a stretch in braces is followed by the rest of the text. -/
theorem exists_eq_append (h : s.IsParameter cs) (hstart : s.start = 0) :
    ∃ inner more, cs = '{' :: (inner ++ '}' :: more) ∧ '\n' ∉ inner := by
  obtain ⟨inner, hchars, hline⟩ := h.exists_inner
  have htake : cs.take s.stop = '{' :: (inner ++ ['}']) := by
    rw [← hchars, chars, hstart, List.drop_zero]
  refine ⟨inner, cs.drop s.stop, ?_, hline⟩
  calc cs = cs.take s.stop ++ cs.drop s.stop := (List.take_append_drop s.stop cs).symm
    _ = '{' :: (inner ++ ['}']) ++ cs.drop s.stop := by rw [htake]
    _ = '{' :: (inner ++ '}' :: cs.drop s.stop) := by simp

theorem start_pos_of_ne (h : s.IsParameter (c :: rest)) (hc : c ≠ '{') : 1 ≤ s.start := by
  refine Nat.one_le_iff_ne_zero.mpr fun hstart => hc ?_
  obtain ⟨inner, more, heq, -⟩ := h.exists_eq_append hstart
  exact (List.cons.inj heq).1

theorem start_pos_of_unclosed (h : s.IsParameter ('{' :: rest)) (hrest : afterBrace? rest = none) :
    1 ≤ s.start := by
  refine Nat.one_le_iff_ne_zero.mpr fun hstart => ?_
  obtain ⟨inner, more, heq, hline⟩ := h.exists_eq_append hstart
  obtain rfl := (List.cons.inj heq).2
  exact afterBrace?_ne_none hline hrest

/-- A stretch in braces does not end before the first closing brace. -/
theorem lt_stop {front : List Char} (h : s.IsParameter (front ++ '}' :: rest))
    (hfront : '}' ∉ front) : front.length < s.stop := by
  refine Nat.lt_of_not_le fun hstop => hfront ?_
  have hmem : '}' ∈ s.chars (front ++ '}' :: rest) := List.mem_of_getLast? h.closes
  rw [chars, List.take_append_of_le_length hstop] at hmem
  exact List.mem_of_mem_take (List.mem_of_mem_drop hmem)

end IsParameter

end Span

/-! ## Choices of stretches -/

/-- Stretches in braces of a text, no two of which overlap. -/
structure Choice (cs : List Char) (spans : List Span) : Prop where
  isParameter : ∀ s ∈ spans, s.IsParameter cs
  apart : spans.Pairwise Span.Apart

namespace Choice

variable {cs front rest : List Char} {spans part : List Span}

theorem sublist (h : Choice cs spans) (hpart : part.Sublist spans) : Choice cs part :=
  ⟨fun s hs => h.isParameter s (hpart.subset hs), h.apart.sublist hpart⟩

/-- Of stretches with a common place there is at most one in a choice. -/
theorem length_le_one (h : Choice cs spans) (place : Nat)
    (hplace : ∀ s ∈ spans, s.start ≤ place ∧ place < s.stop) : spans.length ≤ 1 := by
  match spans, h.apart, hplace with
  | [], _, _ => exact Nat.zero_le 1
  | [_], _, _ => exact Nat.le_refl 1
  | s :: t :: _, hapart, hplace =>
    have hs := hplace s List.mem_cons_self
    have ht := hplace t (List.mem_cons_of_mem _ List.mem_cons_self)
    have hst : s.Apart t := (List.pairwise_cons.mp hapart).1 t List.mem_cons_self
    unfold Span.Apart at hst
    omega

theorem back (h : Choice (front ++ rest) spans) (hstart : ∀ s ∈ spans, front.length ≤ s.start) :
    Choice rest (spans.map (Span.back front.length)) where
  isParameter := List.forall_mem_map.mpr fun s hs =>
    (Span.isParameter_append_iff (hstart s hs)).mp (h.isParameter s hs)
  apart := by
    refine List.pairwise_map.mpr (h.apart.imp_of_mem fun {s t} hs ht hst => ?_)
    have hs := hstart s hs
    have ht := hstart t ht
    simp only [Span.Apart, Span.back] at hst ⊢
    omega

theorem forth (h : Choice rest spans) (front : List Char) :
    Choice (front ++ rest) (spans.map (Span.forth front.length)) where
  isParameter := List.forall_mem_map.mpr fun s hs => by
    refine (Span.isParameter_append_iff (Nat.le_add_right _ _)).mpr ?_
    rw [Span.back_forth]
    exact h.isParameter s hs
  apart := by
    refine List.pairwise_map.mpr (h.apart.imp fun {s t} hst => ?_)
    simp only [Span.Apart, Span.forth] at hst ⊢
    omega

/-- A choice without a stretch at the front is one for the rest of the text. -/
theorem length_le_of_start_pos {c : Char} {n : Nat} (h : Choice (c :: rest) spans)
    (hstart : ∀ s ∈ spans, 1 ≤ s.start)
    (hrest : ∀ others, Choice rest others → others.length ≤ n) : spans.length ≤ n := by
  have hfront : Choice ([c] ++ rest) spans := h
  have hlength := hrest _ (hfront.back hstart)
  rwa [List.length_map] at hlength

/-- At most one stretch of a choice starts before the end of the first one in the text. -/
theorem length_le_of_closed {inner more : List Char} {n : Nat}
    (h : Choice ('{' :: inner ++ '}' :: more) spans) (hinner : '}' ∉ inner)
    (hmore : ∀ others, Choice more others → others.length ≤ n) : spans.length ≤ 1 + n := by
  have hbrace : '}' ∉ '{' :: inner := List.not_mem_cons_of_ne_of_not_mem (by decide) hinner
  have hsame : '{' :: inner ++ '}' :: more = '{' :: inner ++ ['}'] ++ more := by simp
  let isEarly (s : Span) : Bool := s.start ≤ inner.length + 1
  have hearly : (spans.filter isEarly).length ≤ 1 := by
    refine (h.sublist List.filter_sublist).length_le_one (inner.length + 1) fun s hs => ?_
    obtain ⟨hs, hstart⟩ := List.mem_filter.mp hs
    exact ⟨of_decide_eq_true hstart, (h.isParameter s hs).lt_stop hbrace⟩
  have hlate : (spans.filter fun s => ¬ isEarly s).length ≤ n := by
    have hbehind : Choice ('{' :: inner ++ ['}'] ++ more) (spans.filter fun s => ¬ isEarly s) :=
      hsame ▸ h.sublist List.filter_sublist
    have hstart : ∀ s ∈ spans.filter fun s => ¬ isEarly s,
        ('{' :: inner ++ ['}']).length ≤ s.start := by
      intro s hs
      have hnot : inner.length + 1 < s.start := by
        simpa [isEarly] using (List.mem_filter.mp hs).2
      simpa [Nat.succ_le_iff] using hnot
    have hlength := hmore _ (hbehind.back hstart)
    rwa [List.length_map] at hlength
  have hparts := List.length_eq_countP_add_countP isEarly (l := spans)
  rw [List.countP_eq_length_filter, List.countP_eq_length_filter] at hparts
  omega

/-- No choice has more stretches than are counted. -/
theorem length_le (h : Choice cs spans) : spans.length ≤ countParameters cs := by
  induction cs using countParameters.induct generalizing spans with
  | case1 =>
    cases spans with
    | nil => exact Nat.zero_le _
    | cons s spans =>
      have hopens := (h.isParameter s List.mem_cons_self).opens
      simp [Span.chars] at hopens
  | case2 rest more hclosed ih =>
    rw [countParameters_of_closed hclosed]
    obtain ⟨inner, rfl, hinner, -⟩ := eq_of_afterBrace? hclosed
    exact h.length_le_of_closed hinner fun _ => ih
  | case3 rest hunclosed ih =>
    rw [countParameters_of_unclosed hunclosed]
    exact h.length_le_of_start_pos
      (fun s hs => (h.isParameter s hs).start_pos_of_unclosed hunclosed) fun _ => ih
  | case4 c rest hc ih =>
    rw [countParameters_cons_of_ne hc]
    exact h.length_le_of_start_pos (fun s hs => (h.isParameter s hs).start_pos_of_ne hc) fun _ => ih

/-- The stretch in braces at the front, and a choice behind it. -/
theorem cons {inner more : List Char} (hline : '\n' ∉ inner) (h : Choice more spans) :
    Choice ('{' :: inner ++ '}' :: more)
      (⟨0, inner.length + 2⟩ :: spans.map (Span.forth (inner.length + 2))) := by
  have hforth := h.forth ('{' :: inner ++ ['}'])
  have hlength : ('{' :: inner ++ ['}']).length = inner.length + 2 := by simp
  have hsame : '{' :: inner ++ ['}'] ++ more = '{' :: inner ++ '}' :: more := by simp
  rw [hlength, hsame] at hforth
  have hchars : Span.chars ⟨0, inner.length + 2⟩ ('{' :: inner ++ '}' :: more) =
      '{' :: (inner ++ ['}']) := by
    rw [← hsame, Span.chars, List.drop_zero, List.take_left' hlength]
    rfl
  refine ⟨List.forall_mem_cons.mpr ⟨⟨?_, ?_, ?_, ?_⟩, hforth.isParameter⟩, ?_⟩
  · simp
  · rw [hchars, List.head?_cons]
  · rw [hchars, ← List.cons_append, List.getLast?_concat]
  · rw [hchars]
    simpa using hline
  · refine List.pairwise_cons.mpr ⟨List.forall_mem_map.mpr fun s _ => .inl ?_, hforth.apart⟩
    exact Nat.le_add_right _ _

/-- There is a choice of as many stretches as are counted. -/
theorem exists_length_eq (cs : List Char) :
    ∃ spans, Choice cs spans ∧ spans.length = countParameters cs := by
  induction cs using countParameters.induct with
  | case1 => exact ⟨[], ⟨by simp, .nil⟩, by simp [countParameters]⟩
  | case2 rest more hclosed ih =>
    obtain ⟨spans, hspans, hlength⟩ := ih
    rw [countParameters_of_closed hclosed, ← hlength]
    obtain ⟨inner, rfl, -, hline⟩ := eq_of_afterBrace? hclosed
    exact ⟨_, hspans.cons hline, by rw [List.length_cons, List.length_map, Nat.add_comm]⟩
  | case3 rest hunclosed ih =>
    obtain ⟨spans, hspans, hlength⟩ := ih
    rw [countParameters_of_unclosed hunclosed, ← hlength]
    exact ⟨_, hspans.forth ['{'], List.length_map _⟩
  | case4 c rest hc ih =>
    obtain ⟨spans, hspans, hlength⟩ := ih
    rw [countParameters_cons_of_ne hc, ← hlength]
    exact ⟨_, hspans.forth [c], List.length_map _⟩

end Choice

/-! ## Addresses -/

/-- Names in braces between texts. -/
def address (front : List Char) (parts : List (List Char × List Char)) : List Char :=
  front ++ parts.flatMap fun (name, text) => '{' :: name ++ '}' :: text

theorem countParameters_address {front : List Char} {parts : List (List Char × List Char)}
    (hfront : '{' ∉ front) (hnames : ∀ part ∈ parts, '}' ∉ part.1 ∧ '\n' ∉ part.1)
    (htexts : ∀ part ∈ parts, '{' ∉ part.2) :
    countParameters (address front parts) = parts.length := by
  induction parts generalizing front with
  | nil => rw [address, countParameters_append_of_not_mem hfront]; simp [countParameters]
  | cons part parts ih =>
    obtain ⟨⟨hbrace, hline⟩, hnames⟩ := List.forall_mem_cons.mp hnames
    obtain ⟨htext, htexts⟩ := List.forall_mem_cons.mp htexts
    have hpart : address front (part :: parts) =
        front ++ '{' :: (part.1 ++ '}' :: address part.2 parts) := by simp [address]
    rw [hpart, countParameters_append_of_not_mem hfront,
      countParameters_of_closed (afterBrace?_append hbrace hline), ih htext hnames htexts,
      List.length_cons, Nat.add_comm]

/-- The parameters of an address are counted as the greatest number of stretches in braces that
do not overlap.  Where names in braces alternate with texts it is the number of the names. -/
theorem parameters_isGreatest :
    (∀ uri : String, IsGreatest
      {n | ∃ spans, Choice uri.toList spans ∧ spans.length = n} (parameters uri)) ∧
      ∀ (front : List Char) (parts : List (List Char × List Char)), '{' ∉ front →
        (∀ part ∈ parts, '}' ∉ part.1 ∧ '\n' ∉ part.1) → (∀ part ∈ parts, '{' ∉ part.2) →
        parameters (String.ofList (address front parts)) = parts.length := by
  refine ⟨fun uri => ⟨Choice.exists_length_eq uri.toList, ?_⟩, ?_⟩
  · rintro n ⟨spans, hspans, rfl⟩
    exact hspans.length_le
  · intro front parts hfront hnames htexts
    rw [parameters, String.toList_ofList]
    exact countParameters_address hfront hnames htexts

/-- An address of two parameters, with a closing brace and the end of a line between them. -/
theorem parameters_isGreatest_sample :
    let front := "users/".toList
    let parts := [("user".toList, "\n\x7d/posts/".toList), ("post:slug".toList, [])]
    ('{' ∉ front ∧ (∀ part ∈ parts, '}' ∉ part.1 ∧ '\n' ∉ part.1) ∧
        ∀ part ∈ parts, '{' ∉ part.2) ∧
      parameters (String.ofList (address front parts)) = 2 := by
  intro front parts
  have hfront : '{' ∉ front := by decide
  have hnames : ∀ part ∈ parts, '}' ∉ part.1 ∧ '\n' ∉ part.1 := by decide
  have htexts : ∀ part ∈ parts, '{' ∉ part.2 := by decide
  exact ⟨⟨hfront, hnames, htexts⟩, parameters_isGreatest.2 front parts hfront hnames htexts⟩

end RouteAudit.Rule
