/-
  Proofs/Ignore/Language.lean --- the names that a pattern matches.

  WHAT THIS FILE IS FOR.  A pattern is meant as follows: a star stands for any characters and
  everything else for itself.  That is its `wildcard` language.  What it does match is the
  language `reading`, in which two stars and a slash at the start of a segment may also stand
  for nothing at all.  The two are the same exactly for the patterns that have no such stars.

  HOW IT GOES.  Every token has a language, and the tokens in a row have the product.  Reading
  one more part of a pattern multiplies the language of the tokens so far by that of the part:
  this carries `language_readTokens` through the pattern.  Whole segments after whole segments
  are whole segments, so it does no harm that the tokens for them are merged.

  Main statements: `isMatch_iff_mem_reading`, `isMatch_iff_mem_wildcard_iff`.
-/
import Mathlib.Computability.Language
import Mathlib.Order.CompletePartialOrder
import RouteAudit.Ignore.Glob

set_option autoImplicit false

namespace RouteAudit.Ignore

/-! ## Languages -/

/-- The texts that a character of a pattern stands for: any for a star, itself otherwise. -/
def share (c : Char) : Language Char := if c = '*' then ⊤ else {[c]}

/-- The names that a pattern is meant to match: each star is replaced by some characters, and
every other character stays. -/
def wildcard : List Char → Language Char
  | [] => 1
  | c :: rest => share c * wildcard rest

/-- Whole segments, or none. -/
def segments : Language Char := 1 + ⊤ * {['/']}

/-- The names that a pattern is read as.  The flag says whether a segment starts, at the start
of the pattern or behind a slash; if so, two stars and a slash stand for whole segments, of
which there may be none. -/
def reading : Bool → List Char → Language Char
  | _, [] => 1
  | true, '*' :: '*' :: '/' :: rest => segments * reading true rest
  | _, c :: rest => share c * reading (c == '/') rest

theorem share_star : share '*' = ⊤ := rfl

theorem share_of_ne {c : Char} (h : c ≠ '*') : share c = {[c]} := if_neg h

theorem top_mul_top : (⊤ : Language Char) * ⊤ = ⊤ := by
  refine le_antisymm le_top ?_
  calc (⊤ : Language Char) = ⊤ * 1 := (mul_one _).symm
    _ ≤ ⊤ * ⊤ := mul_le_mul_right le_top _

theorem one_le_segments : 1 ≤ segments := le_sup_left

theorem top_mul_slash_le_segments : ⊤ * {['/']} ≤ segments := le_sup_right

theorem segments_mul_self : segments * segments = segments := by
  have hslash : ⊤ * {['/']} * (⊤ * {['/']}) ≤ segments := by
    rw [← mul_assoc]
    exact (mul_le_mul_left le_top _).trans top_mul_slash_le_segments
  refine le_antisymm ?_ ?_
  · calc segments * segments = segments + (⊤ * {['/']} + ⊤ * {['/']} * (⊤ * {['/']})) := by
          conv_lhs => rw [segments, add_mul, one_mul, mul_add, mul_one]
          rfl
      _ ≤ segments := sup_le le_rfl (sup_le top_mul_slash_le_segments hslash)
  · calc segments = 1 * segments := (one_mul _).symm
      _ ≤ segments * segments := mul_le_mul_left one_le_segments _

theorem segments_mul_top : segments * ⊤ = ⊤ :=
  le_antisymm le_top <| calc
    (⊤ : Language Char) = 1 * ⊤ := (one_mul _).symm
    _ ≤ segments * ⊤ := mul_le_mul_left one_le_segments _

/-! ## Tokens -/

/-- The texts that a token stands for. -/
def Token.language (t : Token) : Language Char := {cs | t.Spells cs}

/-- The texts that tokens in a row stand for. -/
def language (ts : List Token) : Language Char := (ts.map Token.language).prod

theorem language_char (c : Char) : (Token.char c).language = {[c]} := rfl

theorem language_any : Token.any.language = ⊤ := rfl

theorem language_before : Token.before.language = segments := by
  ext cs
  show (cs = [] ∨ ∃ run, cs = run ++ ['/']) ↔ cs ∈ segments
  rw [segments, Language.mem_add, Language.mem_one, Language.mem_mul]
  constructor
  · rintro (h | ⟨run, rfl⟩)
    · exact .inl h
    · exact .inr ⟨run, trivial, ['/'], rfl, rfl⟩
  · rintro (h | ⟨run, -, slash, rfl, rfl⟩)
    · exact .inl h
    · exact .inr ⟨run, rfl⟩

theorem language_behind : Token.behind.language = {['/']} * ⊤ := by
  ext cs
  show (∃ run, cs = '/' :: run) ↔ cs ∈ ({['/']} * ⊤ : Language Char)
  rw [Language.mem_mul]
  constructor
  · rintro ⟨run, rfl⟩
    exact ⟨['/'], rfl, run, trivial, rfl⟩
  · rintro ⟨slash, rfl, run, -, rfl⟩
    exact ⟨run, rfl⟩

theorem language_between : Token.between.language = {['/']} * segments := by
  ext cs
  rw [Language.mem_mul, ← language_before]
  constructor
  · rintro (rfl | ⟨run, rfl⟩)
    · exact ⟨['/'], rfl, [], .inl rfl, rfl⟩
    · exact ⟨['/'], rfl, run ++ ['/'], .inr ⟨run, rfl⟩, rfl⟩
  · rintro ⟨slash, rfl, run, rfl | ⟨run, rfl⟩, rfl⟩
    · exact .inl rfl
    · exact .inr ⟨run, rfl⟩

theorem language_reverse_cons (t : Token) (done : List Token) :
    language (t :: done).reverse = language done.reverse * t.language := by
  simp [language]

/-! ## What a pattern reads as -/

/-- Behind a slash the last token is that slash, or segments that end with it. -/
def EndsSegment (done : List Token) (last : Option Char) : Prop :=
  last = some '/' →
    done = [.before] ∨ ∃ others, done = .char '/' :: others ∨ done = .between :: others

theorem language_pushRecursive_between {done : List Token} {last : Option Char}
    (hends : EndsSegment done last) (h : startsSegment done last = true) :
    language (pushRecursive .between done).reverse = language done.reverse * segments := by
  cases done with
  | nil => simp [pushRecursive, language, language_before]
  | cons t done =>
    have hlast : last = some '/' := by simpa [startsSegment] using h
    rcases hends hlast with heq | ⟨rest, heq | heq⟩
    · obtain ⟨rfl, rfl⟩ := List.cons.inj heq
      simp [pushRecursive, placeRecursive, language, language_before, segments_mul_self]
    · obtain ⟨rfl, rfl⟩ := List.cons.inj heq
      rw [show pushRecursive .between (.char '/' :: done) = .between :: done from rfl,
        language_reverse_cons, language_reverse_cons, language_between, language_char, mul_assoc]
    · obtain ⟨rfl, rfl⟩ := List.cons.inj heq
      rw [show pushRecursive .between (.between :: done) = .between :: done from rfl,
        language_reverse_cons, language_between, mul_assoc, mul_assoc, segments_mul_self]

theorem language_pushRecursive_behind {done : List Token} {last : Option Char}
    (hends : EndsSegment done last) (h : startsSegment done last = true) :
    pushRecursive .behind done = [.before] ∨
      language (pushRecursive .behind done).reverse = language done.reverse * ⊤ := by
  cases done with
  | nil => exact .inl rfl
  | cons t done =>
    have hlast : last = some '/' := by simpa [startsSegment] using h
    rcases hends hlast with heq | ⟨rest, heq | heq⟩
    · obtain ⟨rfl, rfl⟩ := List.cons.inj heq
      exact .inl rfl
    · obtain ⟨rfl, rfl⟩ := List.cons.inj heq
      right
      rw [show pushRecursive .behind (.char '/' :: done) = .behind :: done from rfl,
        language_reverse_cons, language_reverse_cons, language_behind, language_char, mul_assoc]
    · obtain ⟨rfl, rfl⟩ := List.cons.inj heq
      right
      rw [show pushRecursive .behind (.between :: done) = .behind :: done from rfl,
        language_reverse_cons, language_reverse_cons, language_behind, language_between, mul_assoc,
        mul_assoc, segments_mul_top]

theorem endsSegment_pushRecursive {done : List Token} {last : Option Char}
    (hends : EndsSegment done last) (h : startsSegment done last = true) :
    EndsSegment (pushRecursive .between done) (some '/') := by
  intro _
  cases done with
  | nil => exact .inl rfl
  | cons t done =>
    have hlast : last = some '/' := by simpa [startsSegment] using h
    rcases hends hlast with heq | ⟨rest, heq | heq⟩
    · obtain ⟨rfl, rfl⟩ := List.cons.inj heq
      exact .inl rfl
    all_goals
      obtain ⟨rfl, rfl⟩ := List.cons.inj heq
      exact .inr ⟨done, .inr rfl⟩

theorem reading_cons {flag : Bool} {c : Char} {rest : List Char}
    (h : flag = true → ∀ more, c :: rest ≠ '*' :: '*' :: '/' :: more) :
    reading flag (c :: rest) = share c * reading (c == '/') rest := by
  rw [reading]
  rintro more hflag rfl rfl
  exact h hflag more rfl

/-- What is read of a pattern multiplies the language of the tokens so far, unless nothing but
segments before has been read. -/
theorem language_readTokens {done : List Token} {last : Option Char} (hends : EndsSegment done last)
    (cs : List Char) :
    readTokens done last cs = [.before] ∨
      language (readTokens done last cs) =
        language done.reverse * reading (startsSegment done last) cs := by
  fun_induction readTokens done last cs with
  | case1 done last =>
    right
    rw [reading, mul_one]
  | case2 done last h =>
    rcases language_pushRecursive_behind hends h with heq | heq
    · exact .inl (by rw [heq]; rfl)
    · right
      rw [heq, reading_cons (by simp), reading_cons (by simp), share_star, reading, mul_one,
        top_mul_top]
  | case3 done last h =>
    right
    rw [language_reverse_cons, reading_cons (by simp), reading_cons (by simp), share_star, reading,
      mul_one, top_mul_top]
    rfl
  | case4 done last rest h ih =>
    refine (ih (endsSegment_pushRecursive hends h)).imp_right fun heq => ?_
    have hflag : startsSegment (pushRecursive .between done) (some '/') = true := by
      simp [startsSegment]
    rw [heq, language_pushRecursive_between hends h, hflag, h, reading, mul_assoc]
  | case5 done last rest h ih =>
    refine (ih fun _ => .inr ⟨_, .inl rfl⟩).imp_right fun heq => ?_
    have hflag : startsSegment (.char '/' :: .any :: done) (some '/') = true := rfl
    rw [heq, hflag, language_reverse_cons, language_reverse_cons, reading_cons (by simp [h]),
      reading_cons (by simp), reading_cons (by simp), language_any, language_char, share_star,
      ← mul_assoc ⊤ ⊤, top_mul_top, share_of_ne (by decide), mul_assoc, mul_assoc]
    rfl
  | case6 done last rest hnil hslash ih =>
    refine (ih fun h => by simp at h).imp_right fun heq => ?_
    have hflag : startsSegment (.any :: done) (some '*') = false := rfl
    have hhead : ∀ more, '*' :: '*' :: rest ≠ '*' :: '*' :: '/' :: more := by simpa using hslash
    rw [heq, hflag, language_reverse_cons, reading_cons fun _ => hhead, reading_cons (by simp),
      language_any, share_star, ← mul_assoc ⊤ ⊤, top_mul_top, mul_assoc]
    rfl
  | case7 done last rest h1 h2 hstar ih =>
    refine (ih fun h => by simp at h).imp_right fun heq => ?_
    have hflag : startsSegment (.any :: done) (some '*') = false := rfl
    have hhead : ∀ more, '*' :: rest ≠ '*' :: '*' :: '/' :: more := by
      simpa using fun more => hstar _
    rw [heq, hflag, language_reverse_cons, reading_cons fun _ => hhead, language_any, share_star,
      mul_assoc]
    rfl
  | case8 done last c rest h1 h2 h3 hc ih =>
    have hends' : EndsSegment (.char c :: done) (some c) := by
      intro hslash
      obtain rfl := Option.some.inj hslash
      exact .inr ⟨done, .inl rfl⟩
    refine (ih hends').imp_right fun heq => ?_
    have hflag : startsSegment (.char c :: done) (some c) = (c == '/') := rfl
    have hhead : ∀ more, c :: rest ≠ '*' :: '*' :: '/' :: more := by
      simpa using fun more h => absurd h hc
    rw [heq, hflag, language_reverse_cons, reading_cons fun _ => hhead, language_char,
      share_of_ne hc, mul_assoc]

/-! ## Matching -/

theorem mem_tails_iff {cs rest : List Char} : rest ∈ tails cs ↔ ∃ run, cs = run ++ rest := by
  induction cs with
  | nil => simp [tails, eq_comm]
  | cons c cs ih =>
    rw [tails, List.mem_cons, ih]
    constructor
    · rintro (rfl | ⟨run, rfl⟩)
      · exact ⟨[], rfl⟩
      · exact ⟨c :: run, rfl⟩
    · rintro ⟨run, hrun⟩
      cases run with
      | nil => exact .inl hrun.symm
      | cons d run => exact .inr ⟨run, (List.cons.inj hrun).2⟩

theorem mem_behindSlashes_iff {cs rest : List Char} :
    rest ∈ behindSlashes cs ↔ ∃ run, cs = run ++ '/' :: rest := by
  induction cs with
  | nil => simp [behindSlashes]
  | cons c cs ih =>
    have hstep : (∃ run, c :: cs = run ++ '/' :: rest) ↔
        (c = '/' ∧ cs = rest) ∨ ∃ run, cs = run ++ '/' :: rest := by
      constructor
      · rintro ⟨run, hrun⟩
        cases run with
        | nil => exact .inl (List.cons.inj hrun)
        | cons d run => exact .inr ⟨run, (List.cons.inj hrun).2⟩
      · rintro (⟨rfl, rfl⟩ | ⟨run, rfl⟩)
        · exact ⟨[], rfl⟩
        · exact ⟨c :: run, rfl⟩
    rw [behindSlashes, hstep, ← ih]
    split
    · rename_i hc
      simp [hc, eq_comm]
    · rename_i hc
      simp [hc]

/-- What may be left behind a token is what follows one of its texts. -/
theorem mem_rests_iff {t : Token} {cs rest : List Char} :
    rest ∈ t.rests cs ↔ ∃ run ∈ t.language, cs = run ++ rest := by
  show _ ↔ ∃ run, t.Spells run ∧ cs = run ++ rest
  cases t with
  | char c =>
    simp only [Token.Spells, exists_eq_left, List.singleton_append]
    cases cs with
    | nil => simp [Token.rests]
    | cons d cs =>
      simp only [Token.rests]
      split
      · rename_i hc
        simp [hc, eq_comm]
      · rename_i hc
        simp [Ne.symm hc]
  | any => simp [Token.rests, Token.Spells, mem_tails_iff]
  | before =>
    simp [Token.rests, Token.Spells, mem_behindSlashes_iff, or_and_right, exists_or, eq_comm]
  | behind =>
    have hslash : rest ∈ Token.behind.rests cs ↔ ∃ more, cs = '/' :: more ∧ rest ∈ tails more := by
      simp only [Token.rests]
      split <;> simp_all
    simp [hslash, mem_tails_iff, Token.Spells]
  | between =>
    have hslash : rest ∈ Token.between.rests cs ↔
        ∃ more, cs = '/' :: more ∧ (rest = more ∨ rest ∈ behindSlashes more) := by
      simp only [Token.rests]
      split <;> simp_all
    simp [hslash, mem_behindSlashes_iff, Token.Spells, or_and_right, and_or_left, exists_or]

theorem mem_foldl_rests_iff {ts : List Token} {starts : List (List Char)} {rest : List Char} :
    rest ∈ ts.foldl (fun rests t => (rests.flatMap t.rests).eraseDups) starts ↔
      ∃ cs ∈ starts, ∃ run ∈ language ts, cs = run ++ rest := by
  induction ts generalizing starts with
  | nil => simp [language]
  | cons t ts ih =>
    rw [List.foldl_cons, ih]
    simp only [List.mem_eraseDups, List.mem_flatMap, mem_rests_iff, language, List.map_cons,
      List.prod_cons, Language.mem_mul]
    constructor
    · rintro ⟨_, ⟨cs, hcs, run, hrun, rfl⟩, more, hmore, rfl⟩
      exact ⟨_, hcs, run ++ more, ⟨run, hrun, more, hmore, rfl⟩, by rw [List.append_assoc]⟩
    · rintro ⟨cs, hcs, _, ⟨run, hrun, more, hmore, rfl⟩, rfl⟩
      exact ⟨more ++ rest, ⟨_, hcs, run, hrun, by rw [List.append_assoc]⟩, more, hmore, rfl⟩

theorem mem_restsAfter_iff {ts : List Token} {cs rest : List Char} :
    rest ∈ restsAfter ts cs ↔ ∃ run ∈ language ts, cs = run ++ rest := by
  rw [restsAfter, mem_foldl_rests_iff]
  simp only [List.mem_singleton, exists_eq_left]

theorem isMatch_iff {pattern name : String} :
    isMatch pattern name = true ↔
      tokens pattern = [.before] ∨ name.toList ∈ language (tokens pattern) := by
  have hrests : (restsAfter (tokens pattern) name.toList).contains [] = true ↔
      name.toList ∈ language (tokens pattern) := by
    rw [List.contains_iff_mem, mem_restsAfter_iff]
    simp only [List.append_nil, exists_eq_right']
  unfold isMatch
  rw [Bool.or_eq_true, beq_iff_eq, hrests]

/-! ## Where a pattern is read as it is meant -/

theorem wildcard_le_reading (flag : Bool) (cs : List Char) : wildcard cs ≤ reading flag cs := by
  fun_induction reading flag cs with
  | case1 => exact le_rfl
  | case2 rest ih =>
    calc wildcard ('*' :: '*' :: '/' :: rest) = ⊤ * {['/']} * wildcard rest := by
          rw [wildcard, wildcard, wildcard, share_star, share_of_ne (by decide), ← mul_assoc ⊤ ⊤,
            top_mul_top, mul_assoc]
      _ ≤ segments * reading true rest := mul_le_mul' top_mul_slash_le_segments ih
  | case3 flag c rest _ ih => exact mul_le_mul_right ih _

/-- A pattern has two stars and a slash where they stand for whole segments: at its start or
behind a slash. -/
def SkipsSegments (pattern : List Char) : Prop :=
  ['*', '*', '/'] <+: pattern ∨ ['/', '*', '*', '/'] <:+: pattern

theorem reading_eq_wildcard {flag : Bool} {cs : List Char}
    (hstart : flag = true → ¬ ['*', '*', '/'] <+: cs) (hinside : ¬ ['/', '*', '*', '/'] <:+: cs) :
    reading flag cs = wildcard cs := by
  fun_induction reading flag cs with
  | case1 => rfl
  | case2 rest ih => exact absurd ⟨rest, rfl⟩ (hstart rfl)
  | case3 flag c rest _ ih =>
    rw [wildcard, ih]
    · rintro hslash ⟨more, hmore⟩
      obtain rfl : c = '/' := by simpa using hslash
      exact hinside ⟨[], more, by rw [← hmore]; rfl⟩
    · exact fun h => hinside (h.trans (List.infix_cons List.infix_rfl))

/-- A star may always be read as one. -/
theorem share_mul_reading_le (flag : Bool) (c : Char) (rest : List Char) :
    share c * reading (c == '/') rest ≤ reading flag (c :: rest) := by
  by_cases h : flag = true ∧ ∃ more, c :: rest = '*' :: '*' :: '/' :: more
  · obtain ⟨rfl, more, heq⟩ := h
    obtain ⟨rfl, rfl⟩ := List.cons.inj heq
    calc share '*' * reading false ('*' :: '/' :: more) = ⊤ * {['/']} * reading true more := by
          rw [reading_cons (by simp), reading_cons (by simp), share_star, share_of_ne (by decide),
            ← mul_assoc ⊤ ⊤, top_mul_top, mul_assoc]
          rfl
      _ ≤ segments * reading true more := mul_le_mul_left top_mul_slash_le_segments _
  · rw [reading_cons fun hflag more heq => h ⟨hflag, more, heq⟩]

theorem count_slash_le_of_mem_wildcard {pattern name : List Char} (h : name ∈ wildcard pattern) :
    pattern.count '/' ≤ name.count '/' := by
  induction pattern generalizing name with
  | nil => simp
  | cons c rest ih =>
    obtain ⟨run, hrun, more, hmore, rfl⟩ := Language.mem_mul.1 h
    have hmore := ih hmore
    have hrun : [c].count '/' ≤ run.count '/' := by
      by_cases hc : c = '*'
      · simp [hc]
      · rw [share_of_ne hc] at hrun
        exact (congrArg (List.count '/') (Set.mem_singleton_iff.1 hrun)).ge
    rw [List.count_append, ← List.singleton_append, List.count_append]
    omega

/-- A pattern with its stars left out. -/
def withoutStars (pattern : List Char) : List Char := pattern.filter (· ≠ '*')

theorem withoutStars_cons_mem {l : Language Char} {c : Char} {rest : List Char}
    (h : withoutStars rest ∈ l) : withoutStars (c :: rest) ∈ share c * l := by
  by_cases hc : c = '*'
  · subst hc
    exact Language.append_mem_mul (a := []) trivial h
  · have hcons : withoutStars (c :: rest) = [c] ++ withoutStars rest := by
      simp [withoutStars, hc]
    rw [hcons, share_of_ne hc]
    exact Language.append_mem_mul rfl h

theorem withoutStars_mem_wildcard (pattern : List Char) :
    withoutStars pattern ∈ wildcard pattern := by
  induction pattern with
  | nil => rfl
  | cons c rest ih => exact withoutStars_cons_mem ih

theorem withoutStars_mem_reading (rest : List Char) (flag : Bool) :
    withoutStars rest ∈ reading flag rest :=
  wildcard_le_reading flag rest (withoutStars_mem_wildcard rest)

theorem withoutStars_mem_reading_skip (rest : List Char) :
    withoutStars rest ∈ reading true ('*' :: '*' :: '/' :: rest) := by
  rw [reading]
  refine mul_le_mul_left one_le_segments _ ?_
  rw [one_mul]
  exact withoutStars_mem_reading rest true

theorem withoutStars_mem_reading_inside (flag : Bool) (before behind : List Char) :
    withoutStars (before ++ '/' :: behind) ∈
      reading flag (before ++ '/' :: '*' :: '*' :: '/' :: behind) := by
  induction before generalizing flag with
  | nil =>
    refine share_mul_reading_le flag '/' _ (withoutStars_cons_mem ?_)
    exact withoutStars_mem_reading_skip behind
  | cons c before ih => exact share_mul_reading_le flag c _ (withoutStars_cons_mem (ih _))

/-- A pattern that skips segments matches a name with fewer slashes than it has itself. -/
theorem exists_mem_reading_not_mem_wildcard {pattern : List Char} (h : SkipsSegments pattern) :
    ∃ name ∈ reading true pattern, name ∉ wildcard pattern := by
  obtain ⟨name, hname, hcount⟩ : ∃ name ∈ reading true pattern,
      name.count '/' < pattern.count '/' := by
    have hcount : ∀ rest : List Char, (withoutStars rest).count '/' = rest.count '/' := by
      intro rest
      exact List.count_filter rfl
    rcases h with ⟨behind, rfl⟩ | ⟨before, behind, rfl⟩
    · refine ⟨withoutStars behind, withoutStars_mem_reading_skip behind, ?_⟩
      simp [hcount]
    · refine ⟨withoutStars (before ++ '/' :: behind), ?_, ?_⟩
      · simpa using withoutStars_mem_reading_inside true before behind
      · simp [hcount]
  exact ⟨name, hname, fun hmem => absurd (count_slash_le_of_mem_wildcard hmem) (by omega)⟩

/-! ## Patterns that are nothing but segments -/

/-- Whether a pattern consists of segments before, the last of which may go without a slash. -/
def onlySegments : List Char → Bool
  | [] | ['*', '*'] => true
  | '*' :: '*' :: '/' :: rest => onlySegments rest
  | _ => false

theorem length_pushRecursive (part : Token) (done : List Token) :
    done.length ≤ (pushRecursive part done).length := by
  rcases done with _ | ⟨t, done⟩
  · exact Nat.zero_le _
  · cases t <;> exact le_rfl

theorem length_readTokens (done : List Token) (last : Option Char) (cs : List Char) :
    done.length ≤ (readTokens done last cs).length := by
  fun_induction readTokens done last cs with
  | case1 => simp
  | case2 done last h => simpa using length_pushRecursive .behind done
  | case3 done last h => simp
  | case4 done last rest h ih => exact (length_pushRecursive .between done).trans ih
  | case5 => simp_all; omega
  | case6 => simp_all; omega
  | case7 => simp_all; omega
  | case8 => simp_all; omega

theorem before_not_mem_pushRecursive {part : Token} {done : List Token} (hpart : part ≠ .before)
    (hne : done ≠ []) (h : Token.before ∉ done) : .before ∉ pushRecursive part done := by
  rcases done with _ | ⟨t, done⟩
  · exact absurd rfl hne
  · cases t <;> simp_all [pushRecursive, placeRecursive, hpart.symm]

theorem before_not_mem_readTokens {done : List Token} (hne : done ≠ []) (h : Token.before ∉ done)
    (last : Option Char) (cs : List Char) : .before ∉ readTokens done last cs := by
  fun_induction readTokens done last cs with
  | case1 => simpa using h
  | case2 done last => simpa using before_not_mem_pushRecursive (by decide) hne h
  | case3 => simpa using h
  | case4 done last rest _ ih =>
    refine ih (fun hnil => ?_) (before_not_mem_pushRecursive (by decide) hne h)
    have hlength := length_pushRecursive .between done
    rw [hnil, List.length_nil, Nat.le_zero, List.length_eq_zero_iff] at hlength
    exact hne hlength
  | case5 _ _ _ _ ih => exact ih (by simp) (by simpa using h)
  | case6 _ _ _ _ _ ih => exact ih (by simp) (by simpa using h)
  | case7 _ _ _ _ _ _ ih => exact ih (by simp) (by simpa using h)
  | case8 _ _ _ _ _ _ _ _ ih => exact ih (by simp) (by simpa using h)

theorem readTokens_before_eq_iff (cs : List Char) :
    readTokens [.before] (some '/') cs = [.before] ↔ onlySegments cs = true := by
  fun_induction onlySegments cs with
  | case1 => simp [readTokens]
  | case2 => simp [readTokens, startsSegment, pushRecursive, placeRecursive]
  | case3 rest ih =>
    have hstart : startsSegment [.before] (some '/') = true := rfl
    rw [readTokens, if_pos hstart]
    exact ih
  | case4 cs hnil hstars hsegment =>
    have hlonger : ∀ t last rest, readTokens [t, .before] last rest ≠ [.before] := by
      intro t last rest heq
      have hlength := length_readTokens [t, .before] last rest
      rw [heq] at hlength
      simp at hlength
    simp only [Bool.false_eq_true, iff_false]
    fun_cases readTokens [.before] (some '/') cs <;> simp_all [startsSegment]

theorem tokens_eq_before_iff (pattern : String) :
    tokens pattern = [.before] ↔ pattern.toList ≠ [] ∧ onlySegments pattern.toList = true := by
  have hother : ∀ t last rest, t ≠ Token.before → readTokens [t] last rest ≠ [.before] := by
    intro t last rest ht heq
    refine before_not_mem_readTokens (List.cons_ne_nil t []) ?_ last rest ?_
    · simpa using ht.symm
    · simp [heq]
  unfold tokens
  generalize pattern.toList = cs
  fun_cases onlySegments cs with
  | case1 => simp [readTokens]
  | case2 => simp [readTokens, startsSegment, pushRecursive]
  | case3 rest =>
    have hstart : startsSegment [] none = true := rfl
    rw [readTokens, if_pos hstart, ← readTokens_before_eq_iff]
    simp [pushRecursive]
  | case4 hnil hstars hsegment =>
    simp only [Bool.false_eq_true, and_false, iff_false]
    fun_cases readTokens [] none cs <;> simp_all

/-- The names that a pattern matches. -/
theorem isMatch_iff_mem_reading (pattern name : String) :
    isMatch pattern name = true ↔
      (pattern.toList ≠ [] ∧ onlySegments pattern.toList = true) ∨
        name.toList ∈ reading true pattern.toList := by
  rw [isMatch_iff, ← tokens_eq_before_iff]
  have hends : EndsSegment [] none := by simp [EndsSegment]
  rcases language_readTokens hends pattern.toList with h | h
  · simp [tokens, h]
  · have hlanguage : language (tokens pattern) = reading true pattern.toList := by
      rw [tokens, h]
      simp [language, startsSegment]
    rw [hlanguage]

theorem wildcard_eq_top_of_onlySegments {pattern : List Char} (hne : pattern ≠ [])
    (h : onlySegments pattern = true) (hskips : ¬ SkipsSegments pattern) :
    wildcard pattern = ⊤ := by
  unfold onlySegments at h
  split at h
  · exact absurd rfl hne
  · rw [wildcard, wildcard, wildcard, share_star, mul_one, top_mul_top]
  · rename_i rest
    exact absurd (.inl ⟨rest, rfl⟩) hskips
  · contradiction

/-- Every name that a pattern is meant to match is matched. -/
theorem isMatch_of_mem_wildcard {pattern name : String}
    (h : name.toList ∈ wildcard pattern.toList) : isMatch pattern name = true :=
  (isMatch_iff_mem_reading pattern name).2 (.inr (wildcard_le_reading true _ h))

/-- A pattern matches what it is meant to match, and nothing else, exactly if it skips no
segments. -/
theorem isMatch_iff_mem_wildcard_iff (pattern : String) :
    (∀ name : String, isMatch pattern name = true ↔ name.toList ∈ wildcard pattern.toList) ↔
      ¬ SkipsSegments pattern.toList := by
  constructor
  · intro h hskips
    obtain ⟨name, hreading, hwildcard⟩ := exists_mem_reading_not_mem_wildcard hskips
    have hname := h (String.ofList name)
    rw [isMatch_iff_mem_reading, String.toList_ofList] at hname
    exact hwildcard (hname.1 (.inr hreading))
  · intro hskips name
    refine ⟨fun h => ?_, isMatch_of_mem_wildcard⟩
    rcases (isMatch_iff_mem_reading pattern name).1 h with ⟨hne, honly⟩ | hreading
    · rw [wildcard_eq_top_of_onlySegments hne honly hskips]
      trivial
    · rwa [reading_eq_wildcard (fun _ hstart => hskips (.inl hstart))
        fun hinside => hskips (.inr hinside)] at hreading

end RouteAudit.Ignore
