/-
  Proofs/Ignore/Glob.lean --- patterns as globs.

  WHAT THIS FILE IS FOR.  A pattern is written as a glob before it is matched, in a language
  that gives a meaning to question marks, brackets and braces and that refuses some texts.
  Here it is shown that every pattern is accepted there, and that the glob accepts the names
  that the pattern matches.  For a list of patterns this settles which names are ignored.

  Main statement: `isIgnored_iff_wildcard`.
-/
import RouteAudit.Ignore.Matcher
import RouteAudit.Proofs.Ignore.Language

set_option autoImplicit false

namespace RouteAudit.Ignore

/-- The part that a token of a pattern becomes when the pattern is written as a glob. -/
def Token.written : Token → Part
  | .char c => if isOperator c then .oneOf false [(c, c)] else .token (.char c)
  | t => .token t

theorem eq_cons_of_escape {d : Char} (hd : d ≠ '[') {cs rest : List Char}
    (h : escape cs = d :: rest) : ∃ more, cs = d :: more := by
  cases cs with
  | nil => simp [escape] at h
  | cons c cs =>
    rw [escape] at h
    split at h
    · exact absurd (List.cons.inj h).1.symm hd
    · exact ⟨cs, by rw [(List.cons.inj h).1]⟩

section Equations

variable (done : List Part) (last : Option Char)

theorem readParts_class {c : Char} (h : isOperator c = true) (rest : List Char) :
    readParts none none done last ('[' :: c :: ']' :: rest) =
      readParts none none (.oneOf false [(c, c)] :: done) (some ']') rest := by
  have h1 : c ≠ '!' := by rintro rfl; simp [isOperator] at h
  have h2 : c ≠ '^' := by rintro rfl; simp [isOperator] at h
  rw [readParts]
  · simp [readParts, OpenClass.read]
  · simp [h1]
  · simp [h2]

theorem readParts_char {c : Char} (h : isOperator c = false) (hstar : c ≠ '*') (rest : List Char) :
    readParts none none done last (c :: rest) =
      readParts none none (.token (.char c) :: done) (some c) rest := by
  simp only [isOperator, List.mem_cons, List.not_mem_nil, decide_eq_false_iff_not, not_or] at h
  obtain ⟨h1, h2, h3, h4, h5, -⟩ := h
  by_cases hcomma : c = ','
  · subst hcomma
    simp [readParts]
  · rw [readParts.eq_def]
    simp only
    split <;> simp_all

theorem readParts_star {rest : List Char} (h : ∀ more, rest ≠ '*' :: more) :
    readParts none none done last ('*' :: rest) =
      readParts none none (.token .any :: done) (some '*') rest := by
  rw [readParts.eq_def]
  simp only
  split <;> simp_all

theorem readParts_star_star {rest : List Char} (h : ∀ more, rest ≠ '/' :: more) :
    readParts none none done last ('*' :: '*' :: rest) =
      if (done.isEmpty || last == some '/') && rest.isEmpty then
        readParts none none (pushSegments .behind done) (some '*') rest
      else readParts none none (.token .any :: done) (some '*') rest := by
  have hends : endsParts none rest = rest.isEmpty := by cases rest <;> rfl
  have hsuffix : isSuffix none done last rest =
      ((done.isEmpty || last == some '/') && rest.isEmpty) := by
    cases done with
    | nil => rfl
    | cons part done => rw [isSuffix, hends]; rfl
  rw [readParts.eq_def]
  simp only
  split <;> simp_all

theorem readParts_star_star_slash (rest : List Char) :
    readParts none none done last ('*' :: '*' :: '/' :: rest) =
      if done.isEmpty || last == some '/' then
        readParts none none (pushSegments .between done) (some '/') rest
      else readParts none none (.token (.char '/') :: .token .any :: done) (some '/') rest := by
  rw [readParts]

end Equations

theorem escape_cons_of_operator {c : Char} (h : isOperator c = true) (rest : List Char) :
    escape (c :: rest) = '[' :: c :: ']' :: escape rest := by
  rw [escape, if_pos h]

theorem escape_cons {c : Char} (h : isOperator c = false) (rest : List Char) :
    escape (c :: rest) = c :: escape rest := by
  rw [escape, if_neg (by simp [h])]

theorem map_pushRecursive {part : Token} (h : part.written = .token part) (done : List Token) :
    (pushRecursive part done).map Token.written = pushSegments part (done.map Token.written) := by
  cases done with
  | nil => rfl
  | cons t rest =>
    cases t with
    | char c =>
      have hplace : pushRecursive part (.char c :: rest) = part :: rest := rfl
      rw [hplace, List.map_cons, h, List.map_cons, Token.written]
      split <;> rfl
    | before => rfl
    | behind => rfl
    | any | between => exact congrArg (· :: rest.map Token.written) h

theorem readParts_escape {done : List Token} {last last' : Option Char} {cs : List Char}
    (hlast : (last' == some '/') = (last == some '/')) :
    readParts none none (done.map Token.written) last' (escape cs) =
      .ok ((readTokens done last cs).map Token.written) := by
  have hstart : ((done.map Token.written).isEmpty || last' == some '/') =
      startsSegment done last := by
    rw [startsSegment, hlast, List.isEmpty_map]
  fun_induction readTokens done last cs generalizing last' with
  | case1 => simp [escape, readParts]
  | case2 done last h =>
    rw [escape_cons rfl, escape_cons rfl, escape, readParts_star_star _ _ (by simp), hstart, h]
    rw [Bool.true_and, List.isEmpty_nil, if_pos rfl, readParts, ← map_pushRecursive rfl,
      List.map_reverse]
  | case3 done last h =>
    rw [escape_cons rfl, escape_cons rfl, escape, readParts_star_star _ _ (by simp), hstart]
    simp [h, readParts, Token.written]
  | case4 done last rest h ih =>
    rw [escape_cons rfl, escape_cons rfl, escape_cons rfl, readParts_star_star_slash, hstart, h,
      if_pos rfl, ← map_pushRecursive rfl]
    exact ih rfl (by simp [startsSegment])
  | case5 done last rest h ih =>
    rw [escape_cons rfl, escape_cons rfl, escape_cons rfl, readParts_star_star_slash, hstart,
      if_neg h]
    exact ih rfl rfl
  | case6 done last rest hnil hslash ih =>
    have hrest : (escape rest).isEmpty = false := by
      cases rest with
      | nil => exact absurd rfl hnil
      | cons c rest => rw [escape]; split <;> rfl
    rw [escape_cons rfl, escape_cons rfl, readParts_star_star, hrest, Bool.and_false,
      if_neg (by simp)]
    · exact ih rfl rfl
    · intro more h
      obtain ⟨more, h⟩ := eq_cons_of_escape (by decide) h
      exact hslash more h
  | case7 done last rest _ _ hstar ih =>
    rw [escape_cons rfl, readParts_star]
    · exact ih rfl rfl
    · intro more h
      obtain ⟨more, h⟩ := eq_cons_of_escape (by decide) h
      exact hstar more h
  | case8 done last c rest _ _ _ hc ih =>
    have hslash : (some c == some '/') = (c == '/') := rfl
    by_cases hop : isOperator c
    · have hwritten : Token.written (.char c) = .oneOf false [(c, c)] := if_pos hop
      have hc : (some c == some '/') = false := by
        rw [hslash, beq_eq_false_iff_ne]
        rintro rfl
        simp [isOperator] at hop
      rw [escape_cons_of_operator hop, readParts_class _ _ hop, ← hwritten, ← List.map_cons]
      exact ih hc.symm (by rw [startsSegment, hc]; rfl)
    · have hwritten : Token.written (.char c) = .token (.char c) := if_neg hop
      rw [escape_cons (by simpa using hop), readParts_char _ _ (by simpa using hop) hc, ← hwritten,
        ← List.map_cons]
      exact ih rfl rfl

/-- Every pattern is accepted, whatever is in it, and becomes the glob of its tokens. -/
theorem readGlob_escape (pattern : String) :
    readGlob (escape pattern.toList) = .ok ((tokens pattern).map Token.written) :=
  @readParts_escape [] none none pattern.toList rfl

/-! ## What the glob accepts -/

theorem matches_token_cons_iff {t : Token} {parts : List Part} {cs : List Char} :
    Matches (.token t :: parts) cs ↔
      ∃ run rest, t.Spells run ∧ Matches parts rest ∧ run ++ rest = cs := by
  constructor
  · rintro ⟨⟩
    rename_i run rest hrun hrest
    exact ⟨run, rest, hrun, hrest, rfl⟩
  · rintro ⟨run, rest, hrun, hrest, rfl⟩
    exact .token hrun hrest

/-- A class of one character matches like that character. -/
theorem matches_single_cons_iff {c : Char} {parts : List Part} {cs : List Char} :
    Matches (.oneOf false [(c, c)] :: parts) cs ↔ Matches (.token (.char c) :: parts) cs := by
  rw [matches_token_cons_iff]
  constructor
  · rintro ⟨⟩
    rename_i d rest hd hrest
    have hd : c ≤ d ∧ d ≤ c := by simpa using hd
    obtain rfl : d = c := Char.le_antisymm hd.2 hd.1
    exact ⟨[d], rest, rfl, hrest, rfl⟩
  · rintro ⟨run, rest, rfl, hrest, rfl⟩
    exact .oneOf (by simp) hrest

theorem matches_written_iff {ts : List Token} {cs : List Char} :
    Matches (ts.map Token.written) cs ↔ cs ∈ language ts := by
  induction ts generalizing cs with
  | nil =>
    constructor
    · rintro ⟨⟩
      rfl
    · rintro rfl
      exact .nil
  | cons t ts ih =>
    have hwritten : Matches (t.written :: ts.map Token.written) cs ↔
        Matches (.token t :: ts.map Token.written) cs := by
      cases t with
      | char c =>
        rw [Token.written]
        split
        · exact matches_single_cons_iff
        · exact Iff.rfl
      | _ => exact Iff.rfl
    rw [List.map_cons, hwritten, matches_token_cons_iff]
    simp only [ih]
    constructor
    · rintro ⟨run, rest, hrun, hrest, rfl⟩
      exact Language.append_mem_mul hrun hrest
    · rintro ⟨run, hrun, rest, hrest, rfl⟩
      exact ⟨run, rest, hrun, hrest, rfl⟩

theorem map_written_eq_before_iff {ts : List Token} :
    ts.map Token.written = [.token .before] ↔ ts = [.before] := by
  constructor
  · intro h
    obtain ⟨t, rfl, ht⟩ := List.map_eq_singleton_iff.1 h
    cases t with
    | char c =>
      rw [Token.written] at ht
      split at ht <;> cases ht
    | before => rfl
    | _ => cases ht
  · rintro rfl
    rfl

/-- The glob of a pattern accepts the names that the pattern matches. -/
theorem accepts_written_iff (pattern name : String) :
    Accepts ((tokens pattern).map Token.written) name.toList ↔ isMatch pattern name = true := by
  rw [isMatch_iff, Accepts, matches_written_iff, map_written_eq_before_iff]

/-! ## Ignored names -/

theorem isIgnored_withDefaults_iff (patterns : List String) (name : String) :
    (({} : Matcher).withDefaults patterns).isIgnored name = true ↔
      ∃ pattern ∈ patterns, isMatch pattern name = true := by
  simp [Matcher.isIgnored, Matcher.patterns, Matcher.withDefaults]

/-- Every pattern is accepted as a glob and matches every name that it is meant to match: the
stars replaced by some characters, everything else kept.  It matches no other name exactly
if it does not have two stars and a slash at its start or behind a slash.  A list of patterns
without such stars ignores what one of them is meant to match. -/
theorem isIgnored_iff_wildcard (patterns : List String) :
    (∀ pattern ∈ patterns, ∃ glob, readGlob (escape pattern.toList) = .ok glob ∧
      ∀ name : String, Accepts glob name.toList ↔ isMatch pattern name = true) ∧
    (∀ name, (({} : Matcher).withDefaults patterns).isIgnored name = true ↔
      ∃ pattern ∈ patterns, isMatch pattern name = true) ∧
    (∀ name, (∃ pattern ∈ patterns, name.toList ∈ wildcard pattern.toList) →
      (({} : Matcher).withDefaults patterns).isIgnored name = true) ∧
    ((∀ pattern ∈ patterns, ¬ SkipsSegments pattern.toList) →
      ∀ name, (({} : Matcher).withDefaults patterns).isIgnored name = true ↔
        ∃ pattern ∈ patterns, name.toList ∈ wildcard pattern.toList) ∧
    ∀ pattern : String,
      (∀ name, (({} : Matcher).withDefaults [pattern]).isIgnored name = true ↔
        name.toList ∈ wildcard pattern.toList) ↔ ¬ SkipsSegments pattern.toList := by
  refine ⟨fun pattern _ => ?_, isIgnored_withDefaults_iff patterns, ?_, ?_, fun pattern => ?_⟩
  · exact ⟨_, readGlob_escape pattern, accepts_written_iff pattern⟩
  · rintro name ⟨pattern, hpattern, hname⟩
    rw [isIgnored_withDefaults_iff]
    exact ⟨pattern, hpattern, isMatch_of_mem_wildcard hname⟩
  · intro hskips name
    rw [isIgnored_withDefaults_iff]
    refine exists_congr fun pattern => and_congr_right fun hpattern => ?_
    exact (isMatch_iff_mem_wildcard_iff pattern).2 (hskips pattern hpattern) name
  · rw [← isMatch_iff_mem_wildcard_iff]
    refine forall_congr' fun name => ?_
    rw [isIgnored_withDefaults_iff]
    simp

/-- Two stars and a slash at the start do not stand for themselves: the slash is lost. -/
theorem isIgnored_without_slash :
    (({} : Matcher).withDefaults ["**/foo"]).isIgnored "foo" = true ∧
      "foo".toList ∉ wildcard "**/foo".toList := by
  refine ⟨by decide, fun h => ?_⟩
  have hcount := count_slash_le_of_mem_wildcard h
  revert hcount
  decide

end RouteAudit.Ignore
