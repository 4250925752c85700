/-
  Proofs/Json/Reading.lean --- JSON values read back from their texts.

  WHAT THIS FILE IS FOR.  What is printed without blanks is read as the same value, with every
  character of its strings and with the members of its objects in their order.  This is said
  of textual values, which hold no numbers, and of readers that do not care what follows in
  the text, so that the readers of items and members can be put together.

  HOW IT GOES.  Each printer has its reader: a character in a string (`run_stringRest_escape`),
  a string (`reads_stringBody`), items and members behind a first one (`reads_itemsRest_false`,
  `reads_membersRest_false`).  A value follows by induction on how it is textual.

  Main statements: `IsTextual.finds`, `parseList_compact`.
-/
import Mathlib.Tactic.SplitIfs
import RouteAudit.Proofs.Json.Storage

set_option autoImplicit false

namespace RouteAudit.Json

/-! ## Readers -/

/-- A reader takes a text from the front of any longer one and finds a value in it. -/
def Reads {α : Type} (p : CharReader α) (text : List Char) (a : α) : Prop :=
  ∀ rest, p.run (text ++ rest) = .ok (a, rest)

section Readers

variable {α β : Type} {rest : List Char}

/-- A reader that succeeds hands on what it found and what it left. -/
theorem run_bind_of_ok {p : CharReader α} {f : α → CharReader β} {a : α} {text : List Char}
    (h : p.run text = .ok (a, rest)) : (p >>= f).run text = (f a).run rest := by
  rw [StateT.run_bind, h]
  rfl

theorem run_skip (c : Char) : skip.run (c :: rest) = .ok ((), rest) := rfl

theorem run_peekToken? {c : Char} (hspace : isSpace c = false) :
    peekToken?.run (c :: rest) = .ok (some c, c :: rest) := by
  have hdrop : (c :: rest).dropWhile isSpace = c :: rest :=
    List.dropWhile_cons_of_neg (Bool.eq_false_iff.mp hspace)
  show Except.ok (((c :: rest).dropWhile isSpace).head?, (c :: rest).dropWhile isSpace) = _
  rw [hdrop, List.head?_cons]

end Readers

/-! ## Strings -/

section Strings

variable {fuel : Nat} {done rest : List Char}

theorem hexValue?_hexDigit : ∀ n < 16, Text.hexValue? (Text.hexDigit n) = some n := by
  decide

theorem length_le_byteCount (cs : List Char) : cs.length ≤ byteCount cs := by
  induction cs with
  | nil => exact Nat.le_refl 0
  | cons c cs ih =>
    have hsize : 1 ≤ c.utf8Size := Char.utf8Size_pos c
    have hcount : byteCount (c :: cs) = c.utf8Size + byteCount cs := rfl
    rw [List.length_cons, hcount]
    omega

theorem run_hexUnit {a b c d : Char} {w x y z : Nat} (ha : Text.hexValue? a = some w)
    (hb : Text.hexValue? b = some x) (hc : Text.hexValue? c = some y)
    (hd : Text.hexValue? d = some z) :
    hexUnit.run (a :: b :: c :: d :: rest) = .ok (((w * 16 + x) * 16 + y) * 16 + z, rest) := by
  have hlong : ¬ byteCount (a :: b :: c :: d :: rest) < 4 := by
    have hlength := length_le_byteCount (a :: b :: c :: d :: rest)
    simp only [List.length_cons] at hlength
    omega
  simp only [hexUnit, StateT.run_bind, StateT.run_get, pure_bind, if_neg hlong, List.take,
    List.mapM_cons, List.mapM_nil, ha, hb, hc, hd]
  rfl

theorem run_unicodeEscape {c : Char} (hcontrol : c.toNat < 0x20) :
    unicodeEscape.run ('0' :: '0' :: Text.hexDigit (c.toNat / 16) ::
      Text.hexDigit (c.toNat % 16) :: rest) = .ok (c, rest) := by
  have hzero : Text.hexValue? '0' = some 0 := rfl
  have hvalue : ((0 * 16 + 0) * 16 + c.toNat / 16) * 16 + c.toNat % 16 = c.toNat := by omega
  have hunit : hexUnit.run ('0' :: '0' :: Text.hexDigit (c.toNat / 16) ::
      Text.hexDigit (c.toNat % 16) :: rest) = .ok (c.toNat, rest) := by
    rw [run_hexUnit hzero hzero (hexValue?_hexDigit (c.toNat / 16) (by omega))
      (hexValue?_hexDigit (c.toNat % 16) (by omega)), hvalue]
  have hlow : ¬ (0xDC00 ≤ c.toNat ∧ c.toNat ≤ 0xDFFF) := by omega
  have hhigh : ¬ (0xD800 ≤ c.toNat ∧ c.toNat ≤ 0xDBFF) := by omega
  rw [unicodeEscape, StateT.run_bind, hunit]
  simp only [bind, Except.bind, if_neg hlow, if_neg hhigh]
  rw [Char.ofNat_toNat]
  rfl

theorem run_stringRest_backslash :
    (stringRest (fuel + 1) done).run ('\\' :: rest) =
      (escape >>= fun c => stringRest fuel (c :: done)).run rest := rfl

theorem run_stringRest_plain {c : Char} (hquote : c ≠ '"') (hslash : c ≠ '\\')
    (hcontrol : ¬ c.toNat < 0x20) :
    (stringRest (fuel + 1) done).run (c :: rest) = (stringRest fuel (c :: done)).run rest := by
  rw [stringRest, StateT.run_bind, StateT.run_get, pure_bind]
  split
  · contradiction
  · rename_i heq
    exact absurd (List.cons.inj heq).1 hquote
  · rename_i heq
    exact absurd (List.cons.inj heq).1 hslash
  · rename_i heq
    obtain ⟨rfl, rfl⟩ := List.cons.inj heq
    rw [StateT.run_bind, StateT.run_set, pure_bind, if_neg hcontrol]

/-- What is written for a character is read as that character. -/
theorem run_stringRest_escape (c : Char) :
    (stringRest (fuel + 1) done).run (escapeChar c ++ rest) =
      (stringRest fuel (c :: done)).run rest := by
  unfold escapeChar
  split_ifs with hquote hslash hnewline hreturn htab hback hfeed hcontrol
  · rw [hquote]; rfl
  · rw [hslash]; rfl
  · rw [hnewline]; rfl
  · rw [hreturn]; rfl
  · rw [htab]; rfl
  · rw [hback]; rfl
  · rw [hfeed]; rfl
  · -- by number
    have hescape : escape.run ('u' :: '0' :: '0' :: Text.hexDigit (c.toNat / 16) ::
        Text.hexDigit (c.toNat % 16) :: rest) = .ok (c, rest) := run_unicodeEscape hcontrol
    simp only [List.cons_append, List.nil_append]
    rw [run_stringRest_backslash, StateT.run_bind, hescape]
    rfl
  · exact run_stringRest_plain hquote hslash hcontrol

theorem run_stringRest {cs : List Char} (hfuel : cs.length < fuel) :
    (stringRest fuel done).run (cs.flatMap escapeChar ++ '"' :: rest) =
      .ok (String.ofList (done.reverse ++ cs), rest) := by
  induction cs generalizing fuel done with
  | nil =>
    obtain ⟨fuel, rfl⟩ := Nat.exists_eq_add_of_lt hfuel
    rw [List.append_nil]
    rfl
  | cons c cs ih =>
    cases fuel with
    | zero => cases hfuel
    | succ fuel =>
      rw [List.flatMap_cons, List.append_assoc, run_stringRest_escape,
        ih (Nat.lt_of_succ_lt_succ hfuel), List.reverse_cons, List.append_assoc,
        List.singleton_append]

/-- What is printed for several things is at least as long as they are many. -/
theorem length_le_length_flatMap {α : Type} {print : α → List Char}
    (h : ∀ a, 1 ≤ (print a).length) (as : List α) : as.length ≤ (as.flatMap print).length := by
  induction as with
  | nil => exact Nat.le_refl 0
  | cons a as ih =>
    have hprinted := h a
    rw [List.flatMap_cons, List.length_append, List.length_cons]
    omega

theorem length_escapeChar_pos (c : Char) : 1 ≤ (escapeChar c).length := by
  unfold escapeChar
  split_ifs <;> simp

/-- A string is read behind its opening quote. -/
theorem reads_stringBody (s : String) :
    Reads stringBody (s.toList.flatMap escapeChar ++ ['"']) s := by
  intro rest
  have hfuel : s.toList.length < (s.toList.flatMap escapeChar ++ '"' :: rest).length + 1 := by
    have hlength := length_le_length_flatMap length_escapeChar_pos s.toList
    rw [List.length_append]
    omega
  rw [List.append_assoc, List.singleton_append, stringBody, StateT.run_bind, StateT.run_get,
    pure_bind, run_stringRest hfuel, List.reverse_nil, List.nil_append, String.ofList_toList]

end Strings

/-! ## Items -/

/-- A text starts with what may be the first character of a value. -/
def StartsValue (text : List Char) : Prop :=
  ∃ c more, text = c :: more ∧ isSpace c = false ∧ c ≠ ']'

/-- A reader finds a value in the text that is printed for it. -/
structure Finds (item : CharReader Json) (j : Json) : Prop where
  starts : StartsValue j.compact.toList
  reads : Reads item j.compact.toList j

section Items

variable {item : CharReader Json} {fuel : Nat} {j : Json} {items : List Json} {rest : List Char}

/-- An item and those behind it. -/
def itemThen (item : CharReader Json) (fuel : Nat) : CharReader (List Json) := do
  let first ← item
  return first :: (← itemsRest item fuel false)

theorem run_itemsRest_true (h : StartsValue j.compact.toList) :
    (itemsRest item (fuel + 1) true).run (j.compact.toList ++ rest) =
      (itemThen item fuel).run (j.compact.toList ++ rest) := by
  obtain ⟨c, more, htext, hspace, hclose⟩ := h
  rw [htext, itemsRest, List.cons_append, run_bind_of_ok (run_peekToken? hspace)]
  simp [itemThen]

theorem run_itemsRest_false (h : StartsValue j.compact.toList) :
    (itemsRest item (fuel + 1) false).run (',' :: (j.compact.toList ++ rest)) =
      (itemThen item fuel).run (j.compact.toList ++ rest) := by
  obtain ⟨c, more, htext, hspace, hclose⟩ := h
  have hcomma : isSpace ',' = false := rfl
  rw [htext, itemsRest, List.cons_append, run_bind_of_ok (run_peekToken? hcomma)]
  show (skip >>= fun _ => peekToken? >>= _ : CharReader (List Json)).run _ = _
  rw [run_bind_of_ok (run_skip ','), run_bind_of_ok (run_peekToken? hspace)]
  simp [itemThen]

theorem run_itemThen {others : List Json} {left : List Char} (h : Reads item j.compact.toList j)
    (hothers : (itemsRest item fuel false).run rest = .ok (others, left)) :
    (itemThen item fuel).run (j.compact.toList ++ rest) = .ok (j :: others, left) := by
  rw [itemThen, run_bind_of_ok (h rest), run_bind_of_ok hothers]
  rfl

/-- Items behind a first one, each with a comma in front, up to the end of the array. -/
def itemsTail (items : List Json) : List Char :=
  items.flatMap (fun j => ',' :: j.compact.toList) ++ [']']

theorem reads_itemsRest_false (h : ∀ j ∈ items, Finds item j) (hfuel : items.length < fuel) :
    Reads (itemsRest item fuel false) (itemsTail items) items := by
  induction items generalizing fuel with
  | nil =>
    obtain ⟨fuel, rfl⟩ := Nat.exists_eq_add_of_lt hfuel
    exact fun rest => rfl
  | cons j items ih =>
    obtain ⟨hj, hitems⟩ := List.forall_mem_cons.mp h
    cases fuel with
    | zero => cases hfuel
    | succ fuel =>
      intro rest
      have hsplit : itemsTail (j :: items) ++ rest =
          ',' :: (j.compact.toList ++ (itemsTail items ++ rest)) := by
        simp [itemsTail]
      rw [hsplit, run_itemsRest_false hj.starts]
      exact run_itemThen hj.reads (ih hitems (Nat.lt_of_succ_lt_succ hfuel) rest)

theorem toList_compactItems_cons (j : Json) (items : List Json) :
    (compactItems (j :: items)).toList ++ [']'] = j.compact.toList ++ itemsTail items := by
  induction items generalizing j with
  | nil => rw [compactItems]; rfl
  | cons k items ih =>
    rw [compactItems, String.toList_append, String.toList_append, List.append_assoc, ih k]
    · simp [itemsTail]
    · simp

theorem length_le_length_compactItems (items : List Json) :
    items.length ≤ ((compactItems items).toList ++ [']']).length := by
  cases items with
  | nil => exact Nat.zero_le _
  | cons j items =>
    have htail : items.length ≤ (items.flatMap fun j => ',' :: j.compact.toList).length :=
      length_le_length_flatMap (fun _ => by simp) items
    rw [toList_compactItems_cons, List.length_append, itemsTail, List.length_append,
      List.length_cons, List.length_singleton]
    omega

/-- The items of an array are read behind its bracket. -/
theorem reads_itemsRest_true (h : ∀ j ∈ items, Finds item j) (hfuel : items.length < fuel) :
    Reads (itemsRest item fuel true) ((compactItems items).toList ++ [']']) items := by
  cases fuel with
  | zero => cases hfuel
  | succ fuel =>
    cases items with
    | nil =>
      rw [compactItems]
      exact fun rest => rfl
    | cons j items =>
      obtain ⟨hj, hitems⟩ := List.forall_mem_cons.mp h
      intro rest
      rw [toList_compactItems_cons, List.append_assoc, run_itemsRest_true hj.starts]
      exact run_itemThen hj.reads
        (reads_itemsRest_false hitems (Nat.lt_of_succ_lt_succ hfuel) rest)

end Items

/-! ## Members -/

section Members

variable {item : CharReader Json} {fuel : Nat} {m : String × Json}
  {members : List (String × Json)} {rest : List Char}

/-- A member behind the opening quote of its key, and those behind it. -/
def memberThen (item : CharReader Json) (fuel : Nat) : CharReader (List (String × Json)) := do
  let key ← stringBody
  match ← peekToken? with
  | some ':' => skip
  | some _ => failNext .expectedColon
  | none => failNext .endOfObject
  let value ← item
  return (key, value) :: (← membersRest item fuel false)

theorem run_membersRest_true :
    (membersRest item (fuel + 1) true).run ('"' :: rest) = (memberThen item fuel).run rest := rfl

theorem run_membersRest_false :
    (membersRest item (fuel + 1) false).run (',' :: '"' :: rest) =
      (memberThen item fuel).run rest := rfl

/-- The text of a member behind the opening quote of its key. -/
def memberBody (m : String × Json) : List Char :=
  m.1.toList.flatMap escapeChar ++ '"' :: ':' :: m.2.compact.toList

theorem run_memberThen {others : List (String × Json)} {left : List Char}
    (h : Reads item m.2.compact.toList m.2)
    (hothers : (membersRest item fuel false).run rest = .ok (others, left)) :
    (memberThen item fuel).run (memberBody m ++ rest) = .ok (m :: others, left) := by
  have hsplit : memberBody m ++ rest =
      m.1.toList.flatMap escapeChar ++ ['"'] ++ ':' :: (m.2.compact.toList ++ rest) := by
    simp [memberBody]
  have hcolon : isSpace ':' = false := rfl
  rw [hsplit, memberThen, run_bind_of_ok (reads_stringBody m.1 _),
    run_bind_of_ok (run_peekToken? hcolon)]
  show (skip >>= fun _ => item >>= _ : CharReader (List (String × Json))).run _ = _
  rw [run_bind_of_ok (run_skip ':'), run_bind_of_ok (h rest), run_bind_of_ok hothers]
  rfl

/-- Members behind a first one, each with a comma in front, up to the end of the object. -/
def membersTail (members : List (String × Json)) : List Char :=
  members.flatMap (fun m => ',' :: '"' :: memberBody m) ++ ['}']

theorem reads_membersRest_false (h : ∀ m ∈ members, Finds item m.2)
    (hfuel : members.length < fuel) :
    Reads (membersRest item fuel false) (membersTail members) members := by
  induction members generalizing fuel with
  | nil =>
    obtain ⟨fuel, rfl⟩ := Nat.exists_eq_add_of_lt hfuel
    exact fun rest => rfl
  | cons m members ih =>
    obtain ⟨hm, hmembers⟩ := List.forall_mem_cons.mp h
    cases fuel with
    | zero => cases hfuel
    | succ fuel =>
      intro rest
      have hsplit : membersTail (m :: members) ++ rest =
          ',' :: '"' :: (memberBody m ++ (membersTail members ++ rest)) := by
        simp [membersTail]
      rw [hsplit, run_membersRest_false]
      exact run_memberThen hm.reads (ih hmembers (Nat.lt_of_succ_lt_succ hfuel) rest)

theorem toList_compactMembers_cons (m : String × Json) (members : List (String × Json)) :
    (compactMembers (m :: members)).toList ++ ['}'] =
      '"' :: (memberBody m ++ membersTail members) := by
  induction members generalizing m with
  | nil => simp [compactMembers, quote, memberBody, membersTail]
  | cons n members ih =>
    rw [compactMembers, String.toList_append, List.append_assoc, ih n]
    · simp [quote, memberBody, membersTail]
    · simp

theorem length_le_length_compactMembers (members : List (String × Json)) :
    members.length ≤ ((compactMembers members).toList ++ ['}']).length := by
  cases members with
  | nil => exact Nat.zero_le _
  | cons m members =>
    have htail : members.length ≤ (members.flatMap fun m => ',' :: '"' :: memberBody m).length :=
      length_le_length_flatMap (fun _ => by simp) members
    rw [toList_compactMembers_cons, List.length_cons, List.length_cons, List.length_append,
      membersTail, List.length_append]
    omega

/-- The members of an object are read behind its brace. -/
theorem reads_membersRest_true (h : ∀ m ∈ members, Finds item m.2)
    (hfuel : members.length < fuel) :
    Reads (membersRest item fuel true) ((compactMembers members).toList ++ ['}']) members := by
  cases fuel with
  | zero => cases hfuel
  | succ fuel =>
    cases members with
    | nil =>
      rw [compactMembers]
      exact fun rest => rfl
    | cons m members =>
      obtain ⟨hm, hmembers⟩ := List.forall_mem_cons.mp h
      intro rest
      rw [toList_compactMembers_cons, List.cons_append, List.append_assoc, run_membersRest_true]
      exact run_memberThen hm.reads
        (reads_membersRest_false hmembers (Nat.lt_of_succ_lt_succ hfuel) rest)

end Members

/-! ## Values -/

/-- A value without numbers that nests less deep than a bound. -/
inductive IsTextual : Nat → Json → Prop where
  | null (n : Nat) : IsTextual (n + 1) .null
  | bool (n : Nat) (b : Bool) : IsTextual (n + 1) (.bool b)
  | string (n : Nat) (s : String) : IsTextual (n + 1) (.string s)
  | array {n : Nat} {items : List Json} (h : ∀ item ∈ items, IsTextual (n + 1) item) :
      IsTextual (n + 2) (.array items)
  | object {n : Nat} {members : List (String × Json)} (h : ∀ m ∈ members, IsTextual (n + 1) m.2) :
      IsTextual (n + 2) (.object members)

theorem toList_compact_string (s : String) :
    (Json.string s).compact.toList = '"' :: (s.toList.flatMap escapeChar ++ ['"']) := by
  rw [compact, quote, String.toList_ofList]
  rfl

theorem toList_compact_array (items : List Json) :
    (Json.array items).compact.toList = '[' :: ((compactItems items).toList ++ [']']) := by
  rw [compact, String.toList_append, String.toList_append]
  rfl

theorem toList_compact_object (members : List (String × Json)) :
    (Json.object members).compact.toList = '{' :: ((compactMembers members).toList ++ ['}']) := by
  rw [compact, String.toList_append, String.toList_append]
  rfl

theorem reads_string (n : Nat) (s : String) :
    Reads (value (n + 1)) (Json.string s).compact.toList (.string s) := by
  intro rest
  have hvalue : (value (n + 1)).run ('"' :: (s.toList.flatMap escapeChar ++ ['"'] ++ rest)) =
      (stringBody >>= fun s => return .string s).run
        (s.toList.flatMap escapeChar ++ ['"'] ++ rest) := rfl
  rw [toList_compact_string, List.cons_append, hvalue, run_bind_of_ok (reads_stringBody s rest)]
  rfl

theorem reads_array {n : Nat} {items : List Json} (h : ∀ j ∈ items, Finds (value (n + 1)) j) :
    Reads (value (n + 2)) (Json.array items).compact.toList (.array items) := by
  intro rest
  have hvalue (text : List Char) : (value (n + 2)).run ('[' :: text) =
      (itemsRest (value (n + 1)) (text.length + 1) true >>= fun items => return .array items).run
        text := rfl
  have hfuel : items.length < ((compactItems items).toList ++ [']'] ++ rest).length + 1 := by
    have hlength := length_le_length_compactItems items
    rw [List.length_append]
    omega
  rw [toList_compact_array, List.cons_append, hvalue,
    run_bind_of_ok (reads_itemsRest_true h hfuel rest)]
  rfl

theorem reads_object {n : Nat} {members : List (String × Json)}
    (h : ∀ m ∈ members, Finds (value (n + 1)) m.2) :
    Reads (value (n + 2)) (Json.object members).compact.toList (.object members) := by
  intro rest
  have hvalue (text : List Char) : (value (n + 2)).run ('{' :: text) =
      (membersRest (value (n + 1)) (text.length + 1) true >>=
        fun members => return .object members).run text := rfl
  have hfuel : members.length <
      ((compactMembers members).toList ++ ['}'] ++ rest).length + 1 := by
    have hlength := length_le_length_compactMembers members
    rw [List.length_append]
    omega
  rw [toList_compact_object, List.cons_append, hvalue,
    run_bind_of_ok (reads_membersRest_true h hfuel rest)]
  rfl

/-- A textual value is found in its text. -/
theorem IsTextual.finds {n : Nat} {j : Json} (h : IsTextual n j) : Finds (value n) j := by
  induction h with
  | null n => exact ⟨⟨'n', _, rfl, rfl, by decide⟩, fun _ => rfl⟩
  | bool n b =>
    cases b with
    | true => exact ⟨⟨'t', _, rfl, rfl, by decide⟩, fun _ => rfl⟩
    | false => exact ⟨⟨'f', _, rfl, rfl, by decide⟩, fun _ => rfl⟩
  | string n s => exact ⟨⟨'"', _, toList_compact_string s, rfl, by decide⟩, reads_string n s⟩
  | array h ih => exact ⟨⟨'[', _, toList_compact_array _, rfl, by decide⟩, reads_array ih⟩
  | object h ih => exact ⟨⟨'{', _, toList_compact_object _, rfl, by decide⟩, reads_object ih⟩

/-- The items of a textual array are read from its text. -/
theorem parseList_compact {items : List Json} (h : IsTextual maxDepth (.array items)) :
    parseList (Json.array items).compact = .ok items := by
  have htext := toList_compact_array items
  have hread := h.finds.reads []
  rw [List.append_nil] at hread
  have hbracket : isSpace '[' = false := rfl
  have hlist : listReader.run (Json.array items).compact.toList = .ok (items, []) := by
    rw [htext] at hread ⊢
    rw [listReader, run_bind_of_ok (run_peekToken? hbracket)]
    show (value maxDepth >>= _ : CharReader (List Json)).run _ = _
    rw [run_bind_of_ok hread]
    rfl
  have hend : atEnd.run [] = .ok ((), []) := rfl
  rw [parseList, run, run_bind_of_ok hlist, run_bind_of_ok hend]
  rfl

/-! ## Stored values -/

namespace Faithful

variable {store : Json → Json} (hs : Faithful store) {n : Nat} {α : Type}

include hs

theorem isTextual_string (s : String) : IsTextual (n + 1) (store (.string s)) := by
  rw [hs.string]
  exact .string n s

theorem isTextual_bool (b : Bool) : IsTextual (n + 1) (store (.bool b)) := by
  rw [hs.bool]
  exact .bool n b

theorem isTextual_ofOption {encode : α → Json} {o : Option α}
    (h : ∀ a ∈ o, IsTextual (n + 1) (store (encode a))) :
    IsTextual (n + 1) (store (.ofOption encode o)) := by
  cases o with
  | none =>
    rw [ofOption, hs.null]
    exact .null n
  | some a => exact h a rfl

theorem isTextual_ofList {encode : α → Json} {xs : List α}
    (h : ∀ x ∈ xs, IsTextual (n + 1) (store (encode x))) :
    IsTextual (n + 2) (store (.ofList encode xs)) := by
  rw [ofList, hs.array, List.map_map]
  exact .array (List.forall_mem_map.mpr h)

theorem isTextual_object {members : List (String × Json)} (hkeys : (members.map Prod.fst).Nodup)
    (h : ∀ m ∈ members, IsTextual (n + 1) (store m.2)) :
    IsTextual (n + 2) (store (.object members)) := by
  obtain ⟨stored, hstored, hperm⟩ := hs.object hkeys
  rw [hstored]
  refine .object fun m hm => ?_
  obtain ⟨origin, horigin, rfl⟩ := List.mem_map.mp (hperm.subset hm)
  exact h origin horigin

end Faithful

end RouteAudit.Json
