/-
  Statistic/Ranks.lean --- order statistics of a tally.

  WHAT THIS FILE IS FOR.  Median and mode are read off the tally of the scores.  The
  entries ascend, so a rank is found by counting through them, and of several keys that
  occur most often the first one is the least.
-/
import RouteAudit.Tally

set_option autoImplicit false

namespace RouteAudit.Tally

variable {K : Type} [LT K]

/-- The key at a rank among entries, where each key takes as many ranks as it occurs. -/
def keyAtRank? : List (K × Nat) → Nat → Option K
  | [], _ => none
  | (key, n) :: rest, rank => if rank < n then some key else keyAtRank? rest (rank - n)

/-- The key at a rank, the least one at rank zero. -/
def atRank? (t : Tally K) (rank : Nat) : Option K := keyAtRank? t.entries rank

/-- The first of the entries that occur most often; `best` is the one so far. -/
def mostFrequent (best : K × Nat) : List (K × Nat) → K × Nat
  | [] => best
  | entry :: rest => mostFrequent (if best.2 < entry.2 then entry else best) rest

/-- The least of the keys that occur most often. -/
def mode? (t : Tally K) : Option K :=
  match t.entries with
  | [] => none
  | first :: rest => some (mostFrequent first rest).1

/-- The keys in the middle: two neighbours, or one key twice. -/
def middle? (t : Tally K) : Option (K × K) := do
  let low ← t.atRank? ((t.total - 1) / 2)
  let high ← t.atRank? (t.total / 2)
  return (low, high)

end RouteAudit.Tally
