/-
  Coverage/Table.lean --- how often the tests cover each route.

  WHAT THIS FILE IS FOR.  The occurrences of all test methods that pass the filters are
  merged into one table.  The table is made when it is first asked for and kept until
  the filters change.
-/
import RouteAudit.Discovery.Method

set_option autoImplicit false

namespace RouteAudit.Coverage

open RouteAudit.Discovery

/-- Test methods, the filters they have to pass, and the table if it was made. -/
structure Table where
  methods : List TestMethod
  vocabulary : Vocabulary
  filters : List (TestMethod → Bool) := []
  made : Option (Tally String) := none

namespace Table

/-- Whether a method passes every filter. -/
def accepts (t : Table) (method : TestMethod) : Bool := t.filters.all (· method)

/-- The merged occurrences of the methods that pass. -/
def tally (t : Table) : Tally String :=
  ((t.methods.filter t.accepts).map (TestMethod.occurrences t.vocabulary)).foldl Tally.merge .empty

/-- The table with one more filter. -/
def filter (t : Table) (accept : TestMethod → Bool) : Table :=
  { t with filters := t.filters ++ [accept], made := none }

/-- The merged occurrences, as made before or made now. -/
def occurrences (t : Table) : Tally String × Table :=
  match t.made with
  | some made => (made, t)
  | none => (t.tally, { t with made := some t.tally })

/-- The number of occurrences of a route. -/
def count (t : Table) (route : String) : Nat × Table :=
  ((t.occurrences.1).count route, t.occurrences.2)

end Table

end RouteAudit.Coverage
