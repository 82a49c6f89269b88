import ContractAtlas.Atlas.Basic
import ContractAtlas.Contract.Detail

/-!
The plain listing of an atlas, and its totals. The listing has one line per contract, by name, with
its bases and the counts that are not zero, and one line per skipped document.
-/
namespace ContractAtlas
set_option autoImplicit false

def Contract.listingLine (c : Contract) (name : String) : String :=
  let counts := c.shownCounts.map fun (key, n) => toString n ++ " " ++ key
  name ++
    (if c.inherits.isEmpty then "" else " is " ++ commaSeparated c.inherits) ++
    (if counts.isEmpty then "" else " (" ++ commaSeparated counts ++ ")")

namespace Atlas

def listingLines (a : Atlas) : List String :=
  (a.names.filterMap fun name => (a.get? name).map (·.listingLine name)) ++
  a.skipped.map fun s => "skipped " ++ s.text

def listing (a : Atlas) : String := joinLines a.listingLines

/-- Adds counts to totals of the same keys in the same order. -/
def addCounts (totals counts : List (String × Nat)) : List (String × Nat) :=
  List.zipWith (fun (key, m) (_, n) => (key, m + n)) totals counts

/-- The sum of the counts of all contracts; an empty atlas has none. -/
def totals (a : Atlas) : List (String × Nat) :=
  match a.toList with
  | [] => []
  | c :: rest => rest.foldl (fun totals c => addCounts totals c.memberCounts) c.memberCounts

end Atlas

end ContractAtlas
