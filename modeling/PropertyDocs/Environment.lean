import PropertyDocs.Level

/-!
# Variables of the environment

Variables are published under keys that begin with `env.`, and the name of the host is always among
them. Entries of one level are copied to another by the first part of their keys.
-/
namespace PropertyDocs.Environment

def keyOf (name : String) : String := "env." ++ name

/-- `environment_properties`: the level of the variables; the variable `HOSTNAME` goes before the
name of the host. -/
def level (host : String) (pairs : List (String × String)) : Level :=
  Level.ofPairs ((keyOf "HOSTNAME", host) :: pairs.map fun v => (keyOf v.1, v.2))

/-- The entries whose keys begin with `part` and a point. -/
def under (part : String) (l : Level) : List (String × String) :=
  l.entries.filter fun e => (part ++ ".").toList.isPrefixOf e.1.toList

/-- `extend_environment`: copies the entries of `source` under `part`, and counts them. -/
def extend (target source : Level) (part : String) : Level × Nat :=
  (target.putAll (under part source), (under part source).length)

end PropertyDocs.Environment
