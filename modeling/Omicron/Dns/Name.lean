import Mathlib

/-!
# DNS names, as the DNS server's store uses them

The store parses zone names with `hickory`'s `Name::from_str`, compares them with a queried name
by `zone_of` on lowercased names (`LowerName`), and keys its trees by the labels of the queried
name left of the zone, lowercased. A name here is the list of its labels, leftmost first, and
whether it ends with the root (a trailing dot).

Labels are ASCII and taken as written: `hickory`'s escapes (`\.`, `\DDD`), its punycode
conversion and its length limits are left out, and a lowercase letter is an ASCII one
(`String.toLower`, as `to_ascii_lowercase`; `str::to_lowercase` agrees with it on ASCII).
-/

namespace Omicron.Dns

/-- `hickory_resolver::Name`: its labels from the leftmost, and whether it is fully qualified. -/
structure Name where
  labels : List String
  isFqdn : Bool
  deriving DecidableEq, Repr

namespace Name

/-- The texts between the dots of `s`, with the characters of the current one so far, last
    first. -/
def splitDots : List Char → List Char → List String
  | current, [] => [String.ofList current.reverse]
  | current, '.' :: rest => String.ofList current.reverse :: splitDots [] rest
  | current, c :: rest => splitDots (c :: current) rest

/-- `Name::from_str`: the labels between dots, a trailing dot for a fully qualified name; an
    empty label elsewhere is an error. The text `.` is the root. -/
def fromStr (s : String) : Option Name :=
  if s = "." then some ⟨[], true⟩
  else
    let parts := splitDots [] s.toList
    let (labels, isFqdn) :=
      if parts.getLast? = some "" then (parts.dropLast, true) else (parts, false)
    if labels.any (·.isEmpty) then none else some ⟨labels, isFqdn⟩

/-- `LowerName::new`: every label lowercased. -/
def toLower (n : Name) : Name := ⟨n.labels.map String.toLower, n.isFqdn⟩

/-- `Name::num_labels`: a leading wildcard label `*` is not counted. -/
def numLabels (n : Name) : Nat :=
  if n.labels.head? = some "*" then n.labels.length - 1 else n.labels.length

/-- `Name::zone_of`: the zone's labels end the name's, compared without case. -/
def zoneOf (zone name : Name) : Bool :=
  (zone.toLower.labels).isSuffixOf (name.toLower.labels)

/-- `Name`'s `Display`: the labels joined by dots, and a trailing dot when fully qualified. -/
def toString (n : Name) : String :=
  ".".intercalate n.labels ++ if n.isFqdn then "." else ""

end Name

example : Name.fromStr "oxide.test" = some ⟨["oxide", "test"], false⟩ := rfl

end Omicron.Dns
