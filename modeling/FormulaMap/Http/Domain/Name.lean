import FormulaMap.Http.Domain.Label
import FormulaMap.Http.Percent

/-!
# Names of domains

The form of a domain in ASCII, in which domains that count as the same are written alike: characters
are replaced by what they count as, the whole is put into canonical form, and then every label is
checked.
-/

namespace FormulaMap
namespace Http

/-- Whether a character may not stand in a host of a scheme without rules of its own. -/
def isForbidden (c : Char) : Bool :=
  c.toNat = 0 || isOneOf "\t\n\r #/:<>?@[\\]^|" c

/-- Whether a character may not stand in a domain. -/
def isForbiddenInDomain (c : Char) : Bool :=
  isForbidden c || c.toNat < 32 || c.toNat = 127 || c == '%'

namespace Domain

/-- A text with its characters replaced by what they count as, in canonical form; nothing if it
holds a character that no domain may hold. -/
def folded? (cs : List Char) : Option (List Char) :=
  if cs.any isRefused then none
  else some (Text.canonicalForm (cs.flatMap fun c => (replacement? c).getD [c]))

/-- The form of a domain in ASCII. -/
def ascii? (cs : List Char) : Option (List Char) := do
  let parts := Text.splitAt '.' (← folded? cs)
  let labels ← parts.mapM label?
  if labels.any (·.any fun c => mixes (Text.direction c)) && !labels.all isOrderly then none
  let name := Text.joinWith ['.'] (parts.map asciiPart)
  if name.any isForbiddenInDomain then none else some name

end Domain
end Http
end FormulaMap
