import Xmpp.Xml.Element
import Xmpp.Xml.Namespace

/-!
# Criteria

A criterion selects incoming elements. It looks at the name and the
namespace of the element itself and, through `chain`, along a path of
nested children: the first criterion of a chain is put to the element, the
next to some child of it, and so on. Which child is taken at each level is
free, so a chain has to try them all; a chain without criteria selects
everything.
-/

namespace Xmpp

/-- **A predicate on elements**, as a module states which elements it
handles. -/
inductive Criterion where
  /-- The name is this one. -/
  | name (name : String)
  /-- The namespace is this one. -/
  | xmlns (ns : String)
  /-- Name and namespace are these. -/
  | nameAndXmlns (name ns : String)
  /-- Some criterion of the list selects the element. -/
  | any (criteria : List Criterion)
  /-- Every criterion of the list selects the element. -/
  | all (criteria : List Criterion)
  /-- The criterion does not select the element. -/
  | not (criterion : Criterion)
  /-- The criteria select the elements of some path that starts here. -/
  | chain (criteria : List Criterion)
deriving Inhabited

namespace Criterion

/-- A stanza of one kind that carries a child in a namespace. -/
def stanzaWith (name ns : String) : Criterion :=
  .chain [.nameAndXmlns name Namespace.client, .xmlns ns]

mutual

/-- Whether the criterion selects the element. -/
def selects : Criterion → Element → Bool
  | .name n, e => e.name == n
  | .xmlns s, e => e.ns == s
  | .nameAndXmlns n s, e => e.is n s
  | .any cs, e => anySelects cs e
  | .all cs, e => allSelect cs e
  | .not c, e => !c.selects e
  | .chain cs, e => chainSelects cs e

/-- Whether some criterion of the list selects the element. -/
def anySelects : List Criterion → Element → Bool
  | [], _ => false
  | c :: cs, e => c.selects e || anySelects cs e

/-- Whether every criterion of the list selects the element. -/
def allSelect : List Criterion → Element → Bool
  | [], _ => true
  | c :: cs, e => c.selects e && allSelect cs e

/-- Whether the criteria select, one by one, the elements of a path of
nested children that starts at the element. -/
def chainSelects : List Criterion → Element → Bool
  | [], _ => true
  | c :: cs, e =>
    c.selects e && (cs.isEmpty || e.children.any fun child => chainSelects cs child)

end

end Criterion

end Xmpp
