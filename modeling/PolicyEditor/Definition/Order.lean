import PolicyEditor.Definition
import PolicyEditor.Sorting

/-!
# Canonical order

Element lists are sorted by the keys of their elements, the hosts of a network among themselves by
name, and the rules of a service have all `deny` rules in front.  Only the list that an edit
touches is put in order; other lists stay as their file has them.

## Main definitions

* `sortMembers`, `sortValues`, `sortHosts` : the order of lists.
* `normalizeRules`, `insertRule` : the order of rules.
* `Definition.normalize` : the canonical order of all lists of a definition.
* `Definition.insertionIndex` : the place of a new definition in a file.
-/

namespace PolicyEditor

/-- The member `a` may stand in front of `b`. -/
def Member.le (a b : Member) : Bool :=
  Element.keyLe a.content.key b.content.key

/-- The members in the order of their keys. -/
def sortMembers (elements : List Member) : List Member :=
  stableSort Member.le elements

/-- The values in the order of their texts. -/
def sortValues (values : List Value) : List Value :=
  stableSort (fun a b => a.content ≤ b.content) values

/-- The union with its elements in order. -/
def Union.normalize (u : Union) : Union :=
  { u with elements := sortMembers u.elements }

/-! ### Hosts -/

/-- The host entry `a` may stand in front of `b`. -/
def Attribute.hostLe (a b : Attribute) : Bool :=
  Element.keyLe (Element.nameKey a.name) (Element.nameKey b.name)

/-- The attributes with their host entries replaced by `hosts`, one after the other. -/
def fillHosts : List Attribute → List Attribute → List Attribute
  | [], _ => []
  | a :: as, hosts =>
    if a.isHost then
      match hosts with
      | h :: hosts => h :: fillHosts as hosts
      | [] => a :: fillHosts as []
    else a :: fillHosts as hosts

/-- The attributes with their host entries in order; other attributes keep their places. -/
def sortHosts (attributes : List Attribute) : List Attribute :=
  fillHosts attributes (stableSort Attribute.hostLe (attributes.filter Attribute.isHost))

/-! ### Rules -/

/-- The `deny` rules in front of the `permit` rules. -/
def normalizeRules (rules : List Rule) : List Rule :=
  rules.filter Rule.isDeny ++ rules.filter (!Rule.isDeny ·)

/-- The number of rules up to the last `deny` rule. -/
def denyEnd : List Rule → Nat
  | [] => 0
  | r :: rs => if r.isDeny || rs.any Rule.isDeny then denyEnd rs + 1 else 0

/-- The place of a new rule: a `deny` rule goes behind the last `deny` rule, a `permit` rule to
the end. -/
def ruleIndex (rules : List Rule) (rule : Rule) : Nat :=
  if rule.isDeny then denyEnd rules else rules.length

/-- The rules with a new rule at its place. -/
def insertRule (rules : List Rule) (rule : Rule) : List Rule :=
  rules.insertIdx (ruleIndex rules rule) rule

/-! ### Definitions -/

/-- The rule with its elements in order. -/
def Rule.normalize (r : Rule) : Rule :=
  { r with src := r.src.normalize, dst := r.dst.normalize }

/-- The body with its lists in canonical order. -/
def Body.normalize : Body → Body
  | .group g => .group { g with elements := sortMembers g.elements }
  | .network block => .network { block with attributes := sortHosts block.attributes }
  | .service s =>
    .service { s with
      user := s.user.normalize
      rules := normalizeRules (s.rules.map Rule.normalize) }
  | .struct block => .struct block
  | .protocol values => .protocol values

/-- The definition with its lists in canonical order. -/
def Definition.normalize (d : Definition) : Definition :=
  { d with body := d.body.normalize }

/-- The place of a new definition: in front of the first definition of its type whose lower-case
name is greater, or at the end. -/
def Definition.insertionIndex (definitions : List Definition) (new : Definition) : Nat :=
  let name := Text.lowercase new.name
  (definitions.findIdx? fun d => d.type == new.type && decide (name < Text.lowercase d.name)).getD
    definitions.length

end PolicyEditor
