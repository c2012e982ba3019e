/-! Rules: markers for functions that carry no directive, by qualified name. -/

set_option autoImplicit false

namespace Fluent

structure Rule where
  func : String
  message : String
  deriving DecidableEq

structure RuleSet where
  terminals : List Rule
  entryPoints : List Rule
  ignored : List Rule
  deriving DecidableEq

namespace RuleSet

def none : RuleSet := { terminals := [], entryPoints := [], ignored := [] }

def isEmpty (rules : RuleSet) : Bool :=
  rules.terminals.isEmpty && rules.entryPoints.isEmpty && rules.ignored.isEmpty

/-- The rules of both sets, those of the first before those of the second in each section. -/
def merge (first second : RuleSet) : RuleSet :=
  { terminals := first.terminals ++ second.terminals
    entryPoints := first.entryPoints ++ second.entryPoints
    ignored := first.ignored ++ second.ignored }

end RuleSet

end Fluent
