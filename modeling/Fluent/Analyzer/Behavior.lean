/-! Switches of the analyzer, as bits of one byte. -/

set_option autoImplicit false

namespace Fluent

structure Behavior where
  bits : UInt8
  deriving DecidableEq

namespace Behavior

/-- Check generated files too. -/
def includeGenerated : UInt8 := 1

/-- Report directives that are wrong. -/
def reportDeclarations : UInt8 := 2

/-- Point from a finding to the place where the builder is lost. -/
def relatedInformation : UInt8 := 4

/-- The behavior with the given switches on. -/
def ofOptions (options : List UInt8) : Behavior :=
  { bits := options.foldl (· ||| ·) 0 }

def default : Behavior :=
  ofOptions [reportDeclarations, relatedInformation]

/-- Turn all switches in `option` on or off. -/
def set (behavior : Behavior) (option : UInt8) (on : Bool) : Behavior :=
  { bits := if on then behavior.bits ||| option else behavior.bits &&& ~~~option }

/-- Are all switches in `option` on? -/
def enabled (behavior : Behavior) (option : UInt8) : Bool :=
  behavior.bits &&& option = option

end Behavior

end Fluent
