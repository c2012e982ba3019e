import Fluent.Index.Markers
import Fluent.Types.MethodSet

/-! Terminal methods.

A method is terminal by its marker, by redeclaring a terminal method of an embedded
type, or by implementing a terminal method of an interface. Answers are kept in a
memo; while a method is being examined the memo says that it is not terminal, which
ends the search when types embed each other in a circle. -/

set_option autoImplicit false

namespace Fluent

/-- Answers given so far; the latest entry for a function counts. -/
abbrev Memo := List (FuncId × Bool)

structure TerminalRules where
  markers : Markers
  /-- Terminal methods of interfaces that are not generic. -/
  interfaceTerminals : List Method

namespace TerminalRules

variable (rules : TerminalRules)

/-- The methods that a method of a struct type redeclares: those of the same name and
signature that its embedded fields have. -/
def redeclared (func : FuncId) : List FuncId :=
  let decls := rules.markers.decls
  match decls.functions[func]?, decls.receiverBase? func with
  | some function, some base =>
    match decls.underlying (.plain base) with
    | .struct _ fields =>
      (fields.filter Field.embedded).filterMap fun field =>
        match decls.method? field.type function.package function.name with
        | some found =>
          if found.func ≠ func ∧ decls.identicalMethods found (.plain func)
          then some found.func
          else none
        | none => none
    | _ => []
  | _, _ => []

/-- Does a method of a type that is no interface implement a terminal method of one? -/
def implementsTerminal (func : FuncId) : Bool :=
  let decls := rules.markers.decls
  match decls.functions[func]?, decls.receiverBase? func with
  | some function, some base =>
    !decls.isInterface (.plain base) &&
      rules.interfaceTerminals.any fun terminal =>
        decls.functionNamed terminal.func = function.name &&
          decls.identicalMethods terminal (.plain func) &&
          match decls.functions[terminal.func]?.bind Function.receiver with
          | some interface => decls.pointerImplements base (.plain interface)
          | none => false
  | _, _ => false

/-- Ask for each function in turn until one answer is positive. -/
def anyAnswer (answer : FuncId → Memo → Bool × Memo) : List FuncId → Memo → Bool × Memo
  | [], memo => (false, memo)
  | func :: funcs, memo =>
    match answer func memo with
    | (true, memo) => (true, memo)
    | (false, memo) => anyAnswer answer funcs memo

def filterAnswers (answer : FuncId → Memo → Bool × Memo) : List FuncId → Memo → List FuncId × Memo
  | [], memo => ([], memo)
  | func :: funcs, memo =>
    match answer func memo with
    | (kept, memo) =>
      match filterAnswers answer funcs memo with
      | (rest, memo) => (if kept then func :: rest else rest, memo)

/-- Examine a function with a limit on the length of a chain of redeclarations. -/
def examine : (fuel : Nat) → FuncId → Memo → Bool × Memo
  | 0, _, memo => (false, memo)
  | fuel + 1, func, memo =>
    match memo.lookup func with
    | some answer => (answer, memo)
    | none =>
      let memo := (func, false) :: memo
      let (answer, memo) :=
        if (rules.markers.of func).kind = .terminal then (true, memo)
        else
          match anyAnswer (examine fuel) (rules.redeclared func) memo with
          | (true, memo) => (true, memo)
          | (false, memo) => (rules.implementsTerminal func, memo)
      (answer, (func, answer) :: memo)

/-- Does calling a function complete a chain? No chain of redeclarations is longer than the
list of functions, since a function under examination is not examined again. -/
def isTerminal (func : FuncId) (memo : Memo) : Bool × Memo :=
  rules.examine (rules.markers.decls.functions.length + 1) func memo

/-- The names of the terminal methods in the method set of a declared type, sorted. -/
def terminalNames (id : NamedId) (memo : Memo) : List String × Memo :=
  let decls := rules.markers.decls
  let (terminals, memo) :=
    filterAnswers rules.isTerminal ((decls.methodSet id).map Method.func) memo
  (sortByKey (fun name => name) (terminals.map decls.functionNamed), memo)

end TerminalRules

/-- Is a method one of a declared interface that is not generic? -/
def Declarations.isPlainInterfaceMethod (decls : Declarations) (func : FuncId) : Bool :=
  match decls.functions[func]?.bind Function.receiver with
  | none => false
  | some receiver =>
    decls.isInterface (.plain receiver) &&
      match decls.shape (.plain receiver) with
      | .named id _ => (decls.named? id).any fun decl => decl.typeParams.isEmpty
      | _ => false

end Fluent
