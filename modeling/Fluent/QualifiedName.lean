import Fluent.Text.Cut
import Fluent.Text.Quoted

/-! Qualified names of functions, `path.Func`, and of methods, `(path.Type).Method`.

A rule names a function this way. Reading ignores white space around a name and
one `*` before a receiver, so a method has the same name whether it is declared on
a type or on a pointer to it. -/

set_option autoImplicit false

namespace Fluent

structure QualifiedName where
  path : String
  receiver : Option String
  name : String
  deriving DecidableEq

/-- Why a text is no qualified name; both keep the text without the white space around it. -/
inductive NameError where
  | notAFunction (text : List Char)
  | notAMethod (text : List Char)
  deriving DecidableEq

def NameError.message : NameError → String
  | .notAFunction text =>
    "invalid function name " ++ String.ofList (Text.quote (.ofChars text)) ++ ": expected path.Func"
  | .notAMethod text =>
    "invalid function name " ++ String.ofList (Text.quote (.ofChars text)) ++
      ": expected (path.Type).Method"

namespace QualifiedName

def qualify (path name : String) : String :=
  if path = "" then name else path ++ "." ++ name

def render (name : QualifiedName) : String :=
  match name.receiver with
  | none => qualify name.path name.name
  | some receiver => "(" ++ qualify name.path receiver ++ ")." ++ name.name

/-- The parts of `path.Name`: the last dot divides them, neither is empty, and the
dot follows every slash. -/
def splitQualified? (text : List Char) : Option (List Char × List Char) :=
  match Text.cutLast? '.' text with
  | some (path, name) =>
    if path.isEmpty || name.isEmpty || name.contains '/' then none else some (path, name)
  | none => none

/-- What is left of a receiver after its star, if it has one. -/
def dropStar : List Char → List Char
  | '*' :: text => text
  | text => text

def isMethodName (name : List Char) : Bool :=
  !name.isEmpty && !name.any fun c => c = '.' || c = '/' || c = '(' || c = ')'

/-- Read `path.Type).Method`, the rest of a method's name after its parenthesis. -/
def parseMethod? (text : List Char) : Option QualifiedName :=
  match Text.cut? [')', '.'] text with
  | none => none
  | some (receiver, name) =>
    if isMethodName name then
      (splitQualified? (dropStar receiver)).map fun (path, type) =>
        { path := .ofList path, receiver := some (.ofList type), name := .ofList name }
    else none

def parse (text : String) : Except NameError QualifiedName :=
  let trimmed := Text.trim text.toList
  match trimmed with
  | '(' :: rest =>
    match parseMethod? rest with
    | some name => .ok name
    | none => .error (.notAMethod trimmed)
  | _ =>
    match splitQualified? trimmed with
    | some (path, name) => .ok { path := .ofList path, receiver := none, name := .ofList name }
    | none => .error (.notAFunction trimmed)

end QualifiedName

end Fluent
