/-! Kinds of syntax nodes. -/

set_option autoImplicit false

namespace Fluent

inductive NodeKind where
  | file
  | ident
  | basicLit
  | typeExpr
  | funcLit
  | compositeLit
  | parenExpr
  | selectorExpr
  | indexExpr
  | indexListExpr
  | sliceExpr
  | typeAssertExpr
  | callExpr
  | starExpr
  | unaryExpr
  | binaryExpr
  | keyValueExpr
  | declStmt
  | emptyStmt
  | labeledStmt
  | exprStmt
  | sendStmt
  | incDecStmt
  | assignStmt
  | goStmt
  | deferStmt
  | returnStmt
  | branchStmt
  | blockStmt
  | ifStmt
  | caseClause
  | switchStmt
  | typeSwitchStmt
  | commClause
  | selectStmt
  | forStmt
  | rangeStmt
  | valueSpec
  | typeSpec
  | genDecl
  | funcDecl
  deriving DecidableEq

namespace NodeKind

def label : NodeKind → String
  | .file => "File"
  | .ident => "Ident"
  | .basicLit => "BasicLit"
  | .typeExpr => "Type"
  | .funcLit => "FuncLit"
  | .compositeLit => "CompositeLit"
  | .parenExpr => "ParenExpr"
  | .selectorExpr => "SelectorExpr"
  | .indexExpr => "IndexExpr"
  | .indexListExpr => "IndexListExpr"
  | .sliceExpr => "SliceExpr"
  | .typeAssertExpr => "TypeAssertExpr"
  | .callExpr => "CallExpr"
  | .starExpr => "StarExpr"
  | .unaryExpr => "UnaryExpr"
  | .binaryExpr => "BinaryExpr"
  | .keyValueExpr => "KeyValueExpr"
  | .declStmt => "DeclStmt"
  | .emptyStmt => "EmptyStmt"
  | .labeledStmt => "LabeledStmt"
  | .exprStmt => "ExprStmt"
  | .sendStmt => "SendStmt"
  | .incDecStmt => "IncDecStmt"
  | .assignStmt => "AssignStmt"
  | .goStmt => "GoStmt"
  | .deferStmt => "DeferStmt"
  | .returnStmt => "ReturnStmt"
  | .branchStmt => "BranchStmt"
  | .blockStmt => "BlockStmt"
  | .ifStmt => "IfStmt"
  | .caseClause => "CaseClause"
  | .switchStmt => "SwitchStmt"
  | .typeSwitchStmt => "TypeSwitchStmt"
  | .commClause => "CommClause"
  | .selectStmt => "SelectStmt"
  | .forStmt => "ForStmt"
  | .rangeStmt => "RangeStmt"
  | .valueSpec => "ValueSpec"
  | .typeSpec => "TypeSpec"
  | .genDecl => "GenDecl"
  | .funcDecl => "FuncDecl"

def isStatement : NodeKind → Bool
  | .declStmt | .emptyStmt | .labeledStmt | .exprStmt | .sendStmt | .incDecStmt | .assignStmt
  | .goStmt | .deferStmt | .returnStmt | .branchStmt | .blockStmt | .ifStmt | .caseClause
  | .switchStmt | .typeSwitchStmt | .commClause | .selectStmt | .forStmt | .rangeStmt => true
  | _ => false

end NodeKind

end Fluent
