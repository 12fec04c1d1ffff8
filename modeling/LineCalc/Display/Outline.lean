import LineCalc.Display.Markup
import LineCalc.Expr

/-!
# Outlines

An outline is a tree of labels, shown with one label a line and guides that
lead from each label to those below it. The outline of a program has a branch
for each definition and a last one for the result.
-/

namespace LineCalc

/-- A label and the outlines below it. -/
inductive Outline where
  | node (label : String) (branches : List Outline)

namespace Outline

/-- Put one guide in front of the first line and another in front of the others. -/
def guide (first others : String) : List String → List String
  | [] => []
  | line :: lines => (first ++ line) :: lines.map (others ++ ·)

mutual

/-- The lines of an outline. -/
def lines : Outline → List String
  | node label branches => label :: branchLines branches

/-- The lines of the outlines below a label. -/
def branchLines : List Outline → List String
  | [] => []
  | [last] => guide "└── " "    " last.lines
  | branch :: rest => guide "├── " "│   " branch.lines ++ branchLines rest

end

/-- The label of a text in a style, as it is shown. -/
def label (style text : String) : String :=
  String.ofList (Markup.shown (Markup.styled style (Markup.escape text.toList)))

/-- The label of the definition of a name, as it is shown. -/
def definitionLabel (name : String) : String :=
  String.ofList
    (Markup.shown (Markup.styled "green" "def".toList ++ ' ' :: Markup.escape name.toList))

/-- The outline of an expression: operands stand below their operation. -/
def ofExpr : Expr → Outline
  | .literal text => node (label "cyan" text) []
  | .reference name => node (label "magenta" name) []
  | .group inner => node "( )" [ofExpr inner]
  | .binary op left right => node op.symbol [ofExpr left, ofExpr right]

/-- The outline of a program. -/
def ofProgram (p : Program) : Outline :=
  node "program"
    ((p.definitions.map fun definition =>
        node (definitionLabel definition.name) [ofExpr definition.value]) ++
      [node "result" [ofExpr p.result]])

end Outline

end LineCalc
