/-!
# Styles

What a separator looks like: its delimiters, its width, and for a region the policy by which its
label is left out.  The built-in styles are the default values.
-/

namespace CommentSeparator

/-- When a region leaves its label out. -/
inductive BranchPolicy where
  /-- Only when the top line has exactly no room for fill; an empty label keeps its spaces. -/
  | dashCount
  /-- When the label is empty. -/
  | label
  deriving DecidableEq, Repr

/-- The branch policies, the built-in one first. -/
def BranchPolicy.all : List BranchPolicy :=
  [.dashCount, .label]

/-- The name of a branch policy in a style file. -/
def BranchPolicy.name : BranchPolicy → String
  | .dashCount => "dash-count"
  | .label => "label"

/-- The delimiters and the target width of a header line. -/
structure HeaderStyle where
  opening : String := "/* =----"
  closing : String := "-= */"
  width : UInt64 := 69
  deriving DecidableEq, Repr

/-- The delimiters, the target width and the branch policy of a pair of region lines. -/
structure RegionStyle where
  opening : String := "// +----"
  closing : String := "----+"
  width : UInt64 := 66
  branch : BranchPolicy := .dashCount
  deriving DecidableEq, Repr

/-- The styles of both kinds of separator. -/
structure Styles where
  header : HeaderStyle := {}
  region : RegionStyle := {}
  deriving DecidableEq, Repr

/-- The styles with the policy of `--label-branch`, when that flag is given. -/
def Styles.withLabelBranch (styles : Styles) (labelBranch : Bool) : Styles :=
  if labelBranch then { styles with region := { styles.region with branch := .label } } else styles

end CommentSeparator
