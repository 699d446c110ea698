import GraphBatch.Text.Terminal

namespace GraphBatch.Text

inductive Piece
  | plain (text : String)
  | strong (text : String)

abbrev Styled := List Piece

def Piece.text : Piece → String
  | .plain text => text
  | .strong text => text

namespace Styled

/-- The columns the text takes, as it is written. -/
def width (t : Styled) : Nat :=
  t.foldl (fun n p => n + p.text.length) 0

def shownFrom (state : Terminal.State) : Styled → List Char
  | [] => []
  | .plain text :: rest =>
    let (state, shown) := state.run text.toList
    shown ++ shownFrom state rest
  | .strong text :: rest =>
    (Terminal.State.text.run text.toList).2 ++ shownFrom .text rest

/-- Without styles, and without any other control sequence. -/
def unstyled (t : Styled) : String :=
  String.ofList (shownFrom .text t)

end Styled

end GraphBatch.Text
