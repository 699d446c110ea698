namespace GraphBatch.Text

def blanks (n : Nat) : String :=
  String.ofList (List.replicate n ' ')

/-- Lines after the first begin with so many blanks. -/
def hang (n : Nat) (text : String) : String :=
  String.ofList (text.toList.flatMap fun c =>
    if c = '\n' then '\n' :: List.replicate n ' ' else [c])

end GraphBatch.Text
