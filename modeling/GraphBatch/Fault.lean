namespace GraphBatch

inductive SystemError
  | notPermitted
  | notFound
  | inputOutput
  | accessDenied
  | notDirectory
  | tooManyOpenFiles
  | nameTooLong
  | linkLoop
  deriving DecidableEq

namespace SystemError

def number : SystemError → Nat
  | .notPermitted => 1
  | .notFound => 2
  | .inputOutput => 5
  | .accessDenied => 13
  | .notDirectory => 20
  | .tooManyOpenFiles => 24
  | .nameTooLong => 36
  | .linkLoop => 40

def text : SystemError → String
  | .notPermitted => "Operation not permitted"
  | .notFound => "No such file or directory"
  | .inputOutput => "Input/output error"
  | .accessDenied => "Permission denied"
  | .notDirectory => "Not a directory"
  | .tooManyOpenFiles => "Too many open files"
  | .nameTooLong => "File name too long"
  | .linkLoop => "Too many levels of symbolic links"

def every : List SystemError :=
  [.notPermitted, .notFound, .inputOutput, .accessDenied, .notDirectory, .tooManyOpenFiles,
    .nameTooLong, .linkLoop]

def ofNumber? (n : Nat) : Option SystemError :=
  every.find? (fun e => e.number == n)

end SystemError

/-- A fault known only by its class. -/
inductive FaultClass
  | notFound
  | permissionDenied
  | invalidInput
  | interrupted
  deriving DecidableEq

def FaultClass.text : FaultClass → String
  | .notFound => "entity not found"
  | .permissionDenied => "permission denied"
  | .invalidInput => "invalid input parameter"
  | .interrupted => "operation interrupted"

inductive Fault
  | system (error : SystemError)
  | described (text : String)
  | unspecified (of : FaultClass)
  deriving DecidableEq

def Fault.message : Fault → String
  | .system e => e.text ++ " (os error " ++ toString e.number ++ ")"
  | .described text => text
  | .unspecified c => c.text

end GraphBatch
