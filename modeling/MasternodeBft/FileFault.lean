/-! Why there are no contents to be had by a path. -/

namespace MasternodeBft

inductive FileFault where
  | missing
  | notADirectory
  | isADirectory
  | nameTooLong
deriving DecidableEq

namespace FileFault

def code : FileFault → Nat
  | missing => 2
  | notADirectory => 20
  | isADirectory => 21
  | nameTooLong => 36

def name : FileFault → String
  | missing => "NotFound"
  | notADirectory => "NotADirectory"
  | isADirectory => "IsADirectory"
  | nameTooLong => "InvalidFilename"

def message : FileFault → String
  | missing => "No such file or directory"
  | notADirectory => "Not a directory"
  | isADirectory => "Is a directory"
  | nameTooLong => "File name too long"

end FileFault

end MasternodeBft
