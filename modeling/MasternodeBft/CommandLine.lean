import MasternodeBft.Config.Text

/-!
The command line of a node: its number, and options for a configuration and the count of validators.
What is wrong is reported in the order in which a node starts: number, configuration, validators,
sockets.
-/

namespace MasternodeBft.CommandLine

inductive NumberFault where
  | empty
  | invalidDigit
  | tooLarge
deriving DecidableEq

namespace NumberFault

def name : NumberFault → String
  | empty => "Empty"
  | invalidDigit => "InvalidDigit"
  | tooLarge => "PosOverflow"

end NumberFault

def gatherDigits : Nat → List Char → Except NumberFault UInt64
  | value, [] => .ok (UInt64.ofNat value)
  | value, char :: rest =>
    match Text.Decimal.digit? char.toNat with
    | none => .error .invalidDigit
    | some digit =>
      let next := value * 10 + digit.val
      if next < UInt64.size then gatherDigits next rest else .error .tooLarge

/-- Reads a number, before which a plus sign may stand. -/
def number (text : String) : Except NumberFault UInt64 :=
  match text.toList with
  | [] => .error .empty
  | ['+'] => .error .invalidDigit
  | '+' :: digits => gatherDigits 0 digits
  | digits => gatherDigits 0 digits

inductive StartError where
  | usage
  | number (fault : NumberFault)
  | config (cause : ConsensusConfig.LoadError)
  /-- The number of the node leaves it no socket for questions. -/
  | noSocket
  | socketInUse

namespace StartError

def quoted (text : String) : String := "\"" ++ text ++ "\""

/-- What is reported, if the words are the program's own. A text that does not parse is reported in the words of
its parser, a socket in use in those of the system, and without a socket there is a panic. -/
def report? : StartError → Option String
  | usage => some ("Error: " ++ quoted "Usage: mnbft <node_id> [--config <path>] [--validators <n>]")
  | number fault => some ("Error: ParseIntError \x7b kind: " ++ fault.name ++ " \x7d")
  | config (.unreadable fault) =>
    some ("Error: Io(Os \x7b code: " ++ Text.Decimal.text fault.code ++ ", kind: " ++ fault.name ++ ", message: " ++
      quoted fault.message ++ " \x7d)")
  | config .notText =>
    some ("Error: Io(Error \x7b kind: InvalidData, message: " ++ quoted "stream did not contain valid UTF-8" ++
      " \x7d)")
  | config (.invalid fault) => some ("Error: Invalid(" ++ quoted fault.message ++ ")")
  | config .syntactic | noSocket | socketInUse => none

def exitCode : StartError → UInt32
  | noSocket => 101
  | _ => 1

end StartError

/-- The argument after the first one that is an option's name. -/
def option? (arguments : List String) (name : String) : Option String :=
  (arguments.dropWhile (· ≠ name))[1]?

structure Plan where
  id : UInt64
  config : ConsensusConfig
  validators : UInt64
  /-- The number of the socket at which it answers questions. -/
  questionSocket : Nat

def questionHost : String := "127.0.0.1"

def Plan.questionAddress (plan : Plan) : String :=
  questionHost ++ ":" ++ Text.Decimal.text plan.questionSocket

def configPath? (arguments : List String) : Option String := option? arguments "--config"

/-- The socket for questions to a node, if there is one: the node's number, of which 16 bits count,
above a base. -/
def questionSocket? (id : UInt64) : Option Nat :=
  let socket := 8545 + id.toNat % 65536
  if socket < 65536 then some socket else none

/-- The socket at which the first node waits for the others. -/
def gossipSocket : Nat := 9000

def configuration (file : String → Except FileFault Bytes) (arguments : List String) :
    Except StartError ConsensusConfig :=
  match configPath? arguments with
  | none => pure .standard
  | some path => (ConsensusConfig.load (file path)).mapError .config

def validatorCount (arguments : List String) : Except StartError UInt64 :=
  match option? arguments "--validators" with
  | none => pure 5
  | some text => (number text).mapError .number

/-- The socket for questions to a node, if all sockets that the node needs are to be had. -/
def freeSocket (inUse : Nat → Bool) (id : UInt64) : Except StartError Nat :=
  match questionSocket? id with
  | none => throw .noSocket
  | some socket => if inUse socket ∨ (id = 0 ∧ inUse gossipSocket) then throw .socketInUse else pure socket

def plan (file : String → Except FileFault Bytes) (inUse : Nat → Bool) (arguments : List String) :
    Except StartError Plan := do
  let some first := arguments.head? | throw .usage
  let id ← (number first).mapError .number
  let config ← configuration file arguments
  let validators ← validatorCount arguments
  let socket ← freeSocket inUse id
  pure ⟨id, config, validators, socket⟩

end MasternodeBft.CommandLine
