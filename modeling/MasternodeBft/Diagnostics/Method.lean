import MasternodeBft.Diagnostics.Url
import MasternodeBft.Diagnostics.View
import MasternodeBft.Json.Parser

/-! The questions that a node answers about itself, and their asking. -/

namespace MasternodeBft.Diagnostics

inductive Method where
  | roundState
  | syncInfo
  | receivedTimeouts
  | receivedVotes
  | receivedSyncInfo
deriving DecidableEq

namespace Method

def all : List Method := [roundState, syncInfo, receivedTimeouts, receivedVotes, receivedSyncInfo]

def name : Method → String
  | roundState => "bft_roundState"
  | syncInfo => "bft_syncInfo"
  | receivedTimeouts => "bft_receivedTimeouts"
  | receivedVotes => "bft_receivedVotes"
  | receivedSyncInfo => "bft_receivedSyncInfo"

def ofName? (name : String) : Option Method := all.find? fun method => method.name = name

end Method

inductive Answer where
  | roundState (state : RoundState)
  | syncInfo (bundle : SyncInfo)
  | timeouts (view : PoolView Timeout)
  | votes (view : PoolView Vote)
  | bundles (view : PoolView SyncInfo)
deriving DecidableEq

namespace Answer

def toJson : Answer → Json
  | roundState state => state.toJson
  | syncInfo bundle => bundle.toJson
  | timeouts view => view.toJson Timeout.toJson
  | votes view => view.toJson Vote.toJson
  | bundles view => view.toJson SyncInfo.toJson

def ofJson? (value : Json) : Method → Option Answer
  | .roundState => (RoundState.ofJson? value).map roundState
  | .syncInfo => (SyncInfo.ofJson? value).map syncInfo
  | .receivedTimeouts => (PoolView.ofJson? Timeout.ofJson? value).map timeouts
  | .receivedVotes => (PoolView.ofJson? Vote.ofJson? value).map votes
  | .receivedSyncInfo => (PoolView.ofJson? SyncInfo.ofJson? value).map bundles

end Answer

def answer (state : EngineState) : Method → Answer
  | .roundState => .roundState state.round
  | .syncInfo => .syncInfo state.round.syncInfo
  | .receivedTimeouts => .timeouts (TimeoutPool.view state.timeouts)
  | .receivedVotes => .votes (VotePool.view state.votes)
  | .receivedSyncInfo => .bundles (SyncPool.view state.bundles)

def unknownMethod : Int := -32601

def serve (state : EngineState) (name : String) : Except Int Json :=
  match Method.ofName? name with
  | some method => .ok (answer state method).toJson
  | none => .error unknownMethod

inductive ClientError where
  | unreachable
  | refused (code : Int) (message : String)
  /-- The answer does not read. -/
  | unreadable

/-- A way to ask a question by its name, for the text of the answer. -/
abbrev Transport := String → Except ClientError Bytes

namespace Transport

def none : Transport := fun _ => .error .unreachable

def ofState (state : EngineState) : Transport := fun name =>
  match serve state name with
  | .ok value => .ok value.render
  | .error code => .error (.refused code "Method not found")

end Transport

def ask (transport : Transport) (method : Method) : Except ClientError Answer :=
  match transport method.name with
  | .error error => .error error
  | .ok text =>
    match (Json.parse? text).bind fun value => Answer.ofJson? value method with
    | some answer => .ok answer
    | none => .error .unreadable

structure Client where
  url : String
  valid : Url.valid url = true

namespace Client

def connect? (url : String) : Option Client := if valid : Url.valid url = true then some ⟨url, valid⟩ else none

/-- Asks by the transport that a network has to the address. -/
def ask (client : Client) (network : String → Transport) (method : Method) : Except ClientError Answer :=
  Diagnostics.ask (network client.url) method

end Client

end MasternodeBft.Diagnostics
