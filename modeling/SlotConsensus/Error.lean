import SlotConsensus.Block.Header
import SlotConsensus.Identity.PublicKey

/-! What can go wrong in consensus, the kinds of it, and the words for it. -/

namespace SlotConsensus

/-- Why a file cannot be used. -/
inductive FileError
  | missing
  | isDirectory
  | notText
  deriving DecidableEq

def FileError.message : FileError → String
  | missing => "No such file or directory (os error 2)"
  | isDirectory => "Is a directory (os error 21)"
  | notText => "stream did not contain valid UTF-8"

/-- What is wrong with a configuration or with the file that holds it. -/
inductive ConfigProblem
  | zeroInterval
  | raggedEpoch (epochLength interval : UInt64)
  | noValidators
  | tooManyNodes (nodes : Nat) (maximum : UInt64)
  | badNode (index : Nat) (cause : KeyError)
  | unreadable (cause : FileError)
  | unwritable (cause : FileError)
  /-- Any other problem, in words. -/
  | stated (text : String)
  deriving DecidableEq

def ConfigProblem.message : ConfigProblem → String
  | zeroInterval => "Block interval must be greater than 0"
  | raggedEpoch epochLength interval =>
    "Epoch length " ++ toString epochLength ++
      " must be a positive multiple of the block interval " ++ toString interval
  | noValidators => "Max validators must be greater than 0"
  | tooManyNodes nodes maximum =>
    toString nodes ++ " trust nodes exceed the maximum of " ++ toString maximum
  | badNode index cause => "Invalid trust node " ++ toString index ++ ": " ++ cause.message
  | unreadable cause => "Failed to read config file: " ++ cause.message
  | unwritable cause => "Failed to write config file: " ++ cause.message
  | stated text => text

inductive ConsensusError
  /-- The roster has no members. -/
  | emptyRoster
  /-- The last block claims the next slot or a later one. -/
  | futureBlock (last next : Timestamp)
  /-- The slot before the present time has its block. -/
  | occupiedSlot (slot : Timestamp)
  /-- The block of the slot has not arrived. -/
  | awaitedBlock (slot : Timestamp)
  /-- The time is no multiple of the interval. -/
  | unaligned (time : Timestamp)
  /-- The producer is not the leader of the slot. -/
  | wrongProducer (slot : Timestamp) (expected actual : PublicKey)
  | duplicateBlock (hash : Hash)
  | unknownProposal (hash : Hash)
  | duplicateEndorsement (hash : Hash) (validator : PublicKey)
  | notEndorsed (hash : Hash) (validator : PublicKey)
  | unknownSigner (reason : String)
  | invalidBlock (reason : String)
  | config (problem : ConfigProblem)
  /-- A text is not in the form of the value to be read from it. -/
  | malformed (reason : String)
  | other (reason : String)
  deriving DecidableEq

/-- Kinds of errors, by what has to be done about them. -/
inductive ErrorKind
  /-- The roster or the configuration has to be changed. -/
  | configuration
  /-- Time has to pass. -/
  | temporal
  /-- Somebody else had to produce the block. -/
  | authorization
  /-- The pending proposals do not allow the call. -/
  | tracking
  | internal
  deriving DecidableEq

namespace ConsensusError

def kind : ConsensusError → ErrorKind
  | emptyRoster | config _ => .configuration
  | futureBlock .. | occupiedSlot _ | awaitedBlock _ | unaligned _ => .temporal
  | wrongProducer .. => .authorization
  | duplicateBlock _ | unknownProposal _ | duplicateEndorsement .. | notEndorsed ..
  | unknownSigner _ => .tracking
  | invalidBlock _ | malformed _ | other _ => .internal

def message : ConsensusError → String
  | emptyRoster => "Validator set is empty"
  | futureBlock last next =>
    "Mint the future block: last block at " ++ toString last ++ ", next slot " ++ toString next
  | occupiedSlot slot => "Block already created in slot " ++ toString slot
  | awaitedBlock slot => "Wait for the block of slot " ++ toString slot ++ " to arrive"
  | unaligned time => "Time " ++ toString time ++ " is not aligned to a slot boundary"
  | wrongProducer slot expected actual =>
    "Invalid block validator: slot " ++ toString slot ++ " belongs to " ++ toString expected ++
      ", got " ++ toString actual
  | duplicateBlock hash => "Block " ++ toString hash ++ " has already been added"
  | unknownProposal hash => "Unknown proposal " ++ toString hash
  | duplicateEndorsement hash validator =>
    "Validator " ++ toString validator ++ " already endorsed block " ++ toString hash
  | notEndorsed hash validator =>
    "Validator " ++ toString validator ++ " has not endorsed block " ++ toString hash
  | unknownSigner reason => "Invalid signature: public key recovery failed: " ++ reason
  | invalidBlock reason => "Invalid block: " ++ reason
  | config problem => "Configuration error: " ++ problem.message
  | malformed reason => "Serialization error: " ++ reason
  | other reason => "Consensus error: " ++ reason

end ConsensusError

end SlotConsensus
