import SlotConsensus.Config
import SlotConsensus.Json.Record

/-! Configuration files: the JSON form of a configuration, laid out with an item on each line.  What
is loaded from a file has been validated; what is saved need not be valid. -/

namespace SlotConsensus

open Json

/-- What is found under the path of a file. -/
inductive FileEntry
  | missing
  | directory
  | file (bytes : List UInt8)
  deriving DecidableEq

namespace FileEntry

/-- The text of a file. -/
def text : FileEntry → Except FileError String
  | missing => .error .missing
  | directory => .error .isDirectory
  | file bytes =>
    match String.fromUTF8? ⟨bytes.toArray⟩ with
    | some text => .ok text
    | none => .error .notText

/-- What is found after a text has been written, in the place of what was there. -/
def write (text : String) : FileEntry → Except FileError FileEntry
  | directory => .error .isDirectory
  | missing | file _ => .ok (file text.toUTF8.data.toList)

end FileEntry

namespace Config

def form : Form Config :=
  Form.record "ConsensusConfig"
    (.cons "block_interval" Form.word64 <| .cons "epoch_length" Form.word64 <|
      .cons "max_validators" Form.count <| .cons "trust_nodes" Form.text.list .nil)
    (fun (interval, epochLength, maxValidators, trustNodes, _) =>
      ⟨interval, epochLength, maxValidators, trustNodes⟩)
    (fun c => (c.interval, c.epochLength, c.maxValidators, c.trustNodes, ()))

/-- The configuration in a file, if it is valid. -/
def load (entry : FileEntry) : Except ConsensusError Config :=
  match entry.text with
  | .error cause => .error (.config (.unreadable cause))
  | .ok text =>
    match form.parse text with
    | .error cause => .error (.malformed cause.message)
    | .ok c => c.validate.map fun _ => c

/-- What is found after the configuration has been saved. -/
def save (c : Config) (entry : FileEntry) : Except ConsensusError FileEntry :=
  match entry.write (form.print .indented c) with
  | .ok entry => .ok entry
  | .error cause => .error (.config (.unwritable cause))

end Config

end SlotConsensus
