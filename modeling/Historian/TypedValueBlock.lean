import Historian.BitPack
import Historian.ByteOrder
import Historian.JournalFrame

namespace Historian.TypedValueBlock

open Wire Checks BitPack

inductive BlockError where
  | invalidBlock | bounds | familyMismatch
  deriving DecidableEq, Repr

/-- The forms in which the values of a block are written. -/
inductive BlockCodec where
  | raw | bitPack | rle
  deriving DecidableEq, Repr

def magic : Bytes := [0x54, 0x56, 0x42, 0x50]
def internalVersion : UInt8 := 1
def headerLen : Nat := 16
def packedOrderLsbFirst : UInt8 := 1
def rleRunWidthU16 : UInt8 := 2

def BlockCodec.code : BlockCodec → UInt8
  | .raw => 0
  | .bitPack => 1
  | .rle => 2

def BlockCodec.fromCode : UInt8 → Except BlockError BlockCodec
  | 0 => .ok .raw
  | 1 => .ok .bitPack
  | 2 => .ok .rle
  | _ => .error .invalidBlock

def familyCode : ValueFamily → UInt8
  | .real => 0
  | .signed => 1
  | .unsigned => 2
  | .boolean => 3
  | .state => 4
  | .text => 5
  | .artifact => 6

def familyFromCode : UInt8 → Except BlockError ValueFamily
  | 0 => .ok .real
  | 1 => .ok .signed
  | 2 => .ok .unsigned
  | 3 => .ok .boolean
  | 4 => .ok .state
  | 5 => .ok .text
  | 6 => .ok .artifact
  | _ => .error .invalidBlock

abbrev Put := Encode BlockError

abbrev Reader := Decode BlockError

def validateCount (count : Nat) : Except BlockError Unit :=
  refuse (count = 0 ∨ maxSourceObservationContexts < count) .bounds

/-- Lengths are machine words. -/
def checkedAdd (left right : Nat) : Except BlockError Nat :=
  if left + right < 2 ^ 64 then .ok (left + right) else .error .bounds

def checkedMul (left right : Nat) : Except BlockError Nat :=
  if left * right < 2 ^ 64 then .ok (left * right) else .error .bounds

def checkedTotalLen (payloadLen : Nat) : Except BlockError Nat := do
  let total ← checkedAdd headerLen payloadLen
  refuse (maxAdmissionPayloadV1 < total) .bounds
  pure total

def writeHeader (family : ValueFamily) (codec : BlockCodec) (count payloadLen : Nat) : Put Unit :=
  if hcount : count < 2 ^ 16 then
    if hlen : payloadLen < 2 ^ 32 then do
      put magic
      put [internalVersion]
      put [familyCode family]
      put [codec.code]
      put [0]
      encodeLE 2 (⟨count, hcount⟩ : Fin (2 ^ 16))
      put (List.replicate 2 0)
      encodeLE 4 (⟨payloadLen, hlen⟩ : Fin (2 ^ 32))
    else throw .bounds
  else throw .bounds

def unavailableLen : Option UnavailableReason → Except BlockError Nat
  | none => .ok 1
  | some reason => checkedAdd 3 reason.value.len

def rawValueLen (family : ValueFamily) (value : ExactValue) : Except BlockError Nat :=
  match family, value with
  | _, .unavailable reason => unavailableLen reason
  | .real, .real _ | .signed, .signed _ | .unsigned, .unsigned _ => .ok 9
  | .boolean, .boolean _ => .ok 1
  | .state, .state value => do
    let withClass ← checkedAdd 5 value.stateClass.value.len
    checkedAdd withClass value.member.value.len
  | .text, .text value => checkedAdd 5 value.value.len
  | .artifact, .artifact value => checkedAdd 67 value.content.format.value.len
  | _, _ => .error .familyMismatch

def rawPayloadLen (family : ValueFamily) (values : List ExactValue) : Except BlockError Nat :=
  values.foldlM (fun total value => do
    let length ← rawValueLen family value
    checkedAdd total length) 0

/-- The runs of equal booleans behind the value `previous`. -/
def booleanRunCount : Option Bool → Nat → List ExactValue → Except BlockError Nat
  | _, count, [] => .ok count
  | previous, count, .boolean value :: rest =>
    if previous = some value then booleanRunCount previous count rest
    else do
      let count ← checkedAdd count 1
      booleanRunCount (some value) count rest
  | _, _, _ :: _ => .error .familyMismatch

def isBoolean : ExactValue → Bool
  | .boolean _ => true
  | _ => false

def chooseCodec (family : ValueFamily) (values : List ExactValue) (rawPayloadLen : Nat) :
    Except BlockError (BlockCodec × Nat) := do
  let rawTotal ← checkedTotalLen rawPayloadLen
  if family ≠ .boolean ∨ ¬values.all isBoolean then pure (.raw, rawPayloadLen)
  else do
    let packedPayloadLen ← checkedAdd 1 (byteCount values.length)
    let runCount ← booleanRunCount none 0 values
    let runBytes ← checkedMul runCount 3
    let rlePayloadLen ← checkedAdd 1 runBytes
    let packedTotal ← checkedTotalLen packedPayloadLen
    let rleTotal ← checkedTotalLen rlePayloadLen
    if packedTotal < rawTotal ∧ packedTotal ≤ rleTotal then pure (.bitPack, packedPayloadLen)
    else if rleTotal < rawTotal ∧ rleTotal < packedTotal then pure (.rle, rlePayloadLen)
    else pure (.raw, rawPayloadLen)

def putU16Bytes (value : Bytes) : Put Unit :=
  if h : value.length < 2 ^ 16 then do
    encodeLE 2 (⟨value.length, h⟩ : Fin (2 ^ 16))
    put value
  else throw .bounds

def putU32Bytes (value : Bytes) : Put Unit :=
  if h : value.length < 2 ^ 32 then do
    encodeLE 4 (⟨value.length, h⟩ : Fin (2 ^ 32))
    put value
  else throw .bounds

def encodeUnavailable (reason : Option UnavailableReason) (absentMarker reasonMarker : UInt8) :
    Put Unit :=
  match reason with
  | some reason => do
    put [reasonMarker]
    putU16Bytes (utf8Encode reason.value)
  | none => put [absentMarker]

def encodeAvailable (family : ValueFamily) (value : ExactValue) : Put Unit :=
  match family, value with
  | .real, .real value => encodeLE 8 value.bits
  | .signed, .signed value => encodeLE 8 value.toBitVec.toFin
  | .unsigned, .unsigned value => encodeLE 8 value
  | .state, .state value => do
    putU16Bytes (utf8Encode value.stateClass.value)
    putU16Bytes (utf8Encode value.member.value)
  | .text, .text value => putU32Bytes (utf8Encode value.value)
  | .artifact, .artifact value => do
    put value.artifactId.bytes
    putU16Bytes (utf8Encode value.content.format.value)
    encodeLE 16 value.content.version
    put value.content.sha256
  | _, _ => throw .familyMismatch

def encodeRawValue (family : ValueFamily) (value : ExactValue) : Put Unit :=
  if family = .boolean then
    match value with
    | .boolean value => put [if value then 1 else 0]
    | .unavailable reason => encodeUnavailable reason 2 3
    | _ => throw .familyMismatch
  else
    match value with
    | .unavailable reason => encodeUnavailable reason 1 2
    | value => do
      put [0]
      encodeAvailable family value

def encodeRaw (family : ValueFamily) (values : List ExactValue) : Put Unit :=
  values.forM (encodeRawValue family)

def isTrue (value : ExactValue) : Bool := value = .boolean true

def encodePacked (values : List ExactValue) : Put Unit := do
  put [packedOrderLsbFirst]
  put (pack (values.map isTrue))

def encodeRun (value : Bool) (length : Nat) : Put Unit :=
  if h : length < 2 ^ 16 then do
    put [if value then 1 else 0]
    encodeLE 2 (⟨length, h⟩ : Fin (2 ^ 16))
  else throw .bounds

/-- The run of `value`, of which `length` values have been passed, and the runs behind it. -/
def encodeRunsFrom (value : Bool) (length : Nat) : List ExactValue → Put Unit
  | [] => encodeRun value length
  | next :: rest =>
    if next = .boolean value then encodeRunsFrom value (length + 1) rest
    else do
      encodeRun value length
      match next with
      | .boolean next => encodeRunsFrom next 1 rest
      | _ => throw .familyMismatch

def encodeRle (values : List ExactValue) : Put Unit := do
  put [rleRunWidthU16]
  match values with
  | [] => pure ()
  | .boolean value :: rest => encodeRunsFrom value 1 rest
  | _ :: _ => throw .familyMismatch

def encodePayload (codec : BlockCodec) (family : ValueFamily) (values : List ExactValue) :
    Put Unit :=
  match codec with
  | .raw => encodeRaw family values
  | .bitPack => encodePacked values
  | .rle => encodeRle values

def encode (family : ValueFamily) (values : List ExactValue) : Except BlockError Bytes := do
  validateCount values.length
  refuse (¬values.all family.admits) .familyMismatch
  let rawPayloadLen ← rawPayloadLen family values
  let (codec, payloadLen) ← chooseCodec family values rawPayloadLen
  let totalLen ← checkedTotalLen payloadLen
  let (_, out) ← (do
    writeHeader family codec values.length payloadLen
    encodePayload codec family values : Put Unit) (.bytes [])
  refuse (out.finish.length ≠ totalLen) .invalidBlock
  pure out.finish

def Reader.byte : Reader UInt8 := do
  let bytes ← take .invalidBlock 1
  pure (bytes.headD 0)

def Reader.u16Length : Reader Nat := do
  let length ← decodeLE .invalidBlock 2 (2 ^ 16)
  pure length.val

def Reader.u32Length : Reader Nat := do
  let length ← decodeLE .invalidBlock 4 (2 ^ 32)
  pure length.val

def Reader.u64 : Reader U64 := decodeLE .invalidBlock 8 (2 ^ 64)

def Reader.i64 : Reader Int64 := do
  let bits ← Reader.u64
  pure (Int64.ofBitVec (BitVec.ofFin bits))

def Reader.u128 : Reader U128 := decodeLE .invalidBlock 16 (2 ^ 128)

def fromUtf8 (bytes : Bytes) : Reader Text :=
  match utf8Decode bytes with
  | some text => pure text
  | none => throw .invalidBlock

/-- A text of 1 to `maximum` bytes behind its length. -/
def Reader.shortText (maximum : Nat) : Reader Text := do
  let length ← Reader.u16Length
  fromExcept (refuse (length = 0 ∨ maximum < length) .invalidBlock)
  let bytes ← take .invalidBlock length
  fromUtf8 bytes

def Reader.longText : Reader Text := do
  let length ← Reader.u32Length
  let bytes ← take .invalidBlock length
  fromUtf8 bytes

def invalidModel {α : Type} (result : Except ModelError α) : Reader α :=
  fromExcept (result.mapError fun _ => .invalidBlock)

def decodeReason : Reader UnavailableReason := do
  let text ← Reader.shortText maxPortableTokenBytes
  invalidModel (UnavailableReason.new text)

def decodeState : Reader StateValue := do
  let stateClass ← Reader.shortText maxPortableTokenBytes
  let member ← Reader.shortText maxPortableTokenBytes
  let stateClass ← invalidModel (StateClass.new stateClass)
  let member ← invalidModel (StateMember.new member)
  pure ⟨stateClass, member⟩

def decodeText : Reader ExactText := do
  let text ← Reader.longText
  fromExcept (refuse (maxTextScalars < (text.take (maxTextScalars + 1)).length) .invalidBlock)
  invalidModel (ExactText.new text)

def decodeArtifactId : Reader ArtifactId := do
  let bytes ← take .invalidBlock 16
  invalidModel (Identity.fromBytes bytes)

def decodeFormat : Reader ContentFormat := do
  let text ← Reader.shortText maxContentFormatBytes
  invalidModel (ContentFormat.new text)

def decodeContent : Reader ContentIdentity := do
  let format ← decodeFormat
  let version ← Reader.u128
  let digest ← take .invalidBlock 32
  fromExcept ((ContentIdentity.ofDigest format version digest).mapError fun _ => .invalidBlock)

def decodeArtifact : Reader ArtifactReference := do
  let artifactId ← decodeArtifactId
  let content ← decodeContent
  pure ⟨artifactId, content⟩

def decodeAvailable (family : ValueFamily) : Reader ExactValue :=
  match family with
  | .real => do
    let bits ← Reader.u64
    pure (.real ⟨bits⟩)
  | .signed => do
    let value ← Reader.i64
    pure (.signed value)
  | .unsigned => do
    let value ← Reader.u64
    pure (.unsigned value)
  | .boolean => throw .invalidBlock
  | .state => do
    let value ← decodeState
    pure (.state value)
  | .text => do
    let value ← decodeText
    pure (.text value)
  | .artifact => do
    let value ← decodeArtifact
    pure (.artifact value)

def decodeRawValue (family : ValueFamily) : Reader ExactValue := do
  let marker ← Reader.byte
  if family = .boolean then
    match marker with
    | 0 => pure (.boolean false)
    | 1 => pure (.boolean true)
    | 2 => pure (.unavailable none)
    | 3 => do
      let reason ← decodeReason
      pure (.unavailable (some reason))
    | _ => throw .invalidBlock
  else
    match marker with
    | 0 => decodeAvailable family
    | 1 => pure (.unavailable none)
    | 2 => do
      let reason ← decodeReason
      pure (.unavailable (some reason))
    | _ => throw .invalidBlock

def decodeRaw (family : ValueFamily) (count : Nat) (payload : Bytes) :
    Except BlockError (List ExactValue) := do
  refuse (payload.length < count) .invalidBlock
  let (values, rest) ← times (decodeRawValue family) count payload
  refuse (rest ≠ []) .invalidBlock
  pure values

def decodePacked (count : Nat) (payload : Bytes) : Except BlockError (List ExactValue) := do
  let expectedLen ← checkedAdd 1 (byteCount count)
  refuse (payload.length ≠ expectedLen ∨ payload.head? ≠ some packedOrderLsbFirst) .invalidBlock
  let usedBits := count % 8
  refuse (usedBits ≠ 0 ∧ payload.getD (expectedLen - 1) 0 &&& (0xff <<< UInt8.ofNat usedBits) ≠ 0)
    .invalidBlock
  pure ((unpack count (payload.drop 1)).map .boolean)

def runValue : UInt8 → Except BlockError Bool
  | 0 => .ok false
  | 1 => .ok true
  | _ => .error .invalidBlock

/-- The runs behind the value `previous` and the values that have been read. -/
def decodeRuns (count : Nat) : Option Bool → List ExactValue → Bytes →
    Except BlockError (List ExactValue)
  | previous, values, marker :: low :: high :: rest => do
    let value ← runValue marker
    refuse (previous = some value) .invalidBlock
    let length := ofLE [low, high]
    refuse (length = 0) .invalidBlock
    let newLen ← checkedAdd values.length length
    refuse (count < newLen) .invalidBlock
    decodeRuns count (some value) (values ++ List.replicate length (.boolean value)) rest
  | _, values, [] => .ok values
  | _, _, _ => .error .invalidBlock

def decodeRle (count : Nat) (payload : Bytes) : Except BlockError (List ExactValue) := do
  refuse (payload.head? ≠ some rleRunWidthU16 ∨ payload.length < 4 ∨
    (payload.length - 1) % 3 ≠ 0) .invalidBlock
  let values ← decodeRuns count none [] (payload.drop 1)
  refuse (values.length ≠ count) .invalidBlock
  pure values

def decodePayload (codec : BlockCodec) (family : ValueFamily) (count : Nat) (payload : Bytes) :
    Except BlockError (List ExactValue) :=
  match codec with
  | .raw => decodeRaw family count payload
  | .bitPack => decodePacked count payload
  | .rle => decodeRle count payload

def decode (expectedFamily : ValueFamily) (bytes : Bytes) :
    Except BlockError (List ExactValue) := do
  refuse (maxAdmissionPayloadV1 < bytes.length) .bounds
  refuse (bytes.length < headerLen ∨ slice bytes 0 4 ≠ magic) .invalidBlock
  refuse (bytes.getD 4 0 ≠ internalVersion ∨ bytes.getD 7 0 ≠ 0 ∨ slice bytes 10 2 ≠ [0, 0])
    .invalidBlock
  let family ← familyFromCode (bytes.getD 5 0)
  refuse (family ≠ expectedFamily) .familyMismatch
  let codec ← BlockCodec.fromCode (bytes.getD 6 0)
  refuse (codec ≠ .raw ∧ family ≠ .boolean) .invalidBlock
  let count := ofLE (slice bytes 8 2)
  validateCount count
  let payloadLen := ofLE (slice bytes 12 4)
  let totalLen ← checkedTotalLen payloadLen
  refuse (totalLen ≠ bytes.length) .invalidBlock
  let payload := bytes.drop headerLen
  let values ← decodePayload codec family count payload
  let rawPayloadLen ← rawPayloadLen family values
  let (winner, _) ← chooseCodec family values rawPayloadLen
  refuse (winner ≠ codec) .invalidBlock
  pure values

end Historian.TypedValueBlock
