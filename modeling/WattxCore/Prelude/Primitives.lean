import Mathlib.Order.Basic
import Mathlib.Data.Prod.Lex
import Mathlib.Algebra.Group.Int

/-!
The scalar types of the validator core and the collaborators it uses without defining them.

* `Int32`: the C++ `int` (heights, counters), a 32-bit value whose arithmetic wraps; amounts
  (`CAmount`, `int64_t`) are exact integers, their 64-bit range being the subject of its own
  bounds;
* `KeyID`, `Digest`, `PubKey`, `Sig`, `OutPoint`, `Service`: `CKeyID`, `uint256`, `CPubKey`,
  signatures, `COutPoint` and `CService`;
* `Crypto`: the `HashWriter` digest, signing and verification, and `CPubKey::GetID`, left
  abstract: every theorem holds for every choice of them;
* `NetApi`: the parts of `CService` that live in `netaddress.cpp` (`IsValid`,
  `ToStringAddrPort`, `LookupNumeric`);
* `Params`: the fields of `Consensus::Params` the core reads;
* `bind_eq_ok`: a successful run of fallible code, one step at a time.
-/

namespace WattxCore

/-! ### The C++ `int` -/

/-- The C++ `int`: a 32-bit two's-complement integer. -/
@[ext]
structure Int32 where
  val : Int
  min_le : -2147483648 ≤ val
  lt_max : val < 2147483648

namespace Int32

/-- The value an `int` computation wraps to when its exact result leaves the range. -/
def wrap (x : Int) : Int := (x + 2147483648) % 4294967296 - 2147483648

/-- The `int` holding the wrapped value of `x`. -/
def ofInt (x : Int) : Int32 :=
  ⟨wrap x, by unfold wrap; omega, by unfold wrap; omega⟩

instance : Add Int32 := ⟨fun a b => ofInt (a.val + b.val)⟩
instance : Sub Int32 := ⟨fun a b => ofInt (a.val - b.val)⟩
instance : Mul Int32 := ⟨fun a b => ofInt (a.val * b.val)⟩
instance : Neg Int32 := ⟨fun a => ofInt (-a.val)⟩
/-- C++ division truncates toward zero. -/
instance : Div Int32 := ⟨fun a b => ofInt (a.val.tdiv b.val)⟩
/-- C++ `%` takes the sign of the dividend. -/
instance : Mod Int32 := ⟨fun a b => ofInt (a.val.tmod b.val)⟩
instance : LT Int32 := ⟨fun a b => a.val < b.val⟩
instance : LE Int32 := ⟨fun a b => a.val ≤ b.val⟩
instance : OfNat Int32 n := ⟨ofInt n⟩
/-- `std::min`. -/
instance : Min Int32 := ⟨fun a b => if b.val < a.val then b else a⟩

instance (a b : Int32) : Decidable (a < b) := inferInstanceAs (Decidable (a.val < b.val))
instance (a b : Int32) : Decidable (a ≤ b) := inferInstanceAs (Decidable (a.val ≤ b.val))
instance : DecidableEq Int32 := fun a b =>
  decidable_of_iff (a.val = b.val) ⟨Int32.ext, fun h => h ▸ rfl⟩

lemma wrap_of_mem {x : Int} (h₁ : -2147483648 ≤ x) (h₂ : x < 2147483648) : wrap x = x := by
  unfold wrap; omega

@[simp] lemma val_ofInt (x : Int) : (ofInt x).val = wrap x := rfl
@[simp] lemma val_add (a b : Int32) : (a + b).val = wrap (a.val + b.val) := rfl
@[simp] lemma val_sub (a b : Int32) : (a - b).val = wrap (a.val - b.val) := rfl
@[simp] lemma val_mul (a b : Int32) : (a * b).val = wrap (a.val * b.val) := rfl
@[simp] lemma val_div (a b : Int32) : (a / b).val = wrap (a.val.tdiv b.val) := rfl
lemma lt_iff (a b : Int32) : a < b ↔ a.val < b.val := Iff.rfl
lemma le_iff (a b : Int32) : a ≤ b ↔ a.val ≤ b.val := Iff.rfl
lemma val_min (a b : Int32) : (min a b).val = min a.val b.val := by
  show (if b.val < a.val then b else a).val = _
  split_ifs <;> omega

@[simp] lemma val_zero : (0 : Int32).val = 0 := rfl
@[simp] lemma val_one : (1 : Int32).val = 1 := rfl

/-- The value of an `int` lies in its range. -/
lemma val_mem (a : Int32) : -2147483648 ≤ a.val ∧ a.val < 2147483648 := ⟨a.min_le, a.lt_max⟩

/-- Exact arithmetic: an `int` sum that stays in range is the integer sum. -/
lemma val_add_of_mem {a b : Int32} (h₁ : -2147483648 ≤ a.val + b.val)
    (h₂ : a.val + b.val < 2147483648) : (a + b).val = a.val + b.val := by
  simp [wrap_of_mem h₁ h₂]

lemma val_sub_of_mem {a b : Int32} (h₁ : -2147483648 ≤ a.val - b.val)
    (h₂ : a.val - b.val < 2147483648) : (a - b).val = a.val - b.val := by
  simp [wrap_of_mem h₁ h₂]

end Int32

/-- `CAmount`, an `int64_t`, is an `Int`; the value a `CAmount` computation wraps to when
its exact result leaves the range. -/
def wrapInt64 (x : Int) : Int := (x + 2 ^ 63) % 2 ^ 64 - 2 ^ 63

lemma bind_eq_ok {ε α β : Type} {x : Except ε α} {f : α → Except ε β} {b : β} :
    x >>= f = .ok b ↔ ∃ a, x = .ok a ∧ f a = .ok b := by
  cases x <;> simp [bind, Except.bind]

lemma bind_eq_error {ε α β : Type} {x : Except ε α} {f : α → Except ε β} {e : ε} :
    x >>= f = .error e ↔ x = .error e ∨ ∃ a, x = .ok a ∧ f a = .error e := by
  cases x <;> simp [bind, Except.bind]

lemma map_eq_ok {ε α β : Type} {x : Except ε α} {f : α → β} {b : β} :
    f <$> x = .ok b ↔ ∃ a, x = .ok a ∧ f a = b := by
  cases x <;> simp [Functor.map, Except.map]

@[simp] lemma except_pure {ε α : Type} (a : α) : (pure a : Except ε α) = .ok a := rfl

@[simp] lemma ok_bind {ε α β : Type} (a : α) (f : α → Except ε β) : (.ok a : Except ε α) >>= f = f a :=
  rfl

/-! ### Identities and references -/

/-- `CKeyID`, the 160-bit hash of a public key; the null id is `0`. -/
abbrev KeyID := Nat

/-- `uint256`: block hashes, delegation ids and signed digests. -/
abbrev Digest := Nat

/-- `CPubKey`. -/
abbrev PubKey := Nat

/-- `CKey`, a private key. -/
abbrev PrivKey := Nat

/-- A signature, the bytes of a `std::vector<unsigned char>`. -/
abbrev Sig := List Nat

/-- `COutPoint`: a transaction hash and an output index. -/
structure OutPoint where
  hash : Digest
  n : Nat
  deriving DecidableEq, Repr

namespace OutPoint

/-- `COutPoint::NULL_INDEX`, the index of the default-constructed outpoint. -/
def NULL_INDEX : Nat := 4294967295

/-- The default-constructed outpoint. -/
def null : OutPoint := ⟨0, NULL_INDEX⟩

/-- `COutPoint::IsNull`. -/
def isNull (o : OutPoint) : Bool := o.hash == 0 && o.n == NULL_INDEX

/-- `std::map<COutPoint, _>` orders outpoints by hash, then index. -/
instance : LinearOrder OutPoint :=
  LinearOrder.lift' (fun o => toLex (o.hash, o.n)) fun a b h => by
    cases a; cases b; simp_all [toLex]

end OutPoint

/-- `CService`: a network address and a port. -/
structure Service where
  addr : Nat
  port : Nat
  deriving DecidableEq, Repr

namespace Service

/-- The default-constructed `CService`. -/
def none : Service := ⟨0, 0⟩

/-- `std::set<CService>` orders services by address, then port. -/
instance : LinearOrder Service :=
  LinearOrder.lift' (fun s => toLex (s.addr, s.port)) fun a b h => by
    cases a; cases b; simp_all [toLex]

end Service

/-! ### Collaborators outside the core -/

/-- One value streamed into a `HashWriter` (`ss << x`), tagged with its wire width. -/
inductive HashItem
  | key (k : KeyID)
  | pubKey (p : PubKey)
  | digest (d : Digest)
  | u8 (x : Nat)
  | u16 (x : Nat)
  | i32 (x : Int)
  | i64 (x : Int)
  | str (s : String)
  deriving DecidableEq

/-- The cryptographic primitives: the digest of a `HashWriter` stream, `CKey::Sign`,
`CKey::GetPubKey`, `CPubKey::Verify` and `CPubKey::GetID`. -/
structure Crypto where
  hash : List HashItem → Digest
  sign : PrivKey → Digest → Option Sig
  getPubKey : PrivKey → PubKey
  verify : PubKey → Digest → Sig → Bool
  getID : PubKey → KeyID

/-- Some key of `d` verifies `s` on `h`: `∃ P, GetID(P) = d ∧ Verify(P, h, s)`, what a request
in `d`'s name must carry to be `d`'s. -/
def SignedBy (c : Crypto) (d : KeyID) (h : Digest) (s : Sig) : Prop :=
  ∃ P, c.getID P = d ∧ c.verify P h s = true

/-- The network-address functions of `netaddress.cpp`/`netbase.cpp` the trust code calls. -/
structure NetApi where
  isValid : Service → Bool
  toStringAddrPort : Service → String
  lookupNumeric : String → Nat → Service

/-- The fields of `Consensus::Params` the validator core reads. -/
structure Params where
  nMinValidatorStake : Int
  nHeartbeatInterval : Int32
  nUptimeWindow : Int32
  nBronzeUptimeThreshold : Int32
  nSilverUptimeThreshold : Int32
  nGoldUptimeThreshold : Int32
  nPlatinumUptimeThreshold : Int32
  nBronzeRewardMultiplier : Int32
  nSilverRewardMultiplier : Int32
  nGoldRewardMultiplier : Int32
  nPlatinumRewardMultiplier : Int32

/-! ### Concrete collaborators

Instances of the collaborators that let the model run on explicit inputs. -/

/-- The number a hashed item contributes to `Crypto.toy`'s digest. -/
def HashItem.code : HashItem → Nat
  | .key k => k
  | .pubKey p => p
  | .digest d => d
  | .u8 x => x
  | .u16 x => x
  | .i32 x => x.natAbs
  | .i64 x => x.natAbs
  | .str s => s.length

/-- A signature scheme in which key `k` signs digest `d` as `[k, d]`, a key is its own public
key and id, and `verify` accepts exactly the signatures `sign` makes. -/
def Crypto.toy : Crypto where
  hash items := items.foldl (fun acc it => acc * 1000003 + it.code) 7
  sign k d := some [k, d]
  getPubKey k := k
  verify pk d s := s == [pk, d]
  getID pk := pk

/-- Consensus parameters: the main-network minimum stake of 100,000 WATTx
(`chainparams.cpp`), a heartbeat every 10 blocks over a 100-block uptime window, tier
thresholds 950/970/990/999 per mille and multipliers 100/125/150/200 per cent. -/
def Params.sample : Params where
  nMinValidatorStake := 100000 * 100000000
  nHeartbeatInterval := 10
  nUptimeWindow := 100
  nBronzeUptimeThreshold := 950
  nSilverUptimeThreshold := 970
  nGoldUptimeThreshold := 990
  nPlatinumUptimeThreshold := 999
  nBronzeRewardMultiplier := 100
  nSilverRewardMultiplier := 125
  nGoldRewardMultiplier := 150
  nPlatinumRewardMultiplier := 200

/-- Address functions in which every address but the default one is valid. -/
def NetApi.sample : NetApi where
  isValid s := s != Service.none
  toStringAddrPort s := toString s.addr ++ ":" ++ toString s.port
  lookupNumeric _ port := ⟨0, port⟩

end WattxCore
