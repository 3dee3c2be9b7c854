import ZkArche.Foundation.Memory
import ZkArche.Foundation.Expansion
import ZkArche.CImpl.SuiteSodium
import ZkArche.Server.Proofs

namespace ZkArche.CImpl

open Foundation

/-- What ends a run other than its return: a write outside of a buffer, or more rounds than it was given. -/
inductive Fault where
  | outside
  | running
  deriving DecidableEq

def orOutside {α : Type} : Option α → Except Fault α
  | none => .error .outside
  | some value => .ok value

theorem orOutside_bind {α γ : Type} {found : Option α} {value : α} (exists_value : found = some value)
    (next : α → Except Fault γ) : (orOutside found >>= next) = next value := by
  rw [exists_value]
  rfl

/-- The memory behind `out` and the local variables of `hkdf_expand`. -/
structure Expanding (size : Nat) where
  out : Block UInt8 size
  t : Block UInt8 32
  buf : Block UInt8 289
  pos : Nat
  tlen : Nat
  ctr : UInt8

def expandRound {size : Nat} (so : Sodium) (prk : Block UInt8 32) (info : List UInt8) (outLen : Nat)
    (state : Expanding size) : Except Fault (Expanding size) := do
  let chained := if state.tlen ≠ 0 then [state.t.bytes.take state.tlen] else []
  let filled ← orOutside (state.buf.fill 0 (chained ++ [info, [state.ctr]]))
  let t := so.hmacsha256 prk.bytes (filled.1.bytes.take filled.2)
  let take := if outLen - state.pos < 32 then outLen - state.pos else 32
  let out ← orOutside (state.out.overwrite state.pos (t.bytes.take take))
  pure ⟨out, t, filled.1, state.pos + take, 32, state.ctr + 1⟩

def expandLoop {size : Nat} (so : Sodium) (prk : Block UInt8 32) (info : List UInt8) (outLen : Nat) :
    Nat → Expanding size → Except Fault (Expanding size)
  | 0, _ => .error .running
  | fuel + 1, state =>
    if state.pos < outLen then expandRound so prk info outLen state >>= expandLoop so prk info outLen fuel
    else .ok state

/-- What the stack holds when `hkdf_expand` is called. -/
structure Stack where
  t : Block UInt8 32
  buf : Block UInt8 289

/-- `hkdf_expand`: the memory behind `out` afterwards. -/
def expandInto {size : Nat} (so : Sodium) (fuel : Nat) (stack : Stack) (out : Block UInt8 size) (outLen : Nat)
    (prk : Block UInt8 32) (info : List UInt8) : Except Fault (Block UInt8 size) := do
  let state ← expandLoop so prk info outLen fuel ⟨out, stack.t, stack.buf, 0, 0, 1⟩
  pure state.out

/-- `derive_session_key`, with the memory of `salt` and `info` and the stack below; `none` stands for the return
    value -1. -/
def deriveSessionKeyInto (so : Sodium) (fuel : Nat) (salt : Block UInt8 64) (info : Block UInt8 110) (stack : Stack)
    (key ephSecret ephPeer nonceC nonceS pid ephC ephS : Block UInt8 32) : Except Fault (Option (Block UInt8 32)) :=
  match so.scalarmult ephSecret ephPeer with
  | none => .ok none
  | some shared => do
    let salted ← orOutside (salt.fill 0 [nonceC.bytes, nonceS.bytes])
    let named ← orOutside (info.fill 0 [ascii "session key v2", pid.bytes, ephC.bytes, ephS.bytes])
    let prk := hkdfExtract so salted.1.bytes shared.bytes
    let key ← expandInto so fuel stack key 32 prk (named.1.bytes.take named.2)
    pure (some key)

/-- `derive_kc_keys`, with the stacks of its two expansions. -/
def deriveKcKeysInto (so : Sodium) (fuel : Nat) (first second : Stack) (kS2c kC2s sessionKey th : Block UInt8 32) :
    Except Fault (Block UInt8 32 × Block UInt8 32) := do
  let prk := hkdfExtract so th.bytes sessionKey.bytes
  let kS2c ← expandInto so fuel first kS2c 32 prk (ascii "kc s2c")
  let kC2s ← expandInto so fuel second kC2s 32 prk (ascii "kc c2s")
  pure (kS2c, kC2s)

variable {size outLen count fuel : Nat} {so : Sodium} {prk : Block UInt8 32} {info : List UInt8}
  {out : Block UInt8 size} {state : Expanding size}

section Loop

structure Reached (so : Sodium) (prk : Block UInt8 32) (info : List UInt8) (outLen : Nat) (out : Block UInt8 size)
    (count : Nat) (state : Expanding size) : Prop where
  pos : state.pos = min outLen (count * 32)
  ctr : state.ctr = UInt8.ofNat (count + 1)
  chained : state.t.bytes.take state.tlen = expansionBlock so.hmacsha256 prk.bytes info count
  out : state.out.bytes =
    (expansionBlocks so.hmacsha256 prk.bytes info count).take outLen ++ out.bytes.drop state.pos

theorem reached_start (stack : Stack) (out : Block UInt8 size) :
    Reached so prk info outLen out 0 ⟨out, stack.t, stack.buf, 0, 0, 1⟩ where
  pos := by rw [Nat.zero_mul, Nat.min_zero]
  ctr := rfl
  chained := rfl
  out := by rw [expansionBlocks, List.take_nil, List.nil_append, List.drop_zero]

theorem flatten_chained (reached : Reached so prk info outLen out count state) :
    (if state.tlen ≠ 0 then [state.t.bytes.take state.tlen] else []).flatten =
      expansionBlock so.hmacsha256 prk.bytes info count := by
  rw [← reached.chained]
  split
  case isTrue => exact List.append_nil _
  case isFalse none_yet =>
    rw [Decidable.of_not_not none_yet, List.take_zero]
    rfl

theorem length_expansionBlock_le : (expansionBlock so.hmacsha256 prk.bytes info count).length ≤ 32 := by
  cases count with
  | zero => exact Nat.zero_le 32
  | succ count => rw [expansionBlock, Block.bytes_length]

theorem expandRound_reached (short : info.length ≤ 256) (fits : outLen ≤ size)
    (reached : Reached so prk info outLen out count state) (left : state.pos < outLen) :
    ∃ after, expandRound so prk info outLen state = .ok after ∧
      Reached so prk info outLen out (count + 1) after := by
  have whole : state.pos = count * 32 := by
    have least := reached.pos
    omega
  have written : state.out.bytes =
      expansionBlocks so.hmacsha256 prk.bytes info count ++ out.bytes.drop state.pos := by
    rw [reached.out, List.take_of_length_le]
    rw [length_expansionBlocks]
    omega
  have message : ((if state.tlen ≠ 0 then [state.t.bytes.take state.tlen] else []) ++ [info, [state.ctr]]).flatten =
      expansionBlock so.hmacsha256 prk.bytes info count ++ info ++ [UInt8.ofNat (count + 1)] := by
    rw [List.flatten_append, flatten_chained reached, reached.ctr, List.flatten_cons, List.flatten_singleton,
      List.append_assoc]
  have room : ((if state.tlen ≠ 0 then [state.t.bytes.take state.tlen] else []) ++
      [info, [state.ctr]]).flatten.length ≤ 289 := by
    have chained : (expansionBlock so.hmacsha256 prk.bytes info count).length ≤ 32 := length_expansionBlock_le
    rw [message, List.length_append, List.length_append, List.length_singleton]
    omega
  obtain ⟨buf, filled, bytes⟩ := state.buf.fill_start room
  have block : so.hmacsha256 prk.bytes (buf.bytes.take
      ((if state.tlen ≠ 0 then [state.t.bytes.take state.tlen] else []) ++ [info, [state.ctr]]).flatten.length) =
      so.hmacsha256 prk.bytes (expansionBlock so.hmacsha256 prk.bytes info count ++ info ++ [UInt8.ofNat (count + 1)]) := by
    rw [bytes, List.take_left, message]
  generalize taken : (if outLen - state.pos < 32 then outLen - state.pos else 32) = take
  have part : take ≤ 32 ∧ take = min (outLen - state.pos) 32 := by
    rw [← taken]
    split <;> omega
  have source : ((expansionBlock so.hmacsha256 prk.bytes info (count + 1)).take take).length = take := by
    rw [List.length_take, expansionBlock, Block.bytes_length]
    omega
  have inside : ((expansionBlock so.hmacsha256 prk.bytes info (count + 1)).take take).length ≤
      (out.bytes.drop state.pos).length := by
    rw [source, List.length_drop, Block.bytes_length]
    omega
  obtain ⟨final, stored, ended⟩ := Block.overwrite_next written inside
  have position : (expansionBlocks so.hmacsha256 prk.bytes info count).length = state.pos := by
    rw [length_expansionBlocks, whole]
  rw [position] at stored
  rw [source] at ended
  have storing : state.out.overwrite state.pos ((so.hmacsha256 prk.bytes (buf.bytes.take
      ((if state.tlen ≠ 0 then [state.t.bytes.take state.tlen] else []) ++ [info, [state.ctr]]).flatten.length)).bytes.take
        (if outLen - state.pos < 32 then outLen - state.pos else 32)) = some final := by
    rw [block, taken]
    exact stored
  refine ⟨_, (orOutside_bind filled _).trans (orOutside_bind storing _), ?_, ?_, ?_, ?_⟩
  · show state.pos + (if outLen - state.pos < 32 then outLen - state.pos else 32) = min outLen ((count + 1) * 32)
    omega
  · show state.ctr + 1 = UInt8.ofNat (count + 1 + 1)
    rw [reached.ctr, UInt8.ofNat_add (count + 1)]
    rfl
  · show (so.hmacsha256 prk.bytes (buf.bytes.take _)).bytes.take 32 = _
    rw [block, expansionBlock]
    exact List.take_of_length_le (Nat.le_of_eq (Block.bytes_length _))
  · show final.bytes = _ ++ out.bytes.drop (state.pos + (if outLen - state.pos < 32 then outLen - state.pos else 32))
    have wanted : (expansionBlocks so.hmacsha256 prk.bytes info count).take outLen =
        expansionBlocks so.hmacsha256 prk.bytes info count := by
      apply List.take_of_length_le
      rw [length_expansionBlocks]
      omega
    have rest : (expansionBlock so.hmacsha256 prk.bytes info (count + 1)).take (outLen - count * 32) =
        (expansionBlock so.hmacsha256 prk.bytes info (count + 1)).take take := by
      have length : (expansionBlock so.hmacsha256 prk.bytes info (count + 1)).length ≤ 32 := length_expansionBlock_le
      rw [part.2, ← whole, ← List.take_take, List.take_of_length_le length]
    rw [taken, ended, List.drop_drop, expansionBlocks, List.take_append, length_expansionBlocks, wanted, rest]

/-- With a round for every 32 bytes, and one in which the loop ends, all of the output is written. -/
theorem expandLoop_reached (short : info.length ≤ 256) (fits : outLen ≤ size) (enough : outLen ≤ (count + fuel) * 32)
    (reached : Reached so prk info outLen out count state) :
    ∃ after total, expandLoop so prk info outLen (fuel + 1) state = .ok after ∧ outLen ≤ total * 32 ∧
      Reached so prk info outLen out total after := by
  have position := reached.pos
  induction fuel generalizing count state with
  | zero =>
    have done : ¬ state.pos < outLen := by omega
    exact ⟨state, count, by rw [expandLoop, if_neg done], enough, reached⟩
  | succ fuel ih =>
    rw [expandLoop]
    split
    case isTrue left =>
      obtain ⟨next, round, further⟩ := expandRound_reached short fits reached left
      rw [round]
      exact ih (by omega) further further.pos
    case isFalse done => exact ⟨state, count, rfl, by omega, reached⟩

theorem expandInto_eq (stack : Stack) (short : info.length ≤ 256) (bound : outLen ≤ 255 * 32) (fits : outLen ≤ size)
    (enough : outLen ≤ fuel * 32) :
    ∃ after bytes, expandInto so (fuel + 1) stack out outLen prk info = .ok after ∧
      expansion so.hmacsha256 prk.bytes info outLen = some bytes ∧ after.bytes = bytes ++ out.bytes.drop outLen := by
  have start : Reached so prk info outLen out 0 ⟨out, stack.t, stack.buf, 0, 0, 1⟩ := reached_start stack out
  obtain ⟨after, total, run, covered, reached⟩ := expandLoop_reached short fits (by rwa [Nat.zero_add]) start
  have position : after.pos = outLen := by
    rw [reached.pos]
    omega
  refine ⟨after.out, _, ?_, expansion_eq (by decide) bound covered, ?_⟩
  · rw [expandInto, run]
    rfl
  · rw [reached.out, position]

end Loop

section Keys

theorem hkdfRounds_zero (t : List UInt8) (ctr : UInt8) : hkdfRounds so prk info fuel 0 t ctr = [] := by
  cases fuel with
  | zero => rfl
  | succ fuel => rw [hkdfRounds, if_pos rfl]

theorem hkdfRounds_eq {left : Nat} (enough : left ≤ fuel) :
    expansionBlocks so.hmacsha256 prk.bytes info count ++ hkdfRounds so prk info fuel left
        (expansionBlock so.hmacsha256 prk.bytes info count) (UInt8.ofNat (count + 1)) =
      (expansionBlocks so.hmacsha256 prk.bytes info (count + fuel)).take (count * 32 + left) := by
  induction fuel generalizing count left with
  | zero =>
    rw [Nat.le_zero.mp enough, hkdfRounds, List.append_nil, Nat.add_zero, Nat.add_zero, List.take_of_length_le]
    exact Nat.le_of_eq length_expansionBlocks
  | succ fuel ih =>
    rw [hkdfRounds]
    split
    case isTrue empty =>
      have first : (expansionBlocks so.hmacsha256 prk.bytes info (count + (fuel + 1))).take (count * 32) =
          (expansionBlocks so.hmacsha256 prk.bytes info count).take (count * 32) :=
        take_expansionBlocks (Nat.le_add_right count _) (Nat.le_refl _)
      rw [empty, List.append_nil, Nat.add_zero, first, List.take_of_length_le]
      exact Nat.le_of_eq length_expansionBlocks
    case isFalse filled =>
      have counter : UInt8.ofNat (count + 1) + 1 = UInt8.ofNat (count + 1 + 1) := by
        rw [UInt8.ofNat_add (count + 1)]
        rfl
      have block : (so.hmacsha256 prk.bytes (expansionBlock so.hmacsha256 prk.bytes info count ++ info ++
          [UInt8.ofNat (count + 1)])).bytes = expansionBlock so.hmacsha256 prk.bytes info (count + 1) := rfl
      have next : expansionBlocks so.hmacsha256 prk.bytes info count ++
          expansionBlock so.hmacsha256 prk.bytes info (count + 1) =
            expansionBlocks so.hmacsha256 prk.bytes info (count + 1) := rfl
      simp only [block, counter]
      rcases Nat.lt_or_ge left 32 with last | further
      · have covered : count * 32 + left ≤ (count + 1) * 32 := by omega
        have inside : (expansionBlocks so.hmacsha256 prk.bytes info count).take (count * 32 + left) =
            expansionBlocks so.hmacsha256 prk.bytes info count := by
          apply List.take_of_length_le
          rw [length_expansionBlocks]
          omega
        rw [Nat.min_eq_left last.le, Nat.sub_self, hkdfRounds_zero, List.append_nil,
          take_expansionBlocks (by omega) covered, ← next, List.take_append, inside, length_expansionBlocks,
          Nat.add_sub_cancel_left]
      · have rest : expansionBlocks so.hmacsha256 prk.bytes info (count + 1) ++ hkdfRounds so prk info fuel (left - 32)
            (expansionBlock so.hmacsha256 prk.bytes info (count + 1)) (UInt8.ofNat (count + 1 + 1)) =
              (expansionBlocks so.hmacsha256 prk.bytes info (count + 1 + fuel)).take ((count + 1) * 32 + (left - 32)) :=
          ih (by omega)
        have length : (expansionBlock so.hmacsha256 prk.bytes info (count + 1)).length ≤ 32 := length_expansionBlock_le
        have position : (count + 1) * 32 + (left - 32) = count * 32 + left := by omega
        rw [Nat.min_eq_right further, List.take_of_length_le length, ← List.append_assoc, next, rest, position,
          Nat.add_right_comm count 1 fuel, Nat.add_assoc]

theorem hkdfExpand_eq (bound : outLen ≤ 255 * 32) :
    expansion so.hmacsha256 prk.bytes info outLen = some (hkdfExpand so outLen prk info) := by
  have rounds : expansionBlocks so.hmacsha256 prk.bytes info 0 ++ hkdfRounds so prk info outLen outLen [] 1 =
      (expansionBlocks so.hmacsha256 prk.bytes info (0 + outLen)).take (0 * 32 + outLen) := hkdfRounds_eq (Nat.le_refl _)
  have covered : outLen ≤ outLen * 32 := Nat.le_mul_of_pos_right outLen (by decide)
  rw [Nat.zero_mul, Nat.zero_add] at rounds
  rw [expansion_eq (by decide) bound covered, ← rounds]
  rfl

theorem expandInto_key (stack : Stack) (key : Block UInt8 32) (short : info.length ≤ 256) (enough : 1 ≤ fuel) :
    expandInto so (fuel + 1) stack key 32 prk info = .ok (hkdfKey so prk info) := by
  have whole : ∃ after bytes, expandInto so (fuel + 1) stack key 32 prk info = .ok after ∧
      expansion so.hmacsha256 prk.bytes info 32 = some bytes ∧ after.bytes = bytes ++ key.bytes.drop 32 :=
    expandInto_eq stack short (by decide) (Nat.le_refl 32) (by omega)
  obtain ⟨after, bytes, run, expanded, written⟩ := whole
  rw [hkdfExpand_eq (by decide)] at expanded
  have behind : key.bytes.drop 32 = [] := List.drop_of_length_le (Nat.le_of_eq key.bytes_length)
  have same : after = hkdfKey so prk info := by
    apply Block.ext
    rw [written, behind, List.append_nil, ← Option.some.inj expanded]
    rfl
  rw [run, same]

theorem deriveKcKeysInto_eq (first second : Stack) (kS2c kC2s sessionKey th : Block UInt8 32) (enough : 1 ≤ fuel) :
    deriveKcKeysInto so (fuel + 1) first second kS2c kC2s sessionKey th = .ok (deriveKcKeys so sessionKey th) := by
  have toClient : (ascii "kc s2c").length ≤ 256 := by decide
  have toServer : (ascii "kc c2s").length ≤ 256 := by decide
  rw [deriveKcKeysInto, expandInto_key first kS2c toClient enough, expandInto_key second kC2s toServer enough]
  rfl

theorem deriveSessionKeyInto_eq (salt : Block UInt8 64) (info : Block UInt8 110) (stack : Stack)
    (key ephSecret ephPeer nonceC nonceS pid ephC ephS : Block UInt8 32) (enough : 1 ≤ fuel) :
    deriveSessionKeyInto so (fuel + 1) salt info stack key ephSecret ephPeer nonceC nonceS pid ephC ephS =
      .ok (deriveSessionKey so ephSecret ephPeer nonceC nonceS pid ephC ephS) := by
  rw [deriveSessionKeyInto, deriveSessionKey]
  cases so.scalarmult ephSecret ephPeer with
  | none => rfl
  | some shared =>
    have nonces : [nonceC.bytes, nonceS.bytes].flatten = nonceC.bytes ++ nonceS.bytes := by
      rw [List.flatten_cons, List.flatten_singleton]
    have parts : [ascii "session key v2", pid.bytes, ephC.bytes, ephS.bytes].flatten =
        ascii "session key v2" ++ pid.bytes ++ ephC.bytes ++ ephS.bytes := by
      simp only [List.flatten_cons, List.flatten_nil, List.append_nil, List.append_assoc]
    have label : (ascii "session key v2").length = 14 := by decide
    have saltSize : [nonceC.bytes, nonceS.bytes].flatten.length = 64 := by
      simp only [nonces, List.length_append, Block.bytes_length]
    have infoSize : [ascii "session key v2", pid.bytes, ephC.bytes, ephS.bytes].flatten.length = 110 := by
      simp only [parts, List.length_append, Block.bytes_length, label]
    obtain ⟨salted, filled, saltBytes⟩ := salt.fill_start saltSize.le
    obtain ⟨named, written, infoBytes⟩ := info.fill_start infoSize.le
    have saltIs : salted.bytes = nonceC.bytes ++ nonceS.bytes := by
      rw [saltBytes, saltSize, List.drop_of_length_le salt.bytes_length.le, List.append_nil, nonces]
    have infoIs : named.bytes.take [ascii "session key v2", pid.bytes, ephC.bytes, ephS.bytes].flatten.length =
        ascii "session key v2" ++ pid.bytes ++ ephC.bytes ++ ephS.bytes := by
      rw [infoBytes, List.take_left, parts]
    have short : (ascii "session key v2" ++ pid.bytes ++ ephC.bytes ++ ephS.bytes).length ≤ 256 := by
      rw [← parts, infoSize]
      decide
    show (orOutside (salt.fill 0 [nonceC.bytes, nonceS.bytes]) >>= fun salted =>
      orOutside (info.fill 0 [ascii "session key v2", pid.bytes, ephC.bytes, ephS.bytes]) >>= fun named =>
        expandInto so (fuel + 1) stack key 32 (hkdfExtract so salted.1.bytes shared.bytes) (named.1.bytes.take named.2) >>=
          fun key => pure (some key)) = _
    rw [orOutside_bind filled, orOutside_bind written, infoIs, saltIs, expandInto_key stack key short enough]
    rfl

end Keys

section SameKeys

variable {S P : Type} [Field S] [AddCommGroup P] [Module S P] {G : Suite UInt8 S P}

theorem hkdfKey_eq (same : so.Matches G) (salt ikm info : List UInt8) :
    hkdfKey so (hkdfExtract so salt ikm) info = G.hkdf salt ikm info := by
  have expanded : expansion so.hmacsha256 (hkdfExtract so salt ikm).bytes info 32 =
      some (hkdfExpand so 32 (hkdfExtract so salt ikm) info) := hkdfExpand_eq (by decide)
  have first : expansion so.hmacsha256 (hkdfExtract so salt ikm).bytes info 32 =
      some ((expansionBlocks so.hmacsha256 (hkdfExtract so salt ikm).bytes info 1).take 32) :=
    expansion_eq (by decide) (by decide) (by decide)
  have block : expansionBlocks so.hmacsha256 (hkdfExtract so salt ikm).bytes info 1 =
      (so.hmacsha256 (hkdfExtract so salt ikm).bytes (info ++ [1])).bytes := rfl
  apply Block.ext
  show hkdfExpand so 32 (hkdfExtract so salt ikm) info = _
  rw [Option.some.inj (expanded.symm.trans first), block, List.take_of_length_le (Block.bytes_length _).le, hkdfExtract,
    same.hmacsha256, same.hmacsha256, same.hkdf]

theorem deriveKcKeys_eq (same : so.Matches G) (sessionKey th : Block UInt8 32) :
    deriveKcKeys so sessionKey th = Server.deriveKcKeys G sessionKey th := by
  rw [deriveKcKeys, Server.deriveKcKeys, hkdfKey_eq same, hkdfKey_eq same, lits_bytes, lits_bytes]

theorem deriveSessionKey_eq (same : so.Matches G) {ephSecret : S} {peer : P} (proper : ephSecret • peer ≠ 0)
    (nonceC nonceS pid : Block UInt8 32) (ephC ephS : P) :
    deriveSessionKey so (G.toBytes ephSecret) (G.compress peer) nonceC nonceS pid (G.compress ephC) (G.compress ephS) =
      some (Server.deriveSessionKey G ephSecret peer nonceC nonceS pid ephC ephS) := by
  have bits : (scalarBits (G.toBytes ephSecret) : S) = ephSecret := same.scalarBits_toBytes ephSecret
  have shared : so.scalarmult (G.toBytes ephSecret) (G.compress peer) = some (G.compress (ephSecret • peer)) := by
    rw [same.scalarmult _ _ (by rwa [bits]), bits]
  rw [deriveSessionKey, shared, Server.deriveSessionKey, lits_bytes]
  show some (hkdfKey so (hkdfExtract so _ _) _) = _
  rw [hkdfKey_eq same]

/-- The loop ends, writes nothing outside of its buffers, and leaves the octets of the expansion in front of what stood behind
    them; after the extraction it is the key derivation of the Rust programs. -/
theorem hkdf_expand_is_rfc5869 (so : Sodium) (G : Suite UInt8 S P) :
    (∀ (size fuel outLen : Nat) (stack : Stack) (out : Block UInt8 size) (prk : Block UInt8 32) (info : List UInt8),
      info.length ≤ 256 → outLen ≤ 255 * 32 → outLen ≤ size → outLen ≤ fuel * 32 →
        ∃ after bytes, expandInto so (fuel + 1) stack out outLen prk info = .ok after ∧
          expansion so.hmacsha256 prk.bytes info outLen = some bytes ∧ after.bytes = bytes ++ out.bytes.drop outLen) ∧
    (so.Matches G →
      (∀ (fuel : Nat) (stack : Stack) (key : Block UInt8 32) (salt ikm info : List UInt8), 1 ≤ fuel → info.length ≤ 256 →
        expandInto so (fuel + 1) stack key 32 (hkdfExtract so salt ikm) info = .ok (G.hkdf salt ikm info)) ∧
      (∀ (fuel : Nat) (first second : Stack) (kS2c kC2s sessionKey th : Block UInt8 32), 1 ≤ fuel →
        deriveKcKeysInto so (fuel + 1) first second kS2c kC2s sessionKey th =
          .ok (Server.deriveKcKeys G sessionKey th)) ∧
      (∀ (fuel : Nat) (salt : Block UInt8 64) (info : Block UInt8 110) (stack : Stack) (key nonceC nonceS pid : Block UInt8 32)
        (ephSecret : S) (peer ephC ephS : P), 1 ≤ fuel → ephSecret • peer ≠ 0 →
          deriveSessionKeyInto so (fuel + 1) salt info stack key (G.toBytes ephSecret) (G.compress peer) nonceC nonceS pid
              (G.compress ephC) (G.compress ephS) =
            .ok (some (Server.deriveSessionKey G ephSecret peer nonceC nonceS pid ephC ephS)))) := by
  refine ⟨fun size fuel outLen stack out prk info short bound fits enough => expandInto_eq stack short bound fits enough,
    fun same => ⟨?_, ?_, ?_⟩⟩
  · intro fuel stack key salt ikm info enough short
    rw [expandInto_key stack key short enough, hkdfKey_eq same]
  · intro fuel first second kS2c kC2s sessionKey th enough
    rw [deriveKcKeysInto_eq first second kS2c kC2s sessionKey th enough, deriveKcKeys_eq same]
  · intro fuel salt info stack key nonceC nonceS pid ephSecret peer ephC ephS enough proper
    rw [deriveSessionKeyInto_eq salt info stack key _ _ nonceC nonceS pid _ _ enough, deriveSessionKey_eq same proper]

theorem length_clearedBuf : (List.replicate 289 (0 : UInt8)).length = 289 := List.length_replicate

def clearedStack : Stack := ⟨Suite.untouched, ⟨List.replicate 289 0, length_clearedBuf⟩⟩

def clearedOut : Block UInt8 96 := ⟨List.replicate 96 0, List.length_replicate⟩

/-- Two blocks and half of a third one in front of the last sixteen octets of a buffer, and both confirmation keys, in the
    suite of five points. -/
theorem hkdf_expand_is_rfc5869_eighty :
    (∃ after bytes, expandInto oneSuite.sodium 4 clearedStack clearedOut 80 Suite.untouched [7] = .ok after ∧
      expansion oneSuite.sodium.hmacsha256 Suite.untouched.bytes [7] 80 = some bytes ∧
        after.bytes = bytes ++ clearedOut.bytes.drop 80) ∧
    deriveKcKeysInto oneSuite.sodium 2 clearedStack clearedStack Suite.untouched Suite.untouched Suite.untouched
        Suite.untouched =
      .ok (Server.deriveKcKeys oneSuite Suite.untouched Suite.untouched) :=
  ⟨(hkdf_expand_is_rfc5869 oneSuite.sodium oneSuite).1 96 3 80 clearedStack clearedOut Suite.untouched [7] (by decide)
      (by decide) (by decide) (by decide),
    ((hkdf_expand_is_rfc5869 oneSuite.sodium oneSuite).2 oneSuite_matches).2.1 1 clearedStack clearedStack Suite.untouched
      Suite.untouched Suite.untouched Suite.untouched (Nat.le_refl 1)⟩

end SameKeys

end ZkArche.CImpl
