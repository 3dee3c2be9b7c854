import ZkArche.Benchmarks.PythonText

namespace ZkArche.Mininet

open Foundation Python

inductive IpAddr where
  | v4 (first second third fourth : UInt8)
  | v6 (segments : Fin 8 → UInt16)

def hexadecimal (number : Nat) : List Char := Nat.toDigits 16 number

def ipv4Text (first second third fourth : Nat) : List Char :=
  decimal first ++ '.' :: (decimal second ++ '.' :: (decimal third ++ '.' :: decimal fourth))

structure Span where
  start : Nat
  len : Nat

/-- The first of the longest runs of zeros; `current` is the run that ends in front of the segments. -/
def longestZeros : List Nat → Nat → Span → Span → Span
  | [], _, _, longest => longest
  | segment :: segments, index, current, longest =>
    if segment = 0 then
      let grown : Span := ⟨if current.len = 0 then index else current.start, current.len + 1⟩
      longestZeros segments (index + 1) grown (if longest.len < grown.len then grown else longest)
    else longestZeros segments (index + 1) ⟨0, 0⟩ longest

def fmtSubslice : List Nat → List Char
  | [] => []
  | [segment] => hexadecimal segment
  | segment :: segments => hexadecimal segment ++ ':' :: fmtSubslice segments

def fmtZeroes (segments : List Nat) (zeroes : Span) : List Char :=
  if 1 < zeroes.len then
    fmtSubslice (segments.take zeroes.start) ++ ("::".toList ++ fmtSubslice (segments.drop (zeroes.start + zeroes.len)))
  else fmtSubslice segments

def ipv6Text (segments : List Nat) : List Char :=
  if segments.take 6 = [0, 0, 0, 0, 0, 0xffff] then
    let high := segments.getD 6 0
    let low := segments.getD 7 0
    "::ffff:".toList ++ ipv4Text (high / 256) (high % 256) (low / 256) (low % 256)
  else fmtZeroes segments (longestZeros segments 0 ⟨0, 0⟩ ⟨0, 0⟩)

/-- `{}` of an address. -/
def IpAddr.text : IpAddr → List Char
  | .v4 first second third fourth => ipv4Text first.toNat second.toNat third.toNat fourth.toNat
  | .v6 segments => ipv6Text ((List.ofFn segments).map UInt16.toNat)

structure SocketAddr where
  ip : IpAddr
  port : UInt16
  scopeId : UInt32

/-- `{:?}` of a socket address, which is `{}`. -/
def SocketAddr.text (addr : SocketAddr) : List Char :=
  match addr.ip with
  | .v4 _ _ _ _ => addr.ip.text ++ ':' :: decimal addr.port.toNat
  | .v6 _ =>
    '[' :: (addr.ip.text ++ (if addr.scopeId = 0 then [] else '%' :: decimal addr.scopeId.toNat)) ++
      ("]:".toList ++ decimal addr.port.toNat)

def peerText : Option SocketAddr → List Char
  | none => "None".toList
  | some addr => "Some(".toList ++ (addr.text ++ ")".toList)

def isAddressChar (char : Char) : Bool := char.isDigit || "abcdef.:[]%".toList.contains char

def AddressText (text : List Char) : Prop := ∀ char ∈ text, isAddressChar char = true

variable {front back : List Char} {char : Char}

theorem addressText_nil : AddressText [] := fun _ member => absurd member List.not_mem_nil

theorem AddressText.append (first : AddressText front) (second : AddressText back) : AddressText (front ++ back) := by
  intro char member
  rcases List.mem_append.mp member with member | member
  · exact first char member
  · exact second char member

theorem AddressText.cons (allowed : isAddressChar char = true) (rest : AddressText back) : AddressText (char :: back) := by
  intro other member
  rcases List.mem_cons.mp member with rfl | member
  · exact allowed
  · exact rest other member

theorem addressText_decimal (number : Nat) : AddressText (decimal number) := fun char member => by
  rw [isAddressChar, isDigit_decimal char member, Bool.true_or]

theorem isAddressChar_digitChar {digit : Nat} (small : digit < 16) : isAddressChar (Nat.digitChar digit) = true := by
  decide +revert

theorem addressText_hexadecimal (number : Nat) : AddressText (hexadecimal number) := by
  induction number using Nat.strongRecOn with
  | ind number ih =>
    by_cases small : number < 16
    case pos =>
      rw [hexadecimal, Nat.toDigits_of_lt_base small]
      exact (addressText_nil).cons (isAddressChar_digitChar small)
    case neg =>
      have large : 16 ≤ number := Nat.le_of_not_lt small
      rw [hexadecimal, Nat.toDigits_of_base_le (by decide) large]
      refine (ih (number / 16) (Nat.div_lt_self (by omega) (by decide))).append ?_
      exact addressText_nil.cons (isAddressChar_digitChar (Nat.mod_lt _ (by decide)))

theorem addressText_ipv4 (first second third fourth : Nat) : AddressText (ipv4Text first second third fourth) := by
  have point : isAddressChar '.' = true := by decide
  exact (addressText_decimal first).append (.cons point ((addressText_decimal second).append
    (.cons point ((addressText_decimal third).append (.cons point (addressText_decimal fourth))))))

theorem addressText_subslice (segments : List Nat) : AddressText (fmtSubslice segments) := by
  fun_induction fmtSubslice segments with
  | case1 => exact addressText_nil
  | case2 segment => exact addressText_hexadecimal segment
  | case3 segment segments _ ih => exact (addressText_hexadecimal segment).append (.cons (by decide) ih)

theorem addressText_zeroes (segments : List Nat) (zeroes : Span) : AddressText (fmtZeroes segments zeroes) := by
  have gap : AddressText "::".toList := every (by decide)
  unfold fmtZeroes
  split
  case isTrue => exact (addressText_subslice _).append (gap.append (addressText_subslice _))
  case isFalse => exact addressText_subslice _

theorem addressText_ip (ip : IpAddr) : AddressText ip.text := by
  cases ip with
  | v4 first second third fourth => exact addressText_ipv4 _ _ _ _
  | v6 segments =>
    have mapped : AddressText "::ffff:".toList := every (by decide)
    show AddressText (ipv6Text _)
    unfold ipv6Text
    split
    case isTrue => exact mapped.append (addressText_ipv4 _ _ _ _)
    case isFalse => exact addressText_zeroes _ _

theorem addressText_socket (addr : SocketAddr) : AddressText addr.text := by
  have close : AddressText "]:".toList := every (by decide)
  have scope : AddressText (if addr.scopeId = 0 then [] else '%' :: decimal addr.scopeId.toNat) := by
    split
    case isTrue => exact addressText_nil
    case isFalse => exact .cons (by decide) (addressText_decimal _)
  unfold SocketAddr.text
  split
  case h_1 => exact (addressText_ip _).append (.cons (by decide) (addressText_decimal _))
  case h_2 =>
    exact AddressText.append (.cons (by decide) ((addressText_ip _).append scope)) (close.append (addressText_decimal _))

end ZkArche.Mininet
