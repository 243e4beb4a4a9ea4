import Mathlib.Algebra.Group.Nat.Defs
import Mathlib.Tactic.Common

/-!
The addresses that a download never connects to. An IPv4 address can be written
as an IPv6 address in several ways; the check looks through one of them.
-/
namespace Sooqa.Media

section Addresses

structure Ipv4Addr where
  bits : BitVec 32
  deriving DecidableEq, Repr

structure Ipv6Addr where
  bits : BitVec 128
  deriving DecidableEq, Repr

inductive IpAddr where
  | v4 (ip : Ipv4Addr)
  | v6 (ip : Ipv6Addr)
  deriving DecidableEq, Repr

def Ipv4Addr.new (a b c d : BitVec 8) : Ipv4Addr := ⟨a ++ b ++ c ++ d⟩

/-- The octets from the left, the first being `octet 0`. -/
def Ipv4Addr.octet (ip : Ipv4Addr) (index : Fin 4) : BitVec 8 :=
  ip.bits.extractLsb' (24 - 8 * index) 8

def Ipv6Addr.segment (ip : Ipv6Addr) (index : Fin 8) : BitVec 16 :=
  ip.bits.extractLsb' (112 - 16 * index) 16

def Ipv6Addr.isUnspecified (ip : Ipv6Addr) : Bool := ip.bits == 0
def Ipv6Addr.isLoopback (ip : Ipv6Addr) : Bool := ip.bits == 1
def Ipv6Addr.isMulticast (ip : Ipv6Addr) : Bool := ip.segment 0 &&& 0xff00 == 0xff00

end Addresses

section Blocking

def isBlockedIpv4 (ip : Ipv4Addr) : Bool :=
  let a := ip.octet 0
  let b := ip.octet 1
  let c := ip.octet 2
  a == 0
    || a == 10
    || (a == 100 && (64 ≤ b && b ≤ 127))
    || a == 127
    || (a == 169 && b == 254)
    || (a == 172 && (16 ≤ b && b ≤ 31))
    || (a == 192 && b == 0)
    || (a == 192 && b == 168)
    || (a == 198 && (18 ≤ b && b ≤ 19))
    || (a == 198 && b == 51 && c == 100)
    || (a == 203 && b == 0 && c == 113)
    || a ≥ 224

def isBlockedIpv6 (ip : Ipv6Addr) : Bool :=
  if ip.isUnspecified || ip.isLoopback || ip.isMulticast then true
  else if (ip.segment 0 &&& 0xfe00) == 0xfc00
      || (ip.segment 0 &&& 0xffc0) == 0xfe80
      || (ip.segment 0 &&& 0xffc0) == 0xfec0
      || (ip.segment 0 == 0x2001 && ip.segment 1 == 0x0db8) then true
  else if [0, 1, 2, 3, 4].all (fun index => ip.segment index == 0) && ip.segment 5 == 0xffff then
    isBlockedIpv4 (.new ((ip.segment 6 >>> 8).setWidth 8) ((ip.segment 6).setWidth 8)
      ((ip.segment 7 >>> 8).setWidth 8) ((ip.segment 7).setWidth 8))
  else false

def isBlockedIp : IpAddr → Bool
  | .v4 ip => isBlockedIpv4 ip
  | .v6 ip => isBlockedIpv6 ip

end Blocking

section Formats

/-- The address starts with these bits. -/
def Ipv6Addr.StartsWith {n : Nat} (ip : Ipv6Addr) (start : BitVec n) : Prop :=
  ip.bits.extractLsb' (128 - n) n = start

/-- The ways in which an IPv6 address stands for an IPv4 address. -/
inductive Embedding where
  | mapped | compatible | nat64 | sixToFour
  deriving DecidableEq, Repr

/-- The address stands for this IPv4 address. -/
def Embedding.Routes (ip : Ipv6Addr) (target : Ipv4Addr) : Embedding → Prop
  | .mapped => ip.bits = 0xffff#96 ++ target.bits
  | .compatible => ip.bits = 0#96 ++ target.bits
  | .nat64 => ip.bits = 0x0064ff9b0000000000000000#96 ++ target.bits
  | .sixToFour => ∃ suffix : BitVec 80, ip.bits = 0x2002#16 ++ target.bits ++ suffix

/-- The addresses that are set apart. Two blocks are for documentation. -/
inductive Ipv6Addr.Special (ip : Ipv6Addr) : Prop where
  | unspecified (same : ip.bits = 0)
  | loopback (same : ip.bits = 1)
  | multicast (start : ip.StartsWith 0xff#8)
  | uniqueLocal (start : ip.StartsWith 0b1111110#7)
  | linkLocal (start : ip.StartsWith 0b1111111010#10)
  | siteLocal (start : ip.StartsWith 0b1111111011#10)
  | documentation (start : ip.StartsWith 0x20010db8#32 ∨ ip.StartsWith 0x3fff0#20)

end Formats

section Numbers
variable {ip : Ipv6Addr} {target : Ipv4Addr} {m n : Nat}

theorem toNat_append_add (x : BitVec m) (y : BitVec n) :
    (x ++ y).toNat = x.toNat * 2 ^ n + y.toNat := by
  rw [BitVec.toNat_append, ← Nat.shiftLeft_add_eq_or_of_lt y.isLt, Nat.shiftLeft_eq]

theorem toNat_extract (x : BitVec m) (start len : Nat) :
    (x.extractLsb' start len).toNat = x.toNat / 2 ^ start % 2 ^ len := by
  rw [BitVec.extractLsb'_toNat, Nat.shiftRight_eq_div_pow]

/-- The first bits of an address are a quotient. -/
theorem startsWith_iff (short : n ≤ 128) (start : BitVec n) :
    ip.StartsWith start ↔ ip.bits.toNat / 2 ^ (128 - n) = start.toNat := by
  have bound : ip.bits.toNat / 2 ^ (128 - n) < 2 ^ n := by
    apply Nat.div_lt_of_lt_mul
    rw [← Nat.pow_add, Nat.sub_add_cancel short]
    exact ip.bits.isLt
  rw [Ipv6Addr.StartsWith, ← BitVec.toNat_inj, toNat_extract, Nat.mod_eq_of_lt bound]

theorem segment_toNat (index : Fin 8) {place : Nat} (placed : 112 - 16 * index.val = place) :
    (ip.segment index).toNat = ip.bits.toNat / 2 ^ place % 2 ^ 16 := by
  subst placed
  exact toNat_extract ip.bits _ 16

/-- A mask of the highest bits compares the quotient by the others. -/
theorem mask_eq_iff (s : BitVec 16) (k : Nat) (v : BitVec 16) (fits : v.toNat * 2 ^ k < 2 ^ 16) :
    s &&& BitVec.allOnes 16 <<< k = v <<< k ↔ s.toNat / 2 ^ k = v.toNat := by
  have kept : s.toNat / 2 ^ k * 2 ^ k < 2 ^ 16 :=
    Nat.lt_of_le_of_lt (Nat.div_mul_le_self _ _) s.isLt
  rw [← BitVec.shiftLeft_ushiftRight, ← BitVec.toNat_inj, BitVec.toNat_shiftLeft,
    BitVec.toNat_ushiftRight, BitVec.toNat_shiftLeft, Nat.shiftRight_eq_div_pow, Nat.shiftLeft_eq,
    Nat.shiftLeft_eq, Nat.mod_eq_of_lt kept, Nat.mod_eq_of_lt fits]
  exact Nat.mul_left_inj (Nat.ne_of_gt (Nat.two_pow_pos k))

/-- Equal bits are equal numbers. -/
theorem bits_eq_iff (bits : BitVec 128) : ip.bits = bits ↔ ip.bits.toNat = bits.toNat :=
  BitVec.toNat_inj.symm

theorem routes_mapped :
    Embedding.mapped.Routes ip target ↔ ip.bits.toNat = 0xffff * 2 ^ 32 + target.bits.toNat := by
  rw [Embedding.Routes, bits_eq_iff, toNat_append_add]
  rfl

theorem routes_compatible :
    Embedding.compatible.Routes ip target ↔ ip.bits.toNat = target.bits.toNat := by
  rw [Embedding.Routes, bits_eq_iff, toNat_append_add]
  simp

theorem routes_nat64 :
    Embedding.nat64.Routes ip target ↔
      ip.bits.toNat = 0x64ff9b * 2 ^ 96 + target.bits.toNat := by
  rw [Embedding.Routes, bits_eq_iff, toNat_append_add]
  rfl

theorem routes_sixToFour (routes : Embedding.sixToFour.Routes ip target) :
    ip.bits.toNat / 2 ^ 112 = 0x2002 := by
  obtain ⟨suffix, same⟩ := routes
  rw [bits_eq_iff, toNat_append_add, toNat_append_add] at same
  have := target.bits.isLt
  have := suffix.isLt
  have start : (0x2002#16).toNat = 0x2002 := rfl
  omega

/-- The blocks that the check knows, by their numbers. -/
structure Listed (number : Nat) : Prop where
  block : number = 0 ∨ number = 1 ∨ number / 2 ^ 120 = 0xff ∨ number / 2 ^ 121 = 0b1111110 ∨
    number / 2 ^ 118 = 0b1111111010 ∨ number / 2 ^ 118 = 0b1111111011 ∨
    number / 2 ^ 96 = 0x20010db8

theorem special_iff :
    ip.Special ↔ Listed ip.bits.toNat ∨ ip.bits.toNat / 2 ^ 108 = 0x3fff0 := by
  constructor
  · rintro (same | same | start | start | start | start | start | start)
    · exact .inl ⟨.inl ((bits_eq_iff _).mp same)⟩
    · exact .inl ⟨.inr (.inl ((bits_eq_iff _).mp same))⟩
    · exact .inl ⟨.inr (.inr (.inl ((startsWith_iff (by decide) _).mp start)))⟩
    · exact .inl ⟨.inr (.inr (.inr (.inl ((startsWith_iff (by decide) _).mp start))))⟩
    · exact .inl ⟨.inr (.inr (.inr (.inr (.inl ((startsWith_iff (by decide) _).mp start)))))⟩
    · exact .inl ⟨.inr (.inr (.inr (.inr (.inr (.inl
        ((startsWith_iff (by decide) _).mp start))))))⟩
    · exact .inl ⟨.inr (.inr (.inr (.inr (.inr (.inr
        ((startsWith_iff (by decide) _).mp start))))))⟩
    · exact .inr ((startsWith_iff (by decide) _).mp start)
  · rintro (⟨same | same | start | start | start | start | start⟩ | start)
    · exact .unspecified ((bits_eq_iff _).mpr same)
    · exact .loopback ((bits_eq_iff _).mpr same)
    · exact .multicast ((startsWith_iff (by decide) _).mpr start)
    · exact .uniqueLocal ((startsWith_iff (by decide) _).mpr start)
    · exact .linkLocal ((startsWith_iff (by decide) _).mpr start)
    · exact .siteLocal ((startsWith_iff (by decide) _).mpr start)
    · exact .documentation (.inl ((startsWith_iff (by decide) _).mpr start))
    · exact .documentation (.inr ((startsWith_iff (by decide) _).mpr start))

/-- The first segment alone tells its highest bits. -/
theorem segment_div (k : Nat) :
    (ip.segment 0).toNat / 2 ^ k = ip.bits.toNat / 2 ^ (112 + k) := by
  have whole : ip.bits.toNat / 2 ^ 112 < 2 ^ 16 := by
    have := ip.bits.isLt
    omega
  rw [@segment_toNat ip 0 112 rfl, Nat.mod_eq_of_lt whole, Nat.div_div_eq_div_mul, Nat.pow_add]

theorem segment_mask_iff (k : Nat) (v : BitVec 16) (fits : v.toNat * 2 ^ k < 2 ^ 16) :
    ip.segment 0 &&& BitVec.allOnes 16 <<< k = v <<< k ↔
      ip.bits.toNat / 2 ^ (112 + k) = v.toNat := by
  rw [mask_eq_iff _ k v fits, segment_div k]

theorem isMulticast_iff : ip.isMulticast = true ↔ ip.bits.toNat / 2 ^ 120 = 0xff :=
  beq_iff_eq.trans (segment_mask_iff 8 0xff#16 (by decide))

/-- The check for a listed block passes exactly where the number is in one. -/
theorem listed_iff :
    ((ip.isUnspecified || ip.isLoopback || ip.isMulticast) = true ∨
      (ip.segment 0 &&& 0xfe00 == 0xfc00
        || ip.segment 0 &&& 0xffc0 == 0xfe80
        || ip.segment 0 &&& 0xffc0 == 0xfec0
        || (ip.segment 0 == 0x2001 && ip.segment 1 == 0x0db8)) = true) ↔
      Listed ip.bits.toNat := by
  have unique : ip.segment 0 &&& 0xfe00 = 0xfc00 ↔ ip.bits.toNat / 2 ^ 121 = 0b1111110 :=
    segment_mask_iff 9 0b1111110#16 (by decide)
  have link : ip.segment 0 &&& 0xffc0 = 0xfe80 ↔ ip.bits.toNat / 2 ^ 118 = 0b1111111010 :=
    segment_mask_iff 6 0b1111111010#16 (by decide)
  have site : ip.segment 0 &&& 0xffc0 = 0xfec0 ↔ ip.bits.toNat / 2 ^ 118 = 0b1111111011 :=
    segment_mask_iff 6 0b1111111011#16 (by decide)
  have unspecified : ip.bits = 0 ↔ ip.bits.toNat = 0 := bits_eq_iff 0
  have loopback : ip.bits = 1 ↔ ip.bits.toNat = 1 := bits_eq_iff 1
  have documentation : (ip.segment 0 = 0x2001 ∧ ip.segment 1 = 0x0db8) ↔
      ip.bits.toNat / 2 ^ 96 = 0x20010db8 := by
    have := ip.bits.isLt
    rw [← BitVec.toNat_inj, ← BitVec.toNat_inj, @segment_toNat ip 0 112 rfl,
      @segment_toNat ip 1 96 rfl]
    have high : (0x2001 : BitVec 16).toNat = 0x2001 := rfl
    have low : (0x0db8 : BitVec 16).toNat = 0x0db8 := rfl
    omega
  simp only [Bool.or_eq_true, Bool.and_eq_true, beq_iff_eq, Ipv6Addr.isUnspecified,
    Ipv6Addr.isLoopback, isMulticast_iff, unique, link, site, unspecified, loopback,
    documentation]
  constructor
  · exact fun block => ⟨by omega⟩
  · rintro ⟨block⟩
    omega

/-- The address that the check reads from the last two segments. -/
def Ipv6Addr.lowest (ip : Ipv6Addr) : Ipv4Addr :=
  .new ((ip.segment 6 >>> 8).setWidth 8) ((ip.segment 6).setWidth 8)
    ((ip.segment 7 >>> 8).setWidth 8) ((ip.segment 7).setWidth 8)

theorem lowest_toNat : ip.lowest.bits.toNat = ip.bits.toNat % 2 ^ 32 := by
  rw [Ipv6Addr.lowest, Ipv4Addr.new]
  dsimp only
  rw [toNat_append_add, toNat_append_add, toNat_append_add]
  simp only [BitVec.toNat_setWidth, BitVec.toNat_ushiftRight, Nat.shiftRight_eq_div_pow]
  rw [@segment_toNat ip 6 16 rfl, @segment_toNat ip 7 0 rfl]
  omega

/-- The check for a mapped address passes exactly where one is read. -/
theorem mapped_iff :
    ([0, 1, 2, 3, 4].all (fun index => ip.segment index == 0) && ip.segment 5 == 0xffff) = true ↔
      ip.bits.toNat / 2 ^ 32 = 0xffff := by
  have := ip.bits.isLt
  simp only [List.all_cons, List.all_nil, Bool.and_eq_true, beq_iff_eq, ← BitVec.toNat_inj,
    Bool.and_true]
  rw [@segment_toNat ip 0 112 rfl, @segment_toNat ip 1 96 rfl, @segment_toNat ip 2 80 rfl,
    @segment_toNat ip 3 64 rfl, @segment_toNat ip 4 48 rfl, @segment_toNat ip 5 32 rfl]
  have zero : (0 : BitVec 16).toNat = 0 := rfl
  have ones : (0xffff : BitVec 16).toNat = 0xffff := rfl
  omega

theorem routes_mapped_lowest :
    Embedding.mapped.Routes ip target ↔ ip.bits.toNat / 2 ^ 32 = 0xffff ∧ target = ip.lowest := by
  have same : target = ip.lowest ↔ target.bits.toNat = ip.lowest.bits.toNat := by
    rw [BitVec.toNat_inj]
    constructor
    · rintro rfl
      rfl
    · intro bits
      cases target
      exact congrArg Ipv4Addr.mk bits
  have := target.bits.isLt
  rw [routes_mapped, same, lowest_toNat]
  omega

/-- What the check blocks: the listed blocks, and the mapped addresses whose
    IPv4 address is blocked. -/
theorem isBlockedIpv6_iff :
    isBlockedIpv6 ip = true ↔ Listed ip.bits.toNat ∨
      ∃ target, Embedding.mapped.Routes ip target ∧ isBlockedIpv4 target = true := by
  have routed : (∃ target, Embedding.mapped.Routes ip target ∧ isBlockedIpv4 target = true) ↔
      ip.bits.toNat / 2 ^ 32 = 0xffff ∧ isBlockedIpv4 ip.lowest = true := by
    simp only [routes_mapped_lowest, and_assoc, exists_and_left, exists_eq_left]
  rw [routed, ← listed_iff, ← mapped_iff, isBlockedIpv6]
  split
  · rename_i first
    exact iff_of_true rfl (.inl (.inl first))
  · split
    · rename_i first second
      exact iff_of_true rfl (.inl (.inr second))
    · split
      · rename_i first second third
        simp only [first, second, third, or_self, true_and, Bool.false_eq_true, false_or]
        exact Iff.rfl
      · rename_i first second third
        simp only [first, second, third, false_and, or_self, Bool.false_eq_true]

/-- An IPv4 address that the check does not look for in the address. -/
def Hides (ip : Ipv6Addr) (target : Ipv4Addr) : Prop :=
  (Embedding.nat64.Routes ip target ∨ Embedding.sixToFour.Routes ip target) ∨
    Embedding.compatible.Routes ip target ∧ ip.bits ≠ 0 ∧ ip.bits ≠ 1

/-- No address that hides another one is blocked. -/
theorem Hides.passes (hides : Hides ip target) : isBlockedIpv6 ip = false := by
  rw [Bool.eq_false_iff, ne_eq, isBlockedIpv6_iff]
  have := target.bits.isLt
  have number : ip.bits.toNat / 2 ^ 96 = 0x64ff9b ∨ ip.bits.toNat / 2 ^ 112 = 0x2002 ∨
      (ip.bits.toNat < 2 ^ 32 ∧ ip.bits.toNat ≠ 0 ∧ ip.bits.toNat ≠ 1) := by
    rcases hides with (nat64 | sixToFour) | ⟨compatible, some_bits, more_bits⟩
    · have := routes_nat64.mp nat64
      omega
    · exact .inr (.inl (routes_sixToFour sixToFour))
    · have := routes_compatible.mp compatible
      have nonzero : ip.bits.toNat ≠ 0 := mt (bits_eq_iff 0).mpr some_bits
      have more : ip.bits.toNat ≠ 1 := mt (bits_eq_iff 1).mpr more_bits
      exact .inr (.inr ⟨by omega, nonzero, more⟩)
  rintro (listed | ⟨other, mapped, _⟩)
  · have block := listed.block
    omega
  · have := other.bits.isLt
    have := routes_mapped.mp mapped
    omega

/-- Where an address stands for an IPv4 address, the check finds it or not. -/
theorem routes_cases {way : Embedding} (routes : way.Routes ip target) :
    Hides ip target ∨ ip.bits = 0 ∨ ip.bits = 1 ∨ Embedding.mapped.Routes ip target := by
  cases way with
  | mapped => exact .inr (.inr (.inr routes))
  | nat64 => exact .inl (.inl (.inl routes))
  | sixToFour => exact .inl (.inl (.inr routes))
  | compatible =>
    by_cases none_set : ip.bits = 0
    · exact .inr (.inl none_set)
    · by_cases one_set : ip.bits = 1
      · exact .inr (.inr (.inl one_set))
      · exact .inl (.inr ⟨routes, none_set, one_set⟩)

theorem documentation_passes (start : ip.StartsWith 0x3fff0#20) : isBlockedIpv6 ip = false := by
  have number : ip.bits.toNat / 2 ^ 108 = 0x3fff0 := (startsWith_iff (by decide) _).mp start
  rw [Bool.eq_false_iff, ne_eq, isBlockedIpv6_iff]
  rintro (listed | ⟨other, mapped, _⟩)
  · have block := listed.block
    omega
  · have := other.bits.isLt
    have := routes_mapped.mp mapped
    omega

end Numbers

section Claim

/-- The check blocks an address for what it stands for exactly where it hides no
    blocked IPv4 address and is not in the second block for documentation. -/
theorem embedded_address_blocked_iff (ip : Ipv6Addr) :
    ((∀ target, isBlockedIpv4 target = true → ∀ way : Embedding, way.Routes ip target →
          isBlockedIp (.v6 ip) = true) ∧
        (ip.Special → isBlockedIp (.v6 ip) = true)) ↔
      (∀ target, isBlockedIpv4 target = true → ¬ Hides ip target) ∧
        ¬ ip.StartsWith 0x3fff0#20 := by
  constructor
  · rintro ⟨embedded, special⟩
    constructor
    · intro target blocked hides
      have passes := hides.passes
      rcases hides with (routes | routes) | ⟨routes, _, _⟩
      all_goals exact absurd ((embedded target blocked _ routes).symm.trans passes) nofun
    · intro start
      have blocked := special (.documentation (.inr start))
      exact absurd (blocked.symm.trans (documentation_passes start)) nofun
  · rintro ⟨shown, outside⟩
    have listed : Listed ip.bits.toNat → isBlockedIp (.v6 ip) = true :=
      fun listed => isBlockedIpv6_iff.mpr (.inl listed)
    constructor
    · intro target blocked way routes
      rcases routes_cases routes with hides | none_set | one_set | mapped
      · exact absurd hides (shown target blocked)
      · exact listed ⟨.inl ((bits_eq_iff 0).mp none_set)⟩
      · exact listed ⟨.inr (.inl ((bits_eq_iff 1).mp one_set))⟩
      · exact isBlockedIpv6_iff.mpr (.inr ⟨target, mapped, blocked⟩)
    · intro special
      rcases special_iff.mp special with block | second
      · exact listed block
      · exact absurd ((startsWith_iff (by decide) _).mpr second) outside

/-- A private host behind a translating gateway. -/
theorem translated_private_host_passes : ¬ ∀ target, isBlockedIpv4 target = true →
    ∀ (ip : Ipv6Addr) (way : Embedding), way.Routes ip target →
      isBlockedIp (.v6 ip) = true := by
  intro claim
  have blocked := claim (.new 10 0 0 1) (by decide) ⟨0x0064ff9b00000000000000000a000001⟩ .nat64
    (by rfl)
  exact absurd blocked (by decide +kernel)

end Claim

end Sooqa.Media
