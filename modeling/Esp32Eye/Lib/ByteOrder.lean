import Mathlib.Data.Nat.Basic

/-!
# Byte order on a little-endian host

A word is stored least significant byte first, so reading four received bytes through a
`uint32_t*` and swapping the result is how a big-endian field is decoded. The three operations
here are the host's own (`leWord32` is the load, `leBytes32`/`leBytes16` the store, `bswap32`
and `bswap16` what `ntohl`, `htonl` and `htons` do on such a host), and `beWord32` is the reading
the network prescribes. `bswap32_leWord32` relates them for a word that is received, and
`leBytes32_bswap32`, `leBytes16_bswap16` for one that is sent: its bytes are the network's.
-/

namespace Esp32Eye
namespace Lib

/-- The word in memory at four consecutive bytes, lowest address first. -/
def leWord32 (b₀ b₁ b₂ b₃ : UInt8) : UInt32 :=
  UInt32.ofNat (b₀.toNat + 256 * b₁.toNat + 65536 * b₂.toNat + 16777216 * b₃.toNat)

/-- The number four bytes denote in network byte order. -/
def beWord32 (b₀ b₁ b₂ b₃ : UInt8) : UInt32 :=
  UInt32.ofNat (16777216 * b₀.toNat + 65536 * b₁.toNat + 256 * b₂.toNat + b₃.toNat)

/-- The number two bytes denote in network byte order. -/
def beWord16 (b₀ b₁ : UInt8) : UInt16 := UInt16.ofNat (256 * b₀.toNat + b₁.toNat)

/-- The four bytes a word is stored as. -/
def leBytes32 (x : UInt32) : List UInt8 :=
  [UInt8.ofNat x.toNat, UInt8.ofNat (x.toNat / 256), UInt8.ofNat (x.toNat / 65536),
    UInt8.ofNat (x.toNat / 16777216)]

/-- The two bytes a half word is stored as. -/
def leBytes16 (x : UInt16) : List UInt8 :=
  [UInt8.ofNat x.toNat, UInt8.ofNat (x.toNat / 256)]

/-- `htonl`, `ntohl`. -/
def bswap32 (x : UInt32) : UInt32 :=
  UInt32.ofNat (16777216 * (x.toNat % 256) + 65536 * (x.toNat / 256 % 256)
    + 256 * (x.toNat / 65536 % 256) + x.toNat / 16777216)

/-- `htons`. -/
def bswap16 (x : UInt16) : UInt16 :=
  UInt16.ofNat (256 * (x.toNat % 256) + x.toNat / 256)

/-- The bytes of a word in network byte order. -/
def beBytes32 (x : UInt32) : List UInt8 :=
  [UInt8.ofNat (x.toNat / 16777216), UInt8.ofNat (x.toNat / 65536), UInt8.ofNat (x.toNat / 256),
    UInt8.ofNat x.toNat]

def beBytes16 (x : UInt16) : List UInt8 :=
  [UInt8.ofNat (x.toNat / 256), UInt8.ofNat x.toNat]

/-- Loading four bytes and swapping reads them in network order. -/
theorem bswap32_leWord32 (b₀ b₁ b₂ b₃ : UInt8) :
    bswap32 (leWord32 b₀ b₁ b₂ b₃) = beWord32 b₀ b₁ b₂ b₃ := by
  have h₀ := b₀.toNat_lt
  have h₁ := b₁.toNat_lt
  have h₂ := b₂.toNat_lt
  have h₃ := b₃.toNat_lt
  have hle : (leWord32 b₀ b₁ b₂ b₃).toNat
      = b₀.toNat + 256 * b₁.toNat + 65536 * b₂.toNat + 16777216 * b₃.toNat := by
    unfold leWord32
    rw [UInt32.toNat_ofNat']
    omega
  unfold bswap32 beWord32
  rw [hle]
  congr 1
  omega

/-- A network-order word names its bytes. -/
theorem beWord32_inj {a₀ a₁ a₂ a₃ b₀ b₁ b₂ b₃ : UInt8} :
    beWord32 a₀ a₁ a₂ a₃ = beWord32 b₀ b₁ b₂ b₃ ↔ a₀ = b₀ ∧ a₁ = b₁ ∧ a₂ = b₂ ∧ a₃ = b₃ := by
  constructor
  · intro h
    have := congrArg UInt32.toNat h
    unfold beWord32 at this
    rw [UInt32.toNat_ofNat', UInt32.toNat_ofNat'] at this
    have := a₀.toNat_lt; have := a₁.toNat_lt; have := a₂.toNat_lt; have := a₃.toNat_lt
    have := b₀.toNat_lt; have := b₁.toNat_lt; have := b₂.toNat_lt; have := b₃.toNat_lt
    refine ⟨?_, ?_, ?_, ?_⟩ <;> apply UInt8.toNat_inj.mp <;> omega
  · rintro ⟨rfl, rfl, rfl, rfl⟩
    rfl

/-! ## Words that are sent -/

theorem ofNat_congr {m n : ℕ} (h : m % 256 = n % 256) : UInt8.ofNat m = UInt8.ofNat n := by
  apply UInt8.toNat_inj.mp
  rw [UInt8.toNat_ofNat', UInt8.toNat_ofNat']
  exact h

/-- The four bytes a word is made of, lowest first. -/
theorem exists_bytes32 (x : UInt32) :
    ∃ a b c d, a < 256 ∧ b < 256 ∧ c < 256 ∧ d < 256 ∧
      x.toNat = a + 256 * b + 65536 * c + 16777216 * d := by
  have hx := x.toNat_lt
  exact ⟨x.toNat % 256, x.toNat / 256 % 256, x.toNat / 65536 % 256, x.toNat / 16777216,
    by omega, by omega, by omega, by omega, by omega⟩

/-- Its bytes are the remainders of its quotients. -/
theorem bytes_of_sum32 {a b c d n : ℕ} (ha : a < 256) (hb : b < 256) (hc : c < 256)
    (hd : d < 256) (hn : n = a + 256 * b + 65536 * c + 16777216 * d) :
    n % 256 = a ∧ n / 256 % 256 = b ∧ n / 65536 % 256 = c ∧ n / 16777216 % 256 = d := by
  have h₁ : n / 256 = b + 256 * c + 65536 * d := by omega
  have h₂ : n / 65536 = c + 256 * d := by omega
  have h₃ : n / 16777216 = d := by omega
  rw [h₁, h₂, h₃]
  clear h₁ h₂ h₃
  refine ⟨?_, ?_, ?_, ?_⟩ <;> omega

/-- Storing a swapped word puts the network's bytes into memory. -/
theorem leBytes32_bswap32 (x : UInt32) : leBytes32 (bswap32 x) = beBytes32 x := by
  obtain ⟨a, b, c, d, ha, hb, hc, hd, hx⟩ := exists_bytes32 x
  obtain ⟨hx₀, hx₁, hx₂, hx₃⟩ := bytes_of_sum32 ha hb hc hd hx
  have hlt : x.toNat / 16777216 = d := by
    have := x.toNat_lt
    omega
  have hs : (bswap32 x).toNat = d + 256 * c + 65536 * b + 16777216 * a := by
    unfold bswap32
    rw [UInt32.toNat_ofNat', hx₀, hx₁, hx₂, hlt]
    omega
  obtain ⟨hs₀, hs₁, hs₂, hs₃⟩ := bytes_of_sum32 hd hc hb ha hs
  unfold leBytes32 beBytes32
  congr 1
  · exact ofNat_congr (by rw [hs₀, hx₃])
  congr 1
  · exact ofNat_congr (by rw [hs₁, hx₂])
  congr 1
  · exact ofNat_congr (by rw [hs₂, hx₁])
  congr 1
  exact ofNat_congr (by rw [hs₃, hx₀])

theorem leBytes16_bswap16 (x : UInt16) : leBytes16 (bswap16 x) = beBytes16 x := by
  obtain ⟨a, b, ha, hb, hx⟩ : ∃ a b, a < 256 ∧ b < 256 ∧ x.toNat = a + 256 * b := by
    have := x.toNat_lt
    exact ⟨x.toNat % 256, x.toNat / 256, by omega, by omega, by omega⟩
  have h : (a + 256 * b) / 256 = b := by omega
  have k : (b + 256 * a) / 256 = a := by omega
  have hs : (bswap16 x).toNat = b + 256 * a := by
    unfold bswap16
    rw [UInt16.toNat_ofNat', hx, h]
    omega
  unfold leBytes16 beBytes16
  rw [hs, hx, h, k]
  congr 1
  · exact ofNat_congr (by omega)
  congr 1
  exact ofNat_congr (by omega)

/-- The network's bytes are read back as the word. -/
theorem beWord32_beBytes (x : UInt32) :
    beWord32 (UInt8.ofNat (x.toNat / 16777216)) (UInt8.ofNat (x.toNat / 65536))
      (UInt8.ofNat (x.toNat / 256)) (UInt8.ofNat x.toNat) = x := by
  have hx := x.toNat_lt
  apply UInt32.toNat_inj.mp
  unfold beWord32
  simp only [UInt32.toNat_ofNat', UInt8.toNat_ofNat']
  omega

theorem beWord16_beBytes (x : UInt16) :
    beWord16 (UInt8.ofNat (x.toNat / 256)) (UInt8.ofNat x.toNat) = x := by
  have hx := x.toNat_lt
  apply UInt16.toNat_inj.mp
  unfold beWord16
  simp only [UInt16.toNat_ofNat', UInt8.toNat_ofNat']
  omega

end Lib
end Esp32Eye
