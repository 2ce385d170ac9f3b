import QtChat.Framing.Decoder
import QtChat.Server.Text

/-!
# Packets

Both ends write a packet as a `uint32_t` length in network byte order and that many bytes of body.
The length goes through memory: it is stored and loaded in the host's byte order (`Endian`) and
swapped before and after.

`packets` is the decoder of the format (`Framing.Decoder`): a length of 0 or above 1 MiB is a header
that no packet has.
-/

namespace QtChat

open Framing

/-- The byte order of a host. -/
inductive Endian where
  | little
  | big
  deriving DecidableEq

/-- The bytes of a `uint32_t`, the lowest first. -/
def bytesOf (n : UInt32) : Str :=
  [n.toUInt8, (n >>> 8).toUInt8, (n >>> 16).toUInt8, (n >>> 24).toUInt8]

/-- The `uint32_t` with these bytes, the lowest first. -/
def ofBytes : Str → UInt32
  | a :: b :: c :: d :: _ =>
    .ofNat (a.toNat + 256 * b.toNat + 65536 * c.toNat + 16777216 * d.toNat)
  | _ => 0

/-- The bytes of a `uint32_t` in memory. -/
def Endian.store : Endian → UInt32 → Str
  | .little, n => bytesOf n
  | .big, n => (bytesOf n).reverse

/-- `*(uint32_t *)p`, the bytes at `p` being `s`. -/
def Endian.load : Endian → Str → UInt32
  | .little, s => ofBytes (s.take 4)
  | .big, s => ofBytes (s.take 4).reverse

/-- The bytes of a `uint32_t` in the other order. -/
def byteSwap (n : UInt32) : UInt32 := ofBytes (bytesOf n).reverse

theorem ofBytes_bytesOf (n : UInt32) : ofBytes (bytesOf n) = n := by
  apply UInt32.toNat_inj.mp
  have := n.toNat_lt
  simp only [bytesOf, ofBytes, UInt32.toNat_ofNat', UInt32.toNat_toUInt8, UInt32.toNat_shiftRight,
    Nat.shiftRight_eq_div_pow]
  simp
  omega

theorem bytesOf_ofBytes (a b c d : UInt8) : bytesOf (ofBytes [a, b, c, d]) = [a, b, c, d] := by
  have ha := a.toNat_lt
  have hb := b.toNat_lt
  have hc := c.toNat_lt
  have hd := d.toNat_lt
  simp only [bytesOf, ofBytes, List.cons.injEq, and_true]
  refine ⟨?_, ?_, ?_, ?_⟩ <;> apply UInt8.toNat_inj.mp <;>
    simp only [UInt32.toNat_ofNat', UInt32.toNat_toUInt8, UInt32.toNat_shiftRight,
      Nat.shiftRight_eq_div_pow] <;>
    simp <;> omega

@[simp] theorem length_bytesOf (n : UInt32) : (bytesOf n).length = 4 := rfl

@[simp] theorem Endian.length_store (e : Endian) (n : UInt32) : (e.store n).length = 4 := by
  cases e <;> rfl

/-- A swapped value is stored in the other order. -/
theorem store_byteSwap (n : UInt32) : Endian.store .little (byteSwap n) = Endian.store .big n :=
  bytesOf_ofBytes _ _ _ _

theorem byteSwap_load {s : Str} (h : 4 ≤ s.length) :
    byteSwap (Endian.load .little s) = Endian.load .big s := by
  match s, h with
  | a :: b :: c :: d :: s, _ =>
    simp only [byteSwap, Endian.load, List.take_succ_cons, List.take_zero, bytesOf_ofBytes]

theorem Endian.load_store (e : Endian) (n : UInt32) (s : Str) : e.load (e.store n ++ s) = n := by
  cases e
  · rw [load, List.take_left' (by rfl), store, ofBytes_bytesOf]
  · rw [load, List.take_left' (by rfl), store, List.reverse_reverse, ofBytes_bytesOf]

/-- Only the four bytes are loaded. -/
theorem Endian.load_take (e : Endian) {s : Str} {k : Nat} (hk : 4 ≤ k) (h : 4 ≤ s.length)
    (more : Str) : e.load (s.take k ++ more) = e.load s := by
  have : (s.take k ++ more).take 4 = s.take 4 := by
    rw [List.take_append_of_le_length (by rw [List.length_take]; omega), List.take_take,
      Nat.min_eq_left hk]
  cases e <;> simp only [load, this]

/-! ## The format -/

/-- The largest body. -/
def maxBody : Nat := 1024 * 1024

/-- A packet as it is on the wire. -/
def packet (body : Str) : Str := Endian.store .big (.ofNat body.length) ++ body

/-- What stands at the front of the received bytes. -/
def packetFront (s : Str) : Front UInt8 :=
  if s.length < 4 then .more
  else if (Endian.load .big s).toNat > maxBody ∨ (Endian.load .big s).toNat = 0 then .bad
  else if s.length < 4 + (Endian.load .big s).toNat then .more
  else .frame ((s.drop 4).take (Endian.load .big s).toNat) (s.drop (4 + (Endian.load .big s).toNat))

/-- The test of a length as the code makes it. -/
theorem badLength_iff {n : UInt32} :
    (n > 1024 * 1024 ∨ n = 0) ↔ (n.toNat > maxBody ∨ n.toNat = 0) := by
  rw [← UInt32.toNat_inj]
  exact Iff.rfl

/-- A good length does not overflow `4 + len`. -/
theorem toNat_four_add {n : UInt32} (h : n.toNat ≤ maxBody) : (4 + n).toNat = 4 + n.toNat := by
  have h4 : (4 : UInt32).toNat = 4 := rfl
  simp only [maxBody] at h
  rw [UInt32.toNat_add, Nat.mod_eq_of_lt (by omega), h4]

theorem packetFront_bad {s : Str} : packetFront s = .bad ↔ 4 ≤ s.length ∧
    ((Endian.load .big s).toNat > maxBody ∨ (Endian.load .big s).toNat = 0) := by
  unfold packetFront
  repeat' split
  all_goals simp only [reduceCtorEq, false_iff, true_iff]
  all_goals omega

theorem packetFront_frame {s b rest : Str} : packetFront s = .frame b rest ↔
    4 + b.length ≤ s.length ∧ (Endian.load .big s).toNat = b.length ∧ b ≠ [] ∧
      b.length ≤ maxBody ∧ s.drop 4 = b ++ rest := by
  unfold packetFront
  constructor
  · intro h
    split at h
    · cases h
    split at h
    · cases h
    split at h
    · cases h
    rename_i h₁ h₂ h₃
    cases h
    have hl : ((s.drop 4).take (Endian.load .big s).toNat).length = (Endian.load .big s).toNat := by
      rw [List.length_take, List.length_drop]; omega
    refine ⟨by omega, hl.symm, ?_, by omega, ?_⟩
    · rw [← List.length_pos_iff]; omega
    · rw [← List.drop_drop, List.take_append_drop]
  · rintro ⟨hl, hn, hb, hm, hd⟩
    have := List.length_pos_iff.mpr hb
    rw [if_neg (by omega), if_neg (by omega), if_neg (by omega), hn, ← List.drop_drop, hd,
      List.take_left, List.drop_left]

theorem packetFront_packet {b : Str} (hb : b ≠ []) (hm : b.length ≤ maxBody) (rest : Str) :
    packetFront (packet b ++ rest) = .frame b rest := by
  have hl : (UInt32.ofNat b.length).toNat = b.length := by
    rw [UInt32.toNat_ofNat', Nat.mod_eq_of_lt]
    simp only [maxBody] at hm; omega
  rw [packetFront_frame]
  refine ⟨?_, ?_, hb, hm, ?_⟩
  · simp only [packet, List.length_append, Endian.length_store]; omega
  · rw [packet, List.append_assoc, Endian.load_store, hl]
  · rw [packet, List.append_assoc, List.drop_left' (by simp)]

/-- The decoder of the format. -/
def packets : Decoder UInt8 where
  front := packetFront
  hdr := 4
  nil := rfl
  frame := by
    intro s b rest h
    obtain ⟨hl, hn, hb, hm, hd⟩ := packetFront_frame.mp h
    refine ⟨s.take 4 ++ b, ?_, ?_, fun rest' => ?_⟩
    · simp [hb]
    · rw [List.append_assoc, ← hd, List.take_append_drop]
    · have h4 : (s.take 4).length = 4 := by rw [List.length_take]; omega
      rw [packetFront_frame, List.append_assoc]
      refine ⟨?_, ?_, hb, hm, List.drop_left' h4⟩
      · rw [List.length_append, List.length_append, h4]; omega
      · rw [Endian.load_take _ (by omega) (by omega), hn]
  bad := by
    intro s h
    rw [packetFront_bad] at h
    refine ⟨h.1, fun k hk more => ?_⟩
    rw [packetFront_bad, Endian.load_take _ hk h.1]
    refine ⟨?_, h.2⟩
    rw [List.length_append, List.length_take]
    omega

/-- Packets one after the other are read back as their bodies. -/
theorem frames_packets {bs : List Str} (h : ∀ b ∈ bs, b ≠ [] ∧ b.length ≤ maxBody) :
    packets.Frames (bs.map packet).flatten bs [] := by
  induction bs with
  | nil => exact .nil []
  | cons b bs ih =>
    obtain ⟨hb, hm⟩ := h b (by simp)
    exact .cons (packetFront_packet hb hm _) (ih fun c hc => h c (by simp [hc]))

end QtChat
